import Pihpsdr.Lib.Run
import Pihpsdr.NewProtocol.Lemmas.HighPriority
import Pihpsdr.NewProtocol.Lemmas.Phase
import Pihpsdr.Simulator.Impl.P2
import Pihpsdr.Simulator.Lemmas.Mirror

/-!
What the timer thread of `new_protocol.c` is for: whatever has been lost, after a second the radio
does what the settings say.
-/

namespace Simulator.P2

open NewProtocol

/--
Which packets have had their effect: the thread that receives the packet "high priority" needs the
general one, and those that receive the specific ones need the packet "high priority".
-/
structure Arrived where
  general : Bool
  highPriority : Bool
  receiveSpecific : Bool
  transmitSpecific : Bool
  deriving DecidableEq

namespace Arrived

def nothing : Arrived := ⟨false, false, false, false⟩

def add (a : Arrived) : PacketKind → Arrived
  | .general => { a with general := true }
  | .highPriority => { a with highPriority := a.highPriority || a.general }
  | .receiveSpecific => { a with receiveSpecific := a.receiveSpecific || a.highPriority }
  | .transmitSpecific => { a with transmitSpecific := a.transmitSpecific || a.highPriority }

-- a packet for a thread that does not exist

theorem add_highPriority {a : Arrived} (h : ¬ a.general) : a.add .highPriority = a := by
  cases a
  simp_all [add]

theorem add_receiveSpecific {a : Arrived} (h : ¬ a.highPriority) : a.add .receiveSpecific = a := by
  cases a
  simp_all [add]

theorem add_transmitSpecific {a : Arrived} (h : ¬ a.highPriority)
    : a.add .transmitSpecific = a := by
  cases a
  simp_all [add]

-- after `n` packets of the timer thread
def after (place : Fin 17) : Nat → Arrived → Arrived
  | 0, a => a
  | n + 1, a => after (place + 1) n (a.add (timerKind place))

end Arrived

variable {s : RadioSettings}

-- the threads receive, and frequencies are phases
structure Runs (r : Radio) : Prop where
  thread : r.hpThread = .running
  run : r.run = true
  bits : r.general.bits = 8

theorem Runs.congr {r r' : Radio} (h : Runs r) (hthread : r'.hpThread = r.hpThread)
    (hrun : r'.run = r.run) (houtneral : r'.general = r.general)
    : Runs r' :=
  ⟨hthread.trans h.thread, hrun.trans h.run, by rw [houtneral, h.bits]⟩

/--
The registers are set by packets with the settings `s`.
-/
structure Fits (s : RadioSettings) (r : Radio) (a : Arrived) : Prop where
  notEnding : r.hpThread ≠ .ending
  general : a.general → r.hpThread = .running
    ∧ ∃ sequence, r.general = newProtocolGeneralPacket (s.general sequence)
  highPriority : a.highPriority → Runs r
    ∧ ∃ sequence, r.hp = highprio 8 (s.highPriority sequence phaseWord)
  receiveSpecific : a.receiveSpecific → Runs r
    ∧ ∃ sequence rx, r.rx = ddcSpecific (s.newProtocolReceiveSpecific sequence) rx
  transmitSpecific : a.transmitSpecific → Runs r
    ∧ ∃ sequence, r.tx = ducSpecific (s.transmitSpecific sequence)

theorem bits_general (sequence : BitVec 32)
    : (newProtocolGeneralPacket (s.general sequence)).bits = 8 := by
  unfold newProtocolGeneralPacket byte RadioSettings.general
  dsimp only
  split <;> rfl

theorem run_highPriority (hrun : s.p2running = true) (sequence : BitVec 32)
    : (s.highPriority sequence phaseWord 4).getLsbD 0 = true := by
  have hbyte : s.highPriority sequence phaseWord 4 = bitIf s.p2running 1 ||| bitIf s.moxBit 2 := by
    unfold RadioSettings.highPriority
    rw [RadioSettings.putAttenuators_of_ne _ _ (by decide) (by decide)]
    rfl
  rw [hbyte, hrun]
  cases s.moxBit <;> rfl

variable {r : Radio} {a : Arrived}

theorem receiveHighPriority_eq (hrun : s.p2running = true) (sequence : BitVec 32)
    : r.receiveHighPriority (s.highPriority sequence phaseWord)
        = { r with
            run := true
            hp := highprio r.general.bits (s.highPriority sequence phaseWord) } := by
  unfold Radio.receiveHighPriority
  dsimp only
  rw [run_highPriority hrun, if_neg (by simp)]

theorem receiveGeneral_idle (h : r.hpThread = .idle) (p : Packet)
    : r.receiveGeneral p
        = { r.clearArrays with
            general := newProtocolGeneralPacket p
            hpThread := .running } :=
  if_pos h

theorem receiveGeneral_running (h : r.hpThread = .running) (p : Packet)
    : r.receiveGeneral p = { r with general := newProtocolGeneralPacket p } := by
  apply if_neg
  show r.hpThread ≠ .idle
  rw [h]
  decide

theorem le_add (kind : PacketKind)
    : (a.general → (a.add kind).general) ∧ (a.highPriority → (a.add kind).highPriority)
        ∧ (a.receiveSpecific → (a.add kind).receiveSpecific)
        ∧ (a.transmitSpecific → (a.add kind).transmitSpecific) := by
  cases kind <;> simp +contextual [Arrived.add]

theorem Fits.weaken {kind : PacketKind} (h : Fits s r (a.add kind)) : Fits s r a where
  notEnding := h.notEnding
  general ha := h.general ((le_add kind).1 ha)
  highPriority ha := h.highPriority ((le_add kind).2.1 ha)
  receiveSpecific ha := h.receiveSpecific ((le_add kind).2.2.1 ha)
  transmitSpecific ha := h.transmitSpecific ((le_add kind).2.2.2 ha)

theorem Fits.receiveGeneral (h : Fits s r a) (sequence : BitVec 32)
    : Fits s (r.receiveGeneral (s.general sequence)) (a.add .general) := by
  cases hthread : r.hpThread with
  | ending => exact absurd hthread h.notEnding
  | idle =>
    have hidle : ¬ Runs r := fun hr => by simp [hr.thread] at hthread
    rw [receiveGeneral_idle hthread]
    exact {
      notEnding := fun heq => by cases heq
      general := fun _ => ⟨rfl, sequence, rfl⟩
      highPriority := fun ha => absurd (h.highPriority ha).1 hidle
      receiveSpecific := fun ha => absurd (h.receiveSpecific ha).1 hidle
      transmitSpecific := fun ha => absurd (h.transmitSpecific ha).1 hidle }
  | running =>
    have hruns (hr : Runs r)
        : Runs { r with general := newProtocolGeneralPacket (s.general sequence) } :=
      ⟨hthread, hr.run, bits_general sequence⟩
    rw [receiveGeneral_running hthread]
    exact {
      notEnding := h.notEnding
      general := fun _ => ⟨hthread, sequence, rfl⟩
      highPriority := fun ha => ⟨hruns (h.highPriority ha).1, (h.highPriority ha).2⟩
      receiveSpecific := fun ha => ⟨hruns (h.receiveSpecific ha).1, (h.receiveSpecific ha).2⟩
      transmitSpecific := fun ha =>
        ⟨hruns (h.transmitSpecific ha).1, (h.transmitSpecific ha).2⟩ }

theorem Fits.receiveHighPriority (h : Fits s r a) (hrun : s.p2running = true)
    (hthread : r.hpThread = .running) (sequence : BitVec 32)
    : Fits s (r.receiveHighPriority (s.highPriority sequence phaseWord)) (a.add .highPriority) := by
  rw [receiveHighPriority_eq hrun]
  have hruns (hr : Runs r)
      : Runs { r with
          run := true
          hp := highprio r.general.bits (s.highPriority sequence phaseWord) } :=
    ⟨hr.thread, rfl, hr.bits⟩
  exact {
    notEnding := h.notEnding
    general := h.general
    highPriority := by
      intro ha
      have hbits : r.general.bits = 8 := by
        simp only [Arrived.add, Bool.or_eq_true] at ha
        cases ha with
        | inl ha => exact (h.highPriority ha).1.bits
        | inr ha =>
          obtain ⟨_, _, houtneral⟩ := h.general ha
          rw [houtneral, bits_general]
      exact ⟨⟨hthread, rfl, hbits⟩, sequence, by rw [hbits]⟩
    receiveSpecific := fun ha => ⟨hruns (h.receiveSpecific ha).1, (h.receiveSpecific ha).2⟩
    transmitSpecific := fun ha =>
      ⟨hruns (h.transmitSpecific ha).1, (h.transmitSpecific ha).2⟩ }

theorem Fits.receiveSpecific_run (h : Fits s r a) (sequence : BitVec 32)
    : Fits s { r with rx := ddcSpecific (s.newProtocolReceiveSpecific sequence) r.rx }
        (a.add .receiveSpecific) := by
  have hruns (hr : Runs r)
      : Runs { r with rx := ddcSpecific (s.newProtocolReceiveSpecific sequence) r.rx } :=
    hr.congr rfl rfl rfl
  exact {
    notEnding := h.notEnding
    general := h.general
    highPriority := fun ha => ⟨hruns (h.highPriority ha).1, (h.highPriority ha).2⟩
    receiveSpecific := by
      intro ha
      simp only [Arrived.add, Bool.or_eq_true] at ha
      have hr : Runs r :=
        ha.elim (fun ha => (h.receiveSpecific ha).1) fun ha => (h.highPriority ha).1
      exact ⟨hruns hr, sequence, r.rx, rfl⟩
    transmitSpecific := fun ha =>
      ⟨hruns (h.transmitSpecific ha).1, (h.transmitSpecific ha).2⟩ }

theorem Fits.transmitSpecific_run (h : Fits s r a) (sequence : BitVec 32)
    : Fits s { r with tx := ducSpecific (s.transmitSpecific sequence) }
        (a.add .transmitSpecific) := by
  have hruns (hr : Runs r) : Runs { r with tx := ducSpecific (s.transmitSpecific sequence) } :=
    hr.congr rfl rfl rfl
  exact {
    notEnding := h.notEnding
    general := h.general
    highPriority := fun ha => ⟨hruns (h.highPriority ha).1, (h.highPriority ha).2⟩
    receiveSpecific := fun ha => ⟨hruns (h.receiveSpecific ha).1, (h.receiveSpecific ha).2⟩
    transmitSpecific := by
      intro ha
      simp only [Arrived.add, Bool.or_eq_true] at ha
      have hr : Runs r :=
        ha.elim (fun ha => (h.transmitSpecific ha).1) fun ha => (h.highPriority ha).1
      exact ⟨hruns hr, sequence, rfl⟩ }

theorem Fits.receive (h : Fits s r a) (hrun : s.p2running = true) (kind : PacketKind)
    (sequence : BitVec 32)
    : Fits s (r.receive (kind.packet s sequence) kind) (a.add kind) := by
  cases kind with
  | general => exact h.receiveGeneral sequence
  | highPriority =>
    unfold Radio.receive
    dsimp only
    split
    next hthread => exact h.receiveHighPriority hrun hthread sequence
    next hthread =>
      rwa [Arrived.add_highPriority fun ha => hthread (h.general ha).1]
  | receiveSpecific =>
    unfold Radio.receive
    dsimp only
    split
    next => exact h.receiveSpecific_run sequence
    next hstop => rwa [Arrived.add_receiveSpecific fun ha => hstop (h.highPriority ha).1.run]
  | transmitSpecific =>
    unfold Radio.receive
    dsimp only
    split
    next => exact h.transmitSpecific_run sequence
    next hstop => rwa [Arrived.add_transmitSpecific fun ha => hstop (h.highPriority ha).1.run]

-- a packet with the settings `s` that arrives
def Steady (s : RadioSettings) : LinkEvent → Prop
  | .timer s' lost => s' = s ∧ lost = false
  | .schedule _ s' lost => s' = s ∧ lost = false
  | _ => False

-- the settings as far as the fields of the packets can hold them
structure InRange (s : RadioSettings) : Prop where
  ddcFrequency : ∀ id, InClock (s.ddcFrequency id) ∧ 0 < s.ddcFrequency id
  ducFrequency : InClock s.ducFrequency ∧ 0 < s.ducFrequency
  nAdc : 0 ≤ s.nAdc ∧ s.nAdc < 256
  adc : ∀ i, 0 ≤ (s.receiver i).adc ∧ (s.receiver i).adc < 256
  psFeedbackAdc : 0 ≤ s.psFeedbackAdc ∧ s.psFeedbackAdc < 256
  driveLevel : 0 ≤ s.driveLevel ∧ s.driveLevel < 256
  attenuation : ∀ i, 0 ≤ (s.adcs i).attenuation ∧ (s.adcs i).attenuation < 256
  txAttenuation : 0 ≤ s.txAttenuation ∧ s.txAttenuation < 256
  rigctlTcpPort : 0 ≤ s.rigctlTcpPort ∧ s.rigctlTcpPort < 65536
  sidetoneVolume : 0 ≤ s.keyer.sidetoneVolume ∧ s.keyer.sidetoneVolume < 128
  sidetoneFrequency : 0 ≤ s.keyer.sidetoneFrequency ∧ s.keyer.sidetoneFrequency < 65536
  speed : 1 ≤ s.keyer.speed ∧ s.keyer.speed < 256
  weight : 0 ≤ s.keyer.weight ∧ s.keyer.weight < 256
  hangTime : 0 ≤ s.keyer.hangTime ∧ s.keyer.hangTime < 65536
  pttDelay : 0 ≤ s.keyer.pttDelay ∧ s.keyer.pttDelay < 256
  rampWidth : 0 ≤ s.keyer.rampWidth ∧ s.keyer.rampWidth < 256
  lineInGain : 0 ≤ s.lineInGain ∧ s.lineInGain < 256

-- the attenuators of the ADCs, without those of PureSignal
def attenuation0 (s : RadioSettings) (maximum : Bool) : Int :=
  if maximum then 31 else (s.adcs 0).attenuation

def attenuation1 (s : RadioSettings) (maximum : Bool) : Int :=
  if maximum then 31
  else if s.diversityEnabled then (s.adcs 0).attenuation
  else (s.adcs 1).attenuation

section Streams

variable (s : DdcSettings) (p : Packet)

variable {s : RadioSettings}

section

variable {r : Radio} {sequence sequence' : BitVec 32} {rx : RxSpecific}

end

end Streams

end Simulator.P2
