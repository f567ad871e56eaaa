import Pihpsdr.NewProtocol.Impl.HighPriority
import Pihpsdr.Simulator.Impl.Ep2

/-!
The part of `newhpsdrsim.c` that receives the packets of `new_protocol.c`, and the thread of the
latter that sends them again and again.

The factors for the sample values that depend on the registers are floating-point numbers and left
out, as are the buffer of the TX samples and the sequence numbers, which are only printed. The
threads for the packets listen at the default ports, which are those that the program announces.
-/

namespace Simulator.P2

open NewProtocol

def byte (p : Packet) (i : Nat) : Int := int (p i)

-- `(buffer[i] << 8) + buffer[i + 1]`
def short (p : Packet) (i : Nat) : Int := 256 * byte p i + byte p (i + 1)

def bitAt (p : Packet) (i k : Nat) : Int := if (p i).getLsbD k then 1 else 0

def orDefault (x d : Int) : Int := if x = 0 then d else x

-- data from general packet
structure General where
  ddcPort : Int
  ducPort : Int
  hpPort : Int
  shpPort : Int
  audioPort : Int
  duc0Port : Int
  ddc0Port : Int
  micPort : Int
  widePort : Int
  wideEnable : Int
  wideLen : Int
  wideSize : Int
  wideRate : Int
  widePpf : Int
  portMm : Int
  portSmm : Int
  pwmMin : Int
  pwmMax : Int
  bits : Int
  hwtim : Int
  iqform : Int
  paEnable : Int
  alex0Enable : Int
  alex1Enable : Int
  deriving DecidableEq

def General.init : General :=
  ⟨-1, -1, -1, -1, -1, -1, -1, -1, -1, -1, -1, -1, -1, -1, -1, -1, -1, -1, -1, -1, -1, -1, -1, -1⟩

-- data from rx specific packet
structure RxSpecific where
  nAdc : Int
  adcdither : Fin 8 → Int
  adcrandom : Fin 8 → Int
  ddcenable : Ddc → Int
  adcmap : Ddc → Int
  rxrate : Ddc → Int
  syncddc : Ddc → Int

-- static arrays start with zeros
def RxSpecific.init : RxSpecific :=
  ⟨-1, fun _ => 0, fun _ => 0, fun _ => 0, fun _ => 0, fun _ => 0, fun _ => 0⟩

-- data from tx specific packet
structure TxSpecific where
  dac : Int
  cwmode : Int
  sidelevel : Int
  sidefreq : Int
  cwspeed : Int
  weight : Int
  hang : Int
  delay : Int
  txrate : Int
  ducbits : Int
  orion : Int
  gain : Int
  txatt0 : Int
  txatt1 : Int
  txatt2 : Int
  ramplen : Int
  deriving DecidableEq

def TxSpecific.init : TxSpecific :=
  ⟨-1, -1, -1, -1, -1, -1, -1, -1, -1, -1, -1, -1, -1, -1, -1, -1⟩

-- state from high-priority packet, but for `run`
structure HighPriority where
  ptt : Int
  cwx : Int
  dot : Int
  dash : Int
  rxfreq : Ddc → Int
  txfreq : Int
  txdrive : Int
  catTcpPort : Int
  w1400 : Int
  ocout : Int
  db9 : Int
  mercuryAtts : Int
  alex0 : Fin 32 → Int
  alex1 : Fin 32 → Int
  stepatt0 : Int
  stepatt1 : Int

def HighPriority.init : HighPriority :=
  ⟨-1, -1, -1, -1, fun _ => 0, -1, -1, -1, -1, -1, -1, -1, fun _ => 0, fun _ => 0, -1, -1⟩

section

variable (p : Packet)

def newProtocolGeneralPacket : General where
  ddcPort := orDefault (short p 5) 1025
  ducPort := orDefault (short p 7) 1026
  hpPort := orDefault (short p 9) 1027
  shpPort := orDefault (short p 11) 1025
  audioPort := orDefault (short p 13) 1028
  duc0Port := orDefault (short p 15) 1029
  ddc0Port := orDefault (short p 17) 1035
  micPort := orDefault (short p 19) 1026
  widePort := orDefault (short p 21) 1027
  wideEnable := byte p 23
  wideLen := orDefault (short p 24) 512
  wideSize := orDefault (byte p 26) 16
  wideRate := byte p 27
  widePpf := byte p 28
  portMm := short p 29
  portSmm := short p 31
  pwmMin := short p 33
  pwmMax := short p 35
  bits := byte p 37
  hwtim := byte p 38
  iqform := orDefault (byte p 39) 3
  paEnable := bitAt p 58 0
  alex0Enable := bitAt p 59 0
  alex1Enable := bitAt p 59 1

def ddcSpecific (r : RxSpecific) : RxSpecific where
  nAdc := byte p 4
  adcdither i := if i.val < byte p 4 then bitAt p 5 i.val else r.adcdither i
  adcrandom i := if i.val < byte p 4 then bitAt p 6 i.val else r.adcrandom i
  ddcenable i := bitAt p (7 + i.val / 8) (i.val % 8)
  adcmap i := byte p (17 + 6 * i.val)
  rxrate i := short p (18 + 6 * i.val)
  syncddc i := byte p (1363 + i.val)

def ducSpecific : TxSpecific where
  dac := byte p 4
  cwmode := byte p 5
  sidelevel := byte p 6
  sidefreq := short p 7
  cwspeed := byte p 9
  weight := byte p 10
  hang := short p 11
  delay := byte p 13
  txrate := short p 14
  ducbits := byte p 16
  orion := byte p 50
  gain := byte p 51
  txatt0 := byte p 59
  txatt1 := byte p 58
  txatt2 := byte p 57
  ramplen := byte p 17

end

-- `round` of C, away from zero in the middle
def cRound (q : ℚ) : Int := if 0 ≤ q then ⌊q + 1 / 2⌋ else -⌊-q + 1 / 2⌋

-- a word of four bytes as an `int`, which is a phase if the program has said so
def frequency (bits : Int) (w : BitVec 32) : Int :=
  if BitVec.ofInt 32 bits &&& 0x08 = 0 then
    w.toInt
  else
    cRound (Rounding.round 53
      (Rounding.round 53 (122880000 * Rounding.round 53 w.toInt) / 4294967296))

def highprio (bits : Int) (p : Packet) : HighPriority where
  ptt := bitAt p 4 1
  cwx := bitAt p 5 0
  dot := bitAt p 5 1
  dash := bitAt p 5 2
  rxfreq i := frequency bits (p.word (9 + 4 * i.val))
  txfreq := frequency bits (p.word 329)
  txdrive := byte p 345
  catTcpPort := short p 1398
  w1400 := byte p 1400
  ocout := byte p 1401
  db9 := byte p 1402
  mercuryAtts := byte p 1403
  alex0 k := if (p.word 1432).getLsbD k then 1 else 0
  alex1 k := if (p.word 1428).getLsbD k then 1 else 0
  stepatt0 := byte p 1443
  stepatt1 := byte p 1442

-- `highprio_thread_id` is set until the thread has waited for the others to end
inductive HpThread where
  | idle
  | running
  | ending
  deriving DecidableEq

/--
The registers of the radio. The threads that receive the specific packets exist while `run` is set.
-/
structure Radio where
  general : General
  rx : RxSpecific
  tx : TxSpecific
  hp : HighPriority
  run : Bool
  hpThread : HpThread

-- the packets that the program sends
inductive PacketKind where
  | general
  | receiveSpecific
  | transmitSpecific
  | highPriority
  deriving DecidableEq

namespace Radio

def init : Radio := ⟨.init, .init, .init, .init, false, .idle⟩

-- init state arrays for the first time; the rates are not among them
def clearArrays (r : Radio) : Radio :=
  { r with
    rx :=
      { r.rx with
        adcdither := fun _ => -1
        adcrandom := fun _ => -1
        ddcenable := fun _ => -1
        adcmap := fun _ => -1
        syncddc := fun _ => -1 }
    hp := { r.hp with rxfreq := fun _ => -1, alex0 := fun _ => 0, alex1 := fun _ => 0 } }

-- the thread starts with the first general packet
def receiveGeneral (r : Radio) (p : Packet) : Radio :=
  let r := { r with general := newProtocolGeneralPacket p }
  if r.hpThread = .idle then { r.clearArrays with hpThread := .running } else r

-- after a change of `run` to 0 the rest of the packet is not looked at and the thread ends
def receiveHighPriority (r : Radio) (p : Packet) : Radio :=
  let run := (p 4).getLsbD 0
  if run ≠ r.run ∧ run = false then
    { r with run := false, hpThread := .ending }
  else
    { r with run := run, hp := highprio r.general.bits p }

def receive (r : Radio) (p : Packet) : PacketKind → Radio
  | .general => r.receiveGeneral p
  | .receiveSpecific => if r.run then { r with rx := ddcSpecific p r.rx } else r
  | .transmitSpecific => if r.run then { r with tx := ducSpecific p } else r
  | .highPriority => if r.hpThread = .running then r.receiveHighPriority p else r

-- `highprio_thread` also ends when nothing has come for too long
def watchdog (r : Radio) : Radio :=
  if r.hpThread = .running then { r with run := false, hpThread := .ending } else r

def joined (r : Radio) : Radio :=
  if r.hpThread = .ending then { r with hpThread := .idle } else r

end Radio

-- the samples in the packets of a DDC; with `syncadc` they are pairs
structure Stream where
  adc : Int
  syncadc : Option Int
  rate : Int
  freq : Int
  deriving DecidableEq

-- the ADC of the DDC after the highest bit that is set
def syncAdc (r : RxSpecific) (flg : Int) : Option Int :=
  let sync := flg.toNat.size
  if sync = 0 then none else if h : sync - 1 < 4 then some (r.adcmap ⟨sync - 1, h⟩) else none

-- what `rx_thread` sends for a DDC
def Radio.stream (r : Radio) (ddc : Ddc) : Option Stream :=
  if ¬ r.run ∨ r.rx.ddcenable ddc ≤ 0 ∨ r.rx.rxrate ddc = 0 ∨ r.hp.rxfreq ddc = 0 then
    none
  else
    some ⟨r.rx.adcmap ddc, syncAdc r.rx (r.rx.syncddc ddc), r.rx.rxrate ddc, r.hp.rxfreq ddc⟩

def PacketKind.packet (s : RadioSettings) (sequence : BitVec 32) : PacketKind → Packet
  | .general => s.general sequence
  | .receiveSpecific => s.toDdcSettings.newProtocolReceiveSpecific sequence
  | .transmitSpecific => s.transmitSpecific sequence
  | .highPriority => s.highPriority sequence phaseWord

-- the body of the loop in `new_protocol_timer_thread`
def timerSends (cycling : Nat) : List PacketKind :=
  match cycling with
  | 1 | 3 | 5 | 7 => [.transmitSpecific, .highPriority]
  | 2 | 4 | 6 => [.receiveSpecific, .highPriority]
  | 8 => [.general, .receiveSpecific, .highPriority]
  | _ => []

def timerRound : List PacketKind :=
  (List.range 8).flatMap fun k => timerSends (k + 1)

theorem length_timerRound : timerRound.length = 17 := by
  decide

-- what the thread sends at this place of its round
def timerKind (place : Fin 17) : PacketKind :=
  timerRound.get (place.cast length_timerRound.symm)

structure Link where
  sequence : PacketKind → BitVec 32
  place : Fin 17
  radio : Radio

/--
A packet that the timer thread or, through `schedule_...`, another thread sends; it may get lost.
With `menuStart` the protocol is restarted; `watchdog` and `joined` happen in the radio.
-/
inductive LinkEvent where
  | timer (s : RadioSettings) (lost : Bool)
  | schedule (kind : PacketKind) (s : RadioSettings) (lost : Bool)
  | menuStart
  | watchdog
  | joined

namespace Link

def init : Link := ⟨fun _ => 0, 0, .init⟩

def send (l : Link) (kind : PacketKind) (s : RadioSettings) (lost : Bool) : Link :=
  { l with
    sequence := Function.update l.sequence kind (l.sequence kind + 1)
    radio :=
      if lost then l.radio else l.radio.receive (kind.packet s (l.sequence kind)) kind }

-- the sequence number of the general packets goes on
def menuStart (l : Link) : Link :=
  { l with
    sequence := fun kind => if kind = .general then l.sequence .general else 0
    place := 0 }

def step (l : Link) : LinkEvent → Link
  | .timer s lost => { l.send (timerKind l.place) s lost with place := l.place + 1 }
  | .schedule kind s lost => l.send kind s lost
  | .menuStart => l.menuStart
  | .watchdog => { l with radio := l.radio.watchdog }
  | .joined => { l with radio := l.radio.joined }

end Link

end Simulator.P2
