import Pihpsdr.Lib.Packet
import Pihpsdr.Lib.Run
import Pihpsdr.Simulator.Impl.Ep2
import Pihpsdr.OldProtocol.Lemmas.OzyCommand

/-!
The program repeats all its commands. Whatever has happened before, be it that packets were lost or
that frames were sent with the wrong data, after some buffers with the same settings the registers
of the radio are those of these settings, and they remain so.
-/

namespace Simulator

open OldProtocol

variable {board : Board} {e : P1Settings}

/-- The registers of this command are as the settings say. -/
def Holds (board : Board) (e : P1Settings) (r : Registers) : Command → Prop
  | .general => r.general = generalRegisters e.general
  | .txFrequency => r.txFreq = frequency (.ofFrequency (e.channelFreq none))
  | .rxFrequency rx =>
    ∀ i : Fin 7, i.val = rx → r.rxFreq i = frequency (.ofFrequency (e.channelFreq (some rx)))
  | .drive => driveRegisters board e.drive r.drive = r.drive
  | .preampAttenuator => preampRegisters e.preampAttenuator r.preamps = r.preamps
  | .attenuatorKeyer => r.keyer = keyerRegisters e.attenuatorKeyer
  | .adcSelection => r.adcs = adcRegisters board e.adcSelection
  | .keyerInternal => r.sidetone = sidetoneRegisters e.keyerInternal
  | .keyerTimes =>
    r.cwHang = shifted e.keyerTimes.c1 2 (e.keyerTimes.c2 &&& 3)
      ∧ r.freq = shifted e.keyerTimes.c3 4 (e.keyerTimes.c4 &&& 255)
  | .pwm => r.pwmmin = 100 ∧ r.pwmmax = 400
  | .alex2 => r.alex2 = alex2Registers e.alex2
  | _ => True

-- the commands other than the general one, in the order in which they are sent
def cycle (n : Nat) : List Command :=
  .txFrequency :: (List.range n).map .rxFrequency
    ++ [.drive, .preampAttenuator, .attenuatorKeyer, .adcSelection, .keyerInternal, .keyerTimes,
      .pwm, .alex2]

theorem length_cycle (n : Nat) : (cycle n).length = n + 9 := by
  simp [cycle]

theorem driveRegisters_twice (p : Payload) (r : DriveRegisters)
    : driveRegisters board p (driveRegisters board p r) = driveRegisters board p r := by
  unfold driveRegisters
  dsimp only
  split <;> rfl

theorem preampRegisters_twice (p : Payload) (r : PreampRegisters)
    : preampRegisters p (preampRegisters p r) = preampRegisters p r := by
  unfold preampRegisters
  dsimp only
  split <;> rfl

theorem addressOf_rxFrequency {rx : Nat} (h : rx < 7)
    : (addressOf (Command.rxFrequency rx).address).val = rx + 2 := by
  simp only [addressOf, Command.address, BitVec.toNat_ofNat]
  omega

theorem writeAddress_rx (p : Payload) (r : Registers) (i : Fin 7) (a : Fin 128)
    (ha : a.val = i.val + 2)
    : (writeAddress board p a r).rxFreq = Function.update r.rxFreq i (frequency p) := by
  unfold writeAddress
  rw [ha]
  match i with
  | 0 | 1 | 2 | 3 | 4 | 5 | 6 => rfl

-- The registers of a command are set by it.
theorem holds_self (s : Hl2State) (r : Registers) (c : Command)
    : Holds board e (writeAddress board (c.payload e s) (addressOf c.address) r) c := by
  cases c with
  | drive => apply driveRegisters_twice
  | preampAttenuator => apply preampRegisters_twice
  | rxFrequency rx =>
    intro i hi
    have hlt := i.isLt
    rw [writeAddress_rx _ _ i _ (by rw [addressOf_rxFrequency (by omega), hi])]
    apply Function.update_self
  | keyerTimes => exact ⟨rfl, rfl⟩
  | pwm =>
    have hmin : shifted 25 2 (0 &&& 3) = 100 := by decide
    have hmax : shifted 100 2 (0 &&& 3) = 400 := by decide
    exact ⟨hmin, hmax⟩
  | general | txFrequency | attenuatorKeyer | adcSelection | keyerInternal | alex2 => rfl
  | _ => trivial

-- They are kept by commands with other addresses.
theorem Holds.write {c : Command} {r : Registers} (h : Holds board e r c) (p : Payload)
    {a : Fin 128} (hne : addressOf c.address ≠ a)
    : Holds board e (writeAddress board p a r) c := by
  have hval : (addressOf c.address).val ≠ a.val := fun h => hne (Fin.ext h)
  unfold writeAddress
  cases c with
  | rxFrequency rx =>
    intro i hi
    have hlt := i.isLt
    rw [addressOf_rxFrequency (by omega)] at hval
    have hi := h i hi
    split
    case h_3 ha | h_4 ha | h_5 ha | h_6 ha | h_7 ha | h_8 ha | h_9 ha =>
      dsimp only
      rw [Function.update_of_ne, hi]
      intro heq
      subst heq
      omega
    all_goals exact hi
  | general | txFrequency | drive | preampAttenuator | attenuatorKeyer | adcSelection
  | keyerInternal | keyerTimes | pwm | alex2 =>
    split
    all_goals
      first
      | exact h
      | next ha => exact absurd ha.symm hval
  | _ => trivial

/-! What the radio does with a packet. -/

theorem getD_bufferBytes (pre post : List Byte) (h : OzyHeader) (data : Vector Byte 504) (k : Nat)
    (hk : k < 8)
    : (pre ++ (bufferBytes h data ++ post)).getD (pre.length + k) 0
        = [sync, sync, sync, h.c0, h.payload.c1, h.payload.c2, h.payload.c3,
            h.payload.c4].getD k 0 := by
  have hlen : k < [sync, sync, sync, h.c0, h.payload.c1, h.payload.c2, h.payload.c3,
    h.payload.c4].length := hk
  rw [List.getD_eq_getElem?_getD, List.getElem?_append_right (Nat.le_add_right _ _),
    Nat.add_sub_cancel_left, bufferBytes, List.append_assoc, List.getElem?_append_left hlen,
    List.getD_eq_getElem?_getD]

theorem frameAt_bufferBytes (pre post : List Byte) (h : OzyHeader) (data : Vector Byte 504)
    : frameAt (pre ++ (bufferBytes h data ++ post)) (pre.length + 3) = h := by
  simp only [frameAt, Nat.add_assoc]
  rw [getD_bufferBytes _ _ _ _ _ (by decide), getD_bufferBytes _ _ _ _ _ (by decide),
    getD_bufferBytes _ _ _ _ _ (by decide), getD_bufferBytes _ _ _ _ _ (by decide),
    getD_bufferBytes _ _ _ _ _ (by decide)]
  rfl

theorem length_bufferBytes (h : OzyHeader) (data : Vector Byte 504)
    : (bufferBytes h data).length = 512 := by
  simp [bufferBytes]

theorem receive_metisPacket (s : Radio) (sequence : BitVec 32) (h h' : OzyHeader)
    (data data' : Vector Byte 504)
    : (s.receive board (metisPacket sequence (bufferBytes h data) (bufferBytes h' data'))).registers
        = processEp2 board h' (processEp2 board h s.registers) := by
  have hlower := frameAt_bufferBytes (ep2Code ++ sequenceBytes sequence) (bufferBytes h' data') h
    data
  have hupper := frameAt_bufferBytes (ep2Code ++ sequenceBytes sequence ++ bufferBytes h data) [] h'
    data'
  have hlen : (metisPacket sequence (bufferBytes h data) (bufferBytes h' data')).length = 1032 := by
    simp [metisPacket, length_bufferBytes, ep2Code, sequenceBytes]
  rw [List.length_append, length_bufferBytes, List.append_nil] at hupper
  rw [← List.append_assoc] at hlower
  unfold Radio.receive
  rw [if_neg (by simp [hlen])]
  dsimp only
  rw [metisPacket]
  exact congrArg₂ _ hupper (congrArg₂ _ hlower rfl)

/-! Which command is sent next. -/

-- The counter of the receivers is only used while their frequencies are sent.
structure InStep (s : CommandState) : Prop where
  inv : s.Inv
  current : s.p1CommandLoop ≠ 2 → s.currentRx = 0

-- If it is the turn of the frequency of a receiver, this receiver exists.
structure Ready (e : P1Settings) (s : CommandState) : Prop where
  inStep : InStep s
  left : s.p1CommandLoop = 2 → s.currentRx < e.numReceivers

-- the place in the cycle, behind it while a command for the HermesLite-II is sent
def place (e : P1Settings) (s : CommandState) : Nat :=
  if s.p1CommandLoop = 1 then 0
  else if s.p1CommandLoop = 2 then s.currentRx + 1
  else e.numReceivers + s.p1CommandLoop - 2

theorem numReceivers_pos (e : P1Settings) : 1 ≤ e.numReceivers := howManyReceivers_pos e.rx

theorem numReceivers_le (e : P1Settings) : e.numReceivers ≤ 5 := howManyReceivers_le e.rx

section

variable {s : CommandState}

theorem nextCommand_general (h : s.lowerHalf = true) : s.nextCommand e = (s, some .general) := by
  unfold CommandState.nextCommand
  rw [if_pos h]

-- `case 2` with a receiver left
theorem sendRxFrequency_lt (hlt : s.currentRx < e.numReceivers)
    : s.sendRxFrequency e =
        (if s.currentRx + 1 < e.numReceivers then { s with currentRx := s.currentRx + 1 }
          else { s with currentRx := 0, p1CommandLoop := 3 },
          some (.rxFrequency s.currentRx)) := by
  unfold CommandState.sendRxFrequency
  rw [if_pos hlt]
  dsimp only
  by_cases h : s.currentRx + 1 < e.numReceivers
  . rw [if_neg (by omega), if_pos h]
  . rw [if_pos (by omega), if_neg h]

-- `case 2` with none left
theorem sendRxFrequency_ge (hge : e.numReceivers ≤ s.currentRx)
    : s.sendRxFrequency e = ({ s with currentRx := 0, p1CommandLoop := 3 }, none) := by
  unfold CommandState.sendRxFrequency
  rw [if_neg (by omega)]
  dsimp only
  rw [if_pos hge]

theorem cycle_rx {n rx : Nat} (h : rx < n) : (cycle n)[rx + 1]? = some (.rxFrequency rx) := by
  simp [cycle, List.getElem?_append_left, h]

theorem cycle_tail (n k : Nat) : (cycle n)[n + 1 + k]? =
    [Command.drive, .preampAttenuator, .attenuatorKeyer, .adcSelection, .keyerInternal, .keyerTimes,
      .pwm, .alex2][k]? := by
  have hlen : (Command.txFrequency :: (List.range n).map .rxFrequency).length = n + 1 := by simp
  rw [cycle, ← hlen, List.getElem?_append_right (Nat.le_add_right _ _), Nat.add_sub_cancel_left]

-- what is sent after the frequencies of the receivers
theorem nextCommand_tail (hhalf : s.lowerHalf = false) {k : Nat} (hk : k < 8)
    (hloop : s.p1CommandLoop = k + 3)
    : ∃ c, s.nextCommand e = ({ s with
          p1CommandLoop := if k = 7 ∧ e.device ≠ .hermesLite2 then 1 else k + 4 }, some c)
        ∧ (cycle e.numReceivers)[e.numReceivers + 1 + k]? = some c := by
  have : k = 0 ∨ k = 1 ∨ k = 2 ∨ k = 3 ∨ k = 4 ∨ k = 5 ∨ k = 6 ∨ k = 7 := by omega
  simp only [cycle_tail, CommandState.nextCommand, hhalf, Bool.false_eq_true, if_false, hloop]
  rcases this with rfl | rfl | rfl | rfl | rfl | rfl | rfl | rfl
  case inr.inr.inr.inr.inr.inr.inr =>
    refine ⟨_, ?_, rfl⟩
    by_cases h : e.device = .hermesLite2
    . simp [h]
    . simp [h]
  all_goals exact ⟨_, rfl, rfl⟩

/--
The command whose turn it is, as long as no receiver is missing.
-/
theorem nextCommand_ready (hs : Ready e s) (hhalf : s.lowerHalf = false)
    (hloop : s.p1CommandLoop ≠ 11)
    : ∃ c, (s.nextCommand e).2 = some c ∧ (cycle e.numReceivers)[place e s]? = some c
        ∧ Ready e (s.nextCommand e).1 ∧ place e s < e.numReceivers + 9
        ∧ (place e (s.nextCommand e).1 = place e s + 1
          ∨ place e s = e.numReceivers + 8 ∧ place e (s.nextCommand e).1 = 0) := by
  have hinv := CommandState.inv_nextCommand (e := e) hs.inStep.inv
  have ⟨hpos, hle⟩ := hs.inStep.inv
  have hn := numReceivers_pos e
  have : s.p1CommandLoop = 1 ∨ s.p1CommandLoop = 2 ∨ ∃ k, k < 8 ∧ s.p1CommandLoop = k + 3 := by
    by_cases h : s.p1CommandLoop ≤ 2
    . omega
    . exact .inr (.inr ⟨s.p1CommandLoop - 3, by omega, by omega⟩)
  rcases this with h | h | ⟨k, hk, h⟩
  . have heq : s.nextCommand e = ({ s with p1CommandLoop := 2 }, some .txFrequency) := by
      simp only [CommandState.nextCommand, hhalf, h, Bool.false_eq_true, if_false]
    have hcurrent := hs.inStep.current (by omega)
    rw [heq] at hinv ⊢
    refine ⟨_, rfl, ?_, ⟨⟨hinv, by simp⟩, ?_⟩, ?_, .inl ?_⟩
    . simp [place, h, cycle]
    . intro _
      dsimp only
      omega
    . simp [place, h]
    . simp [place, h, hcurrent]
  . have hlt := hs.left h
    have heq : s.nextCommand e = s.sendRxFrequency e := by
      simp only [CommandState.nextCommand, hhalf, h, Bool.false_eq_true, if_false]
    have hplace : place e s = s.currentRx + 1 := by simp [place, h]
    rw [heq, sendRxFrequency_lt hlt] at hinv ⊢
    rw [hplace]
    refine ⟨_, rfl, cycle_rx hlt, ?_, by omega, .inl ?_⟩
    . by_cases hmore : s.currentRx + 1 < e.numReceivers
      . rw [if_pos hmore] at hinv ⊢
        exact ⟨⟨hinv, fun hne => absurd h hne⟩, fun _ => hmore⟩
      . rw [if_neg hmore] at hinv ⊢
        exact ⟨⟨hinv, fun _ => rfl⟩, by simp⟩
    . by_cases hmore : s.currentRx + 1 < e.numReceivers
      . simp [place, hmore, h]
      . simp [place, hmore]
        omega
  . have ⟨c, heq, hc⟩ := nextCommand_tail (e := e) hhalf hk h
    have hcurrent := hs.inStep.current (by omega)
    have hplace : place e s = e.numReceivers + 1 + k := by
      unfold place
      rw [if_neg (by omega), if_neg (by omega)]
      omega
    rw [heq] at hinv ⊢
    refine ⟨c, rfl, by rw [hplace, hc], ⟨⟨hinv, fun _ => hcurrent⟩, ?_⟩, by omega, ?_⟩
    . dsimp only
      split <;> omega
    . rw [hplace]
      by_cases hlast : k = 7 ∧ e.device ≠ .hermesLite2
      . exact .inr ⟨by omega, by simp [place, hlast]⟩
      . refine .inl ?_
        simp only [place, if_neg hlast]
        rw [if_neg (by omega), if_neg (by omega)]
        omega

theorem inStep_nextCommand (hs : InStep s) : InStep (s.nextCommand e).1 := by
  refine ⟨CommandState.inv_nextCommand hs.inv, ?_⟩
  have hcurrent := hs.current
  unfold CommandState.nextCommand
  split
  . exact hcurrent
  . split
    case h_2 hloop =>
      by_cases h : s.currentRx < e.numReceivers
      . rw [sendRxFrequency_lt h]
        dsimp only
        split
        . exact fun hne => absurd hloop hne
        . exact fun _ => rfl
      . rw [sendRxFrequency_ge (by omega)]
        exact fun _ => rfl
    case h_11 hloop =>
      unfold CommandState.sendHl2
      dsimp only
      split
      . exact hcurrent
      . exact fun _ => hcurrent (by omega)
    case h_12 => exact hcurrent
    all_goals
      intro _
      exact hcurrent (by omega)

theorem nextCommand_hl2 (hhalf : s.lowerHalf = false) (h : s.p1CommandLoop = 11)
    : s.nextCommand e = s.sendHl2 e := by
  simp only [CommandState.nextCommand, hhalf, h, Bool.false_eq_true, if_false]

theorem sendHl2_starts (h : (s.hl2.clearTune e).startsTuner e = true)
    : s.sendHl2 e = ({ s with hl2 := { s.hl2.clearTune e with lastTune := true } },
        some .hl2StartTuner) := by
  unfold CommandState.sendHl2
  dsimp only
  rw [if_pos h]

theorem sendHl2_ticks (h : (s.hl2.clearTune e).startsTuner e = false)
    : (s.sendHl2 e).1.p1CommandLoop = 1 ∧ (s.sendHl2 e).1.currentRx = s.currentRx
        ∧ (s.sendHl2 e).2 = some ((s.hl2.clearTune e).tick e).2 := by
  unfold CommandState.sendHl2
  dsimp only
  rw [if_neg (by simp [h])]
  exact ⟨rfl, rfl, rfl⟩

end

/-! The addresses tell the repeated commands from all others. -/

def settingAt (a : Nat) : Option Command :=
  match a with
  | 0 => some .general
  | 1 => some .txFrequency
  | 9 => some .drive
  | 10 => some .preampAttenuator
  | 11 => some .attenuatorKeyer
  | 14 => some .adcSelection
  | 15 => some .keyerInternal
  | 16 => some .keyerTimes
  | 17 => some .pwm
  | 18 => some .alex2
  | a => if 2 ≤ a ∧ a ≤ 8 then some (.rxFrequency (a - 2)) else none

def IsSetting (c : Command) : Prop := settingAt (addressOf c.address) = some c

theorem isSetting_rxFrequency {rx : Nat} (h : rx < 7) : IsSetting (.rxFrequency rx) := by
  unfold IsSetting
  rw [addressOf_rxFrequency h]
  have : rx = 0 ∨ rx = 1 ∨ rx = 2 ∨ rx = 3 ∨ rx = 4 ∨ rx = 5 ∨ rx = 6 := by omega
  rcases this with rfl | rfl | rfl | rfl | rfl | rfl | rfl <;> rfl

theorem isSetting_of_mem_cycle {c : Command} (h : c ∈ cycle e.numReceivers) : IsSetting c := by
  have hle := numReceivers_le e
  simp only [cycle, List.cons_append, List.mem_cons, List.mem_append, List.mem_map, List.mem_range,
    List.not_mem_nil, or_false] at h
  rcases h with rfl | ⟨rx, hrx, rfl⟩ | rfl | rfl | rfl | rfl | rfl | rfl | rfl | rfl
  case inr.inl => exact isSetting_rxFrequency (by omega)
  all_goals rfl

def hl2Addresses : List Byte := [0x2E, 0x7A, 0xFA, 0x78]

theorem settingAt_hl2Addresses : ∀ a ∈ hl2Addresses, settingAt (addressOf a) = none := by
  decide

theorem tick_address (t : Hl2State) : (t.tick e).2.address ∈ hl2Addresses := by
  unfold Hl2State.tick
  split
  case h_1 | h_2 => split <;> simp [Command.address, hl2Addresses]
  all_goals simp [Command.address, hl2Addresses]

-- What a command for the HermesLite-II writes is no setting.
theorem settingAt_sendHl2 {s : CommandState} {c : Command} (h : (s.sendHl2 e).2 = some c)
    : settingAt (addressOf c.address) = none := by
  apply settingAt_hl2Addresses
  cases hstarts : (s.hl2.clearTune e).startsTuner e with
  | true =>
    rw [sendHl2_starts hstarts] at h
    cases h
    simp [Command.address, hl2Addresses]
  | false =>
    rw [(sendHl2_ticks hstarts).2.2] at h
    cases h
    apply tick_address

/-- What is sent with the second half of a packet as long as no receiver is missing. -/
theorem nextCommand_turn {s : CommandState} (hs : Ready e s) (hhalf : s.lowerHalf = false)
    : ∃ c, (s.nextCommand e).2 = some c ∧ (∀ rx, c = .rxFrequency rx → rx < 5)
        ∧ (IsSetting c ∨ settingAt (addressOf c.address) = none) ∧ Ready e (s.nextCommand e).1
        ∧ (((cycle e.numReceivers)[place e s]? = some c
            ∧ (place e (s.nextCommand e).1 = place e s + 1
              ∨ place e s = e.numReceivers + 8 ∧ place e (s.nextCommand e).1 = 0))
          ∨ place e s = e.numReceivers + 9) := by
  have hn := numReceivers_le e
  have ⟨c', hc', hrx⟩ := CommandState.nextCommand_command hs.inStep.inv (fun _ => hs.left)
  have hrx5 : ∀ rx, c' = .rxFrequency rx → rx < 5 := fun rx h => by
    have := hrx rx h
    omega
  by_cases h : s.p1CommandLoop = 11
  . have hinStep := inStep_nextCommand (e := e) hs.inStep
    have hplace : place e s = e.numReceivers + 9 := by
      simp only [place, h, Nat.reduceEqDiff, if_false]
      omega
    have hnext : (s.nextCommand e).1.p1CommandLoop ≠ 2 := by
      rw [nextCommand_hl2 hhalf h]
      cases hstarts : (s.hl2.clearTune e).startsTuner e with
      | true =>
        rw [sendHl2_starts hstarts, h]
        decide
      | false =>
        rw [(sendHl2_ticks hstarts).1]
        decide
    have hnone := hc'
    rw [nextCommand_hl2 hhalf h] at hnone
    exact ⟨c', hc', hrx5, .inr (settingAt_sendHl2 hnone),
      ⟨hinStep, fun h2 => absurd h2 hnext⟩, .inr hplace⟩
  . have ⟨c, hc, hcycle, hready, _, hplace⟩ := nextCommand_ready hs hhalf h
    have heq : c = c' := Option.some.inj (hc.symm.trans hc')
    have hmem := List.mem_of_getElem? hcycle
    exact ⟨c, hc, fun rx h => hrx5 rx (heq ▸ h), .inl (isSetting_of_mem_cycle hmem), hready,
      .inl ⟨hcycle, hplace⟩⟩

/-! What the radio makes of a frame with these settings. -/

-- the header of a frame with this command
structure FrameOf (e : P1Settings) (h : OzyHeader) (c : Command) : Prop where
  address : addressOf h.c0 = addressOf c.address
  ptt : int (h.c0 &&& 1) = if e.mox then 1 else 0
  payload : ∃ s, h.payload = c.payload e s

theorem addressOf_or_flag {a : Byte} (b : Bool) (h : a &&& 1 = 0)
    : addressOf (a ||| flag b 0x01) = addressOf a
        ∧ int ((a ||| flag b 0x01) &&& 1) = if b then 1 else 0 := by
  revert a b
  decide +kernel

theorem frameOf_fillHeader {c : Command} (s : Hl2State) (h : OzyHeader)
    (hrx : ∀ rx, c = .rxFrequency rx → rx < 5)
    : FrameOf e (fillHeader e s (some c) h) c := by
  have ⟨haddress, hptt⟩ := addressOf_or_flag e.mox (Command.address_even hrx)
  exact ⟨haddress, hptt, s, rfl⟩

-- The PTT bit, which each frame sets, is none of the registers of a command.
theorem holds_ptt {c : Command} {r : Registers} (x : Int)
    : Holds board e { r with ptt := x } c ↔ Holds board e r c := by
  cases c <;> rfl

theorem ptt_writeAddress (p : Payload) (a : Fin 128) (r : Registers)
    : (writeAddress board p a r).ptt = r.ptt := by
  unfold writeAddress
  split <;> rfl

section

variable {c c' : Command} {h : OzyHeader} {r : Registers}

theorem FrameOf.holds (hf : FrameOf e h c) : Holds board e (processEp2 board h r) c := by
  have ⟨s, hpayload⟩ := hf.payload
  unfold processEp2
  rw [hf.address, hpayload]
  apply holds_self

theorem FrameOf.ptt_eq (hf : FrameOf e h c)
    : (processEp2 board h r).ptt = if e.mox then 1 else 0 := by
  unfold processEp2
  rw [ptt_writeAddress]
  exact hf.ptt

theorem FrameOf.keeps (hf : FrameOf e h c') (hc : IsSetting c)
    (hc' : IsSetting c' ∨ settingAt (addressOf c'.address) = none) (hr : Holds board e r c)
    : Holds board e (processEp2 board h r) c := by
  by_cases heq : c = c'
  . rw [heq]
    exact hf.holds
  . unfold processEp2
    apply ((holds_ptt _).mpr hr).write
    rw [hf.address]
    intro haddress
    unfold IsSetting at hc hc'
    rw [haddress] at hc
    cases hc' with
    | inl h' => exact heq (Option.some.inj (hc.symm.trans h'))
    | inr h' =>
      rw [h'] at hc
      cases hc

end

/-! Runs of the program and the radio. -/

-- Until the cycle is over, the registers of the commands sent so far are right.
structure Fresh (board : Board) (e : P1Settings) (l : Link) : Prop where
  ready : Ready e l.sender.vars
  pending : l.sender.vars.lowerHalf = false → FrameOf e l.lower.1 .general
  holds : ∀ c ∈ (cycle e.numReceivers).take (place e l.sender.vars),
    Holds board e l.radio.registers c
  started : place e l.sender.vars ≠ 0 → Holds board e l.radio.registers .general

/-- All registers are as the settings say. -/
structure Complete (board : Board) (e : P1Settings) (l : Link) : Prop where
  ready : Ready e l.sender.vars
  pending : l.sender.vars.lowerHalf = false → FrameOf e l.lower.1 .general
  general : Holds board e l.radio.registers .general
  holds : ∀ c ∈ cycle e.numReceivers, Holds board e l.radio.registers c
  ptt : l.radio.registers.ptt = if e.mox then 1 else 0

-- a buffer with these settings that is not lost
def Steady (e : P1Settings) (ev : LinkEvent) : Prop :=
  ∃ buffer data, ev = .send buffer e data false

section

variable (hdevice : e.device ≠ .ozy) (buffer : BufferId) (data : Vector Byte 504) (l : Link)

include hdevice

theorem step_lower (board : Board) (hhalf : l.sender.vars.lowerHalf = true)
    : (l.step board (.send buffer e data false)).sender.vars
          = { l.sender.vars with lowerHalf := false }
        ∧ FrameOf e (l.step board (.send buffer e data false)).lower.1 .general
        ∧ (l.step board (.send buffer e data false)).radio = l.radio := by
  simp only [Link.step, OzySender.step, ozySendBuffer, if_neg hdevice, nextCommand_general hhalf,
    Link.metisWrite, hhalf, if_true, Bool.not_true]
  refine ⟨trivial, ?_, trivial⟩
  apply frameOf_fillHeader
  intro rx hrx
  cases hrx

theorem step_upper (board : Board) (hhalf : l.sender.vars.lowerHalf = false)
    : (l.step board (.send buffer e data false)).sender.vars
          = { (l.sender.vars.nextCommand e).1 with lowerHalf := true }
        ∧ (l.step board (.send buffer e data false)).radio.registers =
            processEp2 board
              (fillHeader e l.sender.vars.hl2 (l.sender.vars.nextCommand e).2
                (l.sender.header buffer))
              (processEp2 board l.lower.1 l.radio.registers) := by
  simp only [Link.step, OzySender.step, ozySendBuffer, if_neg hdevice, Link.metisWrite, hhalf,
    if_true, Bool.not_false, Bool.false_eq_true, if_false]
  exact ⟨trivial, receive_metisPacket ..⟩

/-- The registers after the second half of a packet. -/
theorem step_turn (board : Board) (hhalf : l.sender.vars.lowerHalf = false)
    (hs : Ready e l.sender.vars)
    (hpending : FrameOf e l.lower.1 .general)
    : ∃ c, (l.sender.vars.nextCommand e).2 = some c
        ∧ Holds board e (l.step board (.send buffer e data false)).radio.registers c
        ∧ Holds board e (l.step board (.send buffer e data false)).radio.registers .general
        ∧ (∀ c', IsSetting c' → Holds board e l.radio.registers c' →
          Holds board e (l.step board (.send buffer e data false)).radio.registers c')
        ∧ (l.step board (.send buffer e data false)).radio.registers.ptt =
          if e.mox then 1 else 0 := by
  have ⟨c, hc, hrx, hsetting, _⟩ := nextCommand_turn hs hhalf
  have hframe := frameOf_fillHeader (e := e) l.sender.vars.hl2 (l.sender.header buffer) hrx
  rw [(step_upper hdevice buffer data l board hhalf).2, hc]
  refine ⟨c, rfl, hframe.holds, ?_, ?_, hframe.ptt_eq⟩
  . exact hframe.keeps rfl hsetting hpending.holds
  . intro c' hc' hr
    exact hframe.keeps hc' hsetting (hpending.keeps hc' (.inl rfl) hr)

end

theorem Ready.half {s : CommandState} (hs : Ready e s) (b : Bool)
    : Ready e { s with lowerHalf := b } :=
  ⟨⟨⟨hs.inStep.inv.pos, hs.inStep.inv.le⟩, hs.inStep.current⟩, hs.left⟩

section

variable {l : Link} {ev : LinkEvent} (hdevice : e.device ≠ .ozy) (hev : Steady e ev)

include hdevice hev

theorem Complete.step (hl : Complete board e l) : Complete board e (l.step board ev) := by
  obtain ⟨buffer, data, rfl⟩ := hev
  cases hhalf : l.sender.vars.lowerHalf with
  | true =>
    have ⟨hvars, hlower, hradio⟩ := step_lower hdevice buffer data l board hhalf
    refine ⟨?_, fun _ => hlower, ?_, ?_, ?_⟩
    . rw [hvars]
      exact hl.ready.half false
    . rw [hradio]
      exact hl.general
    . rw [hradio]
      exact hl.holds
    . rw [hradio]
      exact hl.ptt
  | false =>
    have ⟨c, hc, _, hgeneral, hkeeps, hptt⟩ :=
      step_turn hdevice buffer data l board hhalf hl.ready (hl.pending hhalf)
    have ⟨hvars, _⟩ := step_upper hdevice buffer data l board hhalf
    have ⟨_, _, _, _, hready, _⟩ := nextCommand_turn hl.ready hhalf
    refine ⟨?_, ?_, hgeneral, ?_, hptt⟩
    . rw [hvars]
      exact hready.half true
    . rw [hvars]
      intro h
      cases h
    . intro c' hc'
      exact hkeeps c' (isSetting_of_mem_cycle hc') (hl.holds c' hc')

omit hdevice hev in
theorem Complete.fresh (hl : Complete board e l) : Fresh board e l where
  ready := hl.ready
  pending := hl.pending
  holds := fun c hc => hl.holds c (List.mem_of_mem_take hc)
  started := fun _ => hl.general

/-- One step of the cycle. Its last one makes all registers right. -/
theorem Fresh.step (hl : Fresh board e l)
    : Fresh board e (l.step board ev)
        ∧ (l.sender.vars.lowerHalf = true →
          (l.step board ev).sender.vars = { l.sender.vars with lowerHalf := false })
        ∧ (l.sender.vars.lowerHalf = false →
          (l.step board ev).sender.vars.lowerHalf = true
            ∧ (place e (l.step board ev).sender.vars = place e l.sender.vars + 1
              ∨ Complete board e (l.step board ev))) := by
  obtain ⟨buffer, data, rfl⟩ := hev
  cases hhalf : l.sender.vars.lowerHalf with
  | true =>
    have ⟨hvars, hlower, hradio⟩ := step_lower hdevice buffer data l board hhalf
    refine ⟨⟨?_, fun _ => hlower, ?_, ?_⟩, fun _ => hvars, by simp⟩
    . rw [hvars]
      exact hl.ready.half false
    . rw [hvars, hradio]
      exact hl.holds
    . rw [hvars, hradio]
      exact hl.started
  | false =>
    have ⟨c, hc, hholds, hgeneral, hkeeps, hptt⟩ :=
      step_turn hdevice buffer data l board hhalf hl.ready (hl.pending hhalf)
    have ⟨hvars, _⟩ := step_upper hdevice buffer data l board hhalf
    have ⟨c', hc', _, _, hready, hplace⟩ := nextCommand_turn hl.ready hhalf
    have heq : c' = c := Option.some.inj (hc'.symm.trans hc)
    rw [heq] at hplace
    have hready' : Ready e (l.step board (.send buffer e data false)).sender.vars := by
      rw [hvars]
      exact hready.half true
    have hpending : (l.step board (.send buffer e data false)).sender.vars.lowerHalf = false →
        FrameOf e (l.step board (.send buffer e data false)).lower.1 .general := by
      rw [hvars]
      intro h
      cases h
    have hdone : (∀ c' ∈ cycle e.numReceivers,
        Holds board e (l.step board (.send buffer e data false)).radio.registers c') →
          Complete board e (l.step board (.send buffer e data false)) :=
      fun h => ⟨hready', hpending, hgeneral, h, hptt⟩
    have hkept : ∀ c' ∈ (cycle e.numReceivers).take (place e l.sender.vars),
        Holds board e (l.step board (.send buffer e data false)).radio.registers c' :=
      fun c' hmem => hkeeps c' (isSetting_of_mem_cycle (List.mem_of_mem_take hmem))
        (hl.holds c' hmem)
    have hhalf' : (l.step board (.send buffer e data false)).sender.vars.lowerHalf = true := by
      rw [hvars]
    suffices hsuff : Complete board e (l.step board (.send buffer e data false))
        ∨ (place e (l.step board (.send buffer e data false)).sender.vars =
              place e l.sender.vars + 1
          ∧ ∀ c' ∈ (cycle e.numReceivers).take (place e l.sender.vars + 1),
            Holds board e (l.step board (.send buffer e data false)).radio.registers c') by
      cases hsuff with
      | inl h => exact ⟨h.fresh, by simp, fun _ => ⟨hhalf', .inr h⟩⟩
      | inr h =>
        refine ⟨⟨hready', hpending, ?_, fun _ => hgeneral⟩, by simp, fun _ => ⟨hhalf', .inl h.1⟩⟩
        rw [h.1]
        exact h.2
    cases hplace with
    | inr hall =>
      rw [hall, List.take_of_length_le (by rw [length_cycle])] at hkept
      exact .inl (hdone hkept)
    | inl hnext =>
      have ⟨hcycle, hplace⟩ := hnext
      have hsent : ∀ c' ∈ (cycle e.numReceivers).take (place e l.sender.vars + 1),
          Holds board e (l.step board (.send buffer e data false)).radio.registers c' := by
        intro c' hmem
        rw [List.take_add_one, hcycle, List.mem_append] at hmem
        cases hmem with
        | inl hmem => exact hkept c' hmem
        | inr hmem =>
          have heq : c' = c := by simpa using hmem
          rw [heq]
          exact hholds
      cases hplace with
      | inl hnext =>
        refine .inr ⟨?_, hsent⟩
        rw [hvars]
        exact hnext
      | inr hlast =>
        rw [hlast.1, List.take_of_length_le (by rw [length_cycle])] at hsent
        exact .inl (hdone hsent)

end

-- The next command is the first one of the cycle.
structure Begins (l : Link) : Prop where
  inStep : InStep l.sender.vars
  half : l.sender.vars.lowerHalf = true
  loop : l.sender.vars.p1CommandLoop = 1

theorem Begins.fresh {l : Link} (hl : Begins l) : Fresh board e l := by
  have hplace : place e l.sender.vars = 0 := by simp [place, hl.loop]
  refine ⟨⟨hl.inStep, by simp [hl.loop]⟩, by simp [hl.half], ?_, by simp [hplace]⟩
  rw [hplace]
  simp

section

variable (hdevice : e.device ≠ .ozy) {l : Link} {evs : List LinkEvent}
  (hevs : ∀ ev ∈ evs, Steady e ev)

include hdevice hevs

end

/-! Lost packets are noticed by their sequence numbers. -/

-- whether the packet that an event completes, if it does, gets lost
def Link.fate (l : Link) : LinkEvent → Option Bool
  | .send _ e _ lost => if e.device ≠ .ozy ∧ l.sender.vars.lowerHalf = false then some lost else none
  | .restart => none

def Link.fates (board : Board) : Link → List LinkEvent → List Bool
  | _, [] => []
  | l, ev :: evs => (l.fate ev).toList ++ fates board (l.step board ev) evs

-- the packets that arrive after others got lost, `n` packets being lost before the first one;
-- numbers of 32 bits do not show a multiple of 2³² lost packets
def gaps : Nat → List Bool → Nat
  | _, [] => 0
  | n, true :: fs => gaps (n + 1) fs
  | n, false :: fs => (if n % 2 ^ 32 = 0 then 0 else 1) + gaps 0 fs

theorem metisPacket_sequence (board : Board) (s : Radio) (sequence : BitVec 32) (h h' : OzyHeader)
    (data data' : Vector Byte 504)
    : let s' := s.receive board (metisPacket sequence (bufferBytes h data) (bufferBytes h' data'))
      s'.lastSeqnum = sequence
        ∧ s'.seqErrors = s.seqErrors + if sequence = s.lastSeqnum + 1 then 0 else 1 := by
  have hlen : (metisPacket sequence (bufferBytes h data) (bufferBytes h' data')).length = 1032 := by
    simp [metisPacket, length_bufferBytes, ep2Code, sequenceBytes]
  have hsequence : (metisPacket sequence (bufferBytes h data) (bufferBytes h' data')).getD 4 0
      ++ (metisPacket sequence (bufferBytes h data) (bufferBytes h' data')).getD 5 0
      ++ (metisPacket sequence (bufferBytes h data) (bufferBytes h' data')).getD 6 0
      ++ (metisPacket sequence (bufferBytes h data) (bufferBytes h' data')).getD 7 0 = sequence :=
    Packet.append_extract sequence
  unfold Radio.receive
  rw [if_neg (by simp [hlen])]
  dsimp only
  rw [hsequence]
  refine ⟨rfl, ?_⟩
  by_cases heq : sequence = s.lastSeqnum + 1
  . rw [if_neg (not_not.mpr heq), if_pos heq]
    rfl
  . rw [if_pos heq, if_neg heq]

-- what an event does to the sequence numbers
theorem step_fate (board : Board) (l : Link) (ev : LinkEvent)
    : (l.step board ev).sendSequence = l.sendSequence + (if (l.fate ev).isSome then 1 else 0)
        ∧ (l.step board ev).radio.lastSeqnum =
          (if l.fate ev = some false then l.sendSequence else l.radio.lastSeqnum)
        ∧ (l.step board ev).radio.seqErrors = l.radio.seqErrors
          + if l.fate ev = some false ∧ l.sendSequence ≠ l.radio.lastSeqnum + 1 then 1 else 0 := by
  cases ev with
  | restart => simp [Link.step, Link.fate]
  | send buffer e data lost =>
    by_cases hdevice : e.device = .ozy
    . simp [Link.step, Link.fate, ozySendBuffer, hdevice]
    . cases hhalf : l.sender.vars.lowerHalf with
      | true => simp [Link.step, Link.fate, Link.metisWrite, ozySendBuffer, hdevice, hhalf]
      | false =>
        simp only [Link.step, Link.fate, Link.metisWrite, ozySendBuffer, hdevice, hhalf, if_false,
          if_true, Bool.false_eq_true, ne_eq, not_false_eq_true, and_self, Option.isSome_some,
          Option.some.injEq, true_and]
        cases lost with
        | true => simp
        | false =>
          have ⟨hlast, herrors⟩ := metisPacket_sequence board l.radio l.sendSequence
            l.lower.1 (fillHeader e l.sender.vars.hl2 (l.sender.vars.nextCommand e).2
              (l.sender.header buffer)) l.lower.2 data
          simp only [Bool.false_eq_true, if_false, hlast, herrors, if_true, true_and]
          split <;> simp_all

theorem seqErrors_from (board : Board) (evs : List LinkEvent) {l : Link} {n : Nat}
    (hn : l.sendSequence = l.radio.lastSeqnum + 1 + BitVec.ofNat 32 n)
    : (Run.exec (Link.step board) l evs).radio.seqErrors
        = l.radio.seqErrors + gaps n (Link.fates board l evs) := by
  induction evs generalizing l n with
  | nil => rfl
  | cons ev evs ih =>
    have ⟨hsend, hlast, herrors⟩ := step_fate board l ev
    rw [Run.exec_cons, Link.fates]
    cases hfate : l.fate ev with
    | none =>
      rw [hfate] at hsend hlast herrors
      have hn' : (l.step board ev).sendSequence
          = (l.step board ev).radio.lastSeqnum + 1 + BitVec.ofNat 32 n := by
        rw [hsend, hlast, hn]
        simp
      rw [ih hn', herrors]
      simp
    | some lost =>
      cases lost with
      | true =>
        rw [hfate] at hsend hlast herrors
        have hn' : (l.step board ev).sendSequence
            = (l.step board ev).radio.lastSeqnum + 1 + BitVec.ofNat 32 (n + 1) := by
          rw [hsend, hlast, hn, BitVec.ofNat_add, BitVec.add_assoc (_ + 1)]
          simp
        rw [ih hn', herrors]
        simp [gaps]
      | false =>
        rw [hfate] at hsend hlast herrors
        have hn' : (l.step board ev).sendSequence
            = (l.step board ev).radio.lastSeqnum + 1 + BitVec.ofNat 32 0 := by
          rw [hsend, hlast]
          simp
        have hgap : l.sendSequence = l.radio.lastSeqnum + 1 ↔ n % 2 ^ 32 = 0 := by
          rw [hn, BitVec.add_right_eq_self]
          constructor
          . intro h
            simpa using congrArg BitVec.toNat h
          . intro h
            apply BitVec.eq_of_toNat_eq
            simpa using h
        rw [ih hn', herrors]
        simp only [Option.toList_some, List.cons_append, List.nil_append, gaps, true_and, ne_eq, hgap]
        by_cases h0 : n % 2 ^ 32 = 0
        . rw [if_pos h0, if_neg (not_not.mpr h0)]
          omega
        . rw [if_neg h0, if_pos h0]
          omega

/--
Whatever is sent and gets lost, a sequence error is found for exactly those packets before which
others got lost.
-/
theorem seqErrors_exec (board : Board) (evs : List LinkEvent)
    : (Run.exec (Link.step board) .init evs).radio.seqErrors
        = gaps 0 (Link.fates board .init evs) := by
  rw [seqErrors_from board evs (l := .init) (n := 0) (by decide)]
  exact Nat.zero_add _

end Simulator
