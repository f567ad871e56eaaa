import Pihpsdr.Lib.Run
import Pihpsdr.OldProtocol.Impl.OzySend

/-!
The frames sent to the radio are self-consistent: C1 to C4 were computed in the same call for the
command whose address is found in C0, and the MOX bit of C0 is the condition for it in that call.

This holds unless the number of receivers has become so small that none of them is left for the
command whose turn it is: then C0 is not written.
-/

namespace OldProtocol

structure OzyHeader.Consistent (h : OzyHeader) (e : P1Settings) (s : Hl2State) : Prop where
  command : ∃ cmd : Command, (∀ rx, cmd = .rxFrequency rx → rx < e.numReceivers)
    ∧ h.c0 &&& 0xFE = cmd.address ∧ h.payload = cmd.payload e s
  mox : h.c0.getLsbD 0 = e.mox

-- What is handed to `metis_write` by an event is consistent.
def OzySender.Sound (y : OzySender) : SendEvent → Prop
  | .send buffer e =>
    let (_, h, sent) := ozySendBuffer e y.vars (y.header buffer)
    sent = true → h.Consistent e y.vars.hl2
  | .restart => True

-- If it is the turn of the frequency of a receiver, this receiver exists.
def OzySender.ReceiversLeft (y : OzySender) : SendEvent → Prop
  | .send _ e =>
    e.device ≠ .ozy → y.vars.lowerHalf = false → y.vars.p1CommandLoop = 2 →
      y.vars.currentRx < e.numReceivers
  | .restart => True

instance (y : OzySender) (ev : SendEvent) : Decidable (y.ReceiversLeft ev) := by
  unfold OzySender.ReceiversLeft
  split <;> infer_instance

structure CommandState.Inv (s : CommandState) : Prop where
  pos : 1 ≤ s.p1CommandLoop
  le : s.p1CommandLoop ≤ 11

theorem or_flag (a : Byte) (b : Bool) (h : a &&& 1 = 0)
    : (a ||| flag b 0x01) &&& 0xFE = a ∧ (a ||| flag b 0x01).getLsbD 0 = b := by
  revert a b
  decide +kernel

theorem Command.address_even {cmd : Command} (h : ∀ rx, cmd = .rxFrequency rx → rx < 5)
    : cmd.address &&& 1 = 0 := by
  cases cmd with
  | rxFrequency rx =>
    have hrx := h rx rfl
    have : rx = 0 ∨ rx = 1 ∨ rx = 2 ∨ rx = 3 ∨ rx = 4 := by omega
    rcases this with rfl | rfl | rfl | rfl | rfl <;> rfl
  | hl2TxFrequency reg =>
    rw [address]
    rfl
  | _ => rfl

theorem consistent_fillHeader {e : P1Settings} {s : Hl2State} {cmd : Command} (h : OzyHeader)
    (hrx : ∀ rx, cmd = .rxFrequency rx → rx < e.numReceivers)
    : (fillHeader e s (some cmd) h).Consistent e s := by
  have hle : e.numReceivers ≤ 5 := howManyReceivers_le e.rx
  have heven := Command.address_even (fun rx h => Nat.lt_of_lt_of_le (hrx rx h) hle)
  have ⟨haddr, hmox⟩ := or_flag cmd.address e.mox heven
  exact ⟨⟨cmd, hrx, haddr, rfl⟩, hmox⟩

namespace CommandState

variable {e : P1Settings} {s : CommandState}

theorem inv_sendRxFrequency (hinv : s.Inv) : (s.sendRxFrequency e).1.Inv := by
  unfold sendRxFrequency
  dsimp only
  split
  . split
    . exact ⟨by simp, by simp⟩
    . exact ⟨hinv.pos, hinv.le⟩
  . split
    . exact ⟨by simp, by simp⟩
    . exact hinv

theorem inv_sendHl2 (hinv : s.Inv) : (s.sendHl2 e).1.Inv := by
  unfold sendHl2
  dsimp only
  split
  . exact ⟨hinv.pos, hinv.le⟩
  . exact ⟨by simp, by simp⟩

theorem inv_nextCommand (hinv : s.Inv) : (s.nextCommand e).1.Inv := by
  unfold nextCommand
  split
  . exact hinv
  . split
    case h_2 => exact inv_sendRxFrequency hinv
    case h_10 =>
      constructor
      . dsimp only
        split <;> simp
      . dsimp only
        split <;> simp
    case h_11 => exact inv_sendHl2 hinv
    case h_12 => exact hinv
    all_goals exact ⟨by simp, by simp⟩

theorem sendRxFrequency_command (hlt : s.currentRx < e.numReceivers)
    : (s.sendRxFrequency e).2 = some (.rxFrequency s.currentRx) := by
  unfold sendRxFrequency
  rw [if_pos hlt]
  dsimp only
  split <;> rfl

theorem tick_command (t : Hl2State) : ∀ rx, (t.tick e).2 ≠ .rxFrequency rx := by
  intro rx
  unfold Hl2State.tick
  split
  case h_1 | h_2 => split <;> simp
  all_goals simp

theorem sendHl2_command : ∃ cmd, (s.sendHl2 e).2 = some cmd ∧ ∀ rx, cmd ≠ .rxFrequency rx := by
  unfold sendHl2
  dsimp only
  split
  . exact ⟨_, rfl, by simp⟩
  . exact ⟨_, rfl, tick_command _⟩

theorem nextCommand_command (hinv : s.Inv)
    (hleft : s.lowerHalf = false → s.p1CommandLoop = 2 → s.currentRx < e.numReceivers)
    : ∃ cmd, (s.nextCommand e).2 = some cmd
        ∧ ∀ rx, cmd = .rxFrequency rx → rx < e.numReceivers := by
  have ⟨hpos, hle⟩ := hinv
  unfold nextCommand
  split
  . exact ⟨_, rfl, by simp⟩
  next hhalf =>
    split
    case h_2 hloop =>
      have hlt := hleft (by simpa using hhalf) hloop
      rw [sendRxFrequency_command hlt]
      refine ⟨_, rfl, ?_⟩
      intro rx hrx
      cases hrx
      exact hlt
    case h_11 =>
      have ⟨cmd, hcmd, hne⟩ := sendHl2_command (e := e) (s := s)
      exact ⟨cmd, hcmd, fun rx h => absurd h (hne rx)⟩
    case h_12 => grind
    all_goals exact ⟨_, rfl, by simp⟩

end CommandState

-- The data pairs for the CL1 jack are read within the bounds of their arrays.
def Hl2State.Cl1InBounds (s : Hl2State) : Prop :=
  s.commandLoop = 20 → s.cl1Loop + 1 < hl2Cl1On.length ∧ s.cl1Loop + 1 < hl2Cl1Off.length

def Hl2State.Cl1Inv (s : Hl2State) : Prop :=
  s.commandLoop = 20 → s.cl1Loop ≤ 46 ∧ s.cl1Loop % 2 = 0

theorem Hl2State.Cl1Inv.inBounds {s : Hl2State} (h : s.Cl1Inv) : s.Cl1InBounds := by
  intro hloop
  have := h hloop
  simp only [hl2Cl1On, hl2Cl1Off, List.length_cons, List.length_nil]
  omega

theorem Hl2State.cl1Inv_of_ne {s : Hl2State} (h : s.commandLoop ≠ 20) : s.Cl1Inv :=
  fun hloop => absurd hloop h

theorem Hl2State.cl1Inv_tick {e : P1Settings} {s : Hl2State} (h : s.Cl1Inv)
    : (s.tick e).1.Cl1Inv := by
  unfold Hl2State.tick
  split
  case h_1 =>
    split
    . intro _
      simp
    . apply cl1Inv_of_ne
      dsimp only
      split <;> simp
  case h_2 =>
    split
    . exact cl1Inv_of_ne (by simp)
    . exact cl1Inv_of_ne (by simp)
  case h_12 hloop =>
    have := h hloop
    intro hnext
    dsimp only at hnext ⊢
    split at hnext
    . contradiction
    . omega
  case h_13 => exact h
  all_goals exact cl1Inv_of_ne (by simp [latchFrequencies])

theorem CommandState.cl1Inv_nextCommand {e : P1Settings} {s : CommandState} (h : s.hl2.Cl1Inv)
    : (s.nextCommand e).1.hl2.Cl1Inv := by
  have hclear : (s.hl2.clearTune e).Cl1Inv := by
    unfold Hl2State.clearTune
    split <;> exact h
  unfold nextCommand
  split
  . exact h
  . split
    case h_2 =>
      unfold sendRxFrequency
      dsimp only
      split <;> split <;> exact h
    case h_11 =>
      unfold sendHl2
      dsimp only
      split
      . exact hclear
      . exact Hl2State.cl1Inv_tick hclear
    all_goals exact h

namespace OzySender

def Cl1Inv (y : OzySender) : Prop := y.vars.hl2.Cl1Inv

theorem cl1Inv_step (y : OzySender) (ev : SendEvent) (h : y.Cl1Inv) : (y.step ev).Cl1Inv := by
  cases ev with
  | send buffer e =>
    have hnext := CommandState.cl1Inv_nextCommand (e := e) h
    simp only [Cl1Inv, step, ozySendBuffer]
    split
    . exact hnext
    . exact hnext
  | restart => exact h

theorem cl1InBounds_exec (header : BufferId → OzyHeader) (es : List SendEvent)
    : (Run.exec step ⟨.init, header⟩ es).vars.hl2.Cl1InBounds := by
  have hinit : Cl1Inv ⟨.init, header⟩ := Hl2State.cl1Inv_of_ne (Nat.zero_ne_add_one 19)
  have hinv : (Run.exec step ⟨.init, header⟩ es).Cl1Inv :=
    Run.exec_invariant (fun y ev h _ => cl1Inv_step y ev h) hinit (Run.along_true _ es)
  exact hinv.inBounds

theorem inv_step (y : OzySender) (ev : SendEvent) (hinv : y.vars.Inv) : (y.step ev).vars.Inv := by
  cases ev with
  | send buffer e =>
    have hnext := CommandState.inv_nextCommand (e := e) hinv
    simp only [step, ozySendBuffer]
    split
    . exact hnext
    . exact ⟨hnext.pos, hnext.le⟩
  | restart => exact ⟨by simp [step], by simp [step]⟩

theorem sound_of_receiversLeft (y : OzySender) (ev : SendEvent) (hinv : y.vars.Inv)
    (hleft : y.ReceiversLeft ev)
    : y.Sound ev := by
  cases ev with
  | send buffer e =>
    simp only [Sound, ozySendBuffer]
    split
    . simp
    next hdevice =>
      have ⟨cmd, hcmd, hrx⟩ := CommandState.nextCommand_command hinv (hleft hdevice)
      intro _
      dsimp only
      rw [hcmd]
      apply consistent_fillHeader
      exact hrx
  | restart => trivial

theorem consistent_of_receiversLeft (header : BufferId → OzyHeader) (es : List SendEvent)
    (hleft : Run.Along step ReceiversLeft ⟨.init, header⟩ es)
    : Run.Along step Sound ⟨.init, header⟩ es := by
  apply Run.along_of_invariant (fun y ev hinv _ => inv_step y ev hinv) sound_of_receiversLeft _
    hleft
  exact ⟨by simp [CommandState.init], by simp [CommandState.init]⟩

-- an ANAN-10 receiving on 7.1 MHz, with one receiver and PureSignal
def hermesSettings : P1Settings where
  rx := ⟨.hermes, false, 1, false, true, receivers_one⟩
  frequencyCalibration := 0
  sampleRate := 48000
  receiver0Id := 0
  receiver1Id := 1
  receiver0Adc := 0
  receiver1Adc := 0
  feedbackAdc := 0
  activeReceiver := 0
  split := false
  vfo := fun _ => ⟨5, .lsb, 7100000, false, 0, false, 0, 0⟩
  band := fun _ => ⟨0, 0, 7000000, 7300000, false⟩
  transmitting := false
  transmitter := ⟨false, false, 0, 0, 0⟩
  keyer := ⟨false, 16, 0, 50, 0, true, 50, 30, 500, 800⟩
  midiCwIsActive := false
  catCwIsActive := false
  hpsdrPtt := false
  atlasPenelope := false
  atlasMicSource := false
  atlasClockSource128mhz := false
  atlasClockSource10mhz := 0
  fullTune := false
  memoryTune := false
  tuneRunning := false
  ocTune := 0
  filterBoard := .alex
  haveAlexAtt := false
  havePreamp := false
  newPaBoard := false
  paEnabled := true
  txOutOfBandAllowed := false
  nAdc := 1
  adc0 := ⟨0, 0, 0, false, false, 0, false⟩
  adc1 := ⟨0, 0, 0, false, false, 0, false⟩
  adc2 := ⟨0, 0, 0, false, false, 0, false⟩
  rxGain := 12
  micBoost := false
  micLinein := false
  orionMicPttEnabled := true
  orionMicBiasEnabled := false
  orionMicPttTip := false
  lineinCode := 23
  hl2AudioCodec := false
  hl2IobPresent := false
  hl2Ah4Atu := false
  hl2Cl1Input := 0
  vfoACode := 92
  vfoBCode := 92

def hermesWithoutPuresignal : P1Settings :=
  { hermesSettings with rx := ⟨.hermes, false, 1, false, false, receivers_one⟩ }

def sendPairs (n : Nat) : List SendEvent :=
  (List.replicate n
    [SendEvent.send .ozyBuf1 hermesSettings, .send .ozyBuf2 hermesSettings]).flatten

theorem consistent_hermes
    : Run.Along step Sound ⟨.init, fun _ => .zero⟩ (sendPairs 14) :=
  consistent_of_receiversLeft _ _ (by decide +kernel)

-- The frequencies of the first two of four receivers have been sent.
def beforeLastRx : List SendEvent := sendPairs 3 ++ [.send .ozyBuf1 hermesSettings]

theorem not_consistent_receiver_dropped
    : ¬ ∀ header es, Run.Along step Sound ⟨.init, header⟩ es := by
  intro hall
  have hsound :=
    (hall (fun _ => .zero) (beforeLastRx ++ .send .ozyBuf2 hermesWithoutPuresignal :: [])).at
  have hframe : let y := Run.exec step ⟨.init, fun _ => .zero⟩ beforeLastRx
      (ozySendBuffer hermesWithoutPuresignal y.vars (y.header .ozyBuf2)).2
        = (⟨0x06, .zero⟩, true) := by
    decide +kernel
  simp only [Sound, hframe, forall_const] at hsound
  have ⟨cmd, hrx, haddr, _⟩ := hsound.command
  cases cmd with
  | rxFrequency rx =>
    have hlt := hrx rx rfl
    have hn : hermesWithoutPuresignal.numReceivers = 1 := rfl
    have hzero : rx = 0 := by omega
    rw [hzero] at haddr
    revert haddr
    decide
  | hl2TxFrequency reg =>
    rw [Command.address] at haddr
    revert haddr
    decide
  | _ =>
    revert haddr
    decide

end OzySender

end OldProtocol
