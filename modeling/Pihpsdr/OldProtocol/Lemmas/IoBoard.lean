import Pihpsdr.Lib.Packet
import Pihpsdr.OldProtocol.Lemmas.OzyCommand

/-!
What the IO board and the clock generator of a HermesLite-II make of the commands they get one register at
a time: the frequency that takes effect is one of the same turn, and a setting of CL1 arrives whole.
-/

namespace OldProtocol

structure Hl2Board where
  -- the upper four bytes of the frequency, which wait for the lowest one
  latch : Fin 4 → Byte
  txFrequency : BitVec 40
  clock : List (Byte × Byte)

def OzyHeader.isIobWrite (h : OzyHeader) : Bool :=
  h.c0 &&& 0xFE = 0x7A && h.payload.c1 = 0x06 && h.payload.c2 = 0x80 ||| 0x1d

def OzyHeader.isClockWrite (h : OzyHeader) : Bool :=
  h.c0 &&& 0xFE = 0x78 && h.payload.c1 = 0x06 && h.payload.c2 = 0xEA

theorem OzyHeader.isIobWrite_eq_false {h : OzyHeader} (haddr : h.c0 &&& 0xFE ≠ 0x7A)
    : h.isIobWrite = false := by
  simp only [isIobWrite, decide_eq_false haddr, Bool.false_and]

theorem OzyHeader.isClockWrite_eq_false {h : OzyHeader} (haddr : h.c0 &&& 0xFE ≠ 0x78)
    : h.isClockWrite = false := by
  simp only [isClockWrite, decide_eq_false haddr, Bool.false_and]

-- the register whose write makes the frequency take effect
def OzyHeader.isLowestByte (h : OzyHeader) : Bool :=
  h.isIobWrite && h.payload.c3 = 4

namespace Hl2Board

def setLatch (b : Hl2Board) (i : Fin 4) (x : Byte) : Hl2Board :=
  { b with latch := Function.update b.latch i x }

def latched (b : Hl2Board) (x : Byte) : BitVec 40 :=
  b.latch 0 ++ (b.latch 1 ++ (b.latch 2 ++ (b.latch 3 ++ x)))

def receive (b : Hl2Board) (h : OzyHeader) : Hl2Board :=
  if h.isIobWrite then
    if hreg : h.payload.c3.toNat < 4 then
      b.setLatch ⟨h.payload.c3.toNat, hreg⟩ h.payload.c4
    else if h.payload.c3 = 4 then
      { b with txFrequency := b.latched h.payload.c4 }
    else
      b
  else if h.isClockWrite then
    { b with clock := b.clock ++ [(h.payload.c3, h.payload.c4)] }
  else
    b

end Hl2Board

def pairs : List Byte → List (Byte × Byte)
  | x :: y :: xs => (x, y) :: pairs xs
  | _ => []

def cl1Pairs (setting : Int) : List (Byte × Byte) :=
  pairs (if setting ≠ 0 then hl2Cl1On else hl2Cl1Off)

-- the pairs of the setting in work that have not been sent
def Hl2State.unsent (s : Hl2State) : List (Byte × Byte) :=
  if s.commandLoop = 20 then (cl1Pairs s.newCl1Setting).drop (s.cl1Loop / 2) else []

-- what a call hands to `metis_write`
def OzySender.sent (y : OzySender) (buffer : BufferId) (e : P1Settings) : Option OzyHeader :=
  let (_, h, sent) := ozySendBuffer e y.vars (y.header buffer)
  if sent then some h else none

/--
The program and the radio. `turn` are the settings in the calls since the HL2 loop was last at its beginning,
`programmed` the settings of CL1 that it has begun to send.
-/
structure Hl2Link where
  sender : OzySender
  board : Hl2Board
  turn : List P1Settings
  programmed : List Int

namespace Hl2Link

def hl2 (w : Hl2Link) : Hl2State := w.sender.vars.hl2

def step (w : Hl2Link) : SendEvent → Hl2Link
  | .send buffer e =>
    let sender := w.sender.step (.send buffer e)
    { sender
      board := (w.sender.sent buffer e).elim w.board w.board.receive
      turn := if w.hl2.commandLoop = 0 then [e] else w.turn ++ [e]
      programmed :=
        if w.hl2.commandLoop ≠ 20 ∧ sender.vars.hl2.commandLoop = 20 then
          w.programmed ++ [e.hl2Cl1Input]
        else
          w.programmed }
  | .restart => { w with sender := w.sender.step .restart }

-- Where the lowest byte is written, a frequency of this turn takes effect.
def Untorn (w : Hl2Link) : SendEvent → Prop
  | .send buffer e =>
    ∀ h, w.sender.sent buffer e = some h → h.isLowestByte →
      ∃ e' ∈ (w.step (.send buffer e)).turn,
        (w.step (.send buffer e)).board.txFrequency = BitVec.ofInt 40 (e'.vfo e'.txVfo).txFrequency
  | .restart => True

-- The pairs that have been sent and those still to be sent are those of whole settings, in order.
def ProgramsWhole (w : Hl2Link) : Prop :=
  w.hl2.Cl1InBounds ∧ w.board.clock ++ w.hl2.unsent = w.programmed.flatMap cl1Pairs

end Hl2Link

theorem drop_pairs {xs : List Byte} {k : Nat} (h : 2 * k + 1 < xs.length)
    : (pairs xs).drop k
        =
      (xs.getD (2 * k) 0, xs.getD (2 * k + 1) 0) :: (pairs xs).drop (k + 1) := by
  induction k generalizing xs with
  | zero =>
    match xs with
    | x :: y :: xs => rfl
  | succ k ih =>
    match xs with
    | x :: y :: xs =>
      rw [List.length_cons, List.length_cons] at h
      exact ih (by omega)

theorem drop_cl1Pairs (setting : Int) {k : Nat} (h : k ≤ 23)
    : (cl1Pairs setting).drop k
        =
      let table := if setting ≠ 0 then hl2Cl1On else hl2Cl1Off
      (table.getD (2 * k) 0, table.getD (2 * k + 1) 0) :: (cl1Pairs setting).drop (k + 1) := by
  unfold cl1Pairs
  apply drop_pairs
  split
  all_goals
    simp only [hl2Cl1On, hl2Cl1Off, List.length_cons, List.length_nil]
    omega

theorem drop_cl1Pairs_all (setting : Int) : (cl1Pairs setting).drop 24 = [] := by
  unfold cl1Pairs
  split <;> rfl

-- the commands that the HL2 loop does not send
structure Command.Standard (cmd : Command) : Prop where
  even : cmd.address &&& 1 = 0
  ne_iob : cmd.address ≠ 0x7A
  ne_clock : cmd.address ≠ 0x78

theorem Command.standard_rxFrequency {rx : Nat} (h : rx < 5) : (rxFrequency rx).Standard := by
  have : rx = 0 ∨ rx = 1 ∨ rx = 2 ∨ rx = 3 ∨ rx = 4 := by omega
  rcases this with rfl | rfl | rfl | rfl | rfl
  all_goals exact ⟨by decide, by decide, by decide⟩

namespace Hl2Board

variable (b : Hl2Board) (e : P1Settings) (s : Hl2State) (h : OzyHeader)

theorem address_fillHeader {cmd : Command} (heven : cmd.address &&& 1 = 0)
    : (fillHeader e s (some cmd) h).c0 &&& 0xFE = cmd.address :=
  (or_flag cmd.address e.mox heven).1

theorem receive_none : b.receive (fillHeader e s none h) = b := by
  unfold receive
  rw [if_neg, if_neg]
  all_goals simp [OzyHeader.isClockWrite, OzyHeader.isIobWrite, fillHeader, Payload.zero]

theorem receive_standard {cmd : Command} (hcmd : cmd.Standard)
    : b.receive (fillHeader e s (some cmd) h) = b := by
  have haddr := address_fillHeader e s h hcmd.even
  have hiob := OzyHeader.isIobWrite_eq_false (haddr.trans_ne hcmd.ne_iob)
  have hclock := OzyHeader.isClockWrite_eq_false (haddr.trans_ne hcmd.ne_clock)
  simp only [receive, hiob, hclock, Bool.false_eq_true, if_false]

-- the registers that have nothing to do with the frequency
theorem receive_iobWrite {cmd : Command} {reg data : Byte} (haddr : cmd.address = 0x7A)
    (hpayload : cmd.payload e s = Command.iobWrite reg data) (hreg : 4 < reg.toNat)
    : b.receive (fillHeader e s (some cmd) h) = b := by
  have heven : cmd.address &&& 1 = 0 := by
    rw [haddr]
    decide
  have hc0 := address_fillHeader e s h heven
  have hpay : (fillHeader e s (some cmd) h).payload = Command.iobWrite reg data := hpayload
  have hclock := OzyHeader.isClockWrite_eq_false (hc0.trans_ne (by rw [haddr]; decide))
  have hne : reg ≠ 4 := by
    intro heq
    rw [heq] at hreg
    contradiction
  unfold receive
  split
  . rw [hpay, Command.iobWrite]
    dsimp only
    rw [dif_neg (by omega), if_neg hne]
  . rw [hclock, if_neg Bool.false_ne_true]

theorem isIobWrite_txFrequency (reg : Fin 5)
    : (fillHeader e s (some (.hl2TxFrequency reg)) h).isIobWrite = true := by
  have heven : (Command.hl2TxFrequency reg).address &&& 1 = 0 := by
    rw [Command.address]
    decide
  have hc0 := address_fillHeader e s h heven
  simp only [OzyHeader.isIobWrite, hc0]
  rfl

theorem receive_upperByte (i : Fin 4)
    : b.receive (fillHeader e s (some (.hl2TxFrequency i.castSucc)) h)
        =
      b.setLatch i (BitVec.ofInt 8 (s.iobTxFreq >>> (8 * (4 - i.val)))) := by
  have hreg : (BitVec.ofNat 8 i.val).toNat = i.val := by
    rw [BitVec.toNat_ofNat]
    omega
  unfold receive
  rw [if_pos (isIobWrite_txFrequency e s h _)]
  simp only [fillHeader, Command.payload, Command.iobWrite, Fin.val_castSucc, hreg]
  rw [dif_pos i.isLt]

theorem receive_lowestByte
    : b.receive (fillHeader e s (some (.hl2TxFrequency 4)) h)
        =
      { b with txFrequency := b.latched (BitVec.ofInt 8 s.iobTxFreq) } := by
  have hshift : 8 * (4 - (4 : Fin 5).val) = 0 := rfl
  have hreg : BitVec.ofNat 8 (4 : Fin 5).val = 4 := rfl
  have hpay : (fillHeader e s (some (.hl2TxFrequency 4)) h).payload
      = Command.iobWrite 4 (BitVec.ofInt 8 s.iobTxFreq) := by
    simp only [fillHeader, Command.payload, hshift, hreg, Int.shiftRight_zero]
  unfold receive
  rw [if_pos (isIobWrite_txFrequency e s h _), hpay, Command.iobWrite]
  dsimp only
  rw [dif_neg (by decide), if_pos rfl]

theorem receive_cl1 :
    b.receive (fillHeader e s (some .hl2Cl1) h)
      =
    let table := if s.newCl1Setting ≠ 0 then hl2Cl1On else hl2Cl1Off
    { b with clock := b.clock ++ [(table.getD s.cl1Loop 0, table.getD (s.cl1Loop + 1) 0)] } := by
  have heven : Command.hl2Cl1.address &&& 1 = 0 := by decide
  have hc0 := address_fillHeader e s h heven
  have hclock : (fillHeader e s (some .hl2Cl1) h).isClockWrite = true := by
    simp only [OzyHeader.isClockWrite, hc0]
    rfl
  have hiob := OzyHeader.isIobWrite_eq_false (hc0.trans_ne (by decide))
  unfold receive
  rw [hiob, if_neg Bool.false_ne_true, if_pos hclock]
  rfl

theorem latched_eq {f : Int}
    (hlatch : ∀ i : Fin 4, b.latch i = BitVec.ofInt 8 (f >>> (8 * (4 - i.val))))
    : b.latched (BitVec.ofInt 8 f) = BitVec.ofInt 40 f := by
  have h₀ := Bytes.ofInt_append 8 8 f
  have h₁ := Bytes.ofInt_append 8 16 f
  have h₂ := Bytes.ofInt_append 8 24 f
  have h₃ := Bytes.ofInt_append 8 32 f
  unfold latched
  rw [hlatch 0, hlatch 1, hlatch 2, hlatch 3]
  exact (congrArg _ (congrArg _ (congrArg _ h₀))).trans
    ((congrArg _ (congrArg _ h₁)).trans ((congrArg _ h₂).trans h₃))

end Hl2Board

namespace Hl2State

-- The two states differ at most in what is known about the tuner.
def SameBut (s t : Hl2State) : Prop :=
  s = { t with lastTune := s.lastTune }

theorem sameBut_clearTune (e : P1Settings) (s : Hl2State) : (s.clearTune e).SameBut s := by
  unfold clearTune SameBut
  split <;> rfl

end Hl2State

/--
What a call does to the state of the HL2 loop: nothing, or it starts the tuner, or there is a tick of the loop.
-/
theorem CommandState.nextCommand_hl2 (e : P1Settings) (s : CommandState)
    : ((s.nextCommand e).1.hl2 = s.hl2 ∧ ∀ cmd, (s.nextCommand e).2 = some cmd → cmd.Standard)
        ∨ ((s.nextCommand e).1.hl2.SameBut s.hl2 ∧ (s.nextCommand e).2 = some .hl2StartTuner)
        ∨ ∃ t : Hl2State, t.SameBut s.hl2 ∧ (s.nextCommand e).1.hl2 = (t.tick e).1
          ∧ (s.nextCommand e).2 = some (t.tick e).2 := by
  have hsame := Hl2State.sameBut_clearTune e s.hl2
  have hle := howManyReceivers_le e.rx
  unfold nextCommand
  split
  . left
    refine ⟨rfl, ?_⟩
    rintro _ ⟨⟩
    exact ⟨by decide, by decide, by decide⟩
  . split
    case h_2 =>
      left
      unfold sendRxFrequency
      dsimp only
      split
      next hlt =>
        have hstd := Command.standard_rxFrequency (Nat.lt_of_lt_of_le hlt hle)
        split
        . refine ⟨rfl, ?_⟩
          rintro _ ⟨⟩
          exact hstd
        . refine ⟨rfl, ?_⟩
          rintro _ ⟨⟩
          exact hstd
      . split
        . exact ⟨rfl, by simp⟩
        . exact ⟨rfl, by simp⟩
    case h_11 =>
      right
      unfold sendHl2
      dsimp only
      split
      . left
        refine ⟨?_, rfl⟩
        rw [Hl2State.SameBut] at hsame ⊢
        dsimp only
        rw [hsame]
      . right
        exact ⟨s.hl2.clearTune e, hsame, rfl, rfl⟩
    case h_12 =>
      left
      exact ⟨rfl, by simp⟩
    all_goals
      left
      refine ⟨rfl, ?_⟩
      rintro _ ⟨⟩
      exact ⟨by decide, by decide, by decide⟩

theorem fillHeader_of_sameBut {e : P1Settings} {s t : Hl2State} (hsame : t.SameBut s)
    (cmd : Option Command) (h : OzyHeader)
    : fillHeader e s cmd h = fillHeader e t cmd h := by
  rw [hsame]
  cases cmd with
  | none => rfl
  | some cmd => cases cmd <;> rfl

/--
How the registers of the board follow the HL2 loop: as many of the upper bytes as the loop has sent are those of a
frequency of this turn.
-/
structure Tracks (s : Hl2State) (b : Hl2Board) (turn : List P1Settings) (programmed : List Int)
    : Prop where
  cl1 : s.Cl1Inv
  ofTurn : 3 ≤ s.commandLoop → s.commandLoop ≤ 7 →
    ∃ e ∈ turn, s.iobTxFreq = (e.vfo e.txVfo).txFrequency
  latched : s.commandLoop ≤ 7 → ∀ i : Fin 4, 3 + i.val < s.commandLoop →
    b.latch i = BitVec.ofInt 8 (s.iobTxFreq >>> (8 * (4 - i.val)))
  whole : b.clock ++ s.unsent = programmed.flatMap cl1Pairs

namespace Tracks

variable {e : P1Settings} {s t : Hl2State} {b : Hl2Board} {turn : List P1Settings}
    {programmed : List Int}

theorem of_sameBut (h : Tracks s b turn programmed) (hsame : t.SameBut s)
    : Tracks t b turn programmed := by
  rw [hsame]
  exact ⟨h.cl1, h.ofTurn, h.latched, h.whole⟩

theorem append_turn (h : Tracks s b turn programmed) (e : P1Settings)
    : Tracks s b (if s.commandLoop = 0 then [e] else turn ++ [e]) programmed := by
  refine ⟨h.cl1, ?_, h.latched, h.whole⟩
  intro hlo hhi
  obtain ⟨e', he', hfreq⟩ := h.ofTurn hlo hhi
  rw [if_neg (by omega)]
  exact ⟨e', List.mem_append_left _ he', hfreq⟩

-- a state of the loop in which it sends neither the frequency nor the pairs
theorem of_idle (hlo : s.commandLoop < 3 ∨ 7 < s.commandLoop) (hne : s.commandLoop ≠ 20)
    (hclock : b.clock = programmed.flatMap cl1Pairs)
    : Tracks s b turn programmed := by
  refine ⟨Hl2State.cl1Inv_of_ne hne, ?_, ?_, ?_⟩
  . intro h h'
    omega
  . intro h i hi
    omega
  . rw [Hl2State.unsent, if_neg hne, List.append_nil, hclock]

theorem clock_eq (h : Tracks s b turn programmed) (hne : s.commandLoop ≠ 20)
    : b.clock = programmed.flatMap cl1Pairs := by
  have hwhole := h.whole
  rwa [Hl2State.unsent, if_neg hne, List.append_nil] at hwhole

-- the loop sends one more of the upper bytes
theorem setLatch (h : Tracks s b turn programmed) {i : Fin 4} (hi : s.commandLoop = 3 + i.val)
    (h' : OzyHeader)
    : Tracks { s with commandLoop := 4 + i.val }
        (b.receive (fillHeader e s (some (.hl2TxFrequency i.castSucc)) h')) turn programmed := by
  have hclock := h.clock_eq (by omega)
  have hne : 4 + i.val ≠ 20 := by omega
  rw [Hl2Board.receive_upperByte]
  refine ⟨Hl2State.cl1Inv_of_ne hne, ?_, ?_, ?_⟩
  . intro _ _
    exact h.ofTurn (by omega) (by omega)
  . intro _ j hj
    dsimp only at hj
    by_cases hij : j = i
    . rw [hij]
      exact Function.update_self ..
    . have hlt : 3 + j.val < s.commandLoop := by omega
      have hold := h.latched (by omega) j hlt
      exact (Function.update_of_ne hij ..).trans hold
  . rw [Hl2State.unsent, if_neg hne, List.append_nil]
    exact hclock

theorem tick (h : Tracks t b turn programmed) (h' : OzyHeader)
    (hmem : t.commandLoop = 2 → e ∈ turn)
    : Tracks (t.tick e).1 (b.receive (fillHeader e t (some (t.tick e).2) h')) turn
        (if t.commandLoop ≠ 20 ∧ (t.tick e).1.commandLoop = 20 then
          programmed ++ [e.hl2Cl1Input]
        else
          programmed) := by
  have hlatency : Command.hl2Latency.Standard := ⟨by decide, by decide, by decide⟩
  have hquery : Command.hl2Query.Standard := ⟨by decide, by decide, by decide⟩
  unfold Hl2State.tick
  split
  case h_1 hloop =>
    have hclock := h.clock_eq (by omega)
    split
    . rw [Hl2Board.receive_standard b e t h' hlatency, if_pos ⟨by omega, rfl⟩]
      refine ⟨fun _ => ⟨Nat.zero_le 46, rfl⟩, ?_, ?_, ?_⟩
      . intro _ hle
        contradiction
      . intro hle
        contradiction
      . rw [List.flatMap_append, hclock]
        simp [Hl2State.unsent]
    . have hne : (if e.hl2IobPresent then 2 else 1) ≠ 20 := by split <;> omega
      rw [Hl2Board.receive_standard b e t h' hlatency, if_neg (c := _ ∧ _) (fun hand => hne hand.2)]
      apply of_idle _ hne hclock
      dsimp only
      split <;> simp
  case h_2 hloop =>
    have hclock := h.clock_eq (by omega)
    split
    . rw [Hl2Board.receive_standard b e t h' hquery, if_neg (by simp)]
      exact of_idle (by simp) (by simp) hclock
    . rw [Hl2Board.receive_standard b e t h' hlatency, if_neg (by simp)]
      exact of_idle (by simp) (by simp) hclock
  case h_3 hloop =>
    have hclock := h.clock_eq (by omega)
    rw [Hl2Board.receive_standard b e t h' hlatency, if_neg (by simp [Hl2State.latchFrequencies])]
    refine ⟨Hl2State.cl1Inv_of_ne (by simp [Hl2State.latchFrequencies]), ?_, ?_, ?_⟩
    . intro _ _
      exact ⟨e, hmem hloop, rfl⟩
    . intro _ i hi
      simp only [Hl2State.latchFrequencies] at hi
      omega
    . simpa [Hl2State.unsent, Hl2State.latchFrequencies] using hclock
  case h_4 hloop =>
    rw [if_neg (by simp)]
    exact h.setLatch (i := 0) hloop h'
  case h_5 hloop =>
    rw [if_neg (by simp)]
    exact h.setLatch (i := 1) hloop h'
  case h_6 hloop =>
    rw [if_neg (by simp)]
    exact h.setLatch (i := 2) hloop h'
  case h_7 hloop =>
    rw [if_neg (by simp)]
    exact h.setLatch (i := 3) hloop h'
  case h_8 hloop =>
    rw [Hl2Board.receive_lowestByte, if_neg (by simp)]
    exact of_idle (by simp) (by simp) (h.clock_eq (by omega))
  case h_9 hloop =>
    rw [Hl2Board.receive_iobWrite b e t h' rfl rfl (by decide), if_neg (by simp)]
    exact of_idle (by simp) (by simp) (h.clock_eq (by omega))
  case h_10 hloop =>
    rw [Hl2Board.receive_iobWrite b e t h' rfl rfl (by decide), if_neg (by simp)]
    exact of_idle (by simp) (by simp) (h.clock_eq (by omega))
  case h_11 hloop =>
    rw [Hl2Board.receive_iobWrite b e t h' rfl rfl (by decide), if_neg (by simp)]
    exact of_idle (by simp) (by simp) (h.clock_eq (by omega))
  case h_12 hloop =>
    obtain ⟨hle, heven⟩ := h.cl1 hloop
    have hwhole := h.whole
    have hdrop := drop_cl1Pairs t.newCl1Setting (k := t.cl1Loop / 2) (by omega)
    have htwice : 2 * (t.cl1Loop / 2) = t.cl1Loop := by omega
    have hhalf : (t.cl1Loop + 2) / 2 = t.cl1Loop / 2 + 1 := by omega
    rw [Hl2State.unsent, if_pos hloop, hdrop, htwice] at hwhole
    rw [Hl2Board.receive_cl1, if_neg (c := t.commandLoop ≠ 20 ∧ _) (fun hand => hand.1 hloop)]
    by_cases hlast : t.cl1Loop + 2 > 47
    . have hend : t.cl1Loop / 2 + 1 = 24 := by omega
      rw [hend, drop_cl1Pairs_all] at hwhole
      rw [if_pos hlast]
      exact of_idle (by simp) (by simp) hwhole
    . rw [if_neg hlast]
      refine ⟨fun _ => ⟨by dsimp only; omega, by dsimp only; omega⟩, ?_, ?_, ?_⟩
      . intro _ hhi
        contradiction
      . intro hhi
        contradiction
      . rw [← hwhole, Hl2State.unsent, if_pos rfl]
        dsimp only
        rw [hhalf, List.append_assoc, List.singleton_append]
  case h_13 hloop =>
    rw [Hl2Board.receive_standard b e t h' hlatency, if_neg (fun hand => hand.1 hand.2)]
    exact h

end Tracks

theorem Hl2State.tick_eq_lowestByte {e : P1Settings} {s : Hl2State}
    (h : (s.tick e).2 = .hl2TxFrequency 4)
    : s.commandLoop = 7 := by
  unfold tick at h
  split at h
  case h_8 hloop => exact hloop
  case h_1 | h_2 => split at h <;> contradiction
  case h_4 | h_5 | h_6 | h_7 =>
    rw [Command.hl2TxFrequency.injEq] at h
    contradiction
  all_goals contradiction

theorem Command.eq_of_isLowestByte {e : P1Settings} {s : Hl2State} {cmd : Command} {h : OzyHeader}
    (hrx : ∀ rx, cmd ≠ .rxFrequency rx) (hlow : (fillHeader e s (some cmd) h).isLowestByte = true)
    : cmd = .hl2TxFrequency 4 := by
  have heven : cmd.address &&& 1 = 0 := address_even fun rx heq => absurd heq (hrx rx)
  have hc0 := Hl2Board.address_fillHeader e s h heven
  unfold OzyHeader.isLowestByte OzyHeader.isIobWrite at hlow
  simp only [Bool.and_eq_true, decide_eq_true_eq] at hlow
  obtain ⟨⟨⟨haddr, -⟩, -⟩, hreg⟩ := hlow
  rw [hc0] at haddr
  have hpay : (cmd.payload e s).c3 = 4 := hreg
  cases cmd with
  | rxFrequency rx => exact absurd rfl (hrx rx)
  | hl2TxFrequency reg =>
    have hfour : ∀ reg : Fin 5, BitVec.ofNat 8 reg.val = 4 → reg = 4 := by decide
    rw [hfour reg hpay]
  | hl2StartTuner | hl2RfInputs | hl2Rx1Code | hl2Rx2Code =>
    simp only [payload, iobWrite] at hpay
    contradiction
  | _ => contradiction

namespace CommandState

-- the number of calls before the next one in which the HL2 loop has its turn
def callsBefore (s : CommandState) : Nat :=
  2 * (if s.p1CommandLoop = 1 then 15
    else if s.p1CommandLoop = 2 then 14 - s.currentRx
    else 11 - s.p1CommandLoop)
    + if s.lowerHalf then 1 else 0

-- While a setting of CL1 is sent, every call lowers this number.
def cl1Rank (s : CommandState) : Nat :=
  64 * (24 - s.hl2.cl1Loop / 2) + (if s.hl2.lastTune then 0 else 2) + s.callsBefore

structure Bounded (s : CommandState) : Prop where
  loop : s.Inv
  currentRx : s.currentRx ≤ 4
  cl1 : s.hl2.Cl1Inv

theorem Bounded.cl1Rank_le {s : CommandState} (h : s.Bounded) : s.cl1Rank ≤ 1569 := by
  have hpos := h.loop.pos
  unfold cl1Rank callsBefore
  split_ifs <;> omega

variable {e : P1Settings} {s : CommandState}

theorem currentRx_sendRxFrequency (h : s.currentRx ≤ 4)
    : (s.sendRxFrequency e).1.currentRx ≤ 4 := by
  have hle : e.numReceivers ≤ 5 := howManyReceivers_le e.rx
  unfold sendRxFrequency
  dsimp only
  split
  . split
    . exact Nat.zero_le 4
    . dsimp only at *
      omega
  . split
    . exact Nat.zero_le 4
    . exact h

theorem Bounded.nextCommand (h : s.Bounded) : (s.nextCommand e).1.Bounded := by
  refine ⟨inv_nextCommand h.loop, ?_, cl1Inv_nextCommand h.cl1⟩
  have hrx := h.currentRx
  unfold CommandState.nextCommand
  split
  . exact hrx
  . split
    case h_2 => exact currentRx_sendRxFrequency hrx
    case h_11 =>
      unfold sendHl2
      dsimp only
      split <;> exact hrx
    all_goals exact hrx

theorem callsBefore_sendRxFrequency (hloop : s.p1CommandLoop = 2) (hrx : s.currentRx ≤ 4)
    (hhalf : s.lowerHalf = false)
    : callsBefore { (s.sendRxFrequency e).1 with lowerHalf := true } + 1 ≤ s.callsBefore := by
  have hle : e.numReceivers ≤ 5 := howManyReceivers_le e.rx
  unfold sendRxFrequency
  dsimp only
  split
  . split
    . simp only [callsBefore, hloop, hhalf]
      simp
      omega
    . dsimp only at *
      simp only [callsBefore, hloop, hhalf]
      simp
      omega
  . split
    . simp only [callsBefore, hloop, hhalf]
      simp
      omega
    . dsimp only at *
      omega

theorem hl2_sendRxFrequency : (s.sendRxFrequency e).1.hl2 = s.hl2 := by
  unfold sendRxFrequency
  dsimp only
  split <;> split <;> rfl

theorem cl1Rank_sendHl2 (hloop : s.p1CommandLoop = 11) (hhalf : s.lowerHalf = false)
    (hcl1 : s.hl2.Cl1Inv) (hwork : s.hl2.commandLoop = 20)
    : cl1Rank { (s.sendHl2 e).1 with lowerHalf := true } + 1 ≤ s.cl1Rank := by
  obtain ⟨hle, heven⟩ := hcl1 hwork
  unfold sendHl2
  dsimp only
  split
  next hstart =>
    -- the tuner is started only if it was not before, and then the turn of the loop comes again
    have hclear : s.hl2.clearTune e = s.hl2 := by
      unfold Hl2State.startsTuner at hstart
      unfold Hl2State.clearTune
      rw [if_pos]
      simp only [Bool.and_eq_true] at hstart
      exact hstart.1.1.2
    rw [hclear] at hstart ⊢
    have hlast : s.hl2.lastTune = false := by
      unfold Hl2State.startsTuner at hstart
      simp only [Bool.and_eq_true, Bool.not_eq_true'] at hstart
      exact hstart.1.2
    simp only [cl1Rank, callsBefore, hloop, hhalf, hlast]
    simp
  next =>
    have hsame := Hl2State.sameBut_clearTune e s.hl2
    have hwork' : (s.hl2.clearTune e).commandLoop = 20 := by
      rw [hsame]
      exact hwork
    have hcount : (s.hl2.clearTune e).cl1Loop = s.hl2.cl1Loop := by
      rw [hsame]
    rw [Hl2State.tick, hwork']
    simp only [cl1Rank, callsBefore, hloop, hhalf, hcount]
    split_ifs <;> simp_all <;> omega

theorem cl1Rank_nextCommand (h : s.Bounded) (hdevice : e.device = .hermesLite2)
    (hwork : s.hl2.commandLoop = 20)
    : cl1Rank { (s.nextCommand e).1 with lowerHalf := !s.lowerHalf } + 1 ≤ s.cl1Rank := by
  unfold nextCommand
  split
  next hhalf =>
    simp only [cl1Rank, callsBefore, hhalf, Bool.not_true, Bool.false_eq_true, if_true, if_false]
    omega
  next hhalf =>
    have hhalf' : s.lowerHalf = false := by simpa using hhalf
    rw [hhalf', Bool.not_false]
    split
    case h_2 hloop =>
      have hcalls := callsBefore_sendRxFrequency (e := e) hloop h.currentRx hhalf'
      have hhl2 := hl2_sendRxFrequency (e := e) (s := s)
      unfold cl1Rank
      dsimp only at *
      rw [hhl2] at hcalls ⊢
      omega
    case h_11 hloop => exact cl1Rank_sendHl2 hloop hhalf' h.cl1 hwork
    case h_10 hloop =>
      dsimp only
      simp only [cl1Rank, callsBefore, hloop, hhalf']
      simp
    case h_12 =>
      have hpos := h.loop.pos
      have hle := h.loop.le
      grind
    all_goals
      rename_i hloop
      simp only [cl1Rank, callsBefore, hloop, hhalf']
      simp
      try omega

end CommandState

namespace Hl2Link

variable {e : P1Settings} {w : Hl2Link} {buffer : BufferId}

def Inv (w : Hl2Link) : Prop :=
  Tracks w.hl2 w.board w.turn w.programmed

theorem sent_eq (hdevice : e.device ≠ .ozy)
    : w.sender.sent buffer e
        =
      some (fillHeader e w.hl2 (w.sender.vars.nextCommand e).2 (w.sender.header buffer)) := by
  unfold OzySender.sent ozySendBuffer
  dsimp only
  rw [if_neg hdevice]
  rfl

theorem hl2_step_send
    : (w.step (.send buffer e)).hl2 = (w.sender.vars.nextCommand e).1.hl2 := by
  simp only [hl2, step, OzySender.step, ozySendBuffer]
  split <;> rfl

theorem board_step_send (hdevice : e.device ≠ .ozy)
    : (w.step (.send buffer e)).board
        =
      w.board.receive (fillHeader e w.hl2 (w.sender.vars.nextCommand e).2 (w.sender.header buffer)) := by
  rw [step, sent_eq hdevice]
  rfl

theorem programmed_step_send
    : (w.step (.send buffer e)).programmed
        =
      if w.hl2.commandLoop ≠ 20 ∧ (w.step (.send buffer e)).hl2.commandLoop = 20 then
        w.programmed ++ [e.hl2Cl1Input]
      else
        w.programmed :=
  rfl

theorem inv_step_send (hdevice : e.device ≠ .ozy) (h : w.Inv)
    : (w.step (.send buffer e)).Inv := by
  have hturn := h.append_turn e
  unfold Inv
  rw [board_step_send hdevice, programmed_step_send, hl2_step_send]
  rcases w.sender.vars.nextCommand_hl2 e with ⟨hsame, hstd⟩ | ⟨hsame, hcmd⟩ | ⟨t, hsame, htick, hcmd⟩
  . rw [hsame, if_neg (fun hand => hand.1 hand.2)]
    cases hcmd : (w.sender.vars.nextCommand e).2 with
    | none =>
      rw [Hl2Board.receive_none]
      exact hturn
    | some cmd =>
      rw [Hl2Board.receive_standard _ _ _ _ (hstd cmd hcmd)]
      exact hturn
  . have hloop : (w.sender.vars.nextCommand e).1.hl2.commandLoop = w.hl2.commandLoop := by
      rw [hsame]
      rfl
    rw [hcmd, hloop, if_neg (fun hand => hand.1 hand.2),
      Hl2Board.receive_iobWrite _ _ _ _ rfl rfl (by decide)]
    exact hturn.of_sameBut hsame
  . have hloop : t.commandLoop = w.hl2.commandLoop := by
      rw [hsame]
      rfl
    have ht := hturn.of_sameBut hsame
    have hfill := fillHeader_of_sameBut (e := e) hsame (some (t.tick e).2) (w.sender.header buffer)
    rw [htick, hcmd, ← hloop]
    unfold hl2
    rw [hfill]
    apply ht.tick
    intro htwo
    rw [if_neg (by omega)]
    exact List.mem_append_right _ (List.mem_singleton_self e)

theorem untorn_send (hdevice : e.device ≠ .ozy) (h : w.Inv) : w.Untorn (.send buffer e) := by
  intro hd hsent hlow
  rw [sent_eq hdevice, Option.some.injEq] at hsent
  rw [board_step_send hdevice]
  rcases w.sender.vars.nextCommand_hl2 e with ⟨-, hstd⟩ | ⟨-, hcmd⟩ | ⟨t, hsame, -, hcmd⟩
  . cases hcmd : (w.sender.vars.nextCommand e).2 with
    | none =>
      rw [hcmd] at hsent
      rw [← hsent] at hlow
      simp [OzyHeader.isLowestByte, OzyHeader.isIobWrite, fillHeader, Payload.zero] at hlow
    | some cmd =>
      have hc0 := Hl2Board.address_fillHeader e w.hl2 (w.sender.header buffer) (hstd cmd hcmd).even
      have hiob := OzyHeader.isIobWrite_eq_false (hc0.trans_ne (hstd cmd hcmd).ne_iob)
      rw [← hsent, hcmd, OzyHeader.isLowestByte, hiob] at hlow
      contradiction
  . rw [hcmd] at hsent
    rw [← hsent] at hlow
    have heq := Command.eq_of_isLowestByte (by simp) hlow
    contradiction
  . rw [hcmd] at hsent
    rw [← hsent] at hlow
    have heq := Command.eq_of_isLowestByte (CommandState.tick_command t) hlow
    have ht : Tracks t w.board w.turn w.programmed := h.of_sameBut hsame
    have hloop := Hl2State.tick_eq_lowestByte heq
    have hloop' : w.hl2.commandLoop = 7 := by
      rw [← hloop, hsame]
      rfl
    have hfreq : w.hl2.iobTxFreq = t.iobTxFreq := by
      rw [hsame]
      rfl
    obtain ⟨e', he', hturn⟩ := ht.ofTurn (by omega) (by omega)
    refine ⟨e', ?_, ?_⟩
    . rw [step]
      dsimp only
      rw [if_neg (by omega)]
      exact List.mem_append_left _ he'
    . rw [hcmd, heq, Hl2Board.receive_lowestByte]
      dsimp only
      rw [hfreq, Hl2Board.latched_eq, hturn]
      intro i
      exact ht.latched (by omega) i (by omega)

-- No call is for a device of type `ozy`.
def Metis : SendEvent → Prop
  | .send _ e => e.device ≠ .ozy
  | .restart => True

theorem inv_step (w : Hl2Link) (ev : SendEvent) (h : w.Inv) (hev : Metis ev) : (w.step ev).Inv := by
  cases ev with
  | send buffer e => exact inv_step_send hev h
  | restart => exact h

theorem untorn_of_inv (w : Hl2Link) (ev : SendEvent) (h : w.Inv) (hev : Metis ev) : w.Untorn ev := by
  cases ev with
  | send buffer e => exact untorn_send hev h
  | restart => trivial

theorem Inv.programsWhole (h : w.Inv) : w.ProgramsWhole :=
  ⟨h.cl1.inBounds, h.whole⟩

-- the program at its start; any frequency may have been sent to the board before
def start (header : BufferId → OzyHeader) (latch : Fin 4 → Byte) (txFrequency : BitVec 40) : Hl2Link :=
  ⟨⟨.init, header⟩, ⟨latch, txFrequency, []⟩, [], []⟩

structure Sound (w : Hl2Link) : Prop where
  tracks : w.Inv
  bounded : w.sender.vars.Bounded

theorem sound_start (header : BufferId → OzyHeader) (latch : Fin 4 → Byte)
    (txFrequency : BitVec 40)
    : (start header latch txFrequency).Sound where
  tracks := Tracks.of_idle (.inl (Nat.zero_lt_succ 2)) (Nat.zero_ne_add_one 19) rfl
  bounded :=
    ⟨⟨Nat.le_refl 1, Nat.le_add_left 1 10⟩, Nat.zero_le 4, Hl2State.cl1Inv_of_ne (Nat.zero_ne_add_one 19)⟩

theorem sound_step (w : Hl2Link) (ev : SendEvent) (h : w.Sound) (hev : Metis ev)
    : (w.step ev).Sound := by
  refine ⟨inv_step w ev h.tracks hev, ?_⟩
  cases ev with
  | send buffer e =>
    have hnext := h.bounded.nextCommand (e := e)
    simp only [step, OzySender.step, ozySendBuffer]
    split
    . exact hnext
    . exact ⟨⟨hnext.loop.pos, hnext.loop.le⟩, hnext.currentRx, hnext.cl1⟩
  | restart =>
    exact ⟨⟨Nat.le_refl 1, Nat.le_add_left 1 10⟩, Nat.zero_le 4, h.bounded.cl1⟩

-- a call for a HermesLite-II
def ToHermesLite2 : SendEvent → Prop
  | .send _ e => e.device = .hermesLite2
  | .restart => False

theorem metis_of_toHermesLite2 {ev : SendEvent} (h : ToHermesLite2 ev) : Metis ev := by
  cases ev with
  | send buffer e =>
    intro hozy
    exact absurd (h.symm.trans hozy) (by decide)
  | restart => trivial

theorem cl1Rank_step {ev : SendEvent} (h : w.Sound) (hev : ToHermesLite2 ev)
    (hwork : w.hl2.commandLoop = 20)
    : (w.step ev).sender.vars.cl1Rank + 1 ≤ w.sender.vars.cl1Rank := by
  cases ev with
  | send buffer e =>
    have hrank := CommandState.cl1Rank_nextCommand h.bounded hev hwork
    have hmetis : Metis (.send buffer e) := metis_of_toHermesLite2 hev
    have hne : e.device ≠ .ozy := hmetis
    have hvars : (w.step (.send buffer e)).sender.vars
        = { (w.sender.vars.nextCommand e).1 with lowerHalf := !w.sender.vars.lowerHalf } := by
      simp only [step, OzySender.step, ozySendBuffer]
      rw [if_neg hne]
    rw [hvars]
    exact hrank
  | restart => exact absurd hev id

-- What has been begun is finished within 1570 calls.
theorem exists_whole (h : w.Sound) {es : List SendEvent} (hes : ∀ ev ∈ es, ToHermesLite2 ev)
    (hlen : 1570 ≤ es.length)
    : ∃ es', es' <+: es
        ∧ (Run.exec step w es').board.clock = (Run.exec step w es').programmed.flatMap cl1Pairs := by
  have halong : Run.Along step (fun _ ev => ToHermesLite2 ev) w es := Run.along_of_forall_mem hes w
  have hle := h.bounded.cl1Rank_le
  obtain ⟨es', hpre, hgoal⟩ := Run.exists_prefix_of_rank (I := Sound)
    (fun w => w.hl2.commandLoop ≠ 20)
    (fun w => w.sender.vars.cl1Rank + 1) (fun _ => true)
    (fun w ev hw hev => sound_step w ev hw (metis_of_toHermesLite2 hev))
    (fun w _ _ => Nat.succ_pos _)
    (fun w ev hw hev hwork _ => by
      have := cl1Rank_step hw hev (not_not.mp hwork)
      simpa using this)
    h halong (by simpa using Nat.le_trans (Nat.succ_le_succ hle) hlen)
  refine ⟨es', hpre, ?_⟩
  have hsound : (Run.exec step w es').Sound := by
    obtain ⟨post, rfl⟩ := hpre
    rw [Run.along_append] at halong
    exact Run.exec_invariant
      (fun w ev hw hev => sound_step w ev hw (metis_of_toHermesLite2 hev)) h halong.1
  exact hsound.tracks.clock_eq hgoal

/--
In every run the frequency that takes effect is one of the turn in which it is sent, and the settings of CL1
arrive whole and in order.
-/
theorem untorn_exec (header : BufferId → OzyHeader) (latch : Fin 4 → Byte) (txFrequency : BitVec 40)
    (es : List SendEvent) (hes : ∀ ev ∈ es, Metis ev)
    : let w := start header latch txFrequency
      Run.Along step Untorn w es
        ∧ (∀ es', es' <+: es → (Run.exec step w es').ProgramsWhole)
        ∧ ∀ fs, (∀ ev ∈ fs, ToHermesLite2 ev) → 1570 ≤ fs.length → ∃ fs', fs' <+: fs
          ∧ let w' := Run.exec step w (es ++ fs')
            w'.board.clock = w'.programmed.flatMap cl1Pairs := by
  have hinit := sound_start header latch txFrequency
  have halong : Run.Along step (fun _ ev => Metis ev) (start header latch txFrequency) es :=
    Run.along_of_forall_mem hes _
  refine ⟨?_, ?_, ?_⟩
  . exact Run.along_of_invariant inv_step untorn_of_inv hinit.tracks halong
  . intro es' hpre
    obtain ⟨post, rfl⟩ := hpre
    rw [Run.along_append] at halong
    exact (Run.exec_invariant inv_step hinit.tracks halong.1).programsWhole
  . intro fs hfs hlen
    have hsound := Run.exec_invariant sound_step hinit halong
    obtain ⟨fs', hpre, hclock⟩ := exists_whole hsound hfs hlen
    refine ⟨fs', hpre, ?_⟩
    rw [Run.exec_append]
    exact hclock

def hermesLite2Settings : P1Settings :=
  { OzySender.hermesSettings with
    rx := ⟨.hermesLite2, false, 1, false, false, receivers_one⟩
    hl2IobPresent := true }

theorem untorn_hermesLite2
    : Run.Along step Untorn (start (fun _ => .zero) (fun _ => 0) 0)
        (List.replicate 400 (.send .ozyBuf1 hermesLite2Settings)) := by
  refine (untorn_exec (fun _ => .zero) (fun _ => 0) 0 _ ?_).1
  intro ev hev
  rw [List.eq_of_mem_replicate hev]
  show hermesLite2Settings.device ≠ .ozy
  decide

end Hl2Link

end OldProtocol
