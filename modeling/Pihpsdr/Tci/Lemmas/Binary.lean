import Pihpsdr.Lib.Run
import Pihpsdr.Tci.Impl.Client

/-!
What is passed to `tci_handle_binary` is a whole message, unless a chunk before its last one has overflowed the
buffer: what comes after that chunk is then taken for a message.
-/

namespace Tci

def bytes (fs : List Fragment) : List Byte :=
  fs.flatMap Fragment.data

theorem bytes_append (fs gs : List Fragment) : bytes (fs ++ gs) = bytes fs ++ bytes gs :=
  List.flatMap_append

theorem bytes_singleton (f : Fragment) : bytes [f] = f.data :=
  List.flatMap_singleton ..

namespace BinaryRx

variable {rx : BinaryRx} {f : Fragment}

def held (rx : BinaryRx) : List Byte :=
  readCells rx.buf 0 rx.len

-- what the buffer holds of earlier chunks when the chunk is put behind it
def before (rx : BinaryRx) (f : Fragment) : List Byte :=
  if f.first then [] else rx.held

theorem length_held (rx : BinaryRx) : rx.held.length = rx.len :=
  length_readCells 0 rx.len

theorem length_before (rx : BinaryRx) (f : Fragment)
    : (rx.before f).length = if f.first then 0 else rx.len := by
  unfold before
  split
  . rfl
  . exact length_held rx

theorem readCells_writeCells (mem : Nat → Byte) (n : Nat) (data : List Byte)
    : readCells (writeCells mem n data) 0 (n + data.length) = readCells mem 0 n ++ data := by
  rw [← readCells_append 0 n data.length, Nat.zero_add, stores_writeCells.readCells_eq]
  congr 1
  unfold readCells
  apply List.map_congr_left
  intro i hi
  rw [Nat.zero_add, writeCells_of_lt (List.mem_range.mp hi)]

theorem grow_buf (rx : BinaryRx) (needed : Nat) : (rx.grow needed).buf = rx.buf := rfl

theorem grow_len (rx : BinaryRx) (needed : Nat) : (rx.grow needed).len = rx.len := rfl

-- a chunk does nothing, or is too much, or is put behind the others and may end the message
theorem tciHandleBinaryLws_cases (rx : BinaryRx) (f : Fragment)
    : (f.data = [] ∧ rx.tciHandleBinaryLws f = (rx, none))
        ∨ (f.data ≠ [] ∧ tciBinaryReassemblyMax < (rx.before f ++ f.data).length
          ∧ (rx.tciHandleBinaryLws f).1.held = [] ∧ (rx.tciHandleBinaryLws f).2 = none)
        ∨ (f.data ≠ [] ∧ (rx.before f ++ f.data).length ≤ tciBinaryReassemblyMax
          ∧ (rx.tciHandleBinaryLws f).1.held = (if f.ends then [] else rx.before f ++ f.data)
          ∧ (rx.tciHandleBinaryLws f).2 = if f.ends then some (rx.before f ++ f.data) else none) := by
  by_cases hdata : f.data = []
  . left
    unfold tciHandleBinaryLws
    simp [hdata]
  . right
    have hpos : ¬f.data.length = 0 := by
      rwa [List.length_eq_zero_iff]
    unfold tciHandleBinaryLws
    rw [if_neg hpos, List.length_append, length_before]
    have hrx : ∃ rx', (if f.first then { rx with len := 0 } else rx) = rx' ∧ rx'.held = rx.before f
        ∧ rx'.len = if f.first then 0 else rx.len := by
      unfold before
      split <;> exact ⟨_, rfl, rfl, rfl⟩
    have ⟨rx', heq, hheld, hlen⟩ := hrx
    rw [heq, ← hlen]
    dsimp only
    split
    next hmax => exact .inl ⟨hdata, hmax, rfl, rfl⟩
    next hmax =>
      right
      refine ⟨hdata, by omega, ?_⟩
      have hwhole : readCells (writeCells (rx'.grow (rx'.len + f.data.length)).buf
          (rx'.grow (rx'.len + f.data.length)).len f.data) 0 (rx'.len + f.data.length)
          = rx.before f ++ f.data := by
        rw [grow_buf, grow_len, readCells_writeCells, ← hheld]
        rfl
      unfold Fragment.ends
      by_cases hends : ¬f.final = true ∨ f.remaining ≠ 0
      . have hfalse : (f.final && decide (f.remaining = 0)) = false := by
          cases hends with
          | inl hfinal => simp [hfinal]
          | inr hremaining => simp [hremaining]
        rw [if_pos hends, hfalse]
        exact ⟨hwhole, rfl⟩
      . have htrue : (f.final && decide (f.remaining = 0)) = true := by
          rw [not_or, not_not, not_not] at hends
          simp [hends]
        rw [if_neg hends, htrue]
        exact ⟨rfl, congrArg some hwhole⟩

theorem newSize_eq (size needed : Nat)
    : newSize size needed = size + (needed - size + 8191) / 8192 * 8192 := by
  fun_induction newSize size needed
  . omega
  . omega

-- the record of the client keeps the lengths of its buffer
theorem tciHandleBinaryLws_client {client : Client} (hlen : client.binaryRxLen = rx.len)
    (hsize : client.binaryRxSize = rx.size) (f : Fragment) (txAudio : Bool)
    : (client.tciHandleBinaryLws f.data.length f.first f.ends txAudio).binaryRxLen
          = (rx.tciHandleBinaryLws f).1.len
        ∧ (client.tciHandleBinaryLws f.data.length f.first f.ends txAudio).binaryRxSize
          = (rx.tciHandleBinaryLws f).1.size := by
  have hbinary (c : Client) (len : Nat) : (c.tciHandleBinary txAudio len).binaryRxSize = c.binaryRxSize := by
    unfold Client.tciHandleBinary
    split
    . rfl
    . split <;> rfl
  unfold Client.tciHandleBinaryLws tciHandleBinaryLws Client.binarySize grow Fragment.ends
  by_cases hdata : f.data.length = 0
  . rw [if_pos hdata, if_pos hdata]
    exact ⟨hlen, hsize⟩
  . rw [if_neg hdata, if_neg hdata]
    have hrx : ∃ c rx', (if f.first then { client with binaryRxLen := 0 } else client) = c
        ∧ (if f.first then { rx with len := 0 } else rx) = rx'
        ∧ c.binaryRxLen = rx'.len ∧ c.binaryRxSize = rx'.size := by
      split
      . exact ⟨_, _, rfl, rfl, rfl, hsize⟩
      . exact ⟨_, _, rfl, rfl, hlen, hsize⟩
    have ⟨c, rx', hc, hrx, hlen, hsize⟩ := hrx
    rw [hc, hrx]
    dsimp only
    rw [hlen, hsize]
    split
    . exact ⟨rfl, rfl⟩
    . cases f.final <;> by_cases hremaining : f.remaining = 0
      all_goals simp [newSize_eq, hbinary, hremaining]

end BinaryRx

namespace Reassembly

-- the chunk begins a message exactly if the one before it has ended one
def Flagged (s : Reassembly) (f : Fragment) : Prop :=
  f.first = true ↔ s.current = []

-- only a whole message is passed on, and one that is too long is not, nor a part of it
structure Whole (s : Reassembly) (f : Fragment) : Prop where
  whole : ∀ data, s.delivers f = some data → f.ends = true ∧ data = bytes (s.current ++ [f])
  dropped : tciBinaryReassemblyMax < (bytes (s.current ++ [f])).length → s.delivers f = none

/--
When the last chunk of a message has data and fits into the buffer, the buffer holds the chunks before it:
none of them has overflowed the buffer, and if the first was empty, nothing was left there.
-/
def Retained (s : Reassembly) (f : Fragment) : Prop :=
  f.ends = true → f.data ≠ [] → f.first = false →
    s.rx.len + f.data.length ≤ tciBinaryReassemblyMax → s.rx.len = (bytes s.current).length

-- the buffer and the message are both the end of what has come
def Recent (s : Reassembly) : Prop :=
  ∃ received, s.rx.held <:+ received ∧ bytes s.current <:+ received

theorem before_suffix {s : Reassembly} {received : List Byte} (h : s.rx.held <:+ received)
    (f : Fragment)
    : s.rx.before f <:+ received := by
  unfold BinaryRx.before
  split
  . exact List.nil_suffix
  . exact h

theorem recent_step {s : Reassembly} (hs : s.Recent) (f : Fragment) : (s.step f).Recent := by
  have ⟨received, hheld, hcurrent⟩ := hs
  have happend : ∀ data, data <:+ received → data ++ f.data <:+ received ++ f.data := by
    intro data hdata
    exact (List.suffix_append_inj_of_length_eq rfl).mpr ⟨hdata, rfl⟩
  refine ⟨received ++ f.data, ?_, ?_⟩
  . have hbefore := happend _ (before_suffix hheld f)
    have hcases := s.rx.tciHandleBinaryLws_cases f
    unfold step
    dsimp only
    cases hcases with
    | inl hempty =>
      rw [hempty.2, hempty.1, List.append_nil]
      exact hheld
    | inr hdata =>
      cases hdata with
      | inl hmax =>
        rw [hmax.2.2.1]
        exact List.nil_suffix
      | inr hfits =>
        rw [hfits.2.2.1]
        split
        . exact List.nil_suffix
        . exact hbefore
  . unfold step
    dsimp only
    split
    . exact List.nil_suffix
    . rw [bytes_append, bytes_singleton]
      exact happend _ hcurrent

theorem before_eq_iff {s : Reassembly} (hs : s.Recent) {f : Fragment} (hflag : s.Flagged f)
    : s.rx.before f = bytes s.current
        ↔ (f.first = false → s.rx.len = (bytes s.current).length) := by
  have ⟨received, hheld, hcurrent⟩ := hs
  cases hfirst : f.first with
  | true =>
    have hnil : s.current = [] := hflag.mp hfirst
    unfold BinaryRx.before
    rw [hnil, hfirst]
    exact iff_of_true rfl (nomatch ·)
  | false =>
    have hbefore : s.rx.before f = s.rx.held := by
      unfold BinaryRx.before
      rw [hfirst]
      rfl
    rw [hbefore, ← BinaryRx.length_held]
    constructor
    . intro heq _
      rw [heq]
    . intro hlen
      have hle := Nat.le_of_eq (hlen rfl)
      exact (List.suffix_of_suffix_length_le hheld hcurrent hle).eq_of_length (hlen rfl)

theorem whole_iff {s : Reassembly} (hs : s.Recent) {f : Fragment} (hflag : s.Flagged f)
    : s.Whole f ↔ s.Retained f := by
  have hbefore := before_eq_iff hs hflag
  have hlength := s.rx.length_before f
  have hbytes : bytes (s.current ++ [f]) = bytes s.current ++ f.data := by
    rw [bytes_append, bytes_singleton]
  cases s.rx.tciHandleBinaryLws_cases f with
  | inl hempty =>
    have hnone : s.delivers f = none := by
      unfold delivers
      rw [hempty.2]
    refine iff_of_true ⟨?_, fun _ => hnone⟩ fun _ hdata => absurd hempty.1 hdata
    rw [hnone]
    exact fun _ => (nomatch ·)
  | inr hdata =>
    cases hdata with
    | inl hmax =>
      have ⟨_, hmax, _, hnone⟩ := hmax
      refine iff_of_true ⟨?_, fun _ => hnone⟩ ?_
      . rw [delivers, hnone]
        exact fun _ => (nomatch ·)
      . intro _ _ hfirst hfits
        rw [List.length_append, hlength, hfirst] at hmax
        simp only [Bool.false_eq_true, if_false] at hmax
        omega
    | inr hfits =>
      have ⟨hdata, hfits, _, hsome⟩ := hfits
      cases hends : f.ends with
      | false =>
        have hnone : s.delivers f = none := by
          rw [delivers, hsome, hends]
          rfl
        refine iff_of_true ⟨?_, fun _ => hnone⟩ ?_
        . rw [hnone]
          exact fun _ => (nomatch ·)
        . intro h
          rw [hends] at h
          nomatch h
      | true =>
        have hsome : s.delivers f = some (s.rx.before f ++ f.data) := by
          rw [delivers, hsome, hends]
          rfl
        constructor
        . intro h _ _
          have heq := (h.whole _ hsome).2
          rw [hbytes] at heq
          intro hfirst _
          exact hbefore.mp (List.append_cancel_right heq) hfirst
        . intro h
          have heq : s.rx.before f = bytes s.current := by
            apply hbefore.mpr
            intro hfirst
            apply h hends hdata hfirst
            rw [List.length_append, hlength, hfirst] at hfits
            exact hfits
          constructor
          . intro data hsome'
            rw [hsome] at hsome'
            refine ⟨hends, ?_⟩
            rw [hbytes, ← heq]
            exact (Option.some.inj hsome').symm
          . intro hmax
            rw [hbytes, ← heq] at hmax
            omega

theorem recent_start (buf : Nat → Byte) : (start buf).Recent :=
  ⟨[], List.suffix_rfl, List.suffix_rfl⟩

theorem reassembled_iff (buf : Nat → Byte) {fs : List Fragment}
    (h : Run.Along step Flagged (start buf) fs)
    : Run.Along step Whole (start buf) fs ↔ Run.Along step Retained (start buf) fs :=
  Run.along_congr_of_invariant (I := Recent) (fun _ f hs _ => recent_step hs f)
    (fun _ _ hs hflag => whole_iff hs hflag) (recent_start buf) h

instance (s : Reassembly) (f : Fragment) : Decidable (s.Flagged f) :=
  inferInstanceAs (Decidable (f.first = true ↔ s.current = []))

instance (s : Reassembly) (f : Fragment) : Decidable (s.Retained f) :=
  inferInstanceAs (Decidable (f.ends = true → f.data ≠ [] → f.first = false →
    s.rx.len + f.data.length ≤ tciBinaryReassemblyMax → s.rx.len = (bytes s.current).length))

-- a message in two chunks
theorem reassembled_two
    : Run.Along step Whole (start fun _ => 0) [⟨[1, 2], true, false, 0⟩, ⟨[3], false, true, 0⟩] :=
  (reassembled_iff (fun _ => 0) (by decide)).mpr (by decide)

-- a message in three chunks, of which the first fills the buffer
def tooLong (data : List Byte) : List Fragment :=
  [⟨data, true, false, 0⟩, ⟨[1], false, false, 0⟩, ⟨[2], false, true, 0⟩]

theorem flagged_tooLong (data : List Byte)
    : Run.Along step Flagged (start fun _ => 0) (tooLong data) := by
  unfold tooLong
  simp [Flagged, start, step, Fragment.ends]

theorem not_whole_tooLong {data : List Byte} (h : data.length = tciBinaryReassemblyMax)
    : ¬Run.Along step Whole (start fun _ => 0) (tooLong data) := by
  unfold tooLong
  rw [Run.along_cons, Run.along_cons, Run.along_cons]
  intro ⟨_, _, hwhole, _⟩
  have hpos : tciBinaryReassemblyMax ≠ 0 := by decide
  have hdelivers : (((start fun _ => 0).step ⟨data, true, false, 0⟩).step ⟨[1], false, false, 0⟩).delivers
      ⟨[2], false, true, 0⟩ = some [2] := by
    simp [delivers, step, start, BinaryRx.tciHandleBinaryLws, h, hpos]
    apply stores_writeCells.readCells_eq
  have heq := congrArg List.length (hwhole.whole [2] hdelivers).2
  simp [step, start, Fragment.ends, bytes, h, hpos] at heq

-- its last byte is taken for a message
theorem suffix_delivered
    : let data : List Byte := List.replicate tciBinaryReassemblyMax 0
      Run.Along step Flagged (start fun _ => 0) (tooLong data)
        ∧ ¬Run.Along step Whole (start fun _ => 0) (tooLong data) :=
  ⟨flagged_tooLong _, not_whole_tooLong List.length_replicate⟩

end Reassembly

end Tci
