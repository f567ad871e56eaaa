import Mathlib.Data.List.ReduceOption
import Pihpsdr.Transmit.Impl.Microphone

/-!
What the transmitter hears of the microphone: the captured samples in their order, without those that met a full
ring, as long as the thread puts nothing into the ring that the last read has not delivered.
-/

namespace Transmit

open Run

variable {α β : Type}

-- the sample of the block that the thread is at
def MicThread.position : MicThread → Option Nat
  | checking i | storing i | publishing i => some i
  | _ => none

namespace MicAudio

variable {sample : β → α} {s : MicAudio α β} {q : List α}

-- what the last read has delivered
def frames (s : MicAudio α β) : List β :=
  (List.range s.rc.toNat).map s.buffer

-- the captured frames that have not had their turn
def pending (s : MicAudio α β) : List β :=
  (s.thread.position.map fun i => s.frames.drop i).getD []

-- the captured samples that found space in the ring
def stored (sample : β → α) (s : MicAudio α β) : List α :=
  (s.kept.filter Prod.snd).map fun p => sample p.1

def queue (s : MicAudio α β) : List α :=
  Ring.contents micRingLen s.ring s.inpt s.outpt

structure Exact (sample : β → α) (s : MicAudio α β) : Prop where
  heard : s.heard.reduceOption ++ s.queue = s.stored sample
  captured : s.kept.map Prod.fst ++ s.pending = s.captured

-- a sample that is left out meets a full ring
def DropsWhenFull (sample : β → α) (s : MicAudio α β) (e : MicEvent β) : Prop :=
  ∀ x, (s.step sample e).kept = s.kept ++ [(x, false)] → s.queue.length + 1 = micRingLen

-- what is put into the ring has been delivered by the last read
def Fresh (s : MicAudio α β) (e : MicEvent β) : Prop :=
  match e, s.thread with
  | .thread, .publishing i => (i : Int) < s.rc
  | _, _ => True

structure Tracks (sample : β → α) (s : MicAudio α β) (q : List α) : Prop where
  holds : Ring.Holds micRingLen s.ring s.inpt s.outpt q
  put : s.heard.reduceOption ++ q = s.put
  room : ∀ i, s.thread = .storing i ∨ s.thread = .publishing i → Ring.next micRingLen s.inpt ≠ s.outpt
  written : ∀ i, s.thread = .publishing i → s.ring s.inpt = sample (s.buffer i)
  taking : s.reader = .taking → q ≠ []
  taken : ∀ x, s.reader = .taken x → q.head? = some x
  bound : s.rc ≤ inpBufferSize
  captured : s.kept.map Prod.fst ++ s.pending = s.captured

namespace Tracks

theorem queue_eq (h : s.Tracks sample q) : s.queue = q :=
  h.holds.contents_eq

theorem start (ring : Nat → α) (buffer : Nat → β)
    : (MicAudio.start ring buffer).Tracks sample [] where
  holds := Ring.Holds.empty (Nat.zero_lt_succ _)
  put := rfl
  room := by simp [MicAudio.start]
  written := by simp [MicAudio.start]
  taking := by simp [MicAudio.start]
  taken := by simp [MicAudio.start]
  bound := Int.natCast_nonneg _
  captured := rfl

-- a read has delivered the frames `l`
theorem begin (h : s.Tracks sample q) (hthread : s.thread = .reading) {buffer : Nat → β} {rc : Int}
    {l : List β} (hbound : rc ≤ inpBufferSize) (hframes : (List.range rc.toNat).map buffer = l)
    : ({ s with buffer, rc, thread := .checking 0, captured := s.captured ++ l } : MicAudio α β).Tracks
        sample q where
  holds := h.holds
  put := h.put
  room := by simp
  written := by simp
  taking := h.taking
  taken := h.taken
  bound := hbound
  captured := by
    have hcaptured := h.captured
    rw [pending, hthread] at hcaptured
    rw [← hcaptured]
    simp [pending, frames, MicThread.position, hframes]

theorem readi (h : s.Tracks sample q) (result : Readi β) : (s.readi result).Tracks sample q := by
  unfold MicAudio.readi
  split
  next hthread =>
    split
    . cases result with
      | frames l hlen =>
        apply h.begin hthread
        . exact Int.ofNat_le.mpr hlen
        . apply List.ext_getElem
          . simp [Readi.rc]
          . intro i _ hi
            simp [hi]
      | error code =>
        have hnone : ({ s with
            buffer := s.buffer
            rc := -(code + 1)
            thread := .checking 0
            captured := s.captured ++ [] } : MicAudio α β).Tracks sample q := by
          apply h.begin hthread
          . omega
          . have hrc : (-((code : Int) + 1)).toNat = 0 := by omega
            rw [hrc]
            rfl
        rw [List.append_nil] at hnone
        exact hnone
    . constructor
      case holds => exact h.holds
      case put => exact h.put
      case room => simp
      case written => simp
      case taking => exact h.taking
      case taken => exact h.taken
      case bound => exact h.bound
      case captured =>
        have hcaptured := h.captured
        rw [pending, hthread] at hcaptured
        exact hcaptured
  next => exact h

theorem position_next (i : Nat) : (next i).position = if i + 1 < inpBufferSize then some (i + 1) else none := by
  unfold next
  split <;> rfl

-- the frames that are left when the sample `i` has had its turn
theorem captured_turn (h : s.Tracks sample q) {i : Nat} (hi : s.thread.position = some i) (space : Bool)
    : (s.turn i space).kept.map Prod.fst ++ (s.turn i space).pending = s.captured := by
  have hbound := h.bound
  have hlength : s.frames.length = s.rc.toNat := by simp [frames]
  have hleft : (s.turn i space).pending = s.frames.drop (i + 1) := by
    change ((next i).position.map fun i => s.frames.drop i).getD [] = _
    rw [position_next]
    split
    . rfl
    . symm
      apply List.drop_eq_nil_of_le
      omega
  have hcaptured := h.captured
  rw [pending, hi] at hcaptured
  rw [hleft, ← hcaptured, Option.map_some, Option.getD_some]
  unfold turn
  dsimp only
  split
  next hlt =>
    have hlt : i < s.frames.length := by omega
    have hget : s.frames[i] = s.buffer i := by simp [frames]
    rw [List.drop_eq_getElem_cons hlt, hget]
    simp
  next hge =>
    rw [List.drop_eq_nil_of_le (by omega), List.drop_eq_nil_of_le (by omega)]

-- another access is made for the same sample
theorem captured_same (h : s.Tracks sample q) {t : MicThread} (ht : t.position = s.thread.position)
    : s.kept.map Prod.fst ++ ({ s with thread := t } : MicAudio α β).pending = s.captured := by
  have hcaptured := h.captured
  rw [pending, ← ht] at hcaptured
  exact hcaptured

theorem next_ne_storing (i j : Nat) : next i ≠ .storing j := by
  unfold next
  split <;> simp

theorem next_ne_publishing (i j : Nat) : next i ≠ .publishing j := by
  unfold next
  split <;> simp

theorem check (h : s.Tracks sample q) {i : Nat} (hthread : s.thread = .checking i)
    : (s.stepThread sample).Tracks sample q := by
  unfold MicAudio.stepThread
  rw [hthread]
  dsimp only
  split
  next hroom =>
    refine ⟨h.holds, h.put, ?_, ?_, h.taking, h.taken, h.bound, ?_⟩
    . exact fun _ _ => hroom
    . simp
    . exact h.captured_same (by rw [hthread]; rfl)
  next =>
    refine ⟨h.holds, h.put, ?_, ?_, h.taking, h.taken, h.bound, ?_⟩
    . intro j hj
      exact absurd hj (not_or.mpr ⟨next_ne_storing i j, next_ne_publishing i j⟩)
    . intro j hj
      exact absurd hj (next_ne_publishing i j)
    . exact h.captured_turn (by rw [hthread]; rfl) false

theorem store (h : s.Tracks sample q) {i : Nat} (hthread : s.thread = .storing i)
    : (s.stepThread sample).Tracks sample q := by
  unfold MicAudio.stepThread
  rw [hthread]
  refine ⟨h.holds.write _, h.put, ?_, ?_, h.taking, h.taken, h.bound, ?_⟩
  . exact fun _ _ => h.room i (Or.inl hthread)
  . intro j hj
    obtain rfl := MicThread.publishing.inj hj
    exact if_pos rfl
  . exact h.captured_same (by rw [hthread]; rfl)

theorem publish (h : s.Tracks sample q) {i : Nat} (hthread : s.thread = .publishing i)
    : (s.stepThread sample).Tracks sample (q ++ [sample (s.buffer i)]) := by
  have hpush := h.holds.push (h.room i (Or.inr hthread)) (s.ring s.inpt)
  have hsame : (fun k => if k = s.inpt then s.ring s.inpt else s.ring k) = s.ring := by
    funext k
    split
    next heq => rw [heq]
    next => rfl
  rw [hsame, h.written i hthread] at hpush
  unfold MicAudio.stepThread
  rw [hthread]
  refine ⟨hpush, ?_, ?_, ?_, ?_, ?_, h.bound, ?_⟩
  . dsimp only
    rw [← h.put, List.append_assoc]
    rfl
  . intro j hj
    exact absurd hj (not_or.mpr ⟨next_ne_storing i j, next_ne_publishing i j⟩)
  . intro j hj
    exact absurd hj (next_ne_publishing i j)
  . intro _
    simp
  . intro x hx
    have hhead := h.taken x hx
    cases q with
    | nil => contradiction
    | cons y q => exact hhead
  . exact h.captured_turn (by rw [hthread]; rfl) true

theorem stepThread (h : s.Tracks sample q) : ∃ q', (s.stepThread sample).Tracks sample q' := by
  cases hthread : s.thread with
  | checking i => exact ⟨q, h.check hthread⟩
  | storing i => exact ⟨q, h.store hthread⟩
  | publishing i => exact ⟨q ++ [sample (s.buffer i)], h.publish hthread⟩
  | reading | exited =>
    refine ⟨q, ?_⟩
    unfold MicAudio.stepThread
    rw [hthread]
    exact h

theorem getNextMicSample (h : s.Tracks sample q) : ∃ q', s.getNextMicSample.Tracks sample q' := by
  unfold MicAudio.getNextMicSample
  split
  next hreader =>
    split
    . refine ⟨q, h.holds, ?_, h.room, h.written, h.taking, h.taken, h.bound, h.captured⟩
      dsimp only
      rw [List.reduceOption_append, List.reduceOption_singleton, ← h.put]
      simp
    next hsome =>
      refine ⟨q, h.holds, h.put, h.room, h.written, ?_, ?_, h.bound, h.captured⟩
      . intro _
        rw [not_or] at hsome
        exact h.holds.ne_iff.mp hsome.2
      . intro x hx
        contradiction
  next hreader =>
    refine ⟨q, h.holds, h.put, h.room, h.written, ?_, ?_, h.bound, h.captured⟩
    . intro hx
      contradiction
    . intro x hx
      obtain rfl := MicReader.taken.inj hx
      have hne := h.taking hreader
      cases q with
      | nil => contradiction
      | cons y q => rw [h.holds.head_eq, List.head?_cons]
  next x hreader =>
    have hhead := h.taken x hreader
    cases q with
    | nil => contradiction
    | cons y q =>
      obtain rfl := Option.some.inj hhead
      refine ⟨q, h.holds.pop, ?_, ?_, h.written, ?_, ?_, h.bound, h.captured⟩
      . dsimp only
        rw [← h.put, List.reduceOption_append, List.reduceOption_singleton]
        simp
      . intro i hi
        dsimp only
        rw [Ne, h.holds.pop.full_iff]
        have hlength := h.holds.length_lt
        rw [List.length_cons] at hlength
        omega
      . intro hx
        contradiction
      . intro z hz
        contradiction

theorem step (h : s.Tracks sample q) (e : MicEvent β) : ∃ q', (s.step sample e).Tracks sample q' := by
  cases e with
  | readi result => exact ⟨q, h.readi result⟩
  | thread => exact h.stepThread
  | getNextMicSample => exact h.getNextMicSample
  | close => exact ⟨q, h.holds, h.put, h.room, h.written, h.taking, h.taken, h.bound, h.captured⟩

theorem exact_iff (h : s.Tracks sample q) : s.Exact sample ↔ s.put = s.stored sample := by
  constructor
  . intro hexact
    rw [← hexact.heard, h.queue_eq, h.put]
  . intro hput
    refine ⟨?_, h.captured⟩
    rw [h.queue_eq, h.put, hput]

end Tracks

-- only the loop over the samples of a block puts any of them into the ring
theorem kept_readi (result : Readi β) : (s.step sample (.readi result)).kept = s.kept := by
  simp only [MicAudio.step, MicAudio.readi]
  split
  . split
    . cases result <;> rfl
    . rfl
  . rfl

theorem put_readi (result : Readi β) : (s.step sample (.readi result)).put = s.put := by
  simp only [MicAudio.step, MicAudio.readi]
  split
  . split
    . cases result <;> rfl
    . rfl
  . rfl

theorem kept_getNextMicSample : (s.step sample .getNextMicSample).kept = s.kept := by
  simp only [MicAudio.step, MicAudio.getNextMicSample]
  split
  . split <;> rfl
  . rfl
  . rfl

theorem put_getNextMicSample : (s.step sample .getNextMicSample).put = s.put := by
  simp only [MicAudio.step, MicAudio.getNextMicSample]
  split
  . split <;> rfl
  . rfl
  . rfl

theorem Tracks.dropsWhenFull (h : s.Tracks sample q) (e : MicEvent β) : s.DropsWhenFull sample e := by
  have hlonger : ∀ x : β × Bool, s.kept ≠ s.kept ++ [x] := by
    intro x heq
    have hlength := congrArg List.length heq
    simp at hlength
  intro x hkept
  cases e with
  | readi result =>
    rw [kept_readi] at hkept
    exact absurd hkept (hlonger _)
  | thread =>
    simp only [MicAudio.step, MicAudio.stepThread] at hkept
    cases hthread : s.thread with
    | reading | exited | storing i =>
      rw [hthread] at hkept
      exact absurd hkept (hlonger _)
    | checking i =>
      rw [hthread] at hkept
      dsimp only at hkept
      split at hkept
      . exact absurd hkept (hlonger _)
      next hfull =>
        rw [h.queue_eq]
        exact h.holds.full_iff.mp (not_not.mp hfull)
    | publishing i =>
      rw [hthread] at hkept
      unfold turn at hkept
      dsimp only at hkept
      split at hkept
      . simp at hkept
      . exact absurd hkept (hlonger _)
  | getNextMicSample =>
    rw [kept_getNextMicSample] at hkept
    exact absurd hkept (hlonger _)
  | close => exact absurd hkept (hlonger _)

-- what the loop puts into the ring is what it has kept, unless it is stale
theorem stored_step (hput : s.put = s.stored sample) (e : MicEvent β)
    : (s.step sample e).put = (s.step sample e).stored sample ↔ s.Fresh e := by
  have hturn : ∀ i, (s.turn i false).stored sample = s.stored sample := by
    intro i
    unfold turn stored
    dsimp only
    split
    . simp
    . rfl
  cases e with
  | readi result =>
    refine iff_of_true ?_ trivial
    rw [put_readi, stored, kept_readi]
    exact hput
  | thread =>
    simp only [MicAudio.step, MicAudio.stepThread, Fresh]
    cases hthread : s.thread with
    | reading | exited | storing i => exact iff_of_true hput trivial
    | checking i =>
      refine iff_of_true ?_ trivial
      dsimp only
      split
      . exact hput
      . rw [hturn]
        exact hput
    | publishing i =>
      unfold stored turn
      dsimp only
      rw [hput]
      unfold stored
      by_cases hi : (i : Int) < s.rc
      . rw [if_pos hi]
        refine iff_of_true ?_ hi
        simp
      . rw [if_neg hi]
        refine iff_of_false ?_ hi
        intro heq
        have hlength := congrArg List.length heq
        simp at hlength
  | getNextMicSample =>
    refine iff_of_true ?_ trivial
    rw [put_getNextMicSample, stored, kept_getNextMicSample]
    exact hput
  | close => exact iff_of_true hput trivial

-- Samples are left out only if the ring is full, and up to each point of a run what has been heard and what is
-- in the ring are the captured samples that found space, exactly if nothing stale is put into the ring.
theorem exact_exec (sample : β → α) (ring : Nat → α) (buffer : Nat → β) (es : List (MicEvent β))
    : Along (step sample) (DropsWhenFull sample) (start ring buffer) es
        ∧ ((∀ es', es' <+: es → (exec (step sample) (start ring buffer) es').Exact sample)
          ↔ Along (step sample) Fresh (start ring buffer) es) := by
  have hstart : ∃ q, (start ring buffer).Tracks sample q := ⟨[], Tracks.start ring buffer⟩
  constructor
  . have htracks : Along (step sample) (fun _ _ => True) (start ring buffer) es :=
      along_of_forall_mem (fun _ _ => trivial) _
    apply along_of_invariant (I := fun s => ∃ q, s.Tracks sample q) ?_ ?_ hstart htracks
    . rintro s e ⟨q, h⟩ -
      exact h.step e
    . rintro s e ⟨q, h⟩ -
      exact h.dropsWhenFull e
  . apply forall_prefix_iff_along_of (I := fun s => (∃ q, s.Tracks sample q) ∧ s.Exact sample)
    . rintro s e ⟨⟨q, h⟩, hexact⟩ hfresh
      obtain ⟨q', h'⟩ := h.step e
      refine ⟨⟨q', h'⟩, ?_⟩
      rw [h'.exact_iff, stored_step (h.exact_iff.mp hexact)]
      exact hfresh
    . rintro s e ⟨⟨q, h⟩, hexact⟩ hnext
      obtain ⟨q', h'⟩ := h.step e
      rw [h'.exact_iff, stored_step (h.exact_iff.mp hexact)] at hnext
      exact hnext
    . exact fun s h => h.2
    . refine ⟨hstart, ?_⟩
      rw [(Tracks.start ring buffer).exact_iff]
      rfl

-- a failed read after a full one
def failedRead : List (MicEvent Nat) :=
  [.readi (.frames (List.range 256) (Nat.le_of_eq List.length_range))] ++ List.replicate 768 .thread
    ++ [.readi (.error 31)] ++ List.replicate 3 .thread

theorem not_exact_failedRead
    : ¬(exec (step id) (start (fun _ => 0) fun _ => 0) failedRead).Exact (id : Nat → Nat) := by
  intro h
  have hlength := congrArg List.length h.heard
  exact absurd hlength (by decide +kernel)

end MicAudio

end Transmit
