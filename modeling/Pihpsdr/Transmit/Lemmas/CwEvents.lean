import Mathlib.Data.List.Chain
import Pihpsdr.Transmit.Impl.CwEvents

/-!
The ring of CW events as a queue: what the producer accepts is what the consumer executes, in this order
and in time, and near overflow the last event that is accepted is a key-up.
-/

namespace Transmit

/--
What becomes of the events that are to be queued: whole, as a key-up, or lost, the latter two only where
the producer has found the ring nearly full.
-/
inductive Taken : List (CwEvent × Nat) → List CwEvent → Prop where
  | nil : Taken [] []
  | whole {cs : List (CwEvent × Nat)} {es : List CwEvent} {e : CwEvent} {n : Nat}
    : Taken cs es → n + 16 ≤ cwRingSize → Taken (cs ++ [(e, n)]) (es ++ [e])
  | keyUp {cs : List (CwEvent × Nat)} {es : List CwEvent} {e : CwEvent} {n : Nat}
    : Taken cs es → cwRingSize < n + 16 → Taken (cs ++ [(e, n)]) (es ++ [e.keyUp])
  | lost {cs : List (CwEvent × Nat)} {es : List CwEvent} {e : CwEvent} {n : Nat}
    : Taken cs es → cwRingSize < n + 16 → Taken (cs ++ [(e, n)]) es

-- a key-down is directly followed by a key-up
def Follows (c c' : CwEvent × Nat) : Prop :=
  c.1.down ≠ 0 → c'.1.down = 0

-- the event is executed as many samples after the last one as it has to wait
def InTime (c c' : CwEvent × Nat) : Prop :=
  c.2 + c'.1.wait ≤ c'.2

namespace TxCw

variable {s : TxCw} {q : List CwEvent}

def EndsDown (es : List CwEvent) : Prop :=
  ∃ e, es.getLast? = some e ∧ e.down ≠ 0

/--
The state of the call that the producer is in. If the last event accepted is a key-down, there is room
for the next one.
-/
def CallSound (s : TxCw) (q : List CwEvent) : Prop :=
  match s.call with
  | .idle =>
    Taken s.calls s.accepted ∧
      (s.calls.IsChain Follows → EndsDown s.accepted →
        ∃ c, s.calls.getLast? = some c ∧ c.1.down ≠ 0 ∧ q.length ≤ 1009)
  | .called e newpt =>
    newpt = Ring.next cwRingSize s.inpt ∧
      ∃ cs c, s.calls = cs ++ [c] ∧ Taken cs s.accepted ∧ q.length ≤ c.2 ∧
        e = (if c.2 + 16 > cwRingSize then c.1.keyUp else c.1) ∧
        (s.calls.IsChain Follows → EndsDown s.accepted → c.1.down = 0 ∧ c.2 ≤ 1009)
  | .stored newpt =>
    newpt = Ring.next cwRingSize s.inpt ∧ newpt ≠ s.outpt ∧
      ∃ cs c, s.calls = cs ++ [c] ∧ Taken cs s.accepted ∧ q.length ≤ c.2 ∧
        s.ring s.inpt = (if c.2 + 16 > cwRingSize then c.1.keyUp else c.1)

structure Queues (s : TxCw) (q : List CwEvent) : Prop where
  holds : Ring.Holds cwRingSize s.ring s.inpt s.outpt q
  conserved : s.accepted = s.executed.map Prod.fst ++ q
  delayTime_le : s.delayTime ≤ 999999
  inTime : s.executed.IsChain InTime
  sinceLast : ∀ c, s.executed.getLast? = some c → c.2 + s.delayTime + 1 ≤ s.samples
  keydown : s.keydown ≠ 0 → EndsDown (s.executed.map Prod.fst)
  callSound : s.CallSound q

theorem start_queues : start.Queues [] where
  holds := Ring.Holds.empty (by decide)
  conserved := rfl
  delayTime_le := Nat.zero_le _
  inTime := List.isChain_nil
  sinceLast := by
    intro c hc
    contradiction
  keydown := by
    intro h
    contradiction
  callSound := by
    refine ⟨Taken.nil, ?_⟩
    intro _ hdown
    have ⟨e, he, _⟩ := hdown
    contradiction

theorem Queues.fill_eq (h : s.Queues q) : s.fill = q.length :=
  h.holds.fill_eq

theorem Queues.queue (h : s.Queues q) (down : BitVec 8) (wait : Int)
    : (s.queue down wait).Queues q := by
  unfold TxCw.queue
  split
  next hcall =>
    refine ⟨h.holds, h.conserved, h.delayTime_le, h.inTime, h.sinceLast, h.keydown, ?_⟩
    have hsound := h.callSound
    unfold CallSound at hsound
    rw [hcall] at hsound
    have ⟨htaken, hroom⟩ := hsound
    refine ⟨rfl, s.calls, (⟨down, wait⟩, s.fill), rfl, htaken, h.fill_eq.ge, ?_, ?_⟩
    . split <;> rfl
    . intro hchain hdown
      have ⟨hchain, _, hlast⟩ := List.isChain_append.mp hchain
      have ⟨c, hc, hcdown, hlen⟩ := hroom hchain hdown
      refine ⟨hlast c hc _ rfl hcdown, ?_⟩
      rw [h.fill_eq]
      exact hlen
  next => exact h

theorem Queues.store (h : s.Queues q) : s.store.Queues q := by
  unfold TxCw.store
  split
  next e newpt hcall =>
    have hsound := h.callSound
    unfold CallSound at hsound
    rw [hcall] at hsound
    have ⟨hnewpt, cs, c, hcalls, htaken, hlen, he, hroom⟩ := hsound
    split
    next hne =>
      refine ⟨h.holds.write e, h.conserved, h.delayTime_le, h.inTime, h.sinceLast, h.keydown, ?_⟩
      refine ⟨hnewpt, hne, cs, c, hcalls, htaken, hlen, ?_⟩
      simpa using he
    next hfull =>
      -- the event is lost
      refine ⟨h.holds, h.conserved, h.delayTime_le, h.inTime, h.sinceLast, h.keydown, ?_⟩
      rw [not_not, hnewpt, h.holds.full_iff] at hfull
      have hsize : cwRingSize = 1024 := rfl
      refine ⟨?_, ?_⟩
      . rw [hcalls]
        apply Taken.lost htaken
        omega
      . intro hchain hdown
        have := (hroom hchain hdown).2
        omega
  next => exact h

theorem publish_eq {newpt : Nat} (hcall : s.call = .stored newpt)
    : s.publish =
        { s with inpt := newpt, call := .idle, accepted := s.accepted ++ [s.ring s.inpt] } := by
  unfold publish
  rw [hcall]

theorem Queues.publish_stored (h : s.Queues q) {newpt : Nat} (hcall : s.call = .stored newpt)
    : s.publish.Queues (q ++ [s.ring s.inpt]) := by
  have hsound := h.callSound
  unfold CallSound at hsound
  rw [hcall] at hsound
  have ⟨hnewpt, hne, cs, c, hcalls, htaken, hlen, he⟩ := hsound
  have hholds := h.holds.push (hnewpt ▸ hne) (s.ring s.inpt)
  have hring : (fun i => if i = s.inpt then s.ring s.inpt else s.ring i) = s.ring := by
    funext i
    split <;> simp [*]
  rw [hring, ← hnewpt] at hholds
  have hsize : cwRingSize = 1024 := rfl
  rw [publish_eq hcall]
  refine ⟨hholds, ?_, h.delayTime_le, h.inTime, h.sinceLast, h.keydown, ?_⟩
  . rw [h.conserved, List.append_assoc]
  . refine ⟨?_, ?_⟩
    . rw [hcalls, he]
      split
      next hfull => exact Taken.keyUp htaken hfull
      next hfull => exact Taken.whole htaken (not_lt.mp hfull)
    . intro _ hdown
      have ⟨e, hlast, hdown⟩ := hdown
      rw [List.getLast?_concat, Option.some.injEq] at hlast
      refine ⟨c, by rw [hcalls, List.getLast?_concat], ?_⟩
      rw [← hlast, he] at hdown
      split at hdown
      next => exact absurd rfl hdown
      next hfull =>
        refine ⟨hdown, ?_⟩
        rw [List.length_append, List.length_singleton]
        omega

theorem Queues.publish (h : s.Queues q) : ∃ q', s.publish.Queues q' := by
  cases hcall : s.call with
  | stored newpt => exact ⟨_, h.publish_stored hcall⟩
  | idle =>
    unfold TxCw.publish
    rw [hcall]
    exact ⟨q, h⟩
  | called e newpt =>
    unfold TxCw.publish
    rw [hcall]
    exact ⟨q, h⟩

-- the time since the last event when a sample looks at the ring
def ticked (s : TxCw) : Nat :=
  if s.delayTime < 999999 then s.delayTime + 1 else s.delayTime

theorem Queues.ticked_le (h : s.Queues q) : s.ticked ≤ 999999 := by
  have := h.delayTime_le
  unfold ticked
  split <;> omega

theorem Queues.empty_iff (h : s.Queues q) : s.inpt = s.outpt ↔ q = [] := by
  constructor
  . intro heq
    have hfill := h.holds.fill_eq
    rw [heq, Ring.fill_self] at hfill
    exact List.eq_nil_of_length_eq_zero hfill.symm
  . intro hq
    rw [h.holds.inp_eq, hq]
    exact Ring.slot_zero h.holds.out_lt

-- a sample that does not find an event to execute
def passed (s : TxCw) : TxCw :=
  let keydown := if s.keydown ≠ 0 ∧ s.ticked > 960000 then 0 else s.keydown
  { s with
    delayTime := s.ticked
    keydown := keydown
    samples := s.samples + 1
    downFor := if keydown ≠ 0 then s.downFor + 1 else 0 }

-- a sample that does
def popped (s : TxCw) : TxCw :=
  { s with
    delayTime := 0
    keydown := (s.ring s.outpt).down
    outpt := Ring.next cwRingSize s.outpt
    executed := s.executed ++ [(s.ring s.outpt, s.samples)]
    samples := s.samples + 1
    downFor := if (s.ring s.outpt).down ≠ 0 then s.downFor + 1 else 0 }

theorem tick_eq : s.tick = { s with delayTime := s.ticked } := by
  unfold tick ticked
  split <;> rfl

theorem protect_eq
    : s.protect =
        { s with
          keydown := if s.keydown ≠ 0 ∧ s.delayTime > 960000 then 0 else s.keydown } := by
  unfold protect
  split <;> rfl

theorem sample_eq
    : s.sample =
        if s.inpt ≠ s.outpt ∧ (s.ring s.outpt).wait ≤ s.ticked then s.popped else s.passed := by
  unfold sample nextCwSidetoneSample
  rw [tick_eq, protect_eq]
  unfold execute
  by_cases hne : s.inpt ≠ s.outpt
  . by_cases hwait : (s.ring s.outpt).wait ≤ s.ticked
    . simp only [if_pos hne, if_pos hwait, ge_iff_le, if_pos (And.intro hne hwait)]
      rfl
    . have hnot : ¬ (s.inpt ≠ s.outpt ∧ (s.ring s.outpt).wait ≤ s.ticked) := fun h => hwait h.2
      simp only [if_pos hne, if_neg hwait, if_neg hnot, ge_iff_le]
      rfl
  . have hnot : ¬ (s.inpt ≠ s.outpt ∧ (s.ring s.outpt).wait ≤ s.ticked) := fun h => hne h.1
    simp only [if_neg hne, if_neg hnot]
    rfl

-- an empty ring, or an event that has to wait
theorem Queues.sample_passed (h : s.Queues q) (hq : ∀ e, q.head? = some e → s.ticked < e.wait)
    : s.sample = s.passed := by
  rw [sample_eq, if_neg]
  intro ⟨hne, hwait⟩
  cases q with
  | nil => exact hne (h.empty_iff.mpr rfl)
  | cons e q =>
    rw [h.holds.head_eq] at hwait
    have := hq e rfl
    omega

theorem Queues.sample_popped {e : CwEvent} (h : s.Queues (e :: q)) (he : e.wait ≤ s.ticked)
    : s.sample = s.popped := by
  rw [sample_eq, if_pos]
  refine ⟨?_, ?_⟩
  . intro heq
    have := h.empty_iff.mp heq
    contradiction
  . rwa [h.holds.head_eq]

-- taking events out of the ring does not disturb the producer
theorem CallSound.mono {s' : TxCw} {q' : List CwEvent} (h : s.CallSound q)
    (hcall : s'.call = s.call) (hcalls : s'.calls = s.calls) (haccepted : s'.accepted = s.accepted)
    (hring : s'.ring = s.ring) (hinpt : s'.inpt = s.inpt)
    (hs : Ring.Holds cwRingSize s.ring s.inpt s.outpt q)
    (hs' : Ring.Holds cwRingSize s'.ring s'.inpt s'.outpt q') (hlen : q'.length ≤ q.length)
    : s'.CallSound q' := by
  unfold CallSound at h ⊢
  rw [hcall, hcalls, haccepted, hring, hinpt]
  cases hc : s.call with
  | idle =>
    rw [hc] at h
    refine ⟨h.1, ?_⟩
    intro hchain hdown
    have ⟨c, hlast, hcdown, hroom⟩ := h.2 hchain hdown
    exact ⟨c, hlast, hcdown, hlen.trans hroom⟩
  | called e newpt =>
    rw [hc] at h
    have ⟨hnewpt, cs, c, heq, htaken, hroom, hrest⟩ := h
    exact ⟨hnewpt, cs, c, heq, htaken, hlen.trans hroom, hrest⟩
  | stored newpt =>
    rw [hc] at h
    have ⟨hnewpt, hne, cs, c, heq, htaken, hroom, hrest⟩ := h
    refine ⟨hnewpt, ?_, cs, c, heq, htaken, hlen.trans hroom, hrest⟩
    rw [hnewpt, Ne, hs.full_iff] at hne
    rw [hnewpt, ← hinpt, Ne, hs'.full_iff]
    have := hs.length_lt
    omega

theorem Queues.passed (h : s.Queues q) : s.passed.Queues q := by
  refine ⟨h.holds, h.conserved, h.ticked_le, h.inTime, ?_, ?_, ?_⟩
  . intro c hc
    have := h.sinceLast c hc
    change c.2 + s.ticked + 1 ≤ s.samples + 1
    unfold ticked
    split <;> omega
  . intro hdown
    apply h.keydown
    unfold TxCw.passed at hdown
    grind
  . exact h.callSound.mono rfl rfl rfl rfl rfl h.holds h.holds le_rfl

theorem Queues.popped {e : CwEvent} (h : s.Queues (e :: q)) (he : e.wait ≤ s.ticked)
    : s.popped.Queues q := by
  have hhead := h.holds.head_eq
  refine ⟨h.holds.pop, ?_, Nat.zero_le _, ?_, ?_, ?_, ?_⟩
  . change s.accepted = _
    unfold TxCw.popped
    rw [h.conserved, hhead]
    simp
  . change List.IsChain InTime (s.executed ++ _)
    rw [List.isChain_append]
    refine ⟨h.inTime, List.isChain_singleton _, ?_⟩
    intro c hc c' hc'
    have hc' : (s.ring s.outpt, s.samples) = c' := by simpa using hc'
    have hsince := h.sinceLast c hc
    rw [← hc', hhead]
    change (c.2 : Int) + e.wait ≤ s.samples
    have : s.ticked ≤ s.delayTime + 1 := by
      unfold ticked
      split <;> omega
    omega
  . intro c hc
    change (s.executed ++ _).getLast? = some c at hc
    rw [List.getLast?_concat, Option.some.injEq] at hc
    rw [← hc]
    exact le_rfl
  . intro hdown
    refine ⟨s.ring s.outpt, ?_, hdown⟩
    unfold TxCw.popped
    simp
  . exact h.callSound.mono rfl rfl rfl rfl rfl h.holds h.holds.pop (Nat.le_succ _)

theorem Queues.sample (h : s.Queues q) : ∃ q', s.sample.Queues q' := by
  by_cases hq : ∀ e, q.head? = some e → s.ticked < e.wait
  . rw [h.sample_passed hq]
    exact ⟨q, h.passed⟩
  . cases q with
    | nil => exact absurd (by simp) hq
    | cons e q =>
      have he : e.wait ≤ s.ticked := by simpa using hq
      rw [h.sample_popped he]
      exact ⟨q, h.popped he⟩

theorem Queues.step (h : ∃ q, s.Queues q) {e : CwStep} (he : e ≠ .idleSample)
    : ∃ q, (s.step e).Queues q := by
  have ⟨q, h⟩ := h
  cases e with
  | queue down wait => exact ⟨q, h.queue down wait⟩
  | store => exact ⟨q, h.store⟩
  | publish => exact h.publish
  | sample => exact h.sample
  | idleSample => contradiction

theorem Queues.taken (h : s.Queues q) (hcall : s.call = .idle) : Taken s.calls s.accepted := by
  have hsound := h.callSound
  unfold CallSound at hsound
  rw [hcall] at hsound
  exact hsound.1

def dot : List CwStep :=
  [.queue 1 0, .store, .publish, .queue 0 2, .store, .publish, .sample, .sample, .sample]

end TxCw

end Transmit
