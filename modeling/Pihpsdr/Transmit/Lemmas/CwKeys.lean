import Pihpsdr.Transmit.Lemmas.CwEvents
import Pihpsdr.Transmit.Impl.CwEvents

/-!
The hardware protection of the CW key counts the samples since the last event. As long as no key-down is
executed while the key is down, these are the samples since the key went down.
-/

namespace Transmit

namespace TxCw

variable {s : TxCw}

-- a key-down is executed only while the key is up
def KeyUpBefore (s : TxCw) : CwStep → Prop
  | .sample =>
    s.inpt ≠ s.outpt → (s.ring s.outpt).wait ≤ s.ticked → (s.ring s.outpt).down ≠ 0 →
      s.keydown = 0
  | _ => True

instance (s : TxCw) (e : CwStep) : Decidable (s.KeyUpBefore e) := by
  cases e <;> unfold KeyUpBefore <;> infer_instance

structure Protected (s : TxCw) : Prop where
  down : s.keydown ≠ 0 → s.downFor = s.delayTime + 1 ∧ s.delayTime ≤ 960000
  up : s.keydown = 0 → s.downFor = 0

theorem Protected.downFor_le (h : s.Protected) : s.downFor ≤ 960001 := by
  by_cases hup : s.keydown = 0
  . rw [h.up hup]
    exact Nat.zero_le _
  . have := h.down hup
    omega

theorem Protected.passed (h : s.Protected) : s.passed.Protected := by
  constructor
  . intro hdown
    change (if s.keydown ≠ 0 ∧ s.ticked > 960000 then 0 else s.keydown) ≠ 0 at hdown
    have hkey : s.keydown ≠ 0 ∧ s.ticked ≤ 960000 := by grind
    have ⟨hfor, hle⟩ := h.down hkey.1
    have hticked : s.ticked = s.delayTime + 1 := by
      unfold ticked
      rw [if_pos (by omega)]
    have hpassed : s.passed.downFor = s.downFor + 1 := if_pos hdown
    refine ⟨?_, hkey.2⟩
    rw [hpassed, hfor]
    exact congrArg (· + 1) hticked.symm
  . intro hup
    exact if_neg (not_not.mpr hup)

theorem Protected.popped (h : s.Protected)
    (hkey : (s.ring s.outpt).down ≠ 0 → s.keydown = 0)
    : s.popped.Protected := by
  constructor
  . intro hdown
    have hpopped : s.popped.downFor = s.downFor + 1 := if_pos hdown
    refine ⟨?_, Nat.zero_le _⟩
    rw [hpopped, h.up (hkey hdown)]
    rfl
  . intro hup
    exact if_neg (not_not.mpr hup)

theorem Protected.step (h : s.Protected) (e : CwStep) (he : s.KeyUpBefore e)
    : (s.step e).Protected := by
  cases e with
  | queue down wait =>
    dsimp only [TxCw.step]
    unfold queue
    split
    . exact ⟨h.down, h.up⟩
    . exact h
  | store =>
    dsimp only [TxCw.step]
    unfold store
    split
    . split <;> exact ⟨h.down, h.up⟩
    . exact h
  | publish =>
    dsimp only [TxCw.step]
    unfold publish
    split
    . exact ⟨h.down, h.up⟩
    . exact h
  | sample =>
    dsimp only [TxCw.step]
    rw [sample_eq]
    split
    next hpop => exact h.popped (he hpop.1 hpop.2)
    next => exact h.passed
  | idleSample =>
    constructor
    . intro hdown
      exact absurd rfl hdown
    . intro _
      rfl

/--
In a run in which no key-down is executed while the key is down, the key is never down for more than
20 seconds and one sample.
-/
theorem key_down_bounded (es : List CwStep) (hes : Run.Along TxCw.step KeyUpBefore start es)
    : ∀ pre, pre <+: es → (Run.exec TxCw.step start pre).downFor ≤ 48000 * 20 + 1 := by
  intro pre ⟨post, hpost⟩
  rw [← hpost, Run.along_append] at hes
  have hstart : start.Protected := ⟨fun h => absurd rfl h, fun _ => rfl⟩
  exact (Run.exec_invariant (fun _ e h he => h.step e he) hstart hes.1).downFor_le

theorem key_down_bounded_dot : (Run.exec TxCw.step start dot).downFor ≤ 48000 * 20 + 1 :=
  key_down_bounded dot (by decide +kernel) dot List.prefix_rfl

-- the key is held for `n` samples while nothing is queued
theorem exec_held (n : Nat) (hdown : s.keydown ≠ 0) (hempty : s.inpt = s.outpt)
    (hn : s.delayTime + n ≤ 960000)
    : Run.exec TxCw.step s (List.replicate n .sample) =
        { s with
          delayTime := s.delayTime + n
          samples := s.samples + n
          downFor := s.downFor + n } := by
  induction n generalizing s with
  | zero => rfl
  | succ n ih =>
    have hticked : s.ticked = s.delayTime + 1 := by
      unfold ticked
      rw [if_pos (by omega)]
    have hstep : s.sample =
        { s with
          delayTime := s.delayTime + 1
          samples := s.samples + 1
          downFor := s.downFor + 1 } := by
      rw [sample_eq, if_neg (fun h => h.1 hempty)]
      unfold TxCw.passed
      have hnot : ¬ (s.keydown ≠ 0 ∧ s.delayTime + 1 > 960000) := by omega
      simp only [hticked, if_neg hnot, if_pos hdown]
    have hheld : s.sample.keydown ≠ 0 ∧ s.sample.inpt = s.sample.outpt ∧
        s.sample.delayTime + n ≤ 960000 := by
      rw [hstep]
      have hle : s.delayTime + 1 + n ≤ 960000 := by omega
      exact ⟨hdown, hempty, hle⟩
    rw [List.replicate_succ, Run.exec_cons]
    refine (ih hheld.1 hheld.2.1 hheld.2.2).trans ?_
    rw [hstep]
    simp only [Nat.add_assoc, Nat.add_comm 1 n]

-- key-down twice, the second time when the key has been down for 20 seconds
theorem key_down_repeated
    : ¬ (Run.exec TxCw.step start
        ([.queue 1 0, .store, .publish, .sample] ++ List.replicate 960000 .sample ++
          [.queue 1 0, .store, .publish, .sample])).downFor ≤ 48000 * 20 + 1 := by
  rw [Run.exec_append, Run.exec_append, exec_held]
  . decide +kernel
  . decide
  . decide
  . decide

end TxCw

end Transmit

/-!
The time since the last event saturates, so an event that has to wait longer stays in the ring, and all
that is queued after it.
-/

namespace Transmit

namespace TxCw

variable {s : TxCw} {q : List CwEvent}

def samplesOnly (n : Nat) : List CwStep :=
  List.replicate n .sample

/--
The head of the ring can be reached by the time since the last event, and so can all that is in the ring:
if the radio keeps transmitting in CW, the ring becomes empty.
-/
structure Unblocked (s : TxCw) : Prop where
  head : s.inpt ≠ s.outpt → (s.ring s.outpt).wait ≤ 999999
  drains : ∃ n, (Run.exec TxCw.step s (samplesOnly n)).inpt =
    (Run.exec TxCw.step s (samplesOnly n)).outpt

def HasRoom (s : TxCw) : Prop :=
  s.fill + 1 ≠ cwRingSize

structure Free (s : TxCw) (q : List CwEvent) : Prop where
  queues : s.Queues q
  idle : s.call = .idle
  wait_le : ∀ e ∈ q, e.wait ≤ 999999

def Blocked (s : TxCw) : Prop :=
  ∃ q, s.Queues q ∧ ∃ e ∈ q, 999999 < e.wait

theorem start_free : start.Free [] where
  queues := start_queues
  idle := rfl
  wait_le := by
    intro e he
    contradiction

theorem Queues.head_pops {e : CwEvent} (h : s.Queues (e :: q)) (he : e.wait ≤ 999999)
    : ∃ n, (Run.exec TxCw.step s (samplesOnly n)).Queues q := by
  -- the samples that are missing
  induction hk : (e.wait - s.ticked).toNat generalizing s with
  | zero =>
    have hwait : e.wait ≤ s.ticked := by omega
    refine ⟨1, ?_⟩
    change s.sample.Queues q
    rw [h.sample_popped hwait]
    exact h.popped hwait
  | succ k ih =>
    have hwait : s.ticked < e.wait := by omega
    have hhead : ∀ e', (e :: q).head? = some e' → s.ticked < e'.wait := by
      intro e' he'
      rw [List.head?_cons, Option.some.injEq] at he'
      rw [← he']
      exact hwait
    have hticked : s.passed.ticked = s.ticked + 1 := by
      change (if s.ticked < 999999 then s.ticked + 1 else s.ticked) = s.ticked + 1
      rw [if_pos (by omega)]
    have ⟨n, hn⟩ := ih h.passed (by omega)
    refine ⟨n + 1, ?_⟩
    change (Run.exec TxCw.step s.sample (samplesOnly n)).Queues q
    rw [h.sample_passed hhead]
    exact hn

theorem Queues.drains (h : s.Queues q) (hq : ∀ e ∈ q, e.wait ≤ 999999)
    : ∃ n, (Run.exec TxCw.step s (samplesOnly n)).Queues [] := by
  induction q generalizing s with
  | nil => exact ⟨0, h⟩
  | cons e q ih =>
    have ⟨n, hn⟩ := h.head_pops (hq e List.mem_cons_self)
    have ⟨m, hm⟩ := ih hn (fun e' he' => hq e' (List.mem_cons_of_mem e he'))
    refine ⟨n + m, ?_⟩
    unfold samplesOnly at hm ⊢
    rw [List.replicate_add, Run.exec_append]
    exact hm

theorem Free.unblocked (h : s.Free q) : s.Unblocked where
  head := by
    intro hne
    cases q with
    | nil => exact absurd (h.queues.empty_iff.mpr rfl) hne
    | cons e q =>
      rw [h.queues.holds.head_eq]
      exact h.wait_le e List.mem_cons_self
  drains := by
    have ⟨n, hn⟩ := h.queues.drains h.wait_le
    exact ⟨n, hn.empty_iff.mpr rfl⟩

theorem Blocked.sample (h : s.Blocked) : s.sample.Blocked := by
  have ⟨q, hq, e, hmem, he⟩ := h
  by_cases hhead : ∀ e, q.head? = some e → s.ticked < e.wait
  . rw [hq.sample_passed hhead]
    exact ⟨q, hq.passed, e, hmem, he⟩
  . cases q with
    | nil => contradiction
    | cons e' q =>
      have hwait : e'.wait ≤ s.ticked := by simpa using hhead
      have hticked := hq.ticked_le
      rw [hq.sample_popped hwait]
      refine ⟨q, hq.popped hwait, e, ?_, he⟩
      -- what is taken out is another event
      cases hmem with
      | head => omega
      | tail _ hmem => exact hmem

theorem Blocked.samples (h : s.Blocked) (n : Nat)
    : (Run.exec TxCw.step s (samplesOnly n)).Blocked := by
  induction n generalizing s with
  | zero => exact h
  | succ n ih => exact ih h.sample

theorem Blocked.not_unblocked (h : s.Blocked) : ¬ s.Unblocked := by
  intro ⟨_, n, hn⟩
  have ⟨q, hq, e, hmem, _⟩ := h.samples n
  rw [hq.empty_iff.mp hn] at hmem
  contradiction

theorem Free.sample (h : s.Free q) : ∃ q', s.sample.Free q' := by
  by_cases hhead : ∀ e, q.head? = some e → s.ticked < e.wait
  . rw [h.queues.sample_passed hhead]
    exact ⟨q, h.queues.passed, h.idle, h.wait_le⟩
  . cases q with
    | nil => exact absurd (by simp) hhead
    | cons e q =>
      have hwait : e.wait ≤ s.ticked := by simpa using hhead
      rw [h.queues.sample_popped hwait]
      exact ⟨q, h.queues.popped hwait, h.idle, fun e' he' =>
        h.wait_le e' (List.mem_cons_of_mem e he')⟩

theorem queue_eq (hcall : s.call = .idle) (down : BitVec 8) (wait : Int)
    : s.queue down wait =
        { s with
          call := .called ⟨if s.fill + 16 > cwRingSize then 0 else down, wait⟩
            (Ring.next cwRingSize s.inpt)
          calls := s.calls ++ [(⟨down, wait⟩, s.fill)] } := by
  unfold queue
  rw [hcall]

theorem Queues.txQueueCwEvent_full (h : s.Queues q) (hcall : s.call = .idle) (hfull : ¬ s.HasRoom)
    (down : BitVec 8) (wait : Int)
    : (s.txQueueCwEvent down wait).Queues q ∧ (s.txQueueCwEvent down wait).call = .idle := by
  have hstore := (h.queue down wait).store
  have hnext : Ring.next cwRingSize s.inpt = s.outpt := by
    rw [h.holds.full_iff, ← h.fill_eq]
    exact not_not.mp hfull
  have heq : (s.queue down wait).store =
      { s with calls := s.calls ++ [(⟨down, wait⟩, s.fill)] } := by
    rw [queue_eq hcall]
    unfold TxCw.store
    simp only [hnext, ne_eq, not_true_eq_false, if_false, ← hcall]
  unfold TxCw.txQueueCwEvent
  rw [heq] at hstore ⊢
  have hpublish : TxCw.publish { s with calls := s.calls ++ [(⟨down, wait⟩, s.fill)] } =
      { s with calls := s.calls ++ [(⟨down, wait⟩, s.fill)] } := by
    unfold TxCw.publish
    simp only [hcall]
  rw [hpublish]
  exact ⟨hstore, hcall⟩

theorem Queues.txQueueCwEvent (h : s.Queues q) (hcall : s.call = .idle) (hroom : s.HasRoom)
    (down : BitVec 8) (wait : Int)
    : ∃ e, e.wait = wait ∧ (s.txQueueCwEvent down wait).Queues (q ++ [e]) ∧
        (s.txQueueCwEvent down wait).call = .idle := by
  have hstore := (h.queue down wait).store
  have hnext : Ring.next cwRingSize s.inpt ≠ s.outpt := by
    rw [Ne, h.holds.full_iff, ← h.fill_eq]
    exact hroom
  have hcalled : (s.queue down wait).store.call = .stored (Ring.next cwRingSize s.inpt) := by
    rw [queue_eq hcall]
    unfold TxCw.store
    simp only [if_pos hnext]
  have hring : ((s.queue down wait).store.ring (s.queue down wait).store.inpt).wait = wait := by
    rw [queue_eq hcall]
    unfold TxCw.store
    simp only [if_pos hnext, if_true]
  refine ⟨_, hring, hstore.publish_stored hcalled, ?_⟩
  unfold TxCw.txQueueCwEvent
  rw [publish_eq hcalled]

theorem Free.txQueueCwEvent (h : s.Free q) (down : BitVec 8) {wait : Int}
    (hwait : s.HasRoom → wait ≤ 999999)
    : ∃ q', (s.txQueueCwEvent down wait).Free q' := by
  by_cases hroom : s.HasRoom
  . have ⟨e, he, hqueues, hidle⟩ := h.queues.txQueueCwEvent h.idle hroom down wait
    refine ⟨_, hqueues, hidle, ?_⟩
    intro e' he'
    cases List.mem_append.mp he' with
    | inl hmem => exact h.wait_le e' hmem
    | inr hmem =>
      rw [List.mem_singleton.mp hmem, he]
      exact hwait hroom
  . have ⟨hqueues, hidle⟩ := h.queues.txQueueCwEvent_full h.idle hroom down wait
    exact ⟨q, hqueues, hidle, h.wait_le⟩

theorem Free.hasRoom (h : s.Free q) (hlen : s.accepted.length ≤ 1022) : s.HasRoom := by
  have hfill := h.queues.fill_eq
  have hsize : cwRingSize = 1024 := rfl
  rw [h.queues.conserved, List.length_append] at hlen
  unfold HasRoom
  omega

theorem Free.blocked (h : s.Free q) (down : BitVec 8) {wait : Int} (hroom : s.HasRoom)
    (hwait : 999999 < wait)
    : (s.txQueueCwEvent down wait).Blocked := by
  have ⟨e, he, hqueues, _⟩ := h.queues.txQueueCwEvent h.idle hroom down wait
  refine ⟨_, hqueues, e, List.mem_concat_self, ?_⟩
  rw [he]
  exact hwait

end TxCw

namespace KeyerSettings

theorem dotSamples_le (k : KeyerSettings) : k.dotSamples ≤ 999999 :=
  (Nat.div_le_self _ _).trans (by decide)

theorem dashSamples_le (k : KeyerSettings) : k.dashSamples ≤ 999999 := by
  have := k.weight_le
  apply (Nat.div_le_self _ _).trans
  omega

end KeyerSettings

namespace CwKeys

variable {s : CwKeys} {toInt : Nat → Int}

/--
A time in samples that the time since the last event can reach. From `2 ^ 31` on, this depends on what the
conversion makes of it.
-/
def InReach (toInt : Nat → Int) (n : Nat) : Prop :=
  n ≤ 999999 ∨ 2 ^ 31 ≤ n ∧ toInt n ≤ 999999

-- the key is released in time, or nothing can be queued
def ReleasedInTime (toInt : Nat → Int) (s : CwKeys) : CwKeyEvent → Prop
  | .straightKey kdash => s.straight → ¬ kdash → s.cw.HasRoom → InReach toInt s.held
  | .cwKeyerKeydown pressed keyed => ¬ (pressed && keyed) → s.cw.HasRoom → InReach toInt s.pause
  | _ => True

theorem inReach_iff (htoInt : ∀ n < 2 ^ 31, toInt n = n) (n : Nat)
    : InReach toInt n ↔ toInt n ≤ 999999 := by
  unfold InReach
  by_cases hn : n < 2 ^ 31
  . rw [htoInt n hn]
    omega
  . omega

theorem element_free {q : List CwEvent} (h : s.cw.Free q) {samples pause : Nat}
    (hsamples : samples ≤ 999999) (hpause : pause ≤ 999999)
    : ∃ q', (s.element samples pause).cw.Free q' := by
  have hzero : (0 : Int) ≤ 999999 := by decide
  have ⟨_, h₁⟩ := h.txQueueCwEvent 1 (fun _ => hzero)
  have ⟨_, h₂⟩ := h₁.txQueueCwEvent 0 (fun _ => Int.ofNat_le.mpr hsamples)
  exact h₂.txQueueCwEvent 0 (fun _ => Int.ofNat_le.mpr hpause)

theorem step_free (htoInt : ∀ n < 2 ^ 31, toInt n = n) (s : CwKeys) (e : CwKeyEvent)
    (h : ∃ q, s.cw.Free q) (he : s.ReleasedInTime toInt e)
    : ∃ q, (s.step toInt e).cw.Free q := by
  have ⟨q, h⟩ := h
  cases e with
  | elapse ns => exact ⟨q, h⟩
  | straightKey kdash =>
    dsimp only [step]
    unfold straightKey
    split
    next hstraight =>
      split
      next => exact ⟨q, h⟩
      next hkdash =>
        apply h.txQueueCwEvent
        intro hroom
        rw [← inReach_iff htoInt]
        exact he hstraight hkdash hroom
    next =>
      split
      next => exact h.txQueueCwEvent 1 (fun _ => by decide)
      next => exact ⟨q, h⟩
  | dot k =>
    dsimp only [step]
    split
    next => exact ⟨q, h⟩
    next => exact element_free h k.dotSamples_le k.dotSamples_le
  | dash k =>
    dsimp only [step]
    split
    next => exact ⟨q, h⟩
    next => exact element_free h k.dashSamples_le k.dotSamples_le
  | cwKeyerKeydown pressed keyed =>
    dsimp only [step]
    unfold cwKeyerKeydown
    split
    next =>
      apply h.txQueueCwEvent
      intro _
      split <;> omega
    next hkeyed =>
      apply h.txQueueCwEvent
      intro hroom
      rw [← inReach_iff htoInt]
      exact he hkeyed hroom
  | sample => exact h.sample

theorem releasedInTime_of_unblocked (htoInt : ∀ n < 2 ^ 31, toInt n = n) (s : CwKeys)
    (e : CwKeyEvent) (h : ∃ q, s.cw.Free q) (he : (s.step toInt e).cw.Unblocked)
    : s.ReleasedInTime toInt e := by
  have ⟨q, h⟩ := h
  cases e with
  | straightKey kdash =>
    intro hstraight hkdash hroom
    rw [inReach_iff htoInt]
    by_contra hwait
    dsimp only [step] at he
    unfold straightKey at he
    rw [if_pos hstraight, if_neg hkdash] at he
    exact (h.blocked 0 hroom (not_le.mp hwait)).not_unblocked he
  | cwKeyerKeydown pressed keyed =>
    intro hkeyed hroom
    rw [inReach_iff htoInt]
    by_contra hwait
    dsimp only [step] at he
    unfold cwKeyerKeydown at he
    simp only [if_neg hkeyed] at he
    exact (h.blocked 0 hroom (not_le.mp hwait)).not_unblocked he
  | _ => trivial

/--
The ring is unblocked all along a run exactly if each key is released in time: less than 20.83 seconds
after it went down, or after the last event of the external key.
-/
theorem unblocked_iff_releasedInTime (htoInt : ∀ n < 2 ^ 31, toInt n = n) (es : List CwKeyEvent)
    : (∀ pre, pre <+: es → (Run.exec (step toInt) start pre).cw.Unblocked) ↔
        Run.Along (step toInt) (ReleasedInTime toInt) start es := by
  apply Run.forall_prefix_iff_along_of (I := fun s : CwKeys => ∃ q, s.cw.Free q)
    (J := fun s => s.cw.Unblocked)
  . exact step_free htoInt
  . exact releasedInTime_of_unblocked htoInt
  . intro s ⟨q, h⟩
    exact h.unblocked
  . exact ⟨[], TxCw.start_free⟩

theorem ofNat_eq_of_lt : ∀ n < 2 ^ 31, Int.ofNat n = n := fun _ _ => rfl

-- the straight key is down for a second
def shortKey : List CwKeyEvent :=
  [.straightKey true, .sample, .elapse 1000000000, .straightKey false, .sample]

theorem unblocked_iff_releasedInTime_short
    : (Run.exec (step Int.ofNat) start shortKey).cw.Unblocked := by
  apply (unblocked_iff_releasedInTime ofNat_eq_of_lt shortKey).mpr
  . refine ⟨fun _ hkdash => absurd rfl hkdash, trivial, trivial, ?_, trivial, trivial⟩
    intro _ _ _
    exact Or.inl (by decide)
  . exact List.prefix_rfl

theorem exec_samples (toInt : Nat → Int) (s : CwKeys) (n : Nat)
    : ∃ cw, Run.exec (step toInt) s (List.replicate n .sample) = { s with cw := cw } ∧
        cw.accepted = s.cw.accepted := by
  induction n generalizing s with
  | zero => exact ⟨s.cw, rfl, rfl⟩
  | succ n ih =>
    have ⟨cw, hcw, haccepted⟩ := ih { s with cw := s.cw.sample }
    refine ⟨cw, hcw, haccepted.trans ?_⟩
    change s.cw.sample.accepted = _
    rw [TxCw.sample_eq]
    split <;> rfl

-- the straight key is down for 21 seconds
def longKey : List CwKeyEvent :=
  [.straightKey true, .elapse 21000000000] ++ List.replicate 1008000 .sample

theorem long_key_blocks
    : ¬ (Run.exec (step Int.ofNat) start (longKey ++ [.straightKey false])).cw.Unblocked := by
  rw [Run.exec_append]
  have ⟨cw, hcw, haccepted⟩ := exec_samples Int.ofNat
    (Run.exec (step Int.ofNat) start [.straightKey true, .elapse 21000000000]) 1008000
  have hfree : ∃ q, (Run.exec (step Int.ofNat) start longKey).cw.Free q := by
    apply Run.exec_invariant (I := fun s : CwKeys => ∃ q, s.cw.Free q)
      (step_free ofNat_eq_of_lt) ⟨[], TxCw.start_free⟩
    unfold longKey
    rw [Run.along_append]
    refine ⟨⟨fun _ hkdash => absurd rfl hkdash, trivial, trivial⟩, ?_⟩
    apply (Run.along_of_forall_mem (fun _ h => List.eq_of_mem_replicate h) _).mono
    intro s e he
    rw [he]
    trivial
  unfold longKey at hfree ⊢
  rw [Run.exec_append, hcw] at hfree ⊢
  intro hblocked
  have ⟨q, h⟩ := hfree
  have hroom : cw.HasRoom := by
    apply h.hasRoom
    rw [haccepted]
    decide
  have hreach : InReach Int.ofNat (48 * (21000000000 - 0) / 1000000) :=
    releasedInTime_of_unblocked ofNat_eq_of_lt _ (.straightKey false) hfree hblocked rfl
      (by decide) hroom
  unfold InReach at hreach
  omega

end CwKeys

end Transmit
