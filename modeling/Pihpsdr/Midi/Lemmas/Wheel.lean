import Pihpsdr.Lib.Run
import Pihpsdr.Midi.Impl.Wheel

/-!
The ticks of a wheel that are scheduled or still summed up are those that have been received, as long as none
comes between the read and the reset in the timer's callback.
-/

namespace Midi

open Run

theorem Wheel.eq_of_action {w w' : Wheel} (h : w.action = w'.action) : w = w' := by
  cases w <;> cases w' <;> first | rfl | exact absurd h (by decide)

theorem Wheel.action_ne_of_ofAction {action : ActionId} (h : ofAction action = none) (w : Wheel)
    : action ≠ w.action := by
  unfold ofAction at h
  split at h
  . contradiction
  . split at h
    . contradiction
    . split at h
      . contradiction
      . cases w <;> assumption

-- the source whose callback is running
def TimeoutCb.source : TimeoutCb → Option (Nat × Wheel)
  | .idle => none
  | .scheduled w id _ | .cleared w id _ | .zeroed w id => some (id, w)

-- that source, if the number of the timer has been reset already
def TimeoutCb.spent : TimeoutCb → Option Nat
  | .cleared _ id _ | .zeroed _ id => some id
  | _ => none

-- that source, if the value has been reset already
def TimeoutCb.done : TimeoutCb → Option Nat
  | .zeroed _ id => some id
  | _ => none

namespace WheelState

variable {s : WheelState} {w : Wheel} {i id : Nat}

-- what an action adds to the values that are scheduled for a wheel
def scheduledBy (w : Wheel) (a : Scheduled) : Int :=
  if a.action = w.action ∧ a.mode = .relative then a.val.toInt else 0

def scheduledSum (s : WheelState) (w : Wheel) : Int :=
  (s.actions.map (scheduledBy w)).sum

-- the value that the callback has scheduled and not yet reset
def inHand (s : WheelState) (w : Wheel) : Int :=
  match s.callback with
  | .scheduled w' _ read | .cleared w' _ read => if w' = w then read.toInt else 0
  | _ => 0

-- what is still to be scheduled
def accumulated (s : WheelState) (w : Wheel) : Int :=
  (s.timer w).val.toInt - s.inHand w

def Conserved (s : WheelState) : Prop :=
  ∀ w, s.scheduledSum w + s.accumulated w = s.received w

-- The value has not changed between a thread's read and its write, and a sum that a timer has scheduled is
-- still the same at the reset.
def Undisturbed (s : WheelState) : WheelEvent → Prop
  | .thread i _ =>
    match s.thread i with
    | .loaded w v old => (s.timer w).val = old ∧ (old + v).toInt = old.toInt + v.toInt
    | _ => True
  | .callback =>
    match s.callback with
    | .cleared w _ read => (s.timer w).val = read
    | _ => True
  | _ => True

theorem val_setVal (w' : Wheel) (val : BitVec 32)
    : ((s.setVal w val).timer w').val = if w' = w then val else (s.timer w').val := by
  unfold setVal
  dsimp only
  rw [Function.update_apply]
  split <;> rfl

theorem timeout_setVal (w' : Wheel) (val : BitVec 32)
    : ((s.setVal w val).timer w').timeout = (s.timer w').timeout := by
  unfold setVal
  dsimp only
  rw [Function.update_apply]
  split
  next heq => rw [heq]
  . rfl

theorem val_setTimeout (w' : Wheel) (timeout : Nat)
    : ((s.setTimeout w timeout).timer w').val = (s.timer w').val := by
  unfold setTimeout
  dsimp only
  rw [Function.update_apply]
  split
  next heq => rw [heq]
  . rfl

theorem timeout_setTimeout (w' : Wheel) (timeout : Nat)
    : ((s.setTimeout w timeout).timer w').timeout = if w' = w then timeout else (s.timer w').timeout := by
  unfold setTimeout
  dsimp only
  rw [Function.update_apply]
  split <;> rfl

theorem received_receive (w' : Wheel) (v : BitVec 32)
    : (s.receive w v).received w' = s.received w' + if w' = w then v.toInt else 0 := by
  unfold receive
  dsimp only
  rw [Function.update_apply]
  split
  next heq => rw [heq]
  . rw [Int.add_zero]

theorem scheduledSum_scheduleAction (a : Scheduled)
    : (s.scheduleAction a).scheduledSum w = s.scheduledSum w + scheduledBy w a := by
  simp [scheduledSum, scheduleAction]

theorem accumulated_scheduleAction (a : Scheduled)
    : (s.scheduleAction a).accumulated w = s.accumulated w :=
  rfl

-- an action that is not a tick of a wheel
theorem conserved_scheduleAction {a : Scheduled} (h : ∀ w, scheduledBy w a = 0)
    : (s.scheduleAction a).Conserved ↔ s.Conserved := by
  apply forall_congr'
  intro w
  rw [scheduledSum_scheduleAction, accumulated_scheduleAction, h w, Int.add_zero]
  rfl

theorem conserved_doTheMidi (action : ActionId) (type : ActionType) (val : BitVec 32)
    : (s.doTheMidi i action type val).Conserved ↔ s.Conserved := by
  unfold doTheMidi
  split
  . apply conserved_scheduleAction
    intro w
    apply if_neg
    rintro ⟨-, hmode⟩
    split at hmode <;> contradiction
  . split
    . apply conserved_scheduleAction
      intro w
      apply if_neg
      rintro ⟨-, hmode⟩
      contradiction
    . split
      . split
        . exact Iff.rfl
        next hother =>
          apply conserved_scheduleAction
          intro w
          apply if_neg
          rintro ⟨haction, -⟩
          exact Wheel.action_ne_of_ofAction hother w haction
      . exact Iff.rfl

-- the step in which a thread adds a tick
theorem conserved_store (w : Wheel) (v old : BitVec 32) (h : s.Conserved)
    : (((s.setVal w (old + v)).receive w v).setThread i (.stored w)).Conserved
        ↔ (s.timer w).val = old ∧ (old + v).toInt = old.toInt + v.toInt := by
  have hval : ∀ w', ((((s.setVal w (old + v)).receive w v).setThread i (.stored w)).timer w').val
      = if w' = w then old + v else (s.timer w').val := fun w' => val_setVal w' (old + v)
  have hreceived : ∀ w', (((s.setVal w (old + v)).receive w v).setThread i (.stored w)).received w'
      = s.received w' + if w' = w then v.toInt else 0 :=
    fun w' => received_receive (s := s.setVal w (old + v)) w' v
  have hother : ∀ w', s.scheduledSum w' + ((s.timer w').val.toInt - s.inHand w') = s.received w' := h
  constructor
  . intro hnew
    have hnew := hnew w
    have hold := hother w
    unfold accumulated at hnew
    rw [hval, hreceived, if_pos rfl, if_pos rfl] at hnew
    have hsum : (old + v).toInt = (s.timer w).val.toInt + v.toInt := by
      have hscheduled : (((s.setVal w (old + v)).receive w v).setThread i (.stored w)).scheduledSum w
          = s.scheduledSum w := rfl
      have hhand : (((s.setVal w (old + v)).receive w v).setThread i (.stored w)).inHand w
          = s.inHand w := rfl
      omega
    have heq : (s.timer w).val = old := by
      have hwrap : BitVec.ofInt 32 (old + v).toInt = BitVec.ofInt 32 ((s.timer w).val.toInt + v.toInt) := by
        rw [hsum]
      rw [BitVec.ofInt_toInt, BitVec.ofInt_add, BitVec.ofInt_toInt, BitVec.ofInt_toInt] at hwrap
      exact (BitVec.add_left_inj v).mp hwrap.symm
    exact ⟨heq, heq ▸ hsum⟩
  . rintro ⟨heq, hsum⟩ w'
    have hold := hother w'
    unfold accumulated
    rw [hval, hreceived]
    change s.scheduledSum w' + (_ - s.inHand w') = _
    by_cases hw : w' = w
    . rw [if_pos hw, if_pos hw, hsum, ← heq, ← hw]
      omega
    . rw [if_neg hw, if_neg hw]
      omega

theorem conserved_dispatch (h : s.Conserved) : (s.dispatch id).Conserved := by
  unfold dispatch
  split
  next w hidle _ =>
    intro w'
    have hold := h w'
    have hhand : s.inHand w' = 0 := by
      unfold inHand
      rw [hidle]
    unfold accumulated at hold
    rw [hhand] at hold
    change (s.scheduleAction _).scheduledSum w' + ((s.timer w').val.toInt - _) = s.received w'
    rw [scheduledSum_scheduleAction]
    by_cases heq : w = w'
    . have hsum : scheduledBy w' ⟨w.action, .relative, (s.timer w).val⟩ = (s.timer w').val.toInt := by
        rw [heq]
        exact if_pos ⟨rfl, rfl⟩
      have hread : inHand { s.scheduleAction ⟨w.action, .relative, (s.timer w).val⟩ with
          callback := .scheduled w id (s.timer w).val } w' = (s.timer w').val.toInt := by
        rw [heq]
        exact if_pos rfl
      rw [hsum, hread]
      omega
    . have hsum : scheduledBy w' ⟨w.action, .relative, (s.timer w).val⟩ = 0 := by
        apply if_neg
        rintro ⟨haction, -⟩
        exact heq (Wheel.eq_of_action haction)
      have hread : inHand { s.scheduleAction ⟨w.action, .relative, (s.timer w).val⟩ with
          callback := .scheduled w id (s.timer w).val } w' = 0 := if_neg heq
      rw [hsum, hread]
      omega
  next => exact h

theorem conserved_setThread (t : MidiThread) : (s.setThread i t).Conserved ↔ s.Conserved :=
  Iff.rfl

theorem conserved_setTimeout (timeout : Nat) : (s.setTimeout w timeout).Conserved ↔ s.Conserved := by
  apply forall_congr'
  intro w'
  unfold accumulated
  rw [val_setTimeout]
  rfl

-- the step in which the callback resets the value
theorem conserved_zero {read : BitVec 32} (hcallback : s.callback = .cleared w id read) (h : s.Conserved)
    : ({ s.setVal w 0 with callback := .zeroed w id } : WheelState).Conserved
        ↔ (s.timer w).val = read := by
  have hhand : ∀ w', s.inHand w' = if w = w' then read.toInt else 0 := by
    intro w'
    unfold inHand
    rw [hcallback]
  have hother : ∀ w', s.scheduledSum w' + ((s.timer w').val.toInt - s.inHand w') = s.received w' := h
  have hzero : (0 : BitVec 32).toInt = 0 := rfl
  constructor
  . intro hnew
    have hnew : s.scheduledSum w + (((s.setVal w 0).timer w).val.toInt - 0) = s.received w := hnew w
    have hold := hother w
    rw [val_setVal, if_pos rfl, hzero] at hnew
    rw [hhand, if_pos rfl] at hold
    apply BitVec.eq_of_toInt_eq
    omega
  . intro heq w'
    have hold := hother w'
    rw [hhand] at hold
    change s.scheduledSum w' + (((s.setVal w 0).timer w').val.toInt - 0) = s.received w'
    rw [val_setVal]
    by_cases hw : w' = w
    . rw [hw, if_pos rfl, heq] at hold
      rw [if_pos hw, hw, hzero]
      omega
    . rw [if_neg fun hw' => hw hw'.symm] at hold
      rw [if_neg hw]
      exact hold

theorem conserved_step (h : s.Conserved) (e : WheelEvent)
    : (s.step e).Conserved ↔ s.Undisturbed e := by
  cases e with
  | doTheMidi i action type val =>
    change (if s.thread i = .idle then s.doTheMidi i action type val else s).Conserved ↔ True
    rw [iff_true]
    split
    . exact (conserved_doTheMidi action type val).mpr h
    . exact h
  | thread i id =>
    simp only [step, stepThread, Undisturbed]
    cases s.thread i with
    | idle => exact iff_of_true h trivial
    | loaded w v old => exact conserved_store w v old h
    | stored w => exact iff_of_true h trivial
    | adding w =>
      dsimp only
      split <;> exact iff_of_true h trivial
    | added w id =>
      rw [iff_true, conserved_setThread, conserved_setTimeout]
      exact h
  | dispatch id =>
    change (s.dispatch id).Conserved ↔ True
    rw [iff_true]
    exact conserved_dispatch h
  | callback =>
    simp only [step, stepCallback, Undisturbed]
    cases hcallback : s.callback with
    | idle => exact iff_of_true h trivial
    | scheduled w id read =>
      refine iff_of_true ?_ trivial
      intro w'
      have hnew := (conserved_setTimeout (w := w) 0).mpr h w'
      have hhand : (s.setTimeout w 0).inHand w' = if w = w' then read.toInt else 0 := by
        unfold inHand
        rw [setTimeout, hcallback]
      unfold accumulated at hnew
      rw [hhand] at hnew
      exact hnew
    | cleared w id read => exact conserved_zero hcallback h
    | zeroed w id =>
      refine iff_of_true ?_ trivial
      intro w'
      have hold := h w'
      have hhand : s.inHand w' = 0 := by
        unfold inHand
        rw [hcallback]
      unfold accumulated at hold
      rw [hhand] at hold
      exact hold

theorem conserved_start : start.Conserved :=
  fun _ => rfl

-- a thread that has changed the value and has not yet looked for the timer, or is about to make one
def Busy (s : WheelState) (w : Wheel) : Prop :=
  ∃ i, s.thread i = .stored w ∨ s.thread i = .adding w

def HasTimer (s : WheelState) : Prop :=
  ∀ w, s.accumulated w ≠ 0 → (∃ id, (id, w) ∈ s.sources) ∨ s.Busy w

-- A timer does not go off before its number has been stored.
def Announced (s : WheelState) : WheelEvent → Prop
  | .callback =>
    match s.callback with
    | .scheduled _ id _ => ∀ i w, s.thread i ≠ .added w id
    | _ => True
  | _ => True

structure Timed (s : WheelState) : Prop where
  nodup : (s.sources.map Prod.fst).Nodup
  served : ∀ p ∈ s.callback.source, p ∈ s.sources
  added : ∀ i w id, s.thread i = .added w id → (id, w) ∈ s.sources ∧ id ∉ s.callback.spent
  live : ∀ w, (s.timer w).timeout ≠ 0 → ∃ id, (id, w) ∈ s.sources ∧ id ∉ s.callback.spent
  kept : ∀ w, (s.timer w).val ≠ 0 → (∃ id, (id, w) ∈ s.sources ∧ id ∉ s.callback.done) ∨ s.Busy w

theorem timed_start : start.Timed := by
  constructor
  case nodup => exact List.nodup_nil
  case served => exact fun p hp => absurd hp (by simp [start, TimeoutCb.source])
  case added => exact fun i w id h => absurd h (by simp [start])
  case live => exact fun w h => absurd rfl h
  case kept => exact fun w h => absurd rfl h

namespace Timed

theorem hasTimer (h : s.Timed) : s.HasTimer := by
  intro w hne
  by_cases hval : (s.timer w).val = 0
  . -- then the callback has the value in its hand
    have hhand : s.inHand w ≠ 0 := by
      unfold accumulated at hne
      have hzero : (0 : BitVec 32).toInt = 0 := rfl
      rw [hval, hzero] at hne
      omega
    have hserved := h.served
    unfold inHand at hhand
    cases hcallback : s.callback with
    | idle | zeroed => simp [hcallback] at hhand
    | scheduled w' id read | cleared w' id read =>
      simp only [hcallback] at hhand
      split at hhand
      next heq =>
        rw [hcallback, heq] at hserved
        exact Or.inl ⟨id, hserved _ rfl⟩
      next => contradiction
  . obtain ⟨id, hmem, -⟩ | hbusy := h.kept w hval
    . exact Or.inl ⟨id, hmem⟩
    . exact Or.inr hbusy

theorem done_of_spent {c : TimeoutCb} (h : id ∉ c.spent) : id ∉ c.done := by
  cases c <;> simp_all [TimeoutCb.spent, TimeoutCb.done]

-- a thread goes on without having stored or added anything
theorem setThread {t : MidiThread} (h : s.Timed)
    (hadded : ∀ w id, t = .added w id → (id, w) ∈ s.sources ∧ id ∉ s.callback.spent)
    (hbusy : ∀ w, (s.thread i = .stored w ∨ s.thread i = .adding w) → t = .stored w ∨ t = .adding w
      ∨ ∃ id, (id, w) ∈ s.sources ∧ id ∉ s.callback.done)
    : (s.setThread i t).Timed := by
  constructor
  case nodup => exact h.nodup
  case served => exact h.served
  case added =>
    intro j w id hj
    by_cases heq : j = i
    . simp only [WheelState.setThread, heq, Function.update_self] at hj
      exact hadded w id hj
    . simp only [WheelState.setThread, Function.update_of_ne heq] at hj
      exact h.added j w id hj
  case live => exact h.live
  case kept =>
    intro w hval
    obtain hlive | ⟨j, hj⟩ := h.kept w hval
    . exact Or.inl hlive
    . by_cases heq : j = i
      . rw [heq] at hj
        obtain ht | ht | hlive := hbusy w hj
        . refine Or.inr ⟨i, Or.inl ?_⟩
          simp only [WheelState.setThread, Function.update_self, ht]
        . refine Or.inr ⟨i, Or.inr ?_⟩
          simp only [WheelState.setThread, Function.update_self, ht]
        . exact Or.inl hlive
      . refine Or.inr ⟨j, ?_⟩
        simp only [WheelState.setThread, Function.update_of_ne heq]
        exact hj

theorem scheduleAction (h : s.Timed) (a : Scheduled) : (s.scheduleAction a).Timed :=
  ⟨h.nodup, h.served, h.added, h.live, h.kept⟩

theorem doTheMidi (h : s.Timed) (hidle : s.thread i = .idle) (action : ActionId) (type : ActionType)
    (val : BitVec 32) : (s.doTheMidi i action type val).Timed := by
  unfold WheelState.doTheMidi
  split
  . exact h.scheduleAction _
  . split
    . exact h.scheduleAction _
    . split
      . split
        . apply h.setThread
          . intro w id ht
            contradiction
          . intro w hbusy
            simp [hidle] at hbusy
        . exact h.scheduleAction _
      . exact h

-- the value of a timer is changed, and the thread has to see that there is a source
theorem store (h : s.Timed) {w : Wheel} {v old : BitVec 32} (hi : s.thread i = .loaded w v old)
    : (((s.setVal w (old + v)).receive w v).setThread i (.stored w)).Timed := by
  constructor
  case nodup => exact h.nodup
  case served => exact h.served
  case added =>
    intro j w' id hj
    by_cases heq : j = i
    . simp [WheelState.setThread, heq] at hj
    . simp only [WheelState.setThread, Function.update_of_ne heq] at hj
      exact h.added j w' id hj
  case live =>
    intro w' htimeout
    change ((s.setVal w (old + v)).timer w').timeout ≠ 0 at htimeout
    rw [timeout_setVal] at htimeout
    exact h.live w' htimeout
  case kept =>
    intro w' hval
    by_cases heq : w' = w
    . rw [heq]
      refine Or.inr ⟨i, Or.inl ?_⟩
      simp [WheelState.setThread]
    . have hold : ((s.setVal w (old + v)).timer w').val ≠ 0 := hval
      rw [val_setVal, if_neg heq] at hold
      obtain hlive | ⟨j, hj⟩ := h.kept w' hold
      . exact Or.inl hlive
      . refine Or.inr ⟨j, ?_⟩
        have hne : j ≠ i := by
          rintro rfl
          simp [hi] at hj
        simpa [WheelState.setThread, receive, setVal, hne] using hj

-- `g_timeout_add` makes a source
theorem add (h : s.Timed) (w : Wheel) (hid : id ∉ s.sources.map Prod.fst)
    : ({ s with sources := (id, w) :: s.sources } : WheelState).Timed := by
  constructor
  case nodup =>
    rw [List.map_cons, List.nodup_cons]
    exact ⟨hid, h.nodup⟩
  case served => exact fun p hp => List.mem_cons_of_mem _ (h.served p hp)
  case added =>
    intro j w' id' hj
    obtain ⟨hmem, hspent⟩ := h.added j w' id' hj
    exact ⟨List.mem_cons_of_mem _ hmem, hspent⟩
  case live =>
    intro w' htimeout
    obtain ⟨id', hmem, hspent⟩ := h.live w' htimeout
    exact ⟨id', List.mem_cons_of_mem _ hmem, hspent⟩
  case kept =>
    intro w' hval
    obtain ⟨id', hmem, hdone⟩ | hbusy := h.kept w' hval
    . exact Or.inl ⟨id', List.mem_cons_of_mem _ hmem, hdone⟩
    . exact Or.inr hbusy

-- a new number is not that of the source whose callback is running
theorem not_spent (h : s.Timed) (hid : id ∉ s.sources.map Prod.fst) : id ∉ s.callback.spent := by
  intro hspent
  have hserved := h.served
  cases hcallback : s.callback with
  | idle | scheduled => simp [hcallback, TimeoutCb.spent] at hspent
  | cleared w id' read | zeroed w id' =>
    rw [hcallback] at hspent hserved
    obtain rfl := Option.some.inj hspent
    exact hid (List.mem_map_of_mem (hserved _ rfl))

-- the number of a source is stored
theorem announce (h : s.Timed) (hi : s.thread i = .added w id) : (s.setTimeout w id).Timed := by
  constructor
  case nodup => exact h.nodup
  case served => exact h.served
  case added => exact h.added
  case live =>
    intro w' htimeout
    by_cases heq : w' = w
    . rw [heq]
      exact ⟨id, h.added i w id hi⟩
    . rw [timeout_setTimeout, if_neg heq] at htimeout
      exact h.live w' htimeout
  case kept =>
    intro w' hval
    rw [val_setTimeout] at hval
    exact h.kept w' hval

theorem stepThread (h : s.Timed) (i id : Nat) : (s.stepThread i id).Timed := by
  unfold WheelState.stepThread
  cases hi : s.thread i with
  | idle => exact h
  | loaded w v old => exact h.store hi
  | stored w =>
    apply h.setThread
    . intro w' id' ht
      split at ht <;> contradiction
    . intro w' hbusy
      have hw : w = w' := by simpa [hi] using hbusy
      by_cases htimeout : (s.timer w).timeout = 0
      . rw [if_pos htimeout, hw]
        exact Or.inr (Or.inl rfl)
      . obtain ⟨id', hmem, hspent⟩ := h.live w htimeout
        rw [hw] at hmem
        exact Or.inr (Or.inr ⟨id', hmem, done_of_spent hspent⟩)
  | adding w =>
    dsimp only
    split
    . exact h
    next hnew =>
      rw [not_or] at hnew
      have hspent := h.not_spent hnew.2
      apply (h.add w hnew.2).setThread
      . intro w' id' ht
        obtain ⟨rfl, rfl⟩ := MidiThread.added.inj ht
        exact ⟨List.mem_cons_self, hspent⟩
      . intro w' hbusy
        have hw : w = w' := by simpa [hi] using hbusy
        rw [← hw]
        exact Or.inr (Or.inr ⟨id, List.mem_cons_self, done_of_spent hspent⟩)
  | added w id' =>
    apply (h.announce hi).setThread
    . intro w' id' ht
      contradiction
    . intro w' hbusy
      simp [setTimeout, hi] at hbusy

theorem dispatch (h : s.Timed) (id : Nat) : (s.dispatch id).Timed := by
  unfold WheelState.dispatch
  split
  next w hidle hlookup =>
    have hkept := h.kept
    have hadded := h.added
    have hlive := h.live
    rw [hidle] at hkept hadded hlive
    constructor
    case nodup => exact h.nodup
    case served =>
      intro p hp
      obtain rfl := Option.some.inj hp
      obtain ⟨l, l', heq, -⟩ := List.lookup_eq_some_iff.mp hlookup
      change (id, w) ∈ s.sources
      rw [heq]
      exact List.mem_append_right l List.mem_cons_self
    case added => exact hadded
    case live => exact hlive
    case kept => exact hkept
  next => exact h

-- the callback resets the number of the timer
theorem clear {read : BitVec 32} (h : s.Timed) (hcallback : s.callback = .scheduled w id read)
    (hannounced : ∀ i w', s.thread i ≠ .added w' id)
    : ({ s.setTimeout w 0 with callback := .cleared w id read } : WheelState).Timed := by
  have hserved := h.served
  rw [hcallback] at hserved
  constructor
  case nodup => exact h.nodup
  case served => exact hserved
  case added =>
    intro i w' id' hi
    obtain ⟨hmem, -⟩ := h.added i w' id' hi
    refine ⟨hmem, ?_⟩
    intro hspent
    obtain rfl := Option.some.inj hspent
    exact hannounced i w' hi
  case live =>
    intro w' htimeout
    change ((s.setTimeout w 0).timer w').timeout ≠ 0 at htimeout
    rw [timeout_setTimeout, Ne, ite_eq_left_iff, Classical.not_imp] at htimeout
    obtain ⟨hne, hold⟩ := htimeout
    obtain ⟨id', hmem, -⟩ := h.live w' hold
    refine ⟨id', hmem, ?_⟩
    intro hspent
    obtain rfl := Option.some.inj hspent
    -- another source has another number
    have heq := List.inj_on_of_nodup_map h.nodup hmem (hserved _ rfl) rfl
    exact hne (Prod.ext_iff.mp heq).2
  case kept =>
    intro w' hval
    change ((s.setTimeout w 0).timer w').val ≠ 0 at hval
    rw [val_setTimeout] at hval
    have hkept := h.kept w' hval
    rw [hcallback] at hkept
    exact hkept

-- the callback resets the value
theorem zero {read : BitVec 32} (h : s.Timed) (hcallback : s.callback = .cleared w id read)
    : ({ s.setVal w 0 with callback := .zeroed w id } : WheelState).Timed := by
  have hserved := h.served
  have hadded := h.added
  have hlive := h.live
  rw [hcallback] at hserved hadded hlive
  constructor
  case nodup => exact h.nodup
  case served => exact hserved
  case added => exact hadded
  case live =>
    intro w' htimeout
    change ((s.setVal w 0).timer w').timeout ≠ 0 at htimeout
    rw [timeout_setVal] at htimeout
    exact hlive w' htimeout
  case kept =>
    intro w' hval
    change ((s.setVal w 0).timer w').val ≠ 0 at hval
    rw [val_setVal, Ne, ite_eq_left_iff, Classical.not_imp] at hval
    obtain ⟨hne, hold⟩ := hval
    obtain ⟨id', hmem, -⟩ | hbusy := h.kept w' hold
    . refine Or.inl ⟨id', hmem, ?_⟩
      intro hdone
      obtain rfl := Option.some.inj hdone
      have heq := List.inj_on_of_nodup_map h.nodup hmem (hserved _ rfl) rfl
      exact hne (Prod.ext_iff.mp heq).2
    . exact Or.inr hbusy

-- the source is gone
theorem finish (h : s.Timed) (hcallback : s.callback = .zeroed w id)
    : ({ s with sources := s.sources.filter fun p => p.1 ≠ id, callback := .idle } : WheelState).Timed := by
  have hadded := h.added
  have hlive := h.live
  have hkept := h.kept
  rw [hcallback] at hadded hlive hkept
  have hmem : ∀ w' id', (id', w') ∈ s.sources → id' ∉ some id →
      (id', w') ∈ s.sources.filter fun p => p.1 ≠ id := by
    intro w' id' hmem hne
    refine List.mem_filter.mpr ⟨hmem, ?_⟩
    rw [decide_eq_true_eq]
    rintro rfl
    exact hne rfl
  constructor
  case nodup => exact h.nodup.sublist (List.filter_sublist.map Prod.fst)
  case served =>
    intro p hp
    contradiction
  case added =>
    intro i w' id' hi
    obtain ⟨hold, hspent⟩ := hadded i w' id' hi
    exact ⟨hmem w' id' hold hspent, Option.not_mem_none _⟩
  case live =>
    intro w' htimeout
    obtain ⟨id', hold, hspent⟩ := hlive w' htimeout
    exact ⟨id', hmem w' id' hold hspent, Option.not_mem_none _⟩
  case kept =>
    intro w' hval
    obtain ⟨id', hold, hdone⟩ | hbusy := hkept w' hval
    . exact Or.inl ⟨id', hmem w' id' hold hdone, Option.not_mem_none _⟩
    . exact Or.inr hbusy

theorem step (h : s.Timed) (e : WheelEvent) (hannounced : s.Announced e) : (s.step e).Timed := by
  cases e with
  | doTheMidi i action type val =>
    change (if s.thread i = .idle then s.doTheMidi i action type val else s).Timed
    split
    next hidle => exact h.doTheMidi hidle action type val
    next => exact h
  | thread i id => exact h.stepThread i id
  | dispatch id => exact h.dispatch id
  | callback =>
    change s.stepCallback.Timed
    unfold Announced at hannounced
    unfold stepCallback
    cases hcallback : s.callback with
    | idle => exact h
    | scheduled w id read =>
      rw [hcallback] at hannounced
      exact h.clear hcallback hannounced
    | cleared w id read => exact h.zero hcallback
    | zeroed w id => exact h.finish hcallback

end Timed

-- The ticks are conserved up to each point of a run exactly if none of them comes at a bad time, and as long as
-- no timer goes off too early, what is summed up has a timer.
theorem conserved_exec (es : List WheelEvent)
    : ((∀ es', es' <+: es → (exec step start es').Conserved) ↔ Along step Undisturbed start es)
        ∧ (Along step Announced start es → ∀ es', es' <+: es → (exec step start es').HasTimer) := by
  constructor
  . exact forall_prefix_iff_along (I := Conserved) (fun s e h => conserved_step h e) conserved_start es
  . intro halong es' hpre
    obtain ⟨post, rfl⟩ := hpre
    rw [along_append] at halong
    have htimed := exec_invariant (I := Timed) (fun s e h ha => h.step e ha) timed_start halong.1
    exact htimed.hasTimer

-- a tick that comes when the timer's callback has just read the value
def lostTick : List WheelEvent :=
  [.doTheMidi 0 190 atEnc 1, .thread 0 0, .thread 0 0, .thread 0 1, .thread 0 0, .dispatch 1,
    .doTheMidi 0 190 atEnc 1, .thread 0 0, .thread 0 0, .callback, .callback]

theorem not_conserved_lostTick : ¬(exec step start lostTick).Conserved := by
  intro h
  exact absurd (h .vfo) (by decide)

end WheelState

end Midi
