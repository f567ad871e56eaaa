import Mathlib.Logic.Relation
import Mathlib.Data.List.Basic

/-!
Runs of a deterministic machine: a step function folded over a list of events, what holds along
such a run and how an invariant of the steps is carried to the whole run.
-/

namespace Run

variable {σ τ ε : Type}

def exec (step : σ → ε → σ) (s : σ) (es : List ε) : σ :=
  es.foldl step s

/--
`P` holds of every step of the run from `s` by `es`: of the state before it and its event.
-/
def Along (step : σ → ε → σ) (P : σ → ε → Prop) : σ → List ε → Prop
  | _, [] => True
  | s, e :: es => P s e ∧ Along step P (step s e) es

-- `P` holds of some step of the run.
def Sometime (step : σ → ε → σ) (P : σ → ε → Prop) : σ → List ε → Prop
  | _, [] => False
  | s, e :: es => P s e ∨ Sometime step P (step s e) es

-- `I` holds up to the end of the run, but not there.
def Lasts (step : σ → ε → σ) (I : σ → Prop) : σ → List ε → Prop
  | s, [] => ¬I s
  | s, e :: es => I s ∧ Lasts step I (step s e) es

variable {step : σ → ε → σ} {P Q : σ → ε → Prop} {I : σ → Prop}

@[simp]
theorem exec_nil (s : σ) : exec step s [] = s := rfl

@[simp]
theorem exec_cons (s : σ) (e : ε) (es : List ε)
    : exec step s (e :: es) = exec step (step s e) es := rfl

@[simp]
theorem exec_append (s : σ) (es fs : List ε)
    : exec step s (es ++ fs) = exec step (exec step s es) fs := by
  simp [exec]

@[simp]
theorem along_nil (s : σ) : Along step P s [] := trivial

@[simp]
theorem along_cons (s : σ) (e : ε) (es : List ε)
    : Along step P s (e :: es) ↔ P s e ∧ Along step P (step s e) es := Iff.rfl

@[simp]
theorem sometime_nil (s : σ) : ¬Sometime step P s [] := id

@[simp]
theorem sometime_cons (s : σ) (e : ε) (es : List ε)
    : Sometime step P s (e :: es) ↔ P s e ∨ Sometime step P (step s e) es := Iff.rfl

theorem not_sometime_of_along (h : ∀ s e, P s e → ¬Q s e) {s : σ} {es : List ε}
    (hes : Along step P s es)
    : ¬Sometime step Q s es := by
  induction es generalizing s with
  | nil => exact id
  | cons e es ih =>
    rw [sometime_cons, not_or]
    exact ⟨h s e hes.1, ih hes.2⟩

@[simp]
theorem lasts_cons (s : σ) (e : ε) (es : List ε)
    : Lasts step I s (e :: es) ↔ I s ∧ Lasts step I (step s e) es := Iff.rfl

theorem Lasts.eq_nil {s : σ} {es : List ε} (h : Lasts step I s es) (hs : ¬I s) : es = [] := by
  cases es with
  | nil => rfl
  | cons e es => exact absurd h.1 hs

theorem along_append (s : σ) (es fs : List ε)
    : Along step P s (es ++ fs) ↔ Along step P s es ∧ Along step P (exec step s es) fs := by
  induction es generalizing s with
  | nil => simp
  | cons e es ih => simp [ih, and_assoc]

theorem exec_invariant (hstep : ∀ s e, I s → P s e → I (step s e)) {s : σ} {es : List ε}
    (hs : I s) (hes : Along step P s es)
    : I (exec step s es) := by
  induction es generalizing s with
  | nil => exact hs
  | cons e es ih => exact ih (hstep s e hs hes.1) hes.2

theorem along_of_invariant (hstep : ∀ s e, I s → P s e → I (step s e))
    (hQ : ∀ s e, I s → P s e → Q s e) {s : σ} {es : List ε}
    (hs : I s) (hes : Along step P s es)
    : Along step Q s es := by
  induction es generalizing s with
  | nil => exact trivial
  | cons e es ih => exact ⟨hQ s e hs hes.1, ih (hstep s e hs hes.1) hes.2⟩

-- In runs that keep the invariant, two properties of the steps are the same if each step has both or none.
theorem along_congr_of_invariant {R : σ → ε → Prop} (hstep : ∀ s e, I s → P s e → I (step s e))
    (h : ∀ s e, I s → P s e → (Q s e ↔ R s e)) {s : σ} {es : List ε}
    (hs : I s) (hes : Along step P s es)
    : Along step Q s es ↔ Along step R s es := by
  induction es generalizing s with
  | nil => exact Iff.rfl
  | cons e es ih => rw [along_cons, along_cons, h s e hs hes.1, ih (hstep s e hs hes.1) hes.2]

theorem Along.mono (h : ∀ s e, P s e → Q s e) {s : σ} {es : List ε} (hes : Along step P s es)
    : Along step Q s es := by
  induction es generalizing s with
  | nil => exact trivial
  | cons e es ih => exact ⟨h s e hes.1, ih hes.2⟩

theorem Along.at {s : σ} {pre post : List ε} {e : ε} (h : Along step P s (pre ++ e :: post))
    : P (exec step s pre) e := by
  rw [along_append] at h
  exact h.2.1

-- Where the invariant `I` is kept by `P`, and `J`, which follows from `I`, needs `P` in each step.
theorem forall_prefix_iff_along_of {J : σ → Prop} (hkeep : ∀ s e, I s → P s e → I (step s e))
    (hneed : ∀ s e, I s → J (step s e) → P s e) (hJ : ∀ s, I s → J s) {s : σ} (hs : I s)
    (es : List ε)
    : (∀ es', es' <+: es → J (exec step s es')) ↔ Along step P s es := by
  constructor
  . intro h
    induction es generalizing s with
    | nil => exact trivial
    | cons e es ih =>
      have hP := hneed s e hs (h [e] (List.prefix_append [e] es))
      refine ⟨hP, ih (hkeep s e hs hP) ?_⟩
      intro es' hpre
      exact h (e :: es') (List.cons_prefix_cons.mpr ⟨rfl, hpre⟩)
  . intro h es' hpre
    have ⟨post, hpost⟩ := hpre
    rw [← hpost, along_append] at h
    apply hJ
    exact exec_invariant hkeep hs h.1

-- Where each step keeps the invariant exactly if `P` holds of it, so does a whole run.
theorem forall_prefix_iff_along (hstep : ∀ s e, I s → (I (step s e) ↔ P s e)) {s : σ}
    (hs : I s) (es : List ε)
    : (∀ es', es' <+: es → I (exec step s es')) ↔ Along step P s es :=
  forall_prefix_iff_along_of (fun s e hI => (hstep s e hI).mpr) (fun s e hI => (hstep s e hI).mp)
    (fun _ hI => hI) hs es

theorem along_of_forall_mem {p : ε → Prop} {es : List ε} (h : ∀ e ∈ es, p e) (s : σ)
    : Along step (fun _ e => p e) s es := by
  induction es generalizing s with
  | nil => trivial
  | cons e es ih =>
    refine ⟨h e List.mem_cons_self, ?_⟩
    apply ih
    intro e' he'
    exact h e' (List.mem_cons_of_mem e he')

theorem along_true (s : σ) (es : List ε) : Along step (fun _ _ => True) s es := by
  induction es generalizing s with
  | nil => trivial
  | cons e es ih => exact ⟨trivial, ih _⟩

-- What holds after certain events, and else is as it was before, holds if there was such an event.
theorem exec_iff_or_exists {J : σ → Prop} {p : ε → Prop} (hset : ∀ s e, p e → J (step s e))
    (hkeep : ∀ s e, ¬ p e → (J (step s e) ↔ J s)) (s : σ) (es : List ε)
    : J (exec step s es) ↔ J s ∨ ∃ e ∈ es, p e := by
  induction es generalizing s with
  | nil => simp
  | cons e es ih =>
    rw [exec_cons, ih, List.exists_mem_cons_iff]
    by_cases he : p e
    . simp only [hset s e he, he, true_or, or_true]
    . rw [hkeep s e he]
      simp only [he, false_or]

-- A rank that the events counted lower, and no event raises, leads to the goal before they run out.
theorem exists_prefix_of_rank (goal : σ → Prop) (rank : σ → Nat) (counted : ε → Bool)
    (hstep : ∀ s e, I s → P s e → I (step s e)) (hpos : ∀ s, I s → ¬ goal s → 0 < rank s)
    (hrank : ∀ s e, I s → P s e → ¬ goal s → ¬ goal (step s e) →
      rank (step s e) + (if counted e then 1 else 0) ≤ rank s)
    {s : σ} {es : List ε} (hs : I s) (hes : Along step P s es) (hlen : rank s ≤ es.countP counted)
    : ∃ es', es' <+: es ∧ goal (exec step s es') := by
  induction es generalizing s with
  | nil =>
    by_cases hg : goal s
    . exact ⟨[], List.nil_prefix, hg⟩
    . have := hpos s hs hg
      rw [List.countP_nil] at hlen
      omega
  | cons e es ih =>
    by_cases hg : goal s
    . exact ⟨[], List.nil_prefix, hg⟩
    . by_cases hg' : goal (step s e)
      . exact ⟨[e], List.prefix_append [e] es, hg'⟩
      . have hle := hrank s e hs hes.1 hg hg'
        rw [List.countP_cons] at hlen
        have ⟨es', hpre, hgoal⟩ := ih (hstep s e hs hes.1) hes.2 (by omega)
        exact ⟨e :: es', List.cons_prefix_cons.mpr ⟨rfl, hpre⟩, hgoal⟩

instance [∀ s e, Decidable (P s e)] : ∀ (s : σ) (es : List ε), Decidable (Along step P s es)
  | _, [] => isTrue trivial
  | s, e :: es =>
    have : Decidable (Along step P (step s e) es) := instDecidableAlong (step s e) es
    inferInstanceAs (Decidable (P s e ∧ Along step P (step s e) es))

instance [∀ s e, Decidable (P s e)]
    : ∀ (s : σ) (es : List ε), Decidable (Sometime step P s es)
  | _, [] => isFalse id
  | s, e :: es =>
    have : Decidable (Sometime step P (step s e) es) := instDecidableSometime (step s e) es
    inferInstanceAs (Decidable (P s e ∨ Sometime step P (step s e) es))

instance [∀ s, Decidable (I s)] : ∀ (s : σ) (es : List ε), Decidable (Lasts step I s es)
  | s, [] => inferInstanceAs (Decidable (¬I s))
  | s, e :: es =>
    have : Decidable (Lasts step I (step s e) es) := instDecidableLasts (step s e) es
    inferInstanceAs (Decidable (I s ∧ Lasts step I (step s e) es))

end Run
