import Mathlib.Data.List.Basic
import Mathlib.Data.List.Nodup
import Mathlib.Logic.Function.Basic

/-!
Singly linked lists: the cells that are reached from a pointer by following the pointers to the next cell.
-/

namespace Links

variable {α : Type} {next next' : α → Option α} {p : Option α} {a last : α} {l : List α}

def Chain (next : α → Option α) : Option α → List α → Prop
  | p, [] => p = none
  | p, a :: l => p = some a ∧ Chain next (next a) l

@[simp]
theorem chain_nil : Chain next p [] ↔ p = none :=
  Iff.rfl

@[simp]
theorem chain_cons : Chain next p (a :: l) ↔ p = some a ∧ Chain next (next a) l :=
  Iff.rfl

namespace Chain

-- what is stored in other cells does not matter
theorem congr (h : Chain next p l) (heq : ∀ a ∈ l, next' a = next a) : Chain next' p l := by
  induction l generalizing p with
  | nil => exact h
  | cons a l ih =>
    obtain ⟨hp, htail⟩ := h
    refine ⟨hp, ?_⟩
    rw [heq a List.mem_cons_self]
    exact ih htail fun b hb => heq b (List.mem_cons_of_mem a hb)

theorem eq_nil (h : Chain next none l) : l = [] := by
  cases l with
  | nil => rfl
  | cons a l => exact absurd h.1 (by simp)

theorem head_mem (h : Chain next (some a) l) : a ∈ l := by
  cases l with
  | nil => exact absurd h (by simp)
  | cons b l =>
    obtain rfl := Option.some.inj h.1
    exact List.mem_cons_self

variable [DecidableEq α]

-- the last cell gets a pointer to a new one
theorem concat (h : Chain next p (l ++ [last])) (hnd : (l ++ [last]).Nodup) (hnew : a ∉ l ++ [last])
    (hnext : next a = none)
    : Chain (Function.update next last (some a)) p (l ++ [last] ++ [a]) := by
  induction l generalizing p with
  | nil =>
    obtain ⟨hp, -⟩ := h
    have hne : a ≠ last := fun heq => hnew (by simp [heq])
    simp [hp, hne, hnext]
  | cons b l ih =>
    obtain ⟨hp, htail⟩ := h
    have hne : b ≠ last := by
      rintro rfl
      simp at hnd
    refine ⟨hp, ?_⟩
    rw [Function.update_of_ne hne]
    exact ih htail hnd.of_cons fun hmem => hnew (List.mem_cons_of_mem b hmem)

end Chain

end Links
