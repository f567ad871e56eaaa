import Mathlib.Logic.Function.Basic
import Mathlib.Data.List.Basic
import Mathlib.Tactic.SplitIfs

/-!
A record as a function of its fields, and the assignment of a list of fields from one record to
another.
-/

namespace Assign

variable {ι : Type} [DecidableEq ι] {V : ι → Type}

def assign (fs : List ι) (src dst : (i : ι) → V i) : (i : ι) → V i :=
  fun i => if i ∈ fs then src i else dst i

variable {fs : List ι} {src dst : (i : ι) → V i} {i : ι}

theorem assign_of_mem (h : i ∈ fs) : assign fs src dst i = src i :=
  if_pos h

theorem assign_of_not_mem (h : i ∉ fs) : assign fs src dst i = dst i :=
  if_neg h

theorem assign_self (h : ∀ i ∈ fs, src i = dst i) : assign fs src dst = dst := by
  funext i
  by_cases hi : i ∈ fs
  . rw [assign_of_mem hi, h i hi]
  . rw [assign_of_not_mem hi]

theorem assign_eq_iff : assign fs src dst = dst ↔ ∀ i ∈ fs, src i = dst i := by
  constructor
  . intro h i hi
    rw [← congrFun h i, assign_of_mem hi]
  . exact assign_self

end Assign

/-!
Association lists in which a key stands at most once: a new value takes the place of the old one, and a
new key is put in front.
-/

namespace Assoc

variable {κ ν : Type} [DecidableEq κ]

def get : List (κ × ν) → κ → Option ν
  | [], _ => none
  | (k', v) :: l, k => if k' = k then some v else get l k

def replace : List (κ × ν) → κ → ν → List (κ × ν)
  | [], _, _ => []
  | (k', v') :: l, k, v => if k' = k then (k', v) :: l else (k', v') :: replace l k v

def set (l : List (κ × ν)) (k : κ) (v : ν) : List (κ × ν) :=
  if k ∈ l.map Prod.fst then replace l k v else (k, v) :: l

variable (l : List (κ × ν)) (k : κ) (v : ν)

@[simp]
theorem keys_replace : (replace l k v).map Prod.fst = l.map Prod.fst := by
  induction l with
  | nil => rfl
  | cons p l ih =>
    rw [replace]
    split
    . rfl
    . rw [List.map_cons, List.map_cons, ih]

theorem get_replace_self (h : k ∈ l.map Prod.fst) : get (replace l k v) k = some v := by
  induction l with
  | nil => contradiction
  | cons p l ih =>
    rw [replace]
    split
    next hp => rw [get, if_pos hp]
    next hp =>
      rw [get, if_neg hp]
      apply ih
      rw [List.map_cons, List.mem_cons] at h
      cases h with
      | inl h => exact absurd h.symm hp
      | inr h => exact h

theorem get_replace_of_ne {k' : κ} (h : k' ≠ k) : get (replace l k v) k' = get l k' := by
  induction l with
  | nil => rfl
  | cons p l ih =>
    rw [replace]
    split
    next hp =>
      have hne : p.1 ≠ k' := by
        rw [hp]
        exact h.symm
      rw [get, get, if_neg hne, if_neg hne]
    next => rw [get, get, ih]

theorem get_set (k' : κ) : get (set l k v) k' = if k' = k then some v else get l k' := by
  by_cases hk : k' = k
  . subst hk
    rw [if_pos rfl, set]
    split
    next h => exact get_replace_self l k' v h
    next => rw [get, if_pos rfl]
  . rw [if_neg hk, set]
    split
    . exact get_replace_of_ne l k v hk
    . rw [get, if_neg (Ne.symm hk)]

theorem nodup_keys_set (h : (l.map Prod.fst).Nodup) : ((set l k v).map Prod.fst).Nodup := by
  unfold set
  split
  next => rwa [keys_replace]
  next hk => exact List.nodup_cons.mpr ⟨hk, h⟩

-- each pair is the new one or was there before
theorem mem_set {p : κ × ν} (h : p ∈ set l k v) : p = (k, v) ∨ p ∈ l := by
  unfold set at h
  split at h
  . clear * - h
    induction l with
    | nil => contradiction
    | cons q l ih =>
      rw [replace] at h
      split at h
      next hq =>
        rw [List.mem_cons] at h
        cases h with
        | inl h => exact .inl (by rw [h, hq])
        | inr h => exact .inr (List.mem_cons_of_mem q h)
      next =>
        rw [List.mem_cons] at h
        cases h with
        | inl h => exact .inr (by rw [h]; exact List.mem_cons_self)
        | inr h =>
          cases ih h with
          | inl h => exact .inl h
          | inr h => exact .inr (List.mem_cons_of_mem q h)
  . exact List.mem_cons.mp h

variable {l k v}

theorem mem_of_get (h : get l k = some v) : (k, v) ∈ l := by
  induction l with
  | nil => contradiction
  | cons p l ih =>
    rw [get] at h
    split at h
    next hp =>
      rw [Option.some.injEq] at h
      subst hp h
      exact List.mem_cons_self
    next => exact List.mem_cons_of_mem p (ih h)

-- a key that stands once has the value that it stands with
theorem get_eq_some_iff (h : (l.map Prod.fst).Nodup) : get l k = some v ↔ (k, v) ∈ l := by
  constructor
  . exact mem_of_get
  . intro hmem
    induction l with
    | nil => contradiction
    | cons p l ih =>
      rw [List.map_cons, List.nodup_cons] at h
      rw [get]
      rw [List.mem_cons] at hmem
      cases hmem with
      | inl heq =>
        subst heq
        exact if_pos rfl
      | inr hmem =>
        have hkey : k ∈ l.map Prod.fst := List.mem_map_of_mem (f := Prod.fst) hmem
        have hne : p.1 ≠ k := by
          intro heq
          rw [heq] at h
          exact h.1 hkey
        rw [if_neg hne]
        exact ih h.2 hmem

end Assoc

/-!
A table with `n` entries as a part of a memory that goes on outside of it.
-/

namespace Table

variable {α : Type}

-- the indices of a table
def Has (n i : Int) : Prop :=
  0 ≤ i ∧ i < n

instance (n i : Int) : Decidable (Has n i) :=
  inferInstanceAs (Decidable (_ ∧ _))

/--
The table of the memory `f` with the memory `g` around it.
-/
def within (n : Int) (f g : Int → α) (i : Int) : α :=
  if Has n i then f i else g i

variable {n i : Int}

theorem within_of_has (h : Has n i) (f g : Int → α) : within n f g i = f i :=
  if_pos h

theorem within_of_not_has (h : ¬ Has n i) (f g : Int → α) : within n f g i = g i :=
  if_neg h

theorem update_within (h : Has n i) (f g : Int → α) (x : α)
    : Function.update (within n f g) i x = within n (Function.update f i x) g := by
  funext j
  unfold within
  by_cases hj : j = i
  . rw [hj, Function.update_self, if_pos h, Function.update_self]
  . rw [Function.update_of_ne hj, Function.update_of_ne hj]

-- a table of tables
def within₂ (n m : Int) (f g : Int → Int → α) : Int → Int → α :=
  within n (fun i => within m (f i) (g i)) g

theorem within₂_of_has {m j : Int} (hi : Has n i) (hj : Has m j) (f g : Int → Int → α)
    : within₂ n m f g i j = f i j := by
  rw [within₂, within_of_has hi, within_of_has hj]

theorem update_within₂ {m j : Int} (hi : Has n i) (hj : Has m j) (f g : Int → Int → α) (x : α)
    : Function.update (within₂ n m f g) i (Function.update (within₂ n m f g i) j x)
        = within₂ n m (Function.update f i (Function.update (f i) j x)) g := by
  unfold within₂
  rw [update_within hi, within_of_has hi, update_within hj]
  congr 1
  funext k
  by_cases hk : k = i
  . rw [hk, Function.update_self, Function.update_self]
  . rw [Function.update_of_ne hk, Function.update_of_ne hk]

end Table

section

/-!
The first element with a property behind a given one, in an order that a successor function goes
through, such as the cyclic order of the indices of an array.
-/

variable {α : Type}

-- `c` is the first element behind `b` with the property `P`
inductive FirstAfter (next : α → α) (P : α → Prop) : α → α → Prop where
  | here {b : α} (h : P (next b)) : FirstAfter next P b (next b)
  | skip {b c : α} (h : ¬P (next b)) (rest : FirstAfter next P (next b) c) : FirstAfter next P b c

namespace FirstAfter

variable {next : α → α} {P Q : α → Prop} {b c d : α}

theorem unique (hc : FirstAfter next P b c) (hd : FirstAfter next P b d) : c = d := by
  induction hc with
  | here h =>
    cases hd with
    | here => rfl
    | skip hnot => exact absurd h hnot
  | skip hnot _ ih =>
    cases hd with
    | here h => exact absurd h hnot
    | skip _ rest => exact ih rest

end FirstAfter

end
