import Mathlib.Data.List.Basic
import Mathlib.Data.Nat.ModEq
import Mathlib.Tactic.SplitIfs

/-!
Index arithmetic of a ring of `N` slots with a write index `inp` and a read index `out`, where one
slot always stays unused.
-/

namespace Ring

def next (N i : Nat) : Nat := (i + 1) % N

def slot (N out k : Nat) : Nat := (out + k) % N

def fill (N inp out : Nat) : Nat := (inp + N - out) % N

variable {N inp out : Nat}

theorem next_lt (hN : 0 < N) (i : Nat) : next N i < N := Nat.mod_lt _ hN

theorem next_eq_ite (h : inp < N) : next N inp = if inp + 1 ≥ N then 0 else inp + 1 := by
  unfold next
  split
  . have : inp + 1 = N := by omega
    simp [this]
  . apply Nat.mod_eq_of_lt
    omega

theorem slot_lt (hN : 0 < N) (out k : Nat) : slot N out k < N := Nat.mod_lt _ hN

theorem slot_eq_ite {k : Nat} (hout : out < N) (hk : k ≤ N)
    : slot N out k = if out + k < N then out + k else out + k - N := by
  unfold slot
  split
  . apply Nat.mod_eq_of_lt
    assumption
  . rw [Nat.mod_eq_sub_mod (by omega)]
    apply Nat.mod_eq_of_lt
    omega

@[simp]
theorem slot_zero (hout : out < N) : slot N out 0 = out := by
  simp [slot, Nat.mod_eq_of_lt hout]

theorem slot_succ (out k : Nat) : slot N out (k + 1) = slot N (next N out) k := by
  simp only [slot, next, Nat.mod_add_mod]
  congr 1
  omega

theorem next_slot (out k : Nat) : next N (slot N out k) = slot N out (k + 1) := by
  simp only [slot, next, Nat.mod_add_mod, Nat.add_assoc]

theorem slot_injective {j k : Nat} (hout : out < N) (hj : j < N) (hk : k < N)
    (h : slot N out j = slot N out k)
    : j = k := by
  rw [slot_eq_ite hout (by omega), slot_eq_ite hout (by omega)] at h
  split at h <;> split at h <;> omega

theorem fill_lt (hN : 0 < N) (inp out : Nat) : fill N inp out < N := Nat.mod_lt _ hN

theorem fill_eq_ite (hinp : inp < N) (hout : out < N)
    : fill N inp out = if out ≤ inp then inp - out else inp + N - out := by
  unfold fill
  split
  . have : inp + N - out = inp - out + N := by omega
    rw [this, Nat.add_mod_right]
    apply Nat.mod_eq_of_lt
    omega
  . apply Nat.mod_eq_of_lt
    omega

@[simp]
theorem fill_self (i : Nat) : fill N i i = 0 := by
  simp [fill]

theorem fill_slot {k : Nat} (hout : out < N) (hk : k < N) : fill N (slot N out k) out = k := by
  rw [fill_eq_ite (slot_lt (by omega) _ _) hout, slot_eq_ite hout (by omega)]
  split <;> split <;> omega

theorem slot_fill (hinp : inp < N) (hout : out < N) : slot N out (fill N inp out) = inp := by
  have := fill_lt (N := N) (by omega) inp out
  rw [slot_eq_ite hout (by omega), fill_eq_ite hinp hout]
  split <;> split <;> omega

theorem fill_eq_zero_iff (hinp : inp < N) (hout : out < N) : fill N inp out = 0 ↔ inp = out := by
  rw [fill_eq_ite hinp hout]
  split <;> omega

theorem fill_next_inp (hinp : inp < N) (hout : out < N) (h : next N inp ≠ out)
    : fill N (next N inp) out = fill N inp out + 1 := by
  rw [fill_eq_ite (next_lt (by omega) _) hout, fill_eq_ite hinp hout]
  rw [next_eq_ite hinp] at h ⊢
  split_ifs at h ⊢ <;> omega

theorem fill_next_out (hinp : inp < N) (hout : out < N) (h : inp ≠ out)
    : fill N inp (next N out) + 1 = fill N inp out := by
  rw [fill_eq_ite hinp (next_lt (by omega) _), fill_eq_ite hinp hout, next_eq_ite hout]
  split <;> split <;> split <;> omega

theorem next_eq_out_iff (hinp : inp < N) (hout : out < N)
    : next N inp = out ↔ fill N inp out + 1 = N := by
  rw [fill_eq_ite hinp hout, next_eq_ite hinp]
  split <;> split <;> omega

end Ring

/-!
A ring memory of `N` slots with one element in each of them, and the queue that it stands for.
-/

namespace Ring

variable {α : Type} {N inp out : Nat} {mem : Nat → α} {q : List α} {x : α}

/-- The slots from `out` to `inp` hold the elements of the queue, the oldest one first. -/
structure Holds (N : Nat) (mem : Nat → α) (inp out : Nat) (q : List α) : Prop where
  out_lt : out < N
  length_lt : q.length < N
  inp_eq : inp = slot N out q.length
  cells : ∀ k (h : k < q.length), mem (slot N out k) = q[k]

-- the elements in the slots from `out` to `inp`
def contents (N : Nat) (mem : Nat → α) (inp out : Nat) : List α :=
  (List.range (fill N inp out)).map fun k => mem (slot N out k)

namespace Holds

theorem inp_lt (h : Holds N mem inp out q)
    : inp < N := by
  rw [h.inp_eq]
  apply slot_lt
  have := h.out_lt
  omega

theorem fill_eq (h : Holds N mem inp out q)
    : fill N inp out = q.length := by
  rw [h.inp_eq]
  apply fill_slot h.out_lt h.length_lt

theorem contents_eq (h : Holds N mem inp out q)
    : contents N mem inp out = q := by
  apply List.ext_getElem
  . simp [contents, h.fill_eq]
  . intro k _ hk
    simp [contents, h.cells k hk]

theorem ne_iff (h : Holds N mem inp out q)
    : inp ≠ out ↔ q ≠ [] := by
  rw [Ne, ← fill_eq_zero_iff h.inp_lt h.out_lt, h.fill_eq, List.length_eq_zero_iff]

theorem full_iff (h : Holds N mem inp out q)
    : next N inp = out ↔ q.length + 1 = N := by
  rw [next_eq_out_iff h.inp_lt h.out_lt, h.fill_eq]

theorem empty (h : out < N)
    : Holds N mem out out [] where
  out_lt := h
  length_lt := by
    rw [List.length_nil]
    omega
  inp_eq := (slot_zero h).symm
  cells := by
    intro k hk
    contradiction

theorem push (h : Holds N mem inp out q) (hroom : next N inp ≠ out) (x : α)
    : Holds N (fun i => if i = inp then x else mem i) (next N inp) out (q ++ [x]) where
  out_lt := h.out_lt
  length_lt := by
    have := h.length_lt
    rw [Ne, h.full_iff] at hroom
    rw [List.length_append, List.length_singleton]
    omega
  inp_eq := by
    rw [List.length_append, List.length_singleton, ← next_slot, ← h.inp_eq]
  cells := by
    intro k hk
    rw [List.length_append, List.length_singleton] at hk
    split
    next hinp =>
      rw [h.inp_eq] at hinp
      have := h.length_lt
      have hkq : k = q.length := by
        apply slot_injective h.out_lt (by omega) h.length_lt hinp
      subst hkq
      rw [List.getElem_concat_length rfl]
    next hinp =>
      have hne : k ≠ q.length := by
        intro hkq
        rw [hkq, ← h.inp_eq] at hinp
        contradiction
      have hlt : k < q.length := by omega
      rw [List.getElem_append_left hlt]
      apply h.cells

theorem head_eq (h : Holds N mem inp out (x :: q))
    : mem out = x := by
  have hcell := h.cells 0 (Nat.zero_lt_succ _)
  rw [slot_zero h.out_lt] at hcell
  exact hcell

theorem pop (h : Holds N mem inp out (x :: q))
    : Holds N mem inp (next N out) q where
  out_lt := by
    apply next_lt
    have := h.out_lt
    omega
  length_lt := by
    have := h.length_lt
    rw [List.length_cons] at this
    omega
  inp_eq := by
    rw [h.inp_eq, List.length_cons, slot_succ]
  cells := by
    intro k hk
    rw [← slot_succ]
    have hlt : k + 1 < (x :: q).length := by
      rw [List.length_cons]
      omega
    apply h.cells (k + 1) hlt

theorem drop (h : Holds N mem inp out q) {k : Nat} (hk : k ≤ q.length)
    : Holds N mem inp (slot N out k) (q.drop k) := by
  induction k generalizing out q with
  | zero =>
    rw [slot_zero h.out_lt]
    exact h
  | succ k ih =>
    cases q with
    | nil => contradiction
    | cons x q =>
      have hk' : k ≤ q.length := by
        rw [List.length_cons] at hk
        omega
      rw [List.drop_succ_cons, slot_succ]
      apply ih h.pop hk'

-- the slot at the write index is not part of the queue
theorem write (h : Holds N mem inp out q) (x : α)
    : Holds N (fun i => if i = inp then x else mem i) inp out q where
  out_lt := h.out_lt
  length_lt := h.length_lt
  inp_eq := h.inp_eq
  cells := by
    intro k hk
    have hne : slot N out k ≠ inp := by
      intro hinp
      rw [h.inp_eq] at hinp
      have := h.length_lt
      have := slot_injective h.out_lt (by omega) h.length_lt hinp
      omega
    rw [if_neg hne]
    apply h.cells

end Holds

end Ring
