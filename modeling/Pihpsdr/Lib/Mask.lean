import Mathlib.Data.List.Induction

/-!
Words whose bits belong to groups: a word put together from parts by `|||`, where each group gets its
bits from one part only.
-/

namespace Mask

variable {w : Nat} {group : List (BitVec w)} {x y : BitVec w}

/-- The elements of a group that are set in a word. -/
def selected (group : List (BitVec w)) (x : BitVec w) : List (BitVec w) :=
  group.filter fun m => x &&& m ≠ 0#w

/-- No bit of the group is set. -/
def Off (group : List (BitVec w)) (x : BitVec w) : Prop :=
  ∀ m ∈ group, x &&& m = 0#w

-- The words are not all tried, as the instance for words would do.
instance (group : List (BitVec w)) (x : BitVec w) : Decidable (Off group x) :=
  List.decidableBAll _ group

/-- None of these parts sets a bit of the group. -/
def Apart (group parts : List (BitVec w)) : Prop :=
  ∀ x ∈ parts, Off group x

instance (group parts : List (BitVec w)) : Decidable (Apart group parts) :=
  List.decidableBAll _ parts

/-- Each element of the group is one bit, that of no other one. -/
def Single (group : List (BitVec w)) : Prop :=
  ∀ m ∈ group, selected group m = [m]

instance (group : List (BitVec w)) : Decidable (Single group) :=
  List.decidableBAll _ group

theorem off_zero : Off group 0#w := by
  intro m _
  apply BitVec.zero_and

theorem Off.or (hx : Off group x) (hy : Off group y) : Off group (x ||| y) := by
  intro m hm
  rw [BitVec.and_or_distrib_right, hx m hm, hy m hm]
  apply BitVec.or_zero

theorem Off.selected_or_left (hx : Off group x) : selected group (x ||| y) = selected group y := by
  unfold selected
  apply List.filter_congr
  intro m hm
  rw [BitVec.and_or_distrib_right, hx m hm, BitVec.zero_or]

theorem Off.selected_or_right (hy : Off group y) : selected group (x ||| y) = selected group x := by
  unfold selected
  apply List.filter_congr
  intro m hm
  rw [BitVec.and_or_distrib_right, hy m hm, BitVec.or_zero]

theorem Off.ite {c : Prop} [Decidable c] (hx : Off group x) (hy : Off group y)
    : Off group (if c then x else y) := by
  split
  . exact hx
  . exact hy

/-! Words that are changed by one statement after the other. -/

-- a statement of the form `w &= ~m`, `w |= m` or `w = x`
inductive Change (w : Nat) where
  | clear (m : BitVec w)
  | set (m : BitVec w)
  | assign (x : BitVec w)

namespace Change

def run (v : BitVec w) : Change w → BitVec w
  | .clear m => v &&& ~~~m
  | .set m => v ||| m
  | .assign x => x

def runAll (cs : List (Change w)) (v : BitVec w) : BitVec w := cs.foldl run v

/-- The bits that are replaced by statements, and what they are replaced by. -/
def effect (cs : List (Change w)) : BitVec w × BitVec w :=
  cs.foldl
    (fun e c =>
      match c with
      | .clear m => (e.1 ||| m, e.2 &&& ~~~m)
      | .set m => (e.1 ||| m, e.2 ||| m)
      | .assign x => (BitVec.allOnes w, x))
    (0, 0)

theorem runAll_concat (cs : List (Change w)) (c : Change w) (v : BitVec w)
    : runAll (cs ++ [c]) v = run (runAll cs v) c := by
  rw [runAll, List.foldl_append]
  rfl

theorem getLsbD_runAll (cs : List (Change w)) (v : BitVec w) (i : Nat)
    : (runAll cs v).getLsbD i
        = if (effect cs).1.getLsbD i then (effect cs).2.getLsbD i else v.getLsbD i := by
  induction cs using List.reverseRecOn with
  | nil => simp [runAll, effect]
  | append_singleton cs c ih =>
    rw [runAll_concat, effect, List.foldl_append]
    rw [effect] at ih
    generalize cs.foldl _ ((0, 0) : BitVec w × BitVec w) = e at ih ⊢
    cases c with
    | clear m =>
      simp only [run, List.foldl_cons, List.foldl_nil, BitVec.getLsbD_and, BitVec.getLsbD_or,
        BitVec.getLsbD_not, ih]
      by_cases hi : i < w
      . cases m.getLsbD i <;> cases e.1.getLsbD i <;> simp [hi]
      . simp [BitVec.getLsbD_of_ge _ _ (Nat.le_of_not_lt hi)]
    | set m =>
      simp only [run, List.foldl_cons, List.foldl_nil, BitVec.getLsbD_or, ih]
      cases m.getLsbD i <;> cases e.1.getLsbD i <;> simp
    | assign x =>
      simp only [run, List.foldl_cons, List.foldl_nil, BitVec.getLsbD_allOnes]
      by_cases hi : i < w
      . simp [hi]
      . simp [BitVec.getLsbD_of_ge _ _ (Nat.le_of_not_lt hi)]

-- a group that is replaced as a whole
theorem runAll_and_of_eq {cs : List (Change w)} {group x : BitVec w} (h : effect cs = (group, x))
    (v : BitVec w)
    : runAll cs v &&& group = x &&& group := by
  apply BitVec.eq_of_getLsbD_eq
  intro i _
  rw [BitVec.getLsbD_and, BitVec.getLsbD_and, getLsbD_runAll, h]
  cases group.getLsbD i <;> simp

-- a group that the statements leave alone
theorem runAll_and_of_apart {cs : List (Change w)} {group : BitVec w}
    (h : (effect cs).1 &&& group = 0#w) (v : BitVec w)
    : runAll cs v &&& group = v &&& group := by
  apply BitVec.eq_of_getLsbD_eq
  intro i _
  have hi := congrArg (BitVec.getLsbD · i) h
  simp only [BitVec.getLsbD_and, BitVec.getLsbD_zero, Bool.and_eq_false_iff] at hi
  rw [BitVec.getLsbD_and, BitVec.getLsbD_and, getLsbD_runAll]
  obtain hi | hi := hi <;> simp [hi]

-- the bits that a statement may change
def mask : Change w → BitVec w
  | .clear m => m
  | .set m => m
  | .assign _ => BitVec.allOnes w

theorem effect_apart {cs : List (Change w)} {group : BitVec w}
    (h : ∀ c ∈ cs, c.mask &&& group = 0#w)
    : (effect cs).1 &&& group = 0#w := by
  induction cs using List.reverseRecOn with
  | nil => exact BitVec.zero_and
  | append_singleton cs c ih =>
    have hcs := ih fun c' hc' => h c' (List.mem_append_left _ hc')
    have hc := h c (List.mem_append_right _ (List.mem_singleton_self c))
    rw [effect, List.foldl_append]
    rw [effect] at hcs
    generalize cs.foldl _ ((0, 0) : BitVec w × BitVec w) = e at hcs ⊢
    cases c with
    | clear m =>
      show (e.1 ||| m) &&& group = 0#w
      rw [BitVec.and_or_distrib_right, hcs, BitVec.zero_or]
      exact hc
    | set m =>
      show (e.1 ||| m) &&& group = 0#w
      rw [BitVec.and_or_distrib_right, hcs, BitVec.zero_or]
      exact hc
    | assign x => exact hc

end Change

-- a field of `n` bits outside of a group
theorem field_apart {n w : Nat} (x : BitVec n) (k : Nat) (group : BitVec w)
    (h : ∀ i < n, group.getLsbD (k + i) = false)
    : x.setWidth w <<< k &&& group = 0#w := by
  apply BitVec.eq_of_getLsbD_eq
  intro i hi
  rw [BitVec.getLsbD_and, BitVec.getLsbD_shiftLeft, BitVec.getLsbD_setWidth, BitVec.getLsbD_zero]
  by_cases hk : i < k
  . simp [hk]
  . by_cases hn : i - k < n
    . have hout := h (i - k) hn
      rw [Nat.add_sub_cancel' (Nat.le_of_not_lt hk)] at hout
      rw [hout, Bool.and_false]
    . simp [BitVec.getLsbD_of_ge _ _ (Nat.le_of_not_lt hn)]

end Mask
