import Mathlib.Data.List.TakeWhile
import Mathlib.Data.Nat.Digits.Lemmas
import Mathlib.Tactic.Ring

/-!
Decimal numbers in C: reading as `strtol` does it, for a base of ten, and writing as `printf` does it
with a width and leading zeros. A text is the list of its character codes.
-/

namespace Decimal

def IsDigit (c : Int) : Prop :=
  48 ≤ c ∧ c ≤ 57

instance (c : Int) : Decidable (IsDigit c) :=
  inferInstanceAs (Decidable (_ ∧ _))

def IsSpace (c : Int) : Prop :=
  c = 32 ∨ (9 ≤ c ∧ c ≤ 13)

instance (c : Int) : Decidable (IsSpace c) :=
  inferInstanceAs (Decidable (_ ∨ _))

-- the value of a row of digits, from the left, behind digits with the value `acc`
def value (acc : Int) (ds : List Int) : Int :=
  ds.foldl (fun acc d => 10 * acc + (d - 48)) acc

def leadingDigits (cs : List Int) : List Int :=
  cs.takeWhile (fun c => decide (IsDigit c))

def unsigned (cs : List Int) : Int :=
  value 0 (leadingDigits cs)

-- a minus or a plus sign may stand in front of the digits
def signed : List Int → Int
  | [] => 0
  | c :: cs =>
    if c = 45 then -unsigned cs
    else if c = 43 then unsigned cs
    else unsigned (c :: cs)

-- the number that a text starts with, behind white space
def parse (cs : List Int) : Int :=
  signed (cs.dropWhile fun c => decide (IsSpace c))

-- numbers out of range give the largest or the smallest one of the type
def clamp (bits : Nat) (x : Int) : Int :=
  max (-2 ^ (bits - 1)) (min (2 ^ (bits - 1) - 1) x)

def digits (n : Nat) : List Int :=
  if n = 0 then [48] else (Nat.digits 10 n).reverse.map fun d : Nat => 48 + (d : Int)

-- the conversion `%0*d`, with a plus sign `%+0*d`
def format (plus : Bool) (width : Nat) (x : Int) : List Int :=
  let sign := if x < 0 then [45] else if plus then [43] else []
  let ds := digits x.natAbs
  sign ++ List.replicate (width - sign.length - ds.length) 48 ++ ds

-- a character that ends every number, wherever it stands
structure Ends (c : Int) : Prop where
  digit : ¬ IsDigit c
  space : ¬ IsSpace c
  minus : c ≠ 45
  plus : c ≠ 43

-- an element without the property ends the search for the first ones that have it
theorem takeWhile_append_cons {p : Int → Bool} {c : Int} (hc : p c = false) (cs rest : List Int)
    : (cs ++ c :: rest).takeWhile p = cs.takeWhile p := by
  induction cs with
  | nil => simp [hc]
  | cons d cs ih => rw [List.cons_append, List.takeWhile_cons, List.takeWhile_cons, ih]

theorem leadingDigits_append {c : Int} (hc : ¬ IsDigit c) (cs rest : List Int)
    : leadingDigits (cs ++ c :: rest) = leadingDigits cs :=
  takeWhile_append_cons (decide_eq_false hc) cs rest

theorem unsigned_append {c : Int} (hc : ¬ IsDigit c) (cs rest : List Int)
    : unsigned (cs ++ c :: rest) = unsigned cs := by
  rw [unsigned, leadingDigits_append hc, unsigned]

theorem signed_append {c : Int} (hc : Ends c) (cs rest : List Int)
    : signed (cs ++ c :: rest) = signed cs := by
  cases cs with
  | nil =>
    have hzero := unsigned_append hc.digit [] rest
    rw [List.nil_append] at hzero ⊢
    rw [signed, signed, if_neg hc.minus, if_neg hc.plus, hzero]
    rfl
  | cons d cs =>
    have hall := unsigned_append hc.digit (d :: cs) rest
    rw [List.cons_append] at hall ⊢
    rw [signed, signed, unsigned_append hc.digit, hall]

theorem dropSpaces_append {c : Int} (hc : ¬ IsSpace c) (cs rest : List Int)
    : (cs ++ c :: rest).dropWhile (fun c => decide (IsSpace c))
        =
      cs.dropWhile (fun c => decide (IsSpace c)) ++ c :: rest := by
  induction cs with
  | nil => simp [hc]
  | cons d cs ih =>
    rw [List.cons_append, List.dropWhile_cons, List.dropWhile_cons]
    split
    . exact ih
    . rfl

-- what stands behind the end of a number does not matter
theorem parse_append {c : Int} (hc : Ends c) (cs rest : List Int)
    : parse (cs ++ c :: rest) = parse cs := by
  rw [parse, dropSpaces_append hc.space, signed_append hc, parse]

theorem value_append (acc : Int) (ds es : List Int)
    : value acc (ds ++ es) = value (value acc ds) es :=
  List.foldl_append

theorem value_zeros (n : Nat) : value 0 (List.replicate n 48) = 0 := by
  induction n with
  | zero => rfl
  | succ n ih => exact ih

theorem value_reverse_digits (ds : List Nat)
    : value 0 (ds.reverse.map fun d : Nat => 48 + (d : Int)) = (Nat.ofDigits 10 ds : Nat) := by
  induction ds with
  | nil => rfl
  | cons d ds ih =>
    rw [List.reverse_cons, List.map_append, value_append, ih, Nat.ofDigits_cons]
    simp only [value, List.map_cons, List.map_nil, List.foldl_cons, List.foldl_nil]
    push_cast
    ring

theorem value_digits (n : Nat) : value 0 (digits n) = n := by
  unfold digits
  split
  next h =>
    subst h
    rfl
  next => rw [value_reverse_digits, Nat.ofDigits_digits]

theorem digits_inj {m n : Nat} (h : digits m = digits n) : m = n := by
  have hvalue := congrArg (value 0) h
  rw [value_digits, value_digits] at hvalue
  exact Int.ofNat_inj.mp hvalue

theorem isDigit_of_mem_digits {n : Nat} {c : Int} (h : c ∈ digits n) : IsDigit c := by
  unfold digits at h
  split at h
  next =>
    rw [List.mem_singleton] at h
    subst h
    decide
  next =>
    rw [List.mem_map] at h
    have ⟨d, hmem, hd⟩ := h
    have hlt := Nat.digits_lt_base (by decide : 1 < 10) (List.mem_reverse.mp hmem)
    subst hd
    unfold IsDigit
    omega

theorem digits_ne_nil (n : Nat) : digits n ≠ [] := by
  unfold digits
  split
  next => simp
  next h => simpa [Nat.digits_eq_nil_iff_eq_zero] using h

theorem leadingDigits_of_forall {ds : List Int} (h : ∀ c ∈ ds, IsDigit c) : leadingDigits ds = ds :=
  List.takeWhile_eq_self_iff.mpr (by simpa using h)

-- digits behind any number of zeros
theorem unsigned_zeros_digits (k n : Nat) : unsigned (List.replicate k 48 ++ digits n) = n := by
  have hall : ∀ c ∈ List.replicate k 48 ++ digits n, IsDigit c := by
    intro c hc
    rw [List.mem_append] at hc
    cases hc with
    | inl hc =>
      rw [List.eq_of_mem_replicate hc]
      decide
    | inr hc => exact isDigit_of_mem_digits hc
  rw [unsigned, leadingDigits_of_forall hall, value_append, value_zeros, value_digits]

theorem signed_of_isDigit {c : Int} (hc : IsDigit c) (cs : List Int)
    : signed (c :: cs) = unsigned (c :: cs) := by
  unfold IsDigit at hc
  rw [signed, if_neg (by omega), if_neg (by omega)]

theorem signed_zeros_digits (k n : Nat) : signed (List.replicate k 48 ++ digits n) = n := by
  rw [← unsigned_zeros_digits k n]
  cases k with
  | zero =>
    cases h : digits n with
    | nil => exact absurd h (digits_ne_nil n)
    | cons c cs =>
      apply signed_of_isDigit
      apply isDigit_of_mem_digits (n := n)
      rw [h]
      exact List.mem_cons_self
  | succ k => exact signed_of_isDigit (by decide) _

theorem parse_cons {c : Int} (hc : ¬ IsSpace c) (cs : List Int)
    : parse (c :: cs) = signed (c :: cs) := by
  rw [parse, List.dropWhile_cons, if_neg (by simpa using hc)]

theorem parse_zeros_digits (k n : Nat) : parse (List.replicate k 48 ++ digits n) = n := by
  rw [← signed_zeros_digits k n]
  cases k with
  | zero =>
    cases h : digits n with
    | nil => exact absurd h (digits_ne_nil n)
    | cons c cs =>
      have hc : IsDigit c := by
        apply isDigit_of_mem_digits (n := n)
        rw [h]
        exact List.mem_cons_self
      apply parse_cons
      unfold IsDigit at hc
      unfold IsSpace
      omega
  | succ k => exact parse_cons (by decide) _

-- a number that is written is read again
theorem parse_format (plus : Bool) (width : Nat) (x : Int) : parse (format plus width x) = x := by
  unfold format
  dsimp only
  split_ifs with hneg hplus
  . rw [List.append_assoc, List.singleton_append, parse_cons (by decide), signed, if_pos rfl,
      unsigned_zeros_digits]
    omega
  . rw [List.append_assoc, List.singleton_append, parse_cons (by decide), signed,
      if_neg (by decide), if_pos rfl, unsigned_zeros_digits]
    omega
  . rw [List.nil_append, parse_zeros_digits]
    omega

theorem length_digits_le {n k : Nat} (hk : 0 < k) (h : n < 10 ^ k) : (digits n).length ≤ k := by
  unfold digits
  split
  . exact hk
  . rw [List.length_map, List.length_reverse]
    exact (Nat.digits_length_le_iff (by decide) n).mpr h

theorem length_format_of_nonneg {width : Nat} {x : Int} (hwidth : 0 < width) (hx : 0 ≤ x)
    (h : x < 10 ^ width)
    : (format false width x).length = width := by
  have hlt : x.natAbs < 10 ^ width := by
    have ⟨n, hn⟩ := Int.eq_ofNat_of_zero_le hx
    subst hn
    exact_mod_cast h
  have hlen := length_digits_le hwidth hlt
  unfold format
  dsimp only
  rw [if_neg (by omega), if_neg (by decide), List.nil_append, List.length_append,
    List.length_replicate, List.length_nil]
  omega

theorem length_format_of_neg {width : Nat} {x : Int} (hwidth : 0 < width) (hx : x < 0)
    (h : -10 ^ width < x)
    : (format false (width + 1) x).length = width + 1 := by
  have hlt : x.natAbs < 10 ^ width := by
    zify
    rw [abs_of_neg hx]
    omega
  have hlen := length_digits_le hwidth hlt
  unfold format
  dsimp only
  rw [if_pos hx, List.length_append, List.length_append, List.length_replicate, List.length_singleton]
  omega

-- at least one digit is written
theorem format_zero (plus : Bool) (x : Int) : format plus 0 x = format plus 1 x := by
  have hlen : 0 < (digits x.natAbs).length := List.length_pos_iff.mpr (digits_ne_nil _)
  unfold format
  dsimp only
  congr 3
  omega

theorem format_false_zero (x : Int) : format false 0 x = (if x < 0 then [45] else []) ++ digits x.natAbs := by
  simp [format]

theorem length_format_zero_le {k : Nat} (hk : 0 < k) {x : Int} (h : x.natAbs < 10 ^ k)
    : (format false 0 x).length ≤ k + 1 := by
  have hdigits := length_digits_le hk h
  rw [format_false_zero, List.length_append]
  split <;> simp only [List.length_singleton, List.length_nil] <;> omega

theorem format_injective (plus : Bool) (width : Nat) : Function.Injective (format plus width) := by
  intro x y h
  rw [← parse_format plus width x, h, parse_format]

-- digits, and possibly a sign
theorem isDigit_or_of_mem_format {plus : Bool} {width : Nat} {x c : Int} (h : c ∈ format plus width x)
    : IsDigit c ∨ c = 45 ∨ c = 43 := by
  unfold format at h
  dsimp only at h
  rw [List.mem_append, List.mem_append] at h
  obtain (hsign | hzero) | hdigit := h
  . split_ifs at hsign
    . exact .inr (.inl (List.mem_singleton.mp hsign))
    . exact .inr (.inr (List.mem_singleton.mp hsign))
    . exact absurd hsign List.not_mem_nil
  . rw [List.eq_of_mem_replicate hzero]
    exact .inl (by decide)
  . exact .inl (isDigit_of_mem_digits hdigit)

end Decimal
