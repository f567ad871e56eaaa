import Pihpsdr.Lib.Decimal
import Pihpsdr.Lib.Rounding

/-!
Numbers with a decimal point in C: writing as `printf` does it for `%.df`, and reading as `strtod` does
it for decimal numbers, which rounds to a double. The texts of infinities and of hexadecimal numbers
are not covered.
-/

namespace Fixed

def point : Int := 46

-- the digits behind a point
def fraction : List Int → List Int
  | [] => []
  | c :: cs => if c = point then Decimal.leadingDigits cs else []

-- the exponent, where the number ends with one
def exponent : List Int → Int
  | [] => 0
  | c :: cs => if c = 101 ∨ c = 69 then Decimal.signed cs else 0

def afterFraction (cs : List Int) : List Int :=
  match cs with
  | [] => []
  | c :: rest => if c = point then rest.drop (Decimal.leadingDigits rest).length else c :: rest

def unsigned (cs : List Int) : ℚ :=
  let int := Decimal.leadingDigits cs
  let rest := cs.drop int.length
  let frac := fraction rest
  Decimal.value 0 (int ++ frac) / 10 ^ frac.length * 10 ^ exponent (afterFraction rest)

def signed : List Int → ℚ
  | [] => 0
  | c :: cs =>
    if c = 45 then -unsigned cs
    else if c = 43 then unsigned cs
    else unsigned (c :: cs)

-- the double next to the number that a text starts with, behind white space
def strtod (cs : List Int) : ℚ :=
  Rounding.round 53 (signed (cs.dropWhile fun c => decide (Decimal.IsSpace c)))

-- the number of units of the last of `d` places
def units (d : Nat) (x : ℚ) : Nat :=
  (Rounding.roundEven (|x| * 10 ^ d)).toNat

-- the conversion `%.df`, for at least one place
def format (d : Nat) (x : ℚ) : List Int :=
  let n := units d x
  (if x < 0 then [45] else []) ++ Decimal.digits (n / 10 ^ d)
    ++ point :: Decimal.format false d (n % 10 ^ d : Nat)

-- the decimal number with `d` places that is next to `x`
def nearest (d : Nat) (x : ℚ) : ℚ :=
  let y : ℚ := units d x / 10 ^ d
  if x < 0 then -y else y

theorem value_acc (acc : Int) (ds : List Int)
    : Decimal.value acc ds = acc * 10 ^ ds.length + Decimal.value 0 ds := by
  induction ds generalizing acc with
  | nil => simp [Decimal.value]
  | cons c ds ih =>
    have hcons (acc : Int) : Decimal.value acc (c :: ds) = Decimal.value (10 * acc + (c - 48)) ds := rfl
    rw [hcons, hcons, ih (10 * acc + (c - 48)), ih (10 * 0 + (c - 48)), List.length_cons, pow_succ]
    ring

theorem format_nat_eq (d n : Nat)
    : Decimal.format false d n
        =
      List.replicate (d - (Decimal.digits n).length) 48 ++ Decimal.digits n := by
  have hneg : ¬ ((n : Int) < 0) := by omega
  simp [Decimal.format, hneg]

theorem isDigit_of_mem_format {d n : Nat} {c : Int} (h : c ∈ Decimal.format false d n)
    : Decimal.IsDigit c := by
  rw [format_nat_eq, List.mem_append] at h
  cases h with
  | inl h =>
    rw [List.eq_of_mem_replicate h]
    decide
  | inr h => exact Decimal.isDigit_of_mem_digits h

theorem value_format (d n : Nat) : Decimal.value 0 (Decimal.format false d n) = n := by
  rw [format_nat_eq, Decimal.value_append, Decimal.value_zeros, Decimal.value_digits]

theorem length_format_nat {d n : Nat} (hd : 0 < d) (h : n < 10 ^ d)
    : (Decimal.format false d n).length = d := by
  apply Decimal.length_format_of_nonneg hd (by omega)
  exact_mod_cast h

theorem unsigned_format {d : Nat} (hd : 0 < d) (n : Nat)
    : unsigned (Decimal.digits (n / 10 ^ d) ++ point :: Decimal.format false d (n % 10 ^ d : Nat))
        =
      n / 10 ^ d := by
  have hlead : Decimal.leadingDigits
      (Decimal.digits (n / 10 ^ d) ++ point :: Decimal.format false d (n % 10 ^ d : Nat))
      = Decimal.digits (n / 10 ^ d) := by
    rw [Decimal.leadingDigits_append (by decide)]
    apply Decimal.leadingDigits_of_forall
    intro c hc
    exact Decimal.isDigit_of_mem_digits hc
  have hfrac : Decimal.leadingDigits (Decimal.format false d (n % 10 ^ d : Nat))
      = Decimal.format false d (n % 10 ^ d : Nat) := by
    apply Decimal.leadingDigits_of_forall
    intro c hc
    exact isDigit_of_mem_format hc
  have hlt : n % 10 ^ d < 10 ^ d := Nat.mod_lt n (Nat.pow_pos (by decide))
  have hlen := length_format_nat hd hlt
  have hdrop : (Decimal.digits (n / 10 ^ d) ++ point :: Decimal.format false d (n % 10 ^ d : Nat)).drop
      (Decimal.digits (n / 10 ^ d)).length = point :: Decimal.format false d (n % 10 ^ d : Nat) :=
    List.drop_left
  have hvalue : Decimal.value 0
      (Decimal.digits (n / 10 ^ d) ++ Decimal.format false d (n % 10 ^ d : Nat)) = n := by
    rw [Decimal.value_append, Decimal.value_digits, value_acc, hlen, value_format]
    have hsplit := Nat.div_add_mod' n (10 ^ d)
    exact_mod_cast hsplit
  have hafter : afterFraction (point :: Decimal.format false d (n % 10 ^ d : Nat)) = [] := by
    rw [afterFraction, if_pos rfl, hfrac, List.drop_length]
  dsimp only [unsigned]
  rw [hlead, hdrop, hafter, fraction, if_pos rfl, hfrac, hvalue, hlen, exponent]
  simp

-- a decimal number that is written is read again, and rounded to a double
theorem strtod_format {d : Nat} (hd : 0 < d) (x : ℚ)
    : strtod (format d x) = Rounding.round 53 (nearest d x) := by
  have hunsigned := unsigned_format hd (units d x)
  have hne := Decimal.digits_ne_nil (units d x / 10 ^ d)
  unfold strtod
  congr 1
  dsimp only [format, nearest]
  split
  next hx =>
    rw [List.append_assoc, List.singleton_append, List.dropWhile_cons, if_neg (by decide), signed,
      if_pos rfl, hunsigned]
  next hx =>
    cases hds : Decimal.digits (units d x / 10 ^ d) with
    | nil => contradiction
    | cons c cs =>
      have hc : Decimal.IsDigit c := by
        apply Decimal.isDigit_of_mem_digits (n := units d x / 10 ^ d)
        rw [hds]
        exact List.mem_cons_self
      have hspace : ¬ Decimal.IsSpace c := by
        unfold Decimal.IsDigit at hc
        unfold Decimal.IsSpace
        omega
      unfold Decimal.IsDigit at hc
      rw [hds] at hunsigned
      rw [List.nil_append, List.cons_append, List.dropWhile_cons,
        if_neg (by simpa using hspace), signed, if_neg (by omega), if_neg (by omega),
        ← List.cons_append, hunsigned]

theorem units_lt {d k : Nat} {x : ℚ} (h : |x| < 10 ^ k) : units d x < 10 ^ (k + d) + 1 := by
  have herr := Rounding.abs_roundEven_sub_le (|x| * 10 ^ d)
  have hnonneg := Rounding.roundEven_nonneg (q := |x| * 10 ^ d) (by positivity)
  have hmul : |x| * 10 ^ d < 10 ^ (k + d) := by
    rw [pow_add]
    apply mul_lt_mul_of_pos_right h (by positivity)
  rw [abs_le] at herr
  have hlt : (Rounding.roundEven (|x| * 10 ^ d) : ℚ) < 10 ^ (k + d) + 1 := by linarith
  have hlt' : Rounding.roundEven (|x| * 10 ^ d) < 10 ^ (k + d) + 1 := by exact_mod_cast hlt
  unfold units
  zify
  rw [Int.toNat_of_nonneg hnonneg]
  exact hlt'

theorem length_format_le {d k : Nat} (hd : 0 < d) {x : ℚ} (h : |x| < 10 ^ k)
    : (format d x).length ≤ k + d + 3 := by
  have hunits := units_lt (d := d) h
  have hpos : 0 < 10 ^ d := Nat.pow_pos (by decide)
  have hint : units d x / 10 ^ d < 10 ^ (k + 1) := by
    apply Nat.div_lt_of_lt_mul
    have hpow : 10 ^ d * 10 ^ (k + 1) = 10 * 10 ^ (k + d) := by ring
    have hone : 0 < 10 ^ (k + d) := Nat.pow_pos (by decide)
    omega
  have hdigits := Decimal.length_digits_le (Nat.succ_pos k) hint
  have hfrac := length_format_nat hd (Nat.mod_lt (units d x) hpos)
  have hsign : (if x < 0 then [45] else [] : List Int).length ≤ 1 := by split <;> simp
  dsimp only [format]
  rw [List.length_append, List.length_append, List.length_cons, hfrac]
  omega

end Fixed

/-!
Where a number ends that `strtod` reads, with all the texts that it knows: decimal and hexadecimal numbers,
infinities and what is not a number.
-/

namespace Fixed

inductive Number where
  | finite (x : ℚ)
  | infinite (negative : Bool)
  | nan
  deriving DecidableEq

def dropSign : List Int → List Int
  | [] => []
  | c :: cs => if c = 45 ∨ c = 43 then cs else c :: cs

-- an exponent behind one of the letters `e`, if it has digits
def afterExponent (e : Int) : List Int → List Int
  | [] => []
  | c :: cs =>
    let ds := Decimal.leadingDigits (dropSign cs)
    if (c = e ∨ c = e - 32) ∧ ds ≠ [] then (dropSign cs).drop ds.length else c :: cs

def lower (c : Int) : Int :=
  if 65 ≤ c ∧ c ≤ 90 then c + 32 else c

def dropWord (word cs : List Int) : Option (List Int) :=
  if (cs.take word.length).map lower = word then some (cs.drop word.length) else none

def hexDigit (c : Int) : Option Int :=
  if Decimal.IsDigit c then some (c - 48)
  else if 97 ≤ lower c ∧ lower c ≤ 102 then some (lower c - 87)
  else none

def leadingHex (cs : List Int) : List Int :=
  (cs.takeWhile fun c => (hexDigit c).isSome).filterMap hexDigit

def hexFraction : List Int → List Int
  | [] => []
  | c :: cs => if c = point then leadingHex cs else []

def afterHexFraction : List Int → List Int
  | [] => []
  | c :: cs => if c = point then cs.drop (leadingHex cs).length else c :: cs

def binaryExponent : List Int → Int
  | [] => 0
  | c :: cs => if c = 112 ∨ c = 80 then Decimal.signed cs else 0

-- behind the letters `0x`
def scanHex (cs : List Int) : Option (ℚ × List Int) :=
  let int := leadingHex cs
  let rest := cs.drop int.length
  let frac := hexFraction rest
  let mantissa : Int := (int ++ frac).foldl (fun acc d => 16 * acc + d) 0
  if int = [] ∧ frac = [] then
    none
  else
    some (mantissa / 16 ^ frac.length * 2 ^ binaryExponent (afterHexFraction rest),
      afterExponent 112 (afterHexFraction rest))

def scanDecimal (cs : List Int) : Option (ℚ × List Int) :=
  let int := Decimal.leadingDigits cs
  let rest := cs.drop int.length
  if int = [] ∧ fraction rest = [] then
    none
  else
    some (unsigned cs, afterExponent 101 (afterFraction rest))

-- the characters in brackets that may stand behind `nan`
def afterNan (cs : List Int) : List Int :=
  match cs with
  | [] => []
  | c :: rest =>
    let chars := rest.takeWhile fun c => decide (Decimal.IsDigit c ∨ 97 ≤ lower c ∧ lower c ≤ 122 ∨ c = 95)
    if c = 40 ∧ rest[chars.length]? = some 41 then rest.drop (chars.length + 1) else c :: rest

def scanUnsigned (cs : List Int) : Option (Number × List Int) :=
  let finite := fun p : ℚ × List Int => (Number.finite p.1, p.2)
  match dropWord [105, 110, 102, 105, 110, 105, 116, 121] cs, dropWord [105, 110, 102] cs,
    dropWord [110, 97, 110] cs, (dropWord [48, 120] cs).bind scanHex with
  | some rest, _, _, _ => some (.infinite false, rest)
  | _, some rest, _, _ => some (.infinite false, rest)
  | _, _, some rest, _ => some (.nan, afterNan rest)
  | _, _, _, some p => some (finite p)
  | _, _, _, _ => (scanDecimal cs).map finite

def Number.signed (negative : Bool) : Number → Number
  | .finite x => .finite (Rounding.round 53 (if negative then -x else x))
  | .infinite _ => .infinite negative
  | .nan => .nan

-- the number and what follows it, if there is one
def scan (cs : List Int) : Option (Number × List Int) :=
  let cs := cs.dropWhile fun c => decide (Decimal.IsSpace c)
  (scanUnsigned (dropSign cs)).map fun p => (p.1.signed (decide (cs.head? = some 45)), p.2)

-- digits, and possibly a point and more digits
def numeral (int : List Int) : Option (List Int) → List Int
  | none => int
  | some frac => int ++ point :: frac

def numeralValue (int : List Int) (frac : Option (List Int)) : ℚ :=
  Decimal.value 0 (int ++ frac.getD []) / 10 ^ (frac.getD []).length

theorem dropWord_cons {word cs : List Int} {d c : Int} (h : d ≠ lower c)
    : dropWord (d :: word) (c :: cs) = none := by
  apply if_neg
  intro heq
  rw [List.length_cons, List.take_succ_cons, List.map_cons] at heq
  exact h (List.cons.inj heq).1.symm

theorem lower_of_isDigit {c : Int} (h : Decimal.IsDigit c) : lower c = c := by
  unfold Decimal.IsDigit at h
  apply if_neg
  omega

theorem dropSign_of_isDigit {c : Int} (h : Decimal.IsDigit c) (cs : List Int)
    : dropSign (c :: cs) = c :: cs := by
  unfold Decimal.IsDigit at h
  apply if_neg
  omega

section

variable {int : List Int} {frac : Option (List Int)} {c : Int} (rest : List Int)

-- what may stand behind a numeral
structure EndsNumeral (c : Int) : Prop where
  digit : ¬Decimal.IsDigit c
  point : c ≠ point
  exponent : lower c ≠ 101
  hex : lower c ≠ 120

theorem scanDecimal_numeral (hne : int ≠ []) (hint : ∀ d ∈ int, Decimal.IsDigit d)
    (hfrac : ∀ ds ∈ frac, ∀ d ∈ ds, Decimal.IsDigit d) (hc : EndsNumeral c)
    : scanDecimal (numeral int frac ++ c :: rest) = some (numeralValue int frac, c :: rest) := by
  have hexp : c ≠ 101 ∧ c ≠ 69 := by
    have hlower := hc.exponent
    constructor <;> rintro rfl <;> exact hlower rfl
  have hletter : ¬(c = 101 ∨ c = 101 - 32) := by
    have h := hexp
    omega
  have hexponent : exponent (c :: rest) = 0 := if_neg (by have h := hexp; omega)
  have hafter : afterExponent 101 (c :: rest) = c :: rest := if_neg fun h => hletter h.1
  cases frac with
  | none =>
    have hlead : Decimal.leadingDigits (int ++ c :: rest) = int := by
      rw [Decimal.leadingDigits_append hc.digit, Decimal.leadingDigits_of_forall hint]
    have hfraction : fraction (c :: rest) = [] := if_neg hc.point
    have hbehind : afterFraction (c :: rest) = c :: rest := if_neg hc.point
    have hvalue : unsigned (int ++ c :: rest) = numeralValue int none := by
      dsimp only [unsigned]
      rw [hlead, List.drop_left, hfraction, hbehind, hexponent]
      simp [numeralValue]
    simp only [scanDecimal, numeral, hlead, List.drop_left, hne, false_and, if_false, hvalue, hbehind,
      hafter]
  | some ds =>
    have hpoint : ¬Decimal.IsDigit point := by decide
    have hds := hfrac ds rfl
    have hassoc : int ++ point :: ds ++ c :: rest = int ++ point :: (ds ++ c :: rest) := by simp
    have hlead : Decimal.leadingDigits (int ++ point :: (ds ++ c :: rest)) = int := by
      rw [Decimal.leadingDigits_append hpoint, Decimal.leadingDigits_of_forall hint]
    have hleadFrac : Decimal.leadingDigits (ds ++ c :: rest) = ds := by
      rw [Decimal.leadingDigits_append hc.digit, Decimal.leadingDigits_of_forall hds]
    have hfraction : fraction (point :: (ds ++ c :: rest)) = ds := by
      rw [fraction, if_pos rfl, hleadFrac]
    have hbehind : afterFraction (point :: (ds ++ c :: rest)) = c :: rest := by
      rw [afterFraction, if_pos rfl, hleadFrac, List.drop_left]
    have hvalue : unsigned (int ++ point :: (ds ++ c :: rest)) = numeralValue int (some ds) := by
      dsimp only [unsigned]
      rw [hlead, List.drop_left, hfraction, hbehind, hexponent]
      simp [numeralValue]
    simp only [scanDecimal, numeral, hassoc, hlead, List.drop_left, hne, false_and, if_false, hvalue,
      hbehind, hafter]

-- the second character of a numeral is not the letter of a hexadecimal one
theorem dropWord_hex_numeral (hne : int ≠ []) (hint : ∀ d ∈ int, Decimal.IsDigit d)
    (hc : EndsNumeral c)
    : dropWord [48, 120] (numeral int frac ++ c :: rest) = none := by
  obtain ⟨d, int, rfl⟩ := List.exists_cons_of_ne_nil hne
  obtain ⟨e, cs, htext, he⟩ : ∃ e cs, numeral (d :: int) frac ++ c :: rest = d :: e :: cs ∧ lower e ≠ 120 := by
    cases int with
    | nil =>
      cases frac with
      | none => exact ⟨c, rest, rfl, hc.hex⟩
      | some ds => exact ⟨point, ds ++ c :: rest, rfl, by decide⟩
    | cons e int =>
      have hdigit := hint e (by simp)
      refine ⟨e, numeral int frac ++ c :: rest, ?_, ?_⟩
      . cases frac <;> rfl
      . rw [lower_of_isDigit hdigit]
        unfold Decimal.IsDigit at hdigit
        omega
  rw [htext]
  apply if_neg
  intro heq
  simp only [List.length_cons, List.length_nil, List.take_succ_cons, List.take_zero, List.map_cons,
    List.map_nil, List.cons.injEq, and_true] at heq
  exact he heq.2

-- a decimal number, and where it ends
theorem scan_numeral (hne : int ≠ []) (hint : ∀ d ∈ int, Decimal.IsDigit d)
    (hfrac : ∀ ds ∈ frac, ∀ d ∈ ds, Decimal.IsDigit d) (hc : EndsNumeral c)
    : scan (numeral int frac ++ c :: rest)
        = some (.finite (Rounding.round 53 (numeralValue int frac)), c :: rest) := by
  have hdecimal := scanDecimal_numeral rest hne hint hfrac hc
  have hhex : dropWord [48, 120] (numeral int frac ++ c :: rest) = none :=
    dropWord_hex_numeral rest hne hint hc
  obtain ⟨d, int, rfl⟩ := List.exists_cons_of_ne_nil hne
  obtain ⟨cs, htext⟩ : ∃ cs, numeral (d :: int) frac ++ c :: rest = d :: cs := by
    cases frac <;> exact ⟨_, rfl⟩
  have hd := hint d List.mem_cons_self
  have hlower := lower_of_isDigit hd
  rw [htext] at hdecimal hhex ⊢
  have hspace : ¬Decimal.IsSpace d := by
    unfold Decimal.IsDigit at hd
    unfold Decimal.IsSpace
    omega
  have hdrop : (d :: cs).dropWhile (fun c => decide (Decimal.IsSpace c)) = d :: cs := by
    rw [List.dropWhile_cons, if_neg (by simpa using hspace)]
  have hsign : (decide ((d :: cs).head? = some 45)) = false := by
    rw [List.head?_cons, decide_eq_false_iff_not, Option.some.injEq]
    unfold Decimal.IsDigit at hd
    omega
  have hscan : scanUnsigned (d :: cs) = some (.finite (numeralValue (d :: int) frac), c :: rest) := by
    unfold Decimal.IsDigit at hd
    unfold scanUnsigned
    rw [dropWord_cons (by rw [hlower]; omega), dropWord_cons (by rw [hlower]; omega),
      dropWord_cons (by rw [hlower]; omega), hhex, hdecimal]
    rfl
  simp only [scan]
  rw [hdrop, hsign, dropSign_of_isDigit hd, hscan]
  rfl

end

section

variable {cs rest : List Int}

theorem dropSign_suffix (cs : List Int) : dropSign cs <:+ cs := by
  cases cs with
  | nil => exact List.suffix_refl _
  | cons c cs =>
    rw [dropSign]
    split
    . exact List.suffix_cons c cs
    . exact List.suffix_refl _

theorem afterExponent_suffix (e : Int) (cs : List Int) : afterExponent e cs <:+ cs := by
  cases cs with
  | nil => exact List.suffix_refl _
  | cons c cs =>
    unfold afterExponent
    dsimp only
    split
    . exact ((List.drop_suffix _ _).trans (dropSign_suffix cs)).trans (List.suffix_cons c cs)
    . exact List.suffix_refl _

theorem afterFraction_suffix (cs : List Int) : afterFraction cs <:+ cs := by
  cases cs with
  | nil => exact List.suffix_refl _
  | cons c cs =>
    unfold afterFraction
    dsimp only
    split
    . exact (List.drop_suffix _ _).trans (List.suffix_cons c cs)
    . exact List.suffix_refl _

theorem afterHexFraction_suffix (cs : List Int) : afterHexFraction cs <:+ cs := by
  cases cs with
  | nil => exact List.suffix_refl _
  | cons c cs =>
    rw [afterHexFraction]
    split
    . exact (List.drop_suffix _ _).trans (List.suffix_cons c cs)
    . exact List.suffix_refl _

theorem afterNan_suffix (cs : List Int) : afterNan cs <:+ cs := by
  cases cs with
  | nil => exact List.suffix_refl _
  | cons c cs =>
    unfold afterNan
    dsimp only
    split
    . exact (List.drop_suffix _ _).trans (List.suffix_cons c cs)
    . exact List.suffix_refl _

theorem dropWord_suffix {word : List Int} (h : dropWord word cs = some rest) : rest <:+ cs := by
  unfold dropWord at h
  split at h
  . obtain rfl := Option.some.inj h
    exact List.drop_suffix _ _
  . contradiction

theorem scanHex_suffix {x : ℚ} (h : scanHex cs = some (x, rest)) : rest <:+ cs := by
  unfold scanHex at h
  dsimp only at h
  split at h
  . contradiction
  . obtain ⟨-, rfl⟩ := Prod.mk.inj (Option.some.inj h)
    exact ((afterExponent_suffix _ _).trans (afterHexFraction_suffix _)).trans (List.drop_suffix _ _)

theorem scanDecimal_suffix {x : ℚ} (h : scanDecimal cs = some (x, rest)) : rest <:+ cs := by
  unfold scanDecimal at h
  dsimp only at h
  split at h
  . contradiction
  . obtain ⟨-, rfl⟩ := Prod.mk.inj (Option.some.inj h)
    exact ((afterExponent_suffix _ _).trans (afterFraction_suffix _)).trans (List.drop_suffix _ _)

theorem scanUnsigned_suffix {x : Number} (h : scanUnsigned cs = some (x, rest)) : rest <:+ cs := by
  unfold scanUnsigned at h
  cases hinfinity : dropWord [105, 110, 102, 105, 110, 105, 116, 121] cs with
  | some p =>
    rw [hinfinity] at h
    obtain ⟨-, rfl⟩ := Prod.mk.inj (Option.some.inj h)
    exact dropWord_suffix hinfinity
  | none =>
    cases hinf : dropWord [105, 110, 102] cs with
    | some p =>
      rw [hinfinity, hinf] at h
      obtain ⟨-, rfl⟩ := Prod.mk.inj (Option.some.inj h)
      exact dropWord_suffix hinf
    | none =>
      cases hnan : dropWord [110, 97, 110] cs with
      | some p =>
        rw [hinfinity, hinf, hnan] at h
        obtain ⟨-, rfl⟩ := Prod.mk.inj (Option.some.inj h)
        exact (afterNan_suffix _).trans (dropWord_suffix hnan)
      | none =>
        cases hhex : (dropWord [48, 120] cs).bind scanHex with
        | some p =>
          rw [hinfinity, hinf, hnan, hhex] at h
          obtain ⟨-, rfl⟩ := Prod.mk.inj (Option.some.inj h)
          obtain ⟨digits, hword, hscan⟩ := Option.bind_eq_some_iff.mp hhex
          exact (scanHex_suffix hscan).trans (dropWord_suffix hword)
        | none =>
          rw [hinfinity, hinf, hnan, hhex] at h
          obtain ⟨p, hscan, heq⟩ := Option.map_eq_some_iff.mp h
          obtain ⟨-, rfl⟩ := Prod.mk.inj heq
          exact scanDecimal_suffix hscan

theorem scan_suffix {x : Number} (h : scan cs = some (x, rest)) : rest <:+ cs := by
  unfold scan at h
  obtain ⟨p, hscan, heq⟩ := Option.map_eq_some_iff.mp h
  obtain ⟨-, rfl⟩ := Prod.mk.inj heq
  exact ((scanUnsigned_suffix hscan).trans (dropSign_suffix _)).trans (List.dropWhile_suffix _)

end

end Fixed
