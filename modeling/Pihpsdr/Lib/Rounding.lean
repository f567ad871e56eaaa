import Mathlib.Data.Int.Log
import Mathlib.Data.Rat.Floor
import Mathlib.Tactic.Linarith
import Mathlib.Tactic.NormNum
import Mathlib.Tactic.Ring

/-!
Binary floating point numbers as the rational numbers they stand for: rounding to the nearest
number with a mantissa of `p` bits, ties to an even mantissa. Exponents have no bounds, so neither
overflow nor gradual underflow occurs.
-/

namespace Rounding

def roundEven (q : ℚ) : ℤ :=
  if q - ⌊q⌋ < 1 / 2 then
    ⌊q⌋
  else if 1 / 2 < q - ⌊q⌋ then
    ⌊q⌋ + 1
  else if ⌊q⌋ % 2 = 0 then
    ⌊q⌋
  else
    ⌊q⌋ + 1

-- the exponent of the last place of a number
def place (p : Nat) (q : ℚ) : ℤ :=
  Int.log 2 |q| + 1 - p

def round (p : Nat) (q : ℚ) : ℚ :=
  if q = 0 then
    0
  else
    roundEven (q / 2 ^ place p q) * 2 ^ place p q

theorem abs_roundEven_sub_le (q : ℚ)
    : |roundEven q - q| ≤ 1 / 2 := by
  have hlo := Int.floor_le q
  have hhi := Int.lt_floor_add_one q
  unfold roundEven
  split
  next h => rw [abs_le]; constructor <;> linarith
  next h =>
    split
    next h' => push_cast; rw [abs_le]; constructor <;> linarith
    next h' =>
      have htie : q - ⌊q⌋ = 1 / 2 := by linarith
      split
      . rw [abs_le]; constructor <;> linarith
      . push_cast; rw [abs_le]; constructor <;> linarith

theorem roundEven_eq_of_near {q : ℚ} {m : ℤ} (h : |q - m| < 1 / 2)
    : roundEven q = m := by
  have herr := abs_roundEven_sub_le q
  rw [abs_le] at herr
  rw [abs_lt] at h
  have hlo : (-1 : ℚ) < ((roundEven q - m : ℤ) : ℚ) := by push_cast; linarith
  have hhi : ((roundEven q - m : ℤ) : ℚ) < 1 := by push_cast; linarith
  norm_cast at hlo hhi
  omega

theorem roundEven_nonneg {q : ℚ} (h : 0 ≤ q)
    : 0 ≤ roundEven q := by
  have herr := abs_roundEven_sub_le q
  rw [abs_le] at herr
  have hgt : (-1 : ℚ) < roundEven q := by linarith
  norm_cast at hgt

theorem round_nonneg {p : Nat} {q : ℚ} (h : 0 ≤ q)
    : 0 ≤ round p q := by
  unfold round
  split
  . rfl
  . have hpos : (0 : ℚ) < 2 ^ place p q := by apply zpow_pos (by norm_num)
    apply mul_nonneg _ hpos.le
    exact_mod_cast roundEven_nonneg (div_nonneg h hpos.le)

theorem place_eq {p : Nat} {q : ℚ} {k : ℤ} (hlo : 2 ^ k ≤ q) (hhi : q < 2 ^ (k + 1))
    : place p q = k + 1 - p := by
  have hpos : 0 < q := lt_of_lt_of_le (by apply zpow_pos (by norm_num)) hlo
  have hge : k ≤ Int.log 2 |q| := by
    apply (Int.zpow_le_iff_le_log (by decide) (abs_pos.mpr hpos.ne')).mp
    rw [abs_of_pos hpos]
    exact_mod_cast hlo
  have hlt : Int.log 2 |q| < k + 1 := by
    apply (Int.lt_zpow_iff_log_lt (by decide) (abs_pos.mpr hpos.ne')).mp
    rw [abs_of_pos hpos]
    exact_mod_cast hhi
  unfold place
  omega

theorem round_eq_of_near {p : Nat} {q : ℚ} {m : ℤ} (hq : q ≠ 0)
    (h : |q - m * 2 ^ place p q| < 2 ^ place p q / 2)
    : round p q = m * 2 ^ place p q := by
  have hpos : (0 : ℚ) < 2 ^ place p q := by apply zpow_pos (by norm_num)
  have hnear : |q / 2 ^ place p q - m| < 1 / 2 := by
    have hscale : q / 2 ^ place p q - m = (q - m * 2 ^ place p q) / 2 ^ place p q := by
      rw [sub_div, mul_div_cancel_right₀ _ hpos.ne']
    rw [hscale, abs_div, abs_of_pos hpos, div_lt_iff₀ hpos]
    linarith
  rw [round, if_neg hq, roundEven_eq_of_near hnear]

theorem round_mul_zpow {p : Nat} {m e : ℤ} (h : |m| < 2 ^ p)
    : round p (m * 2 ^ e) = m * 2 ^ e := by
  by_cases hm : m = 0
  . simp [hm, round]
  . have he : (0 : ℚ) < 2 ^ e := by apply zpow_pos (by norm_num)
    have hq : (m * 2 ^ e : ℚ) ≠ 0 := mul_ne_zero (by exact_mod_cast hm) he.ne'
    have hlt : |(m * 2 ^ e : ℚ)| < 2 ^ (p + e) := by
      rw [abs_mul, abs_of_pos he, zpow_add₀ (by norm_num), zpow_natCast]
      apply mul_lt_mul_of_pos_right (by exact_mod_cast h) he
    have hlog : Int.log 2 |(m * 2 ^ e : ℚ)| < p + e := by
      apply (Int.lt_zpow_iff_log_lt (by decide) (abs_pos.mpr hq)).mp
      exact_mod_cast hlt
    have hplace : place p (m * 2 ^ e) ≤ e := by
      unfold place
      omega
    -- the number is a multiple of its last place
    obtain ⟨j, hj⟩ := Int.le.dest hplace
    have hmul : (m * 2 ^ e : ℚ) = (m * 2 ^ j : ℤ) * 2 ^ place p (m * 2 ^ e) := by
      conv => lhs; rw [← hj]
      rw [zpow_add₀ (by norm_num), zpow_natCast]
      push_cast
      ring
    conv => rhs; rw [hmul]
    apply round_eq_of_near hq
    rw [← hmul, sub_self, abs_zero]
    apply half_pos
    apply zpow_pos (by norm_num)

theorem round_intCast {p : Nat} {m : ℤ} (h : |m| < 2 ^ p)
    : round p m = m := by
  have := round_mul_zpow (p := p) (m := m) (e := 0) h
  simpa using this

theorem abs_round_sub_le {p : Nat} {q : ℚ} {k : ℤ} (h : |q| < 2 ^ k)
    : |round p q - q| ≤ 2 ^ (k - p - 1) := by
  unfold round
  split
  next hq =>
    rw [hq, sub_zero, abs_zero]
    apply zpow_nonneg (by norm_num)
  next hq =>
    have hpos : (0 : ℚ) < 2 ^ place p q := by apply zpow_pos (by norm_num)
    have hscale : roundEven (q / 2 ^ place p q) * 2 ^ place p q - q
        = (roundEven (q / 2 ^ place p q) - q / 2 ^ place p q) * 2 ^ place p q := by
      rw [sub_mul, div_mul_cancel₀ _ hpos.ne']
    have hlog : Int.log 2 |q| < k := by
      apply (Int.lt_zpow_iff_log_lt (by decide) (abs_pos.mpr hq)).mp
      exact_mod_cast h
    have hplace : (2 : ℚ) ^ place p q ≤ 2 ^ (k - p) := by
      apply zpow_le_zpow_right₀ (by norm_num)
      unfold place
      omega
    calc |(roundEven (q / 2 ^ place p q) : ℚ) * 2 ^ place p q - q|
      _ = |roundEven (q / 2 ^ place p q) - q / 2 ^ place p q| * 2 ^ place p q := by
        rw [hscale, abs_mul, abs_of_pos hpos]
      _ ≤ 1 / 2 * 2 ^ (k - p) := by
        apply mul_le_mul (abs_roundEven_sub_le _) hplace hpos.le (by norm_num)
      _ = 2 ^ (k - p - 1) := by
        rw [zpow_sub_one₀ (by norm_num)]
        ring

theorem le_roundEven {q : ℚ} {m : ℤ} (h : (m : ℚ) ≤ q)
    : m ≤ roundEven q := by
  have herr := abs_roundEven_sub_le q
  rw [abs_le] at herr
  by_contra hlt
  have hle : roundEven q ≤ m - 1 := by omega
  have hcast : (roundEven q : ℚ) ≤ m - 1 := by exact_mod_cast hle
  linarith

-- a power of two is not passed on the way down
theorem two_pow_le_round {p : Nat} (hp : 0 < p) {q : ℚ} {k : ℤ} (h : 2 ^ k ≤ q)
    : 2 ^ k ≤ round p q := by
  have hpos : 0 < q := lt_of_lt_of_le (by apply zpow_pos (by norm_num)) h
  have hlo : (2 : ℚ) ^ Int.log 2 q ≤ q := by exact_mod_cast Int.zpow_log_le_self (by decide) hpos
  have hhi : q < 2 ^ (Int.log 2 q + 1) := by exact_mod_cast Int.lt_zpow_succ_log_self (by decide) q
  have hlog : k ≤ Int.log 2 q := by
    apply (Int.zpow_le_iff_le_log (by decide) hpos).mp
    exact_mod_cast h
  have hplace := place_eq (p := p) hlo hhi
  have hunit : (0 : ℚ) < 2 ^ place p q := by apply zpow_pos (by norm_num)
  have hmantissa : ((2 ^ (p - 1) : ℤ) : ℚ) * 2 ^ place p q = 2 ^ Int.log 2 q := by
    rw [hplace]
    push_cast
    rw [← zpow_natCast, ← zpow_add₀ (by norm_num)]
    congr 1
    omega
  have hge : (2 ^ (p - 1) : ℤ) ≤ roundEven (q / 2 ^ place p q) := by
    apply le_roundEven
    rw [le_div_iff₀ hunit, hmantissa]
    exact hlo
  rw [round, if_neg hpos.ne']
  calc (2 : ℚ) ^ k
    _ ≤ 2 ^ Int.log 2 q := zpow_le_zpow_right₀ (by norm_num) hlog
    _ = ((2 ^ (p - 1) : ℤ) : ℚ) * 2 ^ place p q := hmantissa.symm
    _ ≤ roundEven (q / 2 ^ place p q) * 2 ^ place p q := by
      apply mul_le_mul_of_nonneg_right _ hunit.le
      exact_mod_cast hge

end Rounding
