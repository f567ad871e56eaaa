import Mathlib.Logic.Function.Iterate
import Mathlib.Tactic.Ring

/-!
Smoothing of a sequence of readings by an accumulator that loses the `k`-th part of its value with each
reading, in integer arithmetic that truncates. The smoothed value is the `k`-th part of the accumulator.
-/

namespace Smoothing

variable {k a m v : Nat}

def step (k a v : Nat) : Nat := (k - 1) * a / k + v

def smoothed (k a : Nat) : Nat := a / k

-- the part that is lost is rounded up
theorem kept_add_lost (hk : 0 < k) (a : Nat) : (k - 1) * a / k + (a + (k - 1)) / k = a := by
  obtain ⟨n, rfl⟩ : ∃ n, k = n + 1 := ⟨k - 1, by omega⟩
  rw [Nat.add_sub_cancel]
  have hsplit := Nat.div_add_mod a (n + 1)
  have hlt := Nat.mod_lt a hk
  generalize a / (n + 1) = q at hsplit
  generalize a % (n + 1) = r at hsplit hlt
  have hkept : n * a / (n + 1) = n * q + n * r / (n + 1) := by
    have : n * a = n * r + (n + 1) * (n * q) := by
      rw [← hsplit]
      ring
    rw [this, Nat.add_mul_div_left _ _ hk, Nat.add_comm]
  have hlost : (a + n) / (n + 1) = q + (r + n) / (n + 1) := by
    have : a + n = r + n + (n + 1) * q := by
      rw [← hsplit]
      ring
    rw [this, Nat.add_mul_div_left _ _ hk, Nat.add_comm]
  have hrest : n * r / (n + 1) + (r + n) / (n + 1) = r := by
    cases r with
    | zero =>
      rw [Nat.mul_zero, Nat.zero_div, Nat.zero_add, Nat.zero_add]
      exact Nat.div_eq_of_lt (Nat.lt_succ_self n)
    | succ r =>
      have hone : (r + 1 + n) / (n + 1) = 1 := by
        apply Nat.div_eq_of_lt_le
        . omega
        . omega
      have hless : n * (r + 1) / (n + 1) = r := by
        apply Nat.div_eq_of_lt_le
        . have : r * (n + 1) = n * r + r := by ring
          have : n * (r + 1) = n * r + n := by ring
          omega
        . have : (r + 1) * (n + 1) = n * (r + 1) + (r + 1) := by ring
          omega
      rw [hone, hless]
  have : (n + 1) * q = n * q + q := by ring
  omega

theorem step_add_lost (hk : 0 < k) (a v : Nat) : step k a v + (a + (k - 1)) / k = a + v := by
  have := kept_add_lost hk a
  unfold step
  omega

theorem step_le (hk : 0 < k) (ha : a ≤ k * m) (hv : v ≤ m) : step k a v ≤ k * m := by
  have hkept : (k - 1) * a / k ≤ (k - 1) * m := by
    apply Nat.div_le_of_le_mul
    calc (k - 1) * a
      _ ≤ (k - 1) * (k * m) := Nat.mul_le_mul_left _ ha
      _ = k * ((k - 1) * m) := by ring
  have hsum : (k - 1) * m + m = k * m := by
    obtain ⟨n, rfl⟩ : ∃ n, k = n + 1 := ⟨k - 1, by omega⟩
    rw [Nat.add_sub_cancel]
    ring
  unfold step
  omega

theorem le_step (hk : 0 < k) (ha : k * v ≤ a) : k * v ≤ step k a v := by
  have hkept : (k - 1) * v ≤ (k - 1) * a / k := by
    apply (Nat.le_div_iff_mul_le hk).mpr
    calc (k - 1) * v * k
      _ = (k - 1) * (k * v) := by ring
      _ ≤ (k - 1) * a := Nat.mul_le_mul_left _ ha
  have hsum : (k - 1) * v + v = k * v := by
    obtain ⟨n, rfl⟩ : ∃ n, k = n + 1 := ⟨k - 1, by omega⟩
    rw [Nat.add_sub_cancel]
    ring
  unfold step
  omega

-- what bounds the readings bounds the smoothed value
theorem foldl_step_le (hk : 0 < k) {vs : List Nat} (hvs : ∀ v ∈ vs, v ≤ m) (ha : a ≤ k * m)
    : vs.foldl (step k) a ≤ k * m := by
  induction vs generalizing a with
  | nil => exact ha
  | cons v vs ih =>
    apply ih
    . intro u hu
      exact hvs u (List.mem_cons_of_mem v hu)
    . exact step_le hk ha (hvs v List.mem_cons_self)

theorem smoothed_le (ha : a ≤ k * m) : smoothed k a ≤ m := by
  apply Nat.div_le_of_le_mul ha

-- the accumulators that a constant reading does not change any more
def Settled (k v a : Nat) : Prop :=
  (a + (k - 1)) / k = v

theorem step_of_settled (hk : 0 < k) (h : Settled k v a) : step k a v = a := by
  have := step_add_lost hk a v
  unfold Settled at h
  omega

theorem smoothed_of_settled (hk : 0 < k) (h : Settled k v a)
    : smoothed k a = v ∨ smoothed k a + 1 = v := by
  unfold Settled at h
  unfold smoothed
  have hlo : a / k ≤ (a + (k - 1)) / k := Nat.div_le_div_right (by omega)
  have hhi : (a + (k - 1)) / k ≤ (a + k) / k := Nat.div_le_div_right (by omega)
  rw [Nat.add_div_right a hk] at hhi
  omega

theorem lt_step (hk : 0 < k) (ha : a ≤ k * v) (h : ¬ Settled k v a) : a < step k a v := by
  have hlost := step_add_lost hk a v
  have hle : (a + (k - 1)) / k ≤ v := by
    apply Nat.le_of_lt_succ
    apply (Nat.div_lt_iff_lt_mul hk).mpr
    rw [Nat.succ_mul, Nat.mul_comm v k]
    omega
  unfold Settled at h
  omega

theorem step_lt (hk : 0 < k) (ha : k * v < a) : step k a v < a := by
  have hlost := step_add_lost hk a v
  have hlt : v + 1 ≤ (a + (k - 1)) / k := by
    apply (Nat.le_div_iff_mul_le hk).mpr
    rw [Nat.add_mul, Nat.mul_comm v k]
    omega
  omega

-- how far the accumulator is from its place
def distance (k v a : Nat) : Nat :=
  if a ≤ k * v then k * v - a else a - k * v

theorem distance_step_lt (hk : 0 < k) (h : ¬ Settled k v a)
    : distance k v (step k a v) < distance k v a := by
  by_cases ha : a ≤ k * v
  . have hgt := lt_step hk ha h
    have hle := step_le (m := v) hk ha (Nat.le_refl v)
    unfold distance
    rw [if_pos ha, if_pos hle]
    omega
  . have hlt := step_lt (a := a) (v := v) hk (by omega)
    have hge := le_step (a := a) (v := v) hk (by omega)
    unfold distance
    rw [if_neg ha]
    split <;> omega

-- by induction on the distance, which every step before lowers
theorem exists_settled (hk : 0 < k) (v a : Nat)
    : ∃ n, Settled k v ((fun a => step k a v)^[n] a) := by
  induction hd : distance k v a using Nat.strong_induction_on generalizing a with
  | _ d ih =>
    by_cases h : Settled k v a
    . exact ⟨0, h⟩
    . have hlt := distance_step_lt hk h
      obtain ⟨n, hn⟩ := ih _ (hd ▸ hlt) (step k a v) rfl
      exact ⟨n + 1, hn⟩

theorem foldl_replicate (k v a n : Nat)
    : (List.replicate n v).foldl (step k) a = (fun a => step k a v)^[n] a := by
  induction n generalizing a with
  | zero => rfl
  | succ n ih => exact ih (step k a v)

-- Enough equal readings lead to a value that more of them do not change.
theorem exists_foldl_eq (hk : 0 < k) (v a : Nat)
    : ∃ n b, Settled k v b ∧ ∀ j, n ≤ j → (List.replicate j v).foldl (step k) a = b := by
  obtain ⟨n, hn⟩ := exists_settled hk v a
  refine ⟨n, _, hn, ?_⟩
  intro j hj
  obtain ⟨i, rfl⟩ := Nat.exists_eq_add_of_le hj
  rw [foldl_replicate, Nat.add_comm, Function.iterate_add_apply]
  exact Function.iterate_fixed (f := fun a => step k a v) (step_of_settled hk hn) i

end Smoothing
