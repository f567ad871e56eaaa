import Mathlib.Logic.Function.Basic
import Mathlib.Data.Nat.Basic
import Mathlib.Algebra.Group.Nat.Defs
import Mathlib.Tactic.Positivity
import Mathlib.Tactic.Ring
import Mathlib.Tactic.Zify

/-!
Packets of bytes that are filled byte by byte, with words of 32 bits in network byte order.
-/

abbrev Packet :=
  Nat → BitVec 8

namespace Packet

-- a packet after it has been cleared
def zeros : Packet :=
  fun _ => 0

def set (p : Packet) (i : Nat) (x : BitVec 8) : Packet :=
  Function.update p i x

def putWord (p : Packet) (i : Nat) (w : BitVec 32) : Packet :=
  (((p.set i (w.extractLsb' 24 8)).set (i + 1) (w.extractLsb' 16 8)).set (i + 2)
    (w.extractLsb' 8 8)).set (i + 3) (w.extractLsb' 0 8)

def word (p : Packet) (i : Nat) : BitVec 32 :=
  p i ++ p (i + 1) ++ p (i + 2) ++ p (i + 3)

theorem append_extract (w : BitVec 32)
    : w.extractLsb' 24 8 ++ w.extractLsb' 16 8 ++ w.extractLsb' 8 8 ++ w.extractLsb' 0 8 = w := by
  ext k hk
  simp only [BitVec.getElem_append, BitVec.getElem_extractLsb']
  have hget {n : Nat} (h : n = k) : w.getLsbD n = w[k] := by
    rw [h]
    exact BitVec.getLsbD_eq_getElem hk
  split
  . exact hget (by omega)
  . split
    . exact hget (by omega)
    . split
      . exact hget (by omega)
      . exact hget (by omega)

variable (p : Packet) {i j : Nat}

@[simp]
theorem set_self (i : Nat) (x : BitVec 8) : p.set i x i = x := by
  unfold set
  apply Function.update_self

theorem set_of_ne (h : j ≠ i) (x : BitVec 8) : p.set i x j = p j := by
  unfold set
  apply Function.update_of_ne h

theorem putWord_of_outside (h : j < i ∨ i + 4 ≤ j) (w : BitVec 32) : p.putWord i w j = p j := by
  unfold putWord
  rw [set_of_ne, set_of_ne, set_of_ne, set_of_ne]
  all_goals omega

@[simp]
theorem word_putWord_self (i : Nat) (w : BitVec 32) : (p.putWord i w).word i = w := by
  have h₀ : p.putWord i w i = w.extractLsb' 24 8 := by
    unfold putWord
    rw [set_of_ne _ (by omega), set_of_ne _ (by omega), set_of_ne _ (by omega), set_self]
  have h₁ : p.putWord i w (i + 1) = w.extractLsb' 16 8 := by
    unfold putWord
    rw [set_of_ne _ (by omega), set_of_ne _ (by omega), set_self]
  have h₂ : p.putWord i w (i + 2) = w.extractLsb' 8 8 := by
    unfold putWord
    rw [set_of_ne _ (by omega), set_self]
  have h₃ : p.putWord i w (i + 3) = w.extractLsb' 0 8 := by
    unfold putWord
    rw [set_self]
  rw [word, h₀, h₁, h₂, h₃, append_extract]

theorem word_putWord_of_disjoint (h : j + 4 ≤ i ∨ i + 4 ≤ j) (w : BitVec 32)
    : (p.putWord i w).word j = p.word j := by
  unfold word
  rw [putWord_of_outside, putWord_of_outside, putWord_of_outside, putWord_of_outside]
  all_goals omega

theorem word_set_of_outside (h : j < i ∨ i + 4 ≤ j) (x : BitVec 8)
    : (p.set j x).word i = p.word i := by
  unfold word
  rw [set_of_ne, set_of_ne, set_of_ne, set_of_ne]
  all_goals omega

end Packet

/-!
Words of a fixed number of bytes: the bytes of a word, the least significant one first, and the
exchange of their order.
-/

namespace Bytes

def toBytes : Nat → Nat → List Nat
  | 0, _ => []
  | n + 1, x => x % 256 :: toBytes n (x / 256)

def ofBytes : List Nat → Nat
  | [] => 0
  | b :: bs => b + 256 * ofBytes bs

def byteSwap (n : Nat) (x : BitVec (8 * n)) : BitVec (8 * n) :=
  BitVec.ofNat (8 * n) (ofBytes (toBytes n x.toNat).reverse)

@[simp]
theorem length_toBytes (n x : Nat)
    : (toBytes n x).length = n := by
  induction n generalizing x with
  | zero => rfl
  | succ n ih => simp [toBytes, ih]

theorem lt_of_mem_toBytes {n x b : Nat} (h : b ∈ toBytes n x)
    : b < 256 := by
  induction n generalizing x with
  | zero => simp [toBytes] at h
  | succ n ih =>
    simp only [toBytes, List.mem_cons] at h
    cases h with
    | inl h => omega
    | inr h => apply ih h

theorem ofBytes_toBytes {n x : Nat} (h : x < 256 ^ n)
    : ofBytes (toBytes n x) = x := by
  induction n generalizing x with
  | zero => simp_all [toBytes, ofBytes]
  | succ n ih =>
    have hx : x / 256 < 256 ^ n := by
      rw [Nat.pow_succ] at h
      omega
    simp only [toBytes, ofBytes, ih hx]
    omega

theorem ofBytes_lt {bs : List Nat} (h : ∀ b ∈ bs, b < 256)
    : ofBytes bs < 256 ^ bs.length := by
  induction bs with
  | nil => simp [ofBytes]
  | cons b bs ih =>
    have hb := h b (by simp)
    have hbs := ih (fun c hc => h c (by simp [hc]))
    simp only [ofBytes, List.length_cons, Nat.pow_succ]
    omega

theorem toBytes_ofBytes {bs : List Nat} (h : ∀ b ∈ bs, b < 256)
    : toBytes bs.length (ofBytes bs) = bs := by
  induction bs with
  | nil => rfl
  | cons b bs ih =>
    have hb := h b (by simp)
    have hmod : (b + 256 * ofBytes bs) % 256 = b := by omega
    have hdiv : (b + 256 * ofBytes bs) / 256 = ofBytes bs := by omega
    simp only [List.length_cons, toBytes, ofBytes, hmod, hdiv]
    rw [ih (fun c hc => h c (by simp [hc]))]

theorem two_pow_eight_mul (n : Nat)
    : 2 ^ (8 * n) = 256 ^ n := by
  rw [Nat.pow_mul]

theorem toBytes_byteSwap (n : Nat) (x : BitVec (8 * n))
    : toBytes n (byteSwap n x).toNat = (toBytes n x.toNat).reverse := by
  have hmem : ∀ b ∈ (toBytes n x.toNat).reverse, b < 256 := by
    intro b hb
    apply lt_of_mem_toBytes (List.mem_reverse.mp hb)
  have hlen : (toBytes n x.toNat).reverse.length = n := by simp
  have hlt := ofBytes_lt hmem
  rw [hlen, ← two_pow_eight_mul] at hlt
  have h := toBytes_ofBytes hmem
  rw [hlen] at h
  rw [byteSwap, BitVec.toNat_ofNat, Nat.mod_eq_of_lt hlt, h]

theorem byteSwap_byteSwap (n : Nat) (x : BitVec (8 * n))
    : byteSwap n (byteSwap n x) = x := by
  have hx : x.toNat < 256 ^ n := by
    rw [← two_pow_eight_mul]
    apply BitVec.isLt
  rw [byteSwap, toBytes_byteSwap, List.reverse_reverse, ofBytes_toBytes hx, BitVec.ofNat_toNat]
  simp

/-
A number that is sent byte by byte, the most significant one first.
-/

theorem emod_mul {a b : Int} (ha : 0 < a) (hb : 0 < b) (x : Int)
    : x % (a * b) = x % a + a * (x / a % b) := by
  have hx := Int.mul_ediv_add_emod x a
  have hq := Int.mul_ediv_add_emod (x / a) b
  have hlo := Int.emod_nonneg x ha.ne'
  have hhi := Int.emod_lt_of_pos x ha
  have hqlo := Int.emod_nonneg (x / a) hb.ne'
  have hqhi := Int.emod_lt_of_pos (x / a) hb
  have hsum : x = x % a + a * (x / a % b) + a * b * (x / a / b) := by
    calc x
      _ = a * (b * (x / a / b) + x / a % b) + x % a := by rw [hq, hx]
      _ = x % a + a * (x / a % b) + a * b * (x / a / b) := by ring
  conv => lhs; rw [hsum, Int.add_mul_emod_self_left]
  apply Int.emod_eq_of_lt
  . positivity
  . have hle : a * (x / a % b + 1) ≤ a * b := Int.mul_le_mul_of_nonneg_left (by omega) ha.le
    rw [mul_add] at hle
    omega

theorem ofInt_append (a b : Nat) (x : Int)
    : BitVec.ofInt a (x >>> b) ++ BitVec.ofInt b x = BitVec.ofInt (a + b) x := by
  apply BitVec.eq_of_toNat_eq
  have hlt := (BitVec.ofInt b x).isLt
  have hpos (n : Nat) : 0 < (2 : Int) ^ n := by positivity
  have hmod := emod_mul (hpos b) (hpos a) x
  have ha := Int.emod_nonneg (x / 2 ^ b) (hpos a).ne'
  have hb := Int.emod_nonneg x (hpos b).ne'
  rw [BitVec.toNat_append, ← Nat.shiftLeft_add_eq_or_of_lt hlt, Nat.shiftLeft_eq, BitVec.toNat_ofInt,
    BitVec.toNat_ofInt, BitVec.toNat_ofInt, Int.shiftRight_eq_div_pow, Nat.add_comm a b]
  push_cast
  rw [pow_add, hmod]
  zify
  rw [Int.toNat_of_nonneg ha, Int.toNat_of_nonneg hb, Int.toNat_of_nonneg (by positivity)]
  ring

end Bytes
