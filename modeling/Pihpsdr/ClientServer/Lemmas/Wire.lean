import Mathlib.Tactic.NormNum
import Pihpsdr.ClientServer.Impl.Wire

/-!
A number in the range of its type on the wire arrives unchanged, and a double arrives up to a
millionth.
-/

namespace ClientServer

@[simp]
theorem htons_htons (x : BitVec 16)
    : htons (htons x) = x := by
  apply Bytes.byteSwap_byteSwap 2

@[simp]
theorem htonl_htonl (x : BitVec 32)
    : htonl (htonl x) = x := by
  apply Bytes.byteSwap_byteSwap 4

@[simp]
theorem htobe64_htobe64 (x : BitVec 64)
    : htobe64 (htobe64 x) = x := by
  apply Bytes.byteSwap_byteSwap 8

theorem toInt_ofInt {n : Nat} {x : Int} (hlo : -2 ^ n ≤ x) (hhi : x < 2 ^ n)
    : (BitVec.ofInt (n + 1) x).toInt = x := by
  rw [BitVec.toInt_ofInt]
  apply Int.bmod_eq_of_le_mul_two
  . push_cast
    rw [pow_succ]
    omega
  . push_cast
    rw [pow_succ]
    omega

theorem from8_to8 {x : Int} (h : Wire.u8.InRange x)
    : from8 (to8 x) = x := by
  have ⟨hlo, hhi⟩ := h
  simp only [from8, to8, BitVec.toNat_ofInt]
  omega

theorem toNat_to8 {i : Nat} (h : i < 256)
    : (to8 i).toNat = i := by
  have hi := from8_to8 (x := i) ⟨by omega, by omega⟩
  rw [from8] at hi
  exact_mod_cast hi

theorem from16_to16 {x : Int} (h : Wire.u16.InRange x)
    : from16 (to16 x) = x := by
  rw [from16, to16, htons_htons]
  apply toInt_ofInt h.1 h.2

theorem from32_to32 {x : Int} (h : Wire.u32.InRange x)
    : from32 (to32 x) = x := by
  rw [from32, to32, htonl_htonl]
  apply toInt_ofInt h.1 h.2

theorem from64_to64 {x : Int} (h : Wire.u64.InRange x)
    : from64 (to64 x) = x := by
  rw [from64, to64, htobe64_htobe64]
  apply toInt_ofInt h.1 h.2

theorem Wire.decode_encode {w : Wire} {x : Int} (h : w.InRange x)
    : w.decode (w.encode x) = x := by
  cases w with
  | u8 => apply from8_to8 h
  | u16 => apply from16_to16 h
  | u32 => apply from32_to32 h
  | u64 => apply from64_to64 h

theorem toInt_inRange {n : Nat} (x : BitVec (n + 1)) : -2 ^ n ≤ x.toInt ∧ x.toInt < 2 ^ n := by
  have hlo := x.le_toInt
  have hhi := x.toInt_lt
  rw [Nat.add_sub_cancel] at hlo hhi
  exact ⟨hlo, hhi⟩

theorem Wire.inRange_decode (w : Wire) (y : BitVec w.bits)
    : w.InRange (w.decode y) := by
  cases w with
  | u8 =>
    have := y.isLt
    simp only [bits] at this
    simp only [InRange, decode, from8]
    omega
  | u16 => exact toInt_inRange (htons y)
  | u32 => exact toInt_inRange (htonl y)
  | u64 => exact toInt_inRange (htobe64 y)

-- the decoder of two bytes shifts a byte by eight bits, which only zero survives
theorem Wire.inRange_zero (w : Wire) : w.InRange 0 := by
  cases w <;> decide

theorem from16Byte_to8_eq_iff {x : Int} (h : Wire.u8.InRange x)
    : from16Byte (to8 x) = x ↔ x = 0 := by
  have ⟨hlo, hhi⟩ := h
  have hbyte : ((to8 x).setWidth 16).toNat = x.toNat := by
    have := from8_to8 h
    rw [from8] at this
    rw [BitVec.toNat_setWidth]
    omega
  have hlt : x.toNat < 256 := by omega
  have hswap : (htons ((to8 x).setWidth 16)).toNat = x.toNat * 256 := by
    simp only [htons, Bytes.byteSwap, Bytes.toBytes, Bytes.ofBytes, List.reverse_cons,
      List.reverse_nil, List.nil_append, List.cons_append, BitVec.toNat_ofNat, hbyte,
      Nat.mod_eq_of_lt hlt, Nat.div_eq_of_lt hlt]
    omega
  rw [from16Byte, from16, BitVec.toInt_eq_toNat_bmod, hswap, Int.bmod_def]
  omega

theorem toNat_ofInt {z : ℤ} (hlo : 0 ≤ z) (hhi : z < 2 ^ 64)
    : ((BitVec.ofInt 64 z).toNat : ℚ) = z := by
  have h : ((BitVec.ofInt 64 z).toNat : ℤ) = z := by
    rw [BitVec.toNat_ofInt]
    omega
  exact_mod_cast h

theorem floor_toDouble {x : ℚ} (h : DoubleInRange x)
    : |((htobe64 (toDouble x)).toNat : ℚ) - (x + 9 * 10 ^ 8) * 10 ^ 10| ≤ 2218 := by
  have ⟨hlo, hhi⟩ := abs_le.mp h
  rw [toDouble, htobe64_htobe64]
  have hsum : |double (x + 9 * 10 ^ 8) - (x + 9 * 10 ^ 8)| ≤ 2 ^ (31 - 53 - 1 : ℤ) := by
    apply Rounding.abs_round_sub_le
    rw [abs_lt]
    constructor <;> norm_num <;> linarith
  have hnonneg : 0 ≤ double (x + 9 * 10 ^ 8) := by
    apply Rounding.round_nonneg
    linarith
  generalize double (x + 9 * 10 ^ 8) = s at *
  have hprod : |double (s * 10 ^ 10) - s * 10 ^ 10| ≤ 2 ^ (64 - 53 - 1 : ℤ) := by
    apply Rounding.abs_round_sub_le
    rw [abs_le] at hsum
    norm_num at hsum
    rw [abs_lt]
    constructor <;> norm_num <;> linarith
  have hprodNonneg : 0 ≤ double (s * 10 ^ 10) := by
    apply Rounding.round_nonneg
    positivity
  generalize double (s * 10 ^ 10) = v at *
  have hfloor := Int.floor_le v
  have hfloor' := Int.lt_floor_add_one v
  rw [abs_le] at hsum hprod
  norm_num at hsum hprod
  have hlt : ⌊v⌋ < 2 ^ 64 := by
    rw [Int.floor_lt]
    norm_num
    linarith
  have hge : 0 ≤ ⌊v⌋ := Int.floor_nonneg.mpr hprodNonneg
  rw [toNat_ofInt hge hlt, abs_le]
  constructor <;> linarith

theorem fromDouble_near {y : BitVec 64} (h : (htobe64 y).toNat ≤ 18 * 10 ^ 18 + 2218)
    : |fromDouble y - ((htobe64 y).toNat / 10 ^ 10 - 9 * 10 ^ 8)| ≤ 1 / 2 / 10 ^ 6 := by
  rw [fromDouble]
  generalize (htobe64 y).toNat = u at *
  have hu : (u : ℚ) ≤ 18 * 10 ^ 18 + 2218 := by exact_mod_cast h
  have hu' : (0 : ℚ) ≤ u := by positivity
  have hcast : |double u - u| ≤ 2 ^ (64 - 53 - 1 : ℤ) := by
    apply Rounding.abs_round_sub_le
    rw [abs_of_nonneg hu']
    norm_num
    linarith
  have hunit : |double (1 / 10 ^ 10) - 1 / 10 ^ 10| ≤ 2 ^ (-33 - 53 - 1 : ℤ) := by
    apply Rounding.abs_round_sub_le
    rw [abs_of_nonneg (by norm_num)]
    norm_num
  generalize double u = d at *
  generalize double (1 / 10 ^ 10) = c at *
  have hprodNear : |c * d - u / 10 ^ 10| ≤ 3 / 10 ^ 7 := by
    rw [abs_le] at hcast
    norm_num at hcast
    have hd : |d| ≤ 18 * 10 ^ 18 + 3242 := by
      rw [abs_le]
      constructor <;> linarith
    have hc : |(c - 1 / 10 ^ 10) * d| ≤ 2 ^ (-33 - 53 - 1 : ℤ) * (18 * 10 ^ 18 + 3242) := by
      rw [abs_mul]
      apply mul_le_mul hunit hd (abs_nonneg d) (by norm_num)
    have hsplit : c * d - u / 10 ^ 10 = (c - 1 / 10 ^ 10) * d + (d - u) / 10 ^ 10 := by ring
    rw [hsplit]
    rw [abs_le] at hc ⊢
    norm_num at hc
    constructor <;> linarith
  have hprod : |double (c * d) - c * d| ≤ 2 ^ (31 - 53 - 1 : ℤ) := by
    apply Rounding.abs_round_sub_le
    rw [abs_le] at hprodNear
    rw [abs_lt]
    constructor <;> norm_num <;> linarith
  generalize double (c * d) = p at *
  have hdiff : |double (p - 9 * 10 ^ 8) - (p - 9 * 10 ^ 8)| ≤ 2 ^ (30 - 53 - 1 : ℤ) := by
    apply Rounding.abs_round_sub_le
    rw [abs_le] at hprodNear hprod
    norm_num at hprod
    rw [abs_lt]
    constructor <;> norm_num <;> linarith
  rw [abs_le] at hprodNear hprod hdiff ⊢
  norm_num at hprod hdiff
  constructor <;> linarith

theorem reproduces_fromDouble {x : ℚ} (h : DoubleInRange x)
    : Reproduces x (fromDouble (toDouble x)) := by
  have hto := floor_toDouble h
  have ⟨hlo, hhi⟩ := abs_le.mp h
  have hfrom : |fromDouble (toDouble x) - ((htobe64 (toDouble x)).toNat / 10 ^ 10 - 9 * 10 ^ 8)|
      ≤ 1 / 2 / 10 ^ 6 := by
    apply fromDouble_near
    rw [abs_le] at hto
    have : ((htobe64 (toDouble x)).toNat : ℚ) ≤ 18 * 10 ^ 18 + 2218 := by linarith
    exact_mod_cast this
  constructor
  . rfl
  . rw [abs_le] at hto hfrom ⊢
    constructor <;> linarith

theorem double_intCast {m : ℤ} (h : |m| < 2 ^ 53)
    : double m = m := by
  apply Rounding.round_intCast h

-- the constant `1.0E-10`
theorem double_unit
    : double (1 / 10 ^ 10) = 7737125245533627 / 2 ^ 86 := by
  have hplace : Rounding.place 53 (1 / 10 ^ 10) = -86 := by
    apply Rounding.place_eq (k := -34)
    . norm_num
    . norm_num
  have := Rounding.round_eq_of_near (p := 53) (q := 1 / 10 ^ 10) (m := 7737125245533627)
    (by norm_num) (by rw [hplace, abs_lt]; norm_num)
  rw [double, this, hplace]
  norm_num

-- up to the size at which the scaled number needs more than 53 bits, integers arrive unchanged
theorem fromDouble_toDouble_intCast {n : ℤ} (hlo : -363129088 ≤ n) (hhi : n ≤ 22337203)
    : fromDouble (toDouble n) = n := by
  obtain ⟨m, hm⟩ : ∃ m, m = n + 9 * 10 ^ 8 := ⟨_, rfl⟩
  have hcast : (n + 9 * 10 ^ 8 : ℚ) = (m : ℤ) := by
    rw [hm]
    push_cast
    norm_num
  have hmlo : 2 ^ 29 ≤ m := by omega
  have hmhi : m ≤ 922337203 := by omega
  have hsum : double (n + 9 * 10 ^ 8) = m := by
    rw [hcast, double_intCast]
    rw [abs_lt]
    omega
  have hscaled : double ((m * 10 ^ 10 : ℤ) : ℚ) = (m * 10 ^ 10 : ℤ) := by
    have hscale : ((m * 10 ^ 10 : ℤ) : ℚ) = (m * 9765625 : ℤ) * 2 ^ (10 : ℤ) := by
      push_cast
      ring
    rw [hscale, double, Rounding.round_mul_zpow]
    rw [abs_lt]
    omega
  have hword : ((htobe64 (toDouble n)).toNat : ℚ) = (m * 10 ^ 10 : ℤ) := by
    have hprod : (m * 10 ^ 10 : ℚ) = (m * 10 ^ 10 : ℤ) := by push_cast; rfl
    rw [toDouble, htobe64_htobe64, hsum, hprod, hscaled, Int.floor_intCast, toNat_ofInt]
    . omega
    . omega
  have hback : double (double (1 / 10 ^ 10) * (m * 10 ^ 10 : ℤ)) = m := by
    have hlo : (2 ^ 29 : ℚ) ≤ m := by exact_mod_cast hmlo
    have hhi : (m : ℚ) ≤ 922337203 := by exact_mod_cast hmhi
    have hplace : Rounding.place 53 (7737125245533627 / 2 ^ 86 * (m * 10 ^ 10 : ℤ)) = -23 := by
      apply Rounding.place_eq (k := 29)
      . push_cast
        norm_num
        linarith
      . push_cast
        norm_num
        linarith
    have hint : (m : ℚ) = (m * 2 ^ 23 : ℤ) * 2 ^ (-23 : ℤ) := by
      push_cast
      norm_num
      ring
    have := Rounding.round_eq_of_near (p := 53) (m := m * 2 ^ 23)
      (q := 7737125245533627 / 2 ^ 86 * (m * 10 ^ 10 : ℤ))
      (by push_cast; positivity)
      (by rw [hplace, ← hint, abs_lt]; push_cast; constructor <;> norm_num <;> linarith)
    rw [double_unit, double, this, hplace, ← hint]
  have hdiff : (m - 9 * 10 ^ 8 : ℚ) = n := by
    rw [← hcast]
    ring
  rw [fromDouble, hword, hscaled, hback, hdiff, double_intCast]
  rw [abs_lt]
  omega

theorem reproduces_zero
    : Reproduces 0 0 := by
  have h := reproduces_fromDouble (x := 0) (by norm_num [DoubleInRange])
  have hzero := fromDouble_toDouble_intCast (n := 0) (by decide) (by decide)
  rw [Int.cast_zero] at hzero
  rw [hzero] at h
  exact h

end ClientServer

/-!
A structure arrives if and only if the fields that the decoder leaves alone have the right values
already.
-/

namespace ClientServer

variable {F G : Type} [DecidableEq F] {wire : F → Wire}
  {stack : Packet wire G} {unset kept : List F} {kept' : List G} {x y : Record F G}

theorem forall_update_eq_iff {u w : F → Int} {f : F} {v : Int} (h : u f = w f)
    : (∀ f', Function.update u f v f' = w f') ↔ (∀ f', u f' = w f') ∧ v = w f := by
  rw [Function.forall_update_iff u (fun f' n => n = w f')]
  constructor
  . intro ⟨hv, hu⟩
    apply And.intro _ hv
    intro f'
    by_cases hf : f' = f
    . rw [hf, h]
    . apply hu f' hf
  . intro ⟨hu, hv⟩
    apply And.intro hv
    intro f' _
    apply hu

theorem Record.transferred_update_iff {f : F} {v : Int} (h : y.int f = x.int f)
    : x.Transferred { y with int := Function.update y.int f v }
        ↔
      x.Transferred y ∧ v = x.int f := by
  constructor
  . intro htransferred
    have ⟨hint, hv⟩ := (forall_update_eq_iff h).mp htransferred.int
    exact ⟨⟨hint, htransferred.double⟩, hv⟩
  . intro ⟨htransferred, hv⟩
    have hint := (forall_update_eq_iff h).mpr ⟨htransferred.int, hv⟩
    exact ⟨hint, htransferred.double⟩

theorem fillInts_eq {stack : (f : F) → BitVec (wire f).bits} {int : F → Int} {f : F}
    (h : f ∉ unset)
    : fillInts stack unset int f = (wire f).encode (int f) := by
  rw [fillInts, if_neg h]

theorem storeInts_kept {data : (f : F) → BitVec (wire f).bits} {int : F → Int} {f : F}
    (h : f ∈ kept)
    : storeInts data kept int f = int f := by
  rw [storeInts, if_pos h]

theorem storeInts_fillInts {stack : (f : F) → BitVec (wire f).bits} {int int' : F → Int} {f : F}
    (h : (wire f).InRange (int f)) (hkept : f ∉ kept) (hunset : f ∉ unset)
    : storeInts (fillInts stack unset int) kept int' f = int f := by
  rw [storeInts, if_neg hkept, fillInts_eq hunset]
  apply Wire.decode_encode h

theorem storeInts_fillInts_eq_iff {stack : (f : F) → BitVec (wire f).bits} {int int' : F → Int}
    (h : ∀ f, (wire f).InRange (int f)) (hunset : unset ⊆ kept)
    : (∀ f, storeInts (fillInts stack unset int) kept int' f = int f)
        ↔
      ∀ f ∈ kept, int' f = int f := by
  constructor
  . intro hall f hf
    rw [← hall f, storeInts_kept hf]
  . intro hkept f
    by_cases hf : f ∈ kept
    . rw [storeInts_kept hf]
      apply hkept f hf
    . apply storeInts_fillInts (h f) hf
      intro hmem
      apply hf (hunset hmem)

-- without a range for the fields: those that are read must survive their encoding
theorem storeInts_fillInts_eq_iff_inRange {stack : (f : F) → BitVec (wire f).bits}
    {int int' : F → Int} (hunset : unset ⊆ kept)
    : (∀ f, storeInts (fillInts stack unset int) kept int' f = int f)
        ↔
      (∀ f ∉ kept, (wire f).InRange (int f)) ∧ ∀ f ∈ kept, int' f = int f := by
  constructor
  . intro hall
    constructor
    . intro f hf
      rw [← hall f, storeInts, if_neg hf]
      apply Wire.inRange_decode
    . intro f hf
      rw [← hall f, storeInts_kept hf]
  . intro ⟨hrange, hkept⟩ f
    by_cases hf : f ∈ kept
    . rw [storeInts_kept hf]
      apply hkept f hf
    . apply storeInts_fillInts (hrange f hf) hf
      intro hmem
      apply hf (hunset hmem)

namespace Packet

variable [DecidableEq G]

theorem int_store_fill {f : F} (h : (wire f).InRange (x.int f)) (hkept : f ∉ kept)
    (hunset : f ∉ unset)
    : ((stack.fill unset x).store kept kept' y).int f = x.int f := by
  simp only [store, fill]
  apply storeInts_fillInts h hkept hunset

theorem double_store_kept {data : Packet wire G} {g : G} (h : g ∈ kept')
    : (data.store kept kept' y).double g = y.double g := by
  simp only [store, if_pos h]

theorem double_store_fill {g : G} (h : DoubleInRange (x.double g)) (hkept : g ∉ kept')
    : Reproduces (x.double g) (((stack.fill unset x).store kept kept' y).double g) := by
  simp only [store, if_neg hkept]
  apply reproduces_fromDouble h

theorem transferred_store_fill_iff (h : x.InWireRange wire) (hunset : unset ⊆ kept)
    : x.Transferred ((stack.fill unset x).store kept kept' y)
        ↔
      (∀ f ∈ kept, y.int f = x.int f) ∧ ∀ g ∈ kept', Reproduces (x.double g) (y.double g) := by
  rw [← storeInts_fillInts_eq_iff h.int hunset]
  constructor
  . intro htransferred
    apply And.intro htransferred.int
    intro g hg
    have := htransferred.double g
    rw [double_store_kept hg] at this
    exact this
  . intro ⟨hint, hdouble⟩
    constructor
    case int => exact hint
    intro g
    by_cases hg : g ∈ kept'
    . rw [double_store_kept hg]
      apply hdouble g hg
    . apply double_store_fill (h.double g) hg

theorem transferred_store_fill_iff_survives (hunset : unset ⊆ kept)
    : x.Transferred ((stack.fill unset x).store kept kept' y)
        ↔
      (∀ f ∉ kept, (wire f).InRange (x.int f))
        ∧ (∀ g ∉ kept', Reproduces (x.double g) (fromDouble (toDouble (x.double g))))
        ∧ (∀ f ∈ kept, y.int f = x.int f)
        ∧ ∀ g ∈ kept', Reproduces (x.double g) (y.double g) := by
  constructor
  . intro h
    have ⟨hrange, hint⟩ := (storeInts_fillInts_eq_iff_inRange hunset).mp h.int
    refine ⟨hrange, ?_, hint, ?_⟩
    . intro g hg
      have := h.double g
      simp only [store, if_neg hg] at this
      exact this
    . intro g hg
      have := h.double g
      rw [double_store_kept hg] at this
      exact this
  . intro ⟨hrange, hsurvives, hint, hdouble⟩
    constructor
    case int => apply (storeInts_fillInts_eq_iff_inRange hunset).mpr ⟨hrange, hint⟩
    intro g
    by_cases hg : g ∈ kept'
    . rw [double_store_kept hg]
      apply hdouble g hg
    . simp only [store, if_neg hg]
      apply hsurvives g hg

end Packet

end ClientServer

/-!
The measurement of the round-trip time: `send_ping`, `send_pong` and the answers to `CMD_PING` and
`CMD_PONG`. A time is a number of milliseconds, as `gettimeofday` gives it.
-/

namespace ClientServer

-- the field `s1` of a PING that is sent at `time`
def sendPing (time : Nat) : BitVec 16 :=
  to16 (BitVec.ofNat 32 time &&& 0x7FFF#32).toInt

def sendPong (time : Int) : BitVec 16 :=
  to16 (BitVec.ofInt 32 time &&& 0x7FFF#32).toInt

-- the answer of the server to a PING
def answerPing (s1 : BitVec 16) : BitVec 16 :=
  sendPong (from16 s1)

/-- The latency that the client stores when a PONG arrives at `now`, if it stores one. -/
def pongLatency (now : Nat) (s1 : BitVec 16) : Option Int :=
  let nowMs : BitVec 32 := BitVec.ofNat 32 now &&& 0xFFFF#32
  let sentMs : BitVec 32 := BitVec.ofInt 32 (from16 s1)
  let rtt := ((nowMs - sentMs) &&& 0xFFFF#32).toInt
  if rtt ≥ 0 ∧ rtt < 5000 then some rtt else none

def remoteLatency (old : Int) (now : Nat) (s1 : BitVec 16) : Int :=
  (pongLatency now s1).getD old

end ClientServer

/-!
The round-trip time that the client finds: the stamp of a PING has 15 bits, the clock that it is
compared with has 16.
-/

namespace ClientServer

theorem toNat_and_mask15 (x : BitVec 32) : (x &&& 0x7FFF#32).toNat = x.toNat % 2 ^ 15 := by
  rw [BitVec.toNat_and]
  exact Nat.and_two_pow_sub_one_eq_mod x.toNat 15

theorem toNat_and_mask16 (x : BitVec 32) : (x &&& 0xFFFF#32).toNat = x.toNat % 2 ^ 16 := by
  rw [BitVec.toNat_and]
  exact Nat.and_two_pow_sub_one_eq_mod x.toNat 16

theorem toInt_and_mask15 (x : BitVec 32) : (x &&& 0x7FFF#32).toInt = (x.toNat % 2 ^ 15 : Nat) := by
  have := toNat_and_mask15 x
  rw [BitVec.toInt_eq_toNat_of_lt (by omega), this]

theorem toInt_and_mask16 (x : BitVec 32) : (x &&& 0xFFFF#32).toInt = (x.toNat % 2 ^ 16 : Nat) := by
  have := toNat_and_mask16 x
  rw [BitVec.toInt_eq_toNat_of_lt (by omega), this]

theorem from16_sendPing (time : Nat) : from16 (sendPing time) = (time % 2 ^ 15 : Nat) := by
  unfold sendPing
  rw [toInt_and_mask15, BitVec.toNat_ofNat, from16_to16]
  . omega
  . constructor <;> omega

-- The server sends the stamp back.
theorem from16_answerPing (time : Nat)
    : from16 (answerPing (sendPing time)) = (time % 2 ^ 15 : Nat) := by
  unfold answerPing sendPong
  rw [from16_sendPing, toInt_and_mask15, BitVec.ofInt_natCast, BitVec.toNat_ofNat, from16_to16]
  . omega
  . constructor <;> omega

theorem pongLatency_answerPing (time now : Nat)
    : pongLatency now (answerPing (sendPing time))
        = if (now + 2 ^ 16 - time % 2 ^ 15) % 2 ^ 16 < 5000 then
            some (((now + 2 ^ 16 - time % 2 ^ 15) % 2 ^ 16 : Nat) : Int)
          else
            none := by
  have hrtt : (((BitVec.ofNat 32 now &&& 0xFFFF#32)
        - BitVec.ofInt 32 (from16 (answerPing (sendPing time)))) &&& 0xFFFF#32).toInt
      = ((now + 2 ^ 16 - time % 2 ^ 15) % 2 ^ 16 : Nat) := by
    rw [from16_answerPing, toInt_and_mask16, BitVec.toNat_sub, toNat_and_mask16,
      BitVec.ofInt_natCast, BitVec.toNat_ofNat, BitVec.toNat_ofNat]
    omega
  unfold pongLatency
  dsimp only
  rw [hrtt]
  split <;> split <;> first | rfl | omega

/-- A round trip that starts at `time` is measured exactly, whatever was stored before. -/
def Measures (time elapsed : Nat) : Prop :=
  ∀ old, remoteLatency old (time + elapsed) (answerPing (sendPing time)) = elapsed

theorem measures_iff_pongLatency (time elapsed : Nat)
    : Measures time elapsed
      ↔ pongLatency (time + elapsed) (answerPing (sendPing time)) = some (elapsed : Int) := by
  unfold Measures remoteLatency
  constructor
  . intro h
    cases hpong : pongLatency (time + elapsed) (answerPing (sendPing time)) with
    | none =>
      have := h (elapsed + 1)
      rw [hpong, Option.getD_none] at this
      omega
    | some rtt =>
      have := h 0
      rw [hpong, Option.getD_some] at this
      rw [this]
  . intro h old
    rw [h, Option.getD_some]

-- With bit 15 of the clock set, half of its range is added and nothing is stored.
theorem measures_iff {time elapsed : Nat} (h : elapsed < 5000)
    : Measures time elapsed ↔ time.testBit 15 = false := by
  rw [measures_iff_pongLatency, pongLatency_answerPing, Nat.testBit_eq_decide_div_mod_eq]
  by_cases hbit : time / 2 ^ 15 % 2 = 1
  . have hlate : (time + elapsed + 2 ^ 16 - time % 2 ^ 15) % 2 ^ 16 = elapsed + 2 ^ 15 := by omega
    rw [hlate, if_neg (by omega)]
    simp
    omega
  . have hexact : (time + elapsed + 2 ^ 16 - time % 2 ^ 15) % 2 ^ 16 = elapsed := by omega
    rw [hexact, if_pos h]
    simp
    omega

theorem measures_iff_at : Measures 1000 20 ↔ (1000).testBit 15 = false :=
  measures_iff (by decide)

theorem not_measures : ¬ Measures 32768 20 := by
  intro h
  exact absurd (h 0) (by decide)

end ClientServer
