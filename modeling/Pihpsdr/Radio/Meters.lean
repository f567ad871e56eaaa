import Mathlib.Data.BitVec
import Pihpsdr.Lib.Indices
import Pihpsdr.Lib.Run
import Pihpsdr.Lib.Smoothing

/-!
The analog inputs of the radio, as `process_control_bytes` (`old_protocol.c`) and `process_high_priority`
(`new_protocol.c`) keep them: the accumulators, which have 16 times the value, and what is derived from them.
Each function has its own accumulators, and a program run uses one protocol.
-/

namespace Radio

inductive Meter where
  | exciter
  | forward
  | reverse
  | adc0
  | adc1
  deriving DecidableEq

-- `value` are `exciter_power`, `alex_forward_power`, `alex_reverse_power`, `ADC0` and `ADC1`
structure Meters where
  acc : Meter → BitVec 32
  value : Meter → BitVec 32
  alexForwardMax : BitVec 32

namespace Meters

def init : Meters :=
  ⟨fun _ => 0, fun _ => 0, 0⟩

def accumulate (s : Meters) (m : Meter) (val : BitVec 32) : Meters :=
  { s with acc := Function.update s.acc m ((15 * s.acc m) / 16 + val) }

def derive (s : Meters) (m : Meter) : Meters :=
  { s with value := Function.update s.value m (s.acc m / 16) }

def peak (s : Meters) (val : BitVec 32) : Meters :=
  if val > s.alexForwardMax then { s with alexForwardMax := val } else s

def word (hi lo : BitVec 8) : BitVec 32 :=
  ((hi.setWidth 32 &&& 0xFF) <<< 8) ||| (lo.setWidth 32 &&& 0xFF)

def processControlBytes (s : Meters) (hermesLite2 : Bool) (controlIn : Vector (BitVec 8) 5)
    : Meters :=
  -- the acknowledgements of a HermesLite-II
  if hermesLite2 ∧ controlIn.get 0 &&& 0x80 ≠ 0 then
    s
  else
    match ((controlIn.get 0 >>> 3) &&& 0x1F).toNat with
    | 1 =>
      let s := (s.accumulate .exciter (word (controlIn.get 1) (controlIn.get 2))).derive .exciter
      let val := word (controlIn.get 3) (controlIn.get 4)
      ((s.accumulate .forward val).derive .forward).peak val
    | 2 =>
      let s := (s.accumulate .reverse (word (controlIn.get 1) (controlIn.get 2))).derive .reverse
      (s.accumulate .adc0 (word (controlIn.get 3) (controlIn.get 4))).derive .adc0
    | 3 => (s.accumulate .adc1 (word (controlIn.get 1) (controlIn.get 2))).derive .adc1
    | _ => s

def processHighPriority (s : Meters) (buffer : Nat → BitVec 8) : Meters :=
  let s := s.accumulate .exciter (word (buffer 6) (buffer 7))
  let val := word (buffer 14) (buffer 15)
  let s := (s.accumulate .forward val).peak val
  let s := s.accumulate .reverse (word (buffer 22) (buffer 23))
  let s := s.accumulate .adc1 (word (buffer 55) (buffer 56))
  let s := s.accumulate .adc0 (word (buffer 57) (buffer 58))
  ((((s.derive .exciter).derive .forward).derive .reverse).derive .adc0).derive .adc1

inductive Report where
  | controlIn (hermesLite2 : Bool) (bytes : Vector (BitVec 8) 5)
  | highPriority (buffer : Nat → BitVec 8)

def step (s : Meters) : Report → Meters
  | .controlIn hermesLite2 bytes => s.processControlBytes hermesLite2 bytes
  | .highPriority buffer => s.processHighPriority buffer

end Meters

namespace Meters.Report

-- the reading of a meter that is reported
def reading (m : Meter) : Report → Option (BitVec 32)
  | .controlIn hermesLite2 bytes =>
    if hermesLite2 ∧ bytes.get 0 &&& 0x80 ≠ 0 then
      none
    else
      match ((bytes.get 0 >>> 3) &&& 0x1F).toNat, m with
      | 1, .exciter => some (word (bytes.get 1) (bytes.get 2))
      | 1, .forward => some (word (bytes.get 3) (bytes.get 4))
      | 2, .reverse => some (word (bytes.get 1) (bytes.get 2))
      | 2, .adc0 => some (word (bytes.get 3) (bytes.get 4))
      | 3, .adc1 => some (word (bytes.get 1) (bytes.get 2))
      | _, _ => none
  | .highPriority buffer =>
    match m with
    | .exciter => some (word (buffer 6) (buffer 7))
    | .forward => some (word (buffer 14) (buffer 15))
    | .reverse => some (word (buffer 22) (buffer 23))
    | .adc0 => some (word (buffer 57) (buffer 58))
    | .adc1 => some (word (buffer 55) (buffer 56))

def readings (m : Meter) (es : List Report) : List Nat :=
  (es.filterMap (reading m)).map BitVec.toNat

end Meters.Report

namespace Meters

open Report

theorem word_lt (hi lo : BitVec 8) : (word hi lo).toNat < 2 ^ 16 := by
  have hhi : (hi.setWidth 32 &&& 0xFF).toNat < 2 ^ 8 := by
    rw [BitVec.toNat_and]
    exact Nat.and_lt_two_pow _ (by decide)
  have hlo : (lo.setWidth 32 &&& 0xFF).toNat < 2 ^ 8 := by
    rw [BitVec.toNat_and]
    exact Nat.and_lt_two_pow _ (by decide)
  unfold word
  rw [BitVec.toNat_or, BitVec.toNat_shiftLeft]
  apply Nat.or_lt_two_pow
  . apply Nat.lt_of_le_of_lt (Nat.mod_le _ _)
    rw [Nat.shiftLeft_eq]
    omega
  . omega

theorem reading_lt {m : Meter} {r : Report} {val : BitVec 32} (h : reading m r = some val)
    : val.toNat < 2 ^ 16 := by
  unfold reading at h
  split at h
  . split at h
    . contradiction
    . split at h
      case h_6 => contradiction
      all_goals
        rw [Option.some.injEq] at h
        rw [← h]
        apply word_lt
  . split at h
    all_goals
      rw [Option.some.injEq] at h
      rw [← h]
      apply word_lt

theorem lt_of_mem_readings {m : Meter} {es : List Report} {v : Nat} (h : v ∈ readings m es)
    : v < 2 ^ 16 := by
  obtain ⟨val, hval, rfl⟩ := List.mem_map.mp h
  obtain ⟨r, -, hr⟩ := List.mem_filterMap.mp hval
  exact reading_lt hr

variable (s : Meters) (r : Report) (m : Meter) (val : BitVec 32)

@[simp]
theorem peak_acc : (s.peak val).acc = s.acc := by
  unfold peak
  split <;> rfl

@[simp]
theorem peak_value : (s.peak val).value = s.value := by
  unfold peak
  split <;> rfl

@[simp]
theorem derive_acc : (s.derive m).acc = s.acc := rfl

@[simp]
theorem accumulate_value : (s.accumulate m val).value = s.value := rfl

-- the accumulator of a meter changes with its own readings
theorem acc_step
    : (s.step r).acc m = (reading m r).elim (s.acc m) fun val => (15 * s.acc m) / 16 + val := by
  cases r with
  | controlIn hermesLite2 bytes =>
    unfold step processControlBytes reading
    dsimp only
    split
    . rfl
    . split
      all_goals cases m <;> simp_all [accumulate]
  | highPriority buffer =>
    cases m <;> simp [step, processHighPriority, reading, accumulate]

theorem value_step
    : (s.step r).value m = (reading m r).elim (s.value m) fun _ => (s.step r).acc m / 16 := by
  cases r with
  | controlIn hermesLite2 bytes =>
    unfold step processControlBytes reading
    dsimp only
    split
    . rfl
    . split
      all_goals cases m <;> simp_all [derive, accumulate]
  | highPriority buffer =>
    cases m <;> simp [step, processHighPriority, reading, derive]

-- What a meter shows after readings `vs` is what exact arithmetic makes of them.
structure Exact (s : Meters) (m : Meter) (vs : List Nat) : Prop where
  acc : (s.acc m).toNat = vs.foldl (Smoothing.step 16) 0
  value : (s.value m).toNat = Smoothing.smoothed 16 (s.acc m).toNat
  small : ∀ v ∈ vs, v < 2 ^ 16

variable {s r m}

theorem Exact.acc_le {vs : List Nat} (h : s.Exact m vs) {n : Nat} (hn : ∀ v ∈ vs, v ≤ n)
    : (s.acc m).toNat ≤ 16 * n := by
  rw [h.acc]
  exact Smoothing.foldl_step_le (by decide) hn (Nat.zero_le _)

theorem Exact.acc_lt {vs : List Nat} (h : s.Exact m vs) : (s.acc m).toNat < 2 ^ 20 := by
  have := h.acc_le (n := 2 ^ 16 - 1) fun v hv => Nat.le_sub_one_of_lt (h.small v hv)
  omega

theorem toNat_accumulated {acc val : BitVec 32} (hacc : acc.toNat < 2 ^ 20) (hval : val.toNat < 2 ^ 16)
    : ((15 * acc) / 16 + val).toNat = Smoothing.step 16 acc.toNat val.toNat := by
  have hmul : (15 * acc).toNat = 15 * acc.toNat := by
    rw [BitVec.toNat_mul]
    apply Nat.mod_eq_of_lt
    show 15 * acc.toNat < 2 ^ 32
    omega
  have hdiv : (15 * acc / 16).toNat = 15 * acc.toNat / 16 := by
    rw [BitVec.toNat_udiv, hmul]
    rfl
  unfold Smoothing.step
  rw [BitVec.toNat_add, hdiv]
  apply Nat.mod_eq_of_lt
  omega

theorem Exact.step {vs : List Nat} (h : s.Exact m vs) (r : Report)
    : (s.step r).Exact m (vs ++ readings m [r]) := by
  have hacc := acc_step s r m
  have hvalue := value_step s r m
  cases hreading : reading m r with
  | none =>
    have hnil : readings m [r] = [] := by simp [readings, hreading]
    rw [hreading, Option.elim_none] at hacc hvalue
    rw [hnil, List.append_nil]
    exact ⟨by rw [hacc, h.acc], by rw [hvalue, hacc, h.value], h.small⟩
  | some val =>
    have hone : readings m [r] = [val.toNat] := by simp [readings, hreading]
    have hlt := reading_lt hreading
    rw [hreading, Option.elim_some] at hacc hvalue
    rw [hone]
    refine ⟨?_, ?_, ?_⟩
    . rw [hacc, toNat_accumulated h.acc_lt hlt, List.foldl_append, h.acc]
      rfl
    . rw [hvalue, BitVec.toNat_udiv]
      rfl
    . intro v hv
      rw [List.mem_append, List.mem_singleton] at hv
      cases hv with
      | inl hv => exact h.small v hv
      | inr hv => rwa [hv]

theorem Exact.exec {vs : List Nat} (h : s.Exact m vs) (es : List Report)
    : (Run.exec Meters.step s es).Exact m (vs ++ readings m es) := by
  induction es generalizing s vs with
  | nil =>
    rw [readings, List.filterMap_nil, List.map_nil, List.append_nil]
    exact h
  | cons r es ih =>
    have hsplit : readings m (r :: es) = readings m [r] ++ readings m es := by
      rw [← List.singleton_append]
      simp only [readings, List.filterMap_append, List.map_append]
    rw [hsplit, ← List.append_assoc]
    exact ih (h.step r)

theorem exact_init (m : Meter) : init.Exact m [] :=
  ⟨rfl, by simp [init, Smoothing.smoothed], fun _ hv => absurd hv List.not_mem_nil⟩

/--
The smoothing of a meter after the reports `es`: it is exact, since neither the product nor the sum
leaves 31 bits, and what bounds the readings bounds the value that is derived.
-/
structure SmoothedWell (s : Meters) (m : Meter) (vs : List Nat) : Prop where
  exact : s.Exact m vs
  product : 15 * (s.acc m).toNat < 2 ^ 31
  sum : ∀ v < 2 ^ 16, 15 * (s.acc m).toNat / 16 + v < 2 ^ 31
  bounded : ∀ n, (∀ v ∈ vs, v ≤ n) → (s.value m).toNat ≤ n

theorem Exact.smoothedWell {vs : List Nat} (h : s.Exact m vs) : s.SmoothedWell m vs := by
  have hlt := h.acc_lt
  refine ⟨h, by omega, fun v hv => by omega, ?_⟩
  intro n hn
  rw [h.value]
  exact Smoothing.smoothed_le (h.acc_le hn)

theorem smoothed_exec (m : Meter) (es : List Report)
    : (Run.exec step init es).SmoothedWell m (readings m es)
        ∧ ∀ v, ∃ n x, (x = v ∨ x + 1 = v) ∧ ∀ fs, (∀ u ∈ readings m fs, u = v) →
          n ≤ (readings m fs).length →
            ((Run.exec step init (es ++ fs)).value m).toNat = x := by
  have hexact := (exact_init m).exec es
  rw [List.nil_append] at hexact
  refine ⟨hexact.smoothedWell, ?_⟩
  intro v
  obtain ⟨n, b, hb, hn⟩ :=
    Smoothing.exists_foldl_eq (k := 16) (by decide) v ((Run.exec step init es).acc m).toNat
  refine ⟨n, Smoothing.smoothed 16 b, Smoothing.smoothed_of_settled (by decide) hb, ?_⟩
  intro fs hfs hlen
  have hmore := hexact.exec fs
  have hconst : readings m fs = List.replicate (readings m fs).length v := List.eq_replicate_of_mem hfs
  have hfold := hn _ hlen
  rw [← hconst, hexact.acc, ← List.foldl_append, ← hmore.acc] at hfold
  rw [Run.exec_append, hmore.value, hfold]

end Meters

end Radio
