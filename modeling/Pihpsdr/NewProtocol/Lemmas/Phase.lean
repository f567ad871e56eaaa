import Pihpsdr.NewProtocol.Lemmas.Ddc
import Pihpsdr.Vfo.Lemmas.Offset
import Pihpsdr.Vfo.Lemmas.Satellite

/-!
The words for the frequencies of the DDCs and the DUC: when a word is the phase of its frequency,
and which operations on the VFOs keep all frequencies in the range where it is.
-/

namespace NewProtocol

-- frequencies below the clock of the radio
def InClock (f : Int) : Prop :=
  0 ≤ f ∧ f < 122880000

instance (f : Int) : Decidable (InClock f) :=
  inferInstanceAs (Decidable (_ ∧ _))

-- the phase 4294967296 f/122880000, less at most one unit
def IsPhase (f : Int) (w : BitVec 32) : Prop :=
  122880000 * (w.toNat : Int) ≤ 4294967296 * f
    ∧ 4294967296 * f ≤ 122880000 * (w.toNat + 1)

instance (f : Int) (w : BitVec 32) : Decidable (IsPhase f w) :=
  inferInstanceAs (Decidable (_ ∧ _))

theorem phaseFactor_eq : phaseFactor = 2459565876494607 / 2 ^ 46 := by
  decide +kernel

-- the product, with what is lost when it is rounded
theorem product_near {f : Int} (h : InClock f)
    : let p := Rounding.round 53 (Rounding.round 53 f * phaseFactor)
      0 ≤ p ∧ |1875 * p - 65536 * f| < 1 := by
  dsimp only
  unfold InClock at h
  have hf : (0 : ℚ) ≤ f ∧ (f : ℚ) < 122880000 := by
    constructor
    . exact_mod_cast h.1
    . exact_mod_cast h.2
  have hint : Rounding.round 53 (f : ℚ) = f := by
    apply Rounding.round_intCast
    rw [abs_of_nonneg h.1]
    omega
  have hnonneg : (0 : ℚ) ≤ f * phaseFactor := by
    rw [phaseFactor_eq]
    linarith
  have hlt : |(f : ℚ) * phaseFactor| < 2 ^ (33 : ℤ) := by
    rw [abs_of_nonneg hnonneg, phaseFactor_eq]
    norm_num
    linarith
  have hround := Rounding.abs_round_sub_le (p := 53) hlt
  rw [hint]
  constructor
  . exact Rounding.round_nonneg hnonneg
  . rw [abs_le] at hround
    rw [abs_lt]
    have herr : ((2 : ℚ) ^ ((33 : ℤ) - (53 : ℕ) - 1)) = 1 / 2 ^ 21 := by norm_num
    rw [herr, phaseFactor_eq] at hround
    rw [phaseFactor_eq]
    constructor <;> linarith

-- The word is the phase of its frequency and not a wrapped one.
theorem isPhase_phaseWord {f : Int} (h : InClock f) : IsPhase f (phaseWord f) := by
  have hnear := product_near h
  unfold phaseWord toUint32
  generalize Rounding.round 53 (Rounding.round 53 f * phaseFactor) = p at hnear
  obtain ⟨hnonneg, hnear⟩ := hnear
  have htrunc : p.num.tdiv p.den = ⌊p⌋ := by
    rw [Int.tdiv_eq_ediv_of_nonneg (Rat.num_nonneg.mpr hnonneg), Rat.floor_def']
  have hlo := Int.floor_le p
  have hhi := Int.lt_floor_add_one p
  have hfloor : 0 ≤ ⌊p⌋ := Int.floor_nonneg.mpr hnonneg
  rw [abs_lt] at hnear
  have hbelow : 1875 * ⌊p⌋ < 65536 * f + 1 := by
    have : (1875 : ℚ) * ⌊p⌋ < 65536 * f + 1 := by linarith
    exact_mod_cast this
  have habove : 65536 * f - 1 < 1875 * (⌊p⌋ + 1) := by
    have : (65536 : ℚ) * f - 1 < 1875 * (⌊p⌋ + 1) := by linarith
    exact_mod_cast this
  have hword : ((BitVec.ofInt 32 (p.num.tdiv p.den)).toNat : Int) = ⌊p⌋ := by
    rw [htrunc, BitVec.toNat_ofInt]
    unfold InClock at h
    omega
  unfold IsPhase
  rw [hword]
  omega

-- no other frequency has a word that is its phase
theorem isPhase_phaseWord_iff (f : Int) : IsPhase f (phaseWord f) ↔ InClock f := by
  constructor
  . intro h
    have hlt := (phaseWord f).isLt
    have hclock : f ≠ 122880000 := by
      intro heq
      rw [heq] at h
      have hwrapped : ¬ IsPhase 122880000 (phaseWord 122880000) := by decide +kernel
      exact hwrapped h
    unfold IsPhase at h
    unfold InClock
    omega
  . exact isPhase_phaseWord

end NewProtocol

open NewProtocol ClientServer ClientServer.Remote

-- the relative calibration of the frequencies
def calibrated (calibration f : Int) : Int :=
  (f * (10000000 + calibration)).tdiv 10000000

namespace VfoState

def xitPart (v : VfoState) : Int :=
  if v.xitEnabled ≠ 0 then v.xit else 0

/--
What is sent to the radio for a VFO is in range: for its receiver, with and without CTUN, and for
the transmitter.
-/
structure Convertible (v : VfoState) (calibration : Int) : Prop where
  frequency : InClock (calibrated calibration (v.frequency - v.lo))
  dial : InClock (calibrated calibration (v.dial - v.lo))
  transmit : InClock (calibrated calibration (v.dial + v.xitPart - v.lo))

-- the VFO may be tuned to `f`
def Admits (v : VfoState) (calibration f : Int) : Prop :=
  InClock (calibrated calibration (f - v.lo))
    ∧ InClock (calibrated calibration (f + v.xitPart - v.lo))

instance (v : VfoState) (calibration f : Int) : Decidable (v.Admits calibration f) :=
  inferInstanceAs (Decidable (_ ∧ _))

variable {v w : VfoState} {calibration : Int}

theorem convertible_iff
    : v.Convertible calibration
        ↔
      InClock (calibrated calibration (v.frequency - v.lo)) ∧ v.Admits calibration v.dial := by
  constructor
  . intro h
    exact ⟨h.frequency, h.dial, h.transmit⟩
  . intro h
    exact ⟨h.1, h.2.1, h.2.2⟩

instance : Decidable (v.Convertible calibration) :=
  decidable_of_iff' _ convertible_iff

-- a VFO with a single frequency
theorem convertible_of_admits (hf : v.Admits calibration v.frequency) (hdial : v.dial = v.frequency)
    : v.Convertible calibration := by
  rw [convertible_iff, hdial]
  exact ⟨hf.1, hf⟩

theorem Convertible.congr (h : v.Convertible calibration) (hfrequency : w.frequency = v.frequency)
    (hdial : w.dial = v.dial) (hxit : w.xitPart = v.xitPart) (hlo : w.lo = v.lo)
    : w.Convertible calibration where
  frequency := by
    rw [hfrequency, hlo]
    exact h.frequency
  dial := by
    rw [hdial, hlo]
    exact h.dial
  transmit := by
    rw [hdial, hxit, hlo]
    exact h.transmit

theorem Convertible.adjustBand (h : v.Convertible calibration) (config : RadioConfig)
    (bands : BandIndex → BandState) (f : Int)
    : (v.adjustBand config bands f).Convertible calibration := by
  rw [adjustBand_eq]
  exact h.congr rfl rfl rfl rfl

theorem Convertible.loadProfile (h : v.Convertible calibration) (profile : RxtxProfile)
    : (v.loadProfile profile).Convertible calibration :=
  h.congr rfl rfl rfl rfl

-- only the frequency on the dial can become the middle of the window
theorem Convertible.frequencyChanged (h : v.Convertible calibration) (rx : Passband) (rate : Int)
    : (v.frequencyChanged rx rate).Convertible calibration := by
  have hdial := v.dial_frequencyChanged rx rate
  have hlo := v.lo_frequencyChanged rx rate
  have hxit : (v.frequencyChanged rx rate).xitPart = v.xitPart := by
    dsimp only [VfoState.frequencyChanged]
    split <;> rfl
  have hfrequency : (v.frequencyChanged rx rate).frequency = v.frequency
      ∨ (v.frequencyChanged rx rate).frequency = v.dial := by
    unfold VfoState.dial
    dsimp only [VfoState.frequencyChanged]
    split
    . dsimp only
      split
      . right
        rfl
      . left
        rfl
    . left
      rfl
  constructor
  . rw [hlo]
    obtain hsame | hmoved := hfrequency
    . rw [hsame]
      exact h.frequency
    . rw [hmoved]
      exact h.dial
  . rw [hdial, hlo]
    exact h.dial
  . rw [hdial, hxit, hlo]
    exact h.transmit

theorem Convertible.setDial (h : v.Convertible calibration) {f : Int}
    (hf : v.Admits calibration f)
    : (v.setDial f).Convertible calibration := by
  have hxit : (v.setDial f).xitPart = v.xitPart := by
    unfold VfoState.setDial
    split <;> rfl
  rw [convertible_iff]
  unfold Admits at *
  rw [lo_setDial, dial_setDial, hxit]
  refine ⟨?_, hf⟩
  unfold VfoState.setDial
  split
  . exact h.frequency
  . exact hf.1

end VfoState

namespace RadioState

def Convertible (s : RadioState) (calibration : Int) : Prop :=
  ∀ id, (s.vfo id).Convertible calibration

instance (s : RadioState) (calibration : Int) : Decidable (s.Convertible calibration) :=
  inferInstanceAs (Decidable (∀ id, (s.vfo id).Convertible calibration))

variable {s s' : RadioState} {calibration : Int}

-- the VFO that is set needs not have been convertible
theorem convertible_setVfo {id : Fin 2} {v : VfoState}
    (hothers : ∀ id', id' ≠ id → (s.vfo id').Convertible calibration)
    (hs' : s'.toTuningState = s.toTuningState.setVfo id v) (hv : v.Convertible calibration)
    : s'.Convertible calibration := by
  intro id'
  rw [hs', TuningState.vfo_setVfo, Function.update_apply]
  split
  . exact hv
  next hid => exact hothers id' hid

section

variable (h : s.Convertible calibration)
include h

theorem Convertible.of_vfo (hvfo : s'.vfo = s.vfo) : s'.Convertible calibration := by
  intro id
  rw [hvfo]
  exact h id

theorem Convertible.setVfo {id : Fin 2} {v : VfoState}
    (hs' : s'.toTuningState = s.toTuningState.setVfo id v) (hv : v.Convertible calibration)
    : s'.Convertible calibration :=
  convertible_setVfo (fun id' _ => h id') hs' hv

variable (id : Fin 2)

theorem Convertible.vfoIdAdjustBand (f : Int) : (s.vfoIdAdjustBand id f).Convertible calibration :=
  h.setVfo (s.toTuningState_vfoIdAdjustBand id f) ((h id).adjustBand _ _ _)

theorem Convertible.rxFrequencyChanged : (s.rxFrequencyChanged id).Convertible calibration :=
  h.setVfo (s.toTuningState_rxFrequencyChanged id) ((h id).frequencyChanged _ _)

theorem Convertible.rxFrequencyChangedIfRunning
    : (s.rxFrequencyChangedIfRunning id).Convertible calibration := by
  unfold RadioState.rxFrequencyChangedIfRunning
  split
  . exact h.rxFrequencyChanged id
  . exact h

theorem Convertible.rxVfoChanged : (s.rxVfoChanged id).Convertible calibration :=
  h.setVfo (s.toTuningState_rxVfoChanged id) ((h id).frequencyChanged _ _)

theorem Convertible.setDial {f : Int} (hf : (s.vfo id).Admits calibration f)
    : (s.setDial id f).Convertible calibration :=
  h.setVfo (s.toTuningState_setDial id f) (((h id).setDial hf).adjustBand _ _ _)

theorem Convertible.rxSetFrequency {f : Int} (hf : (s.vfo id).Admits calibration f)
    : (s.rxSetFrequency id f).Convertible calibration := by
  unfold RadioState.rxSetFrequency
  apply Convertible.rxFrequencyChanged
  exact h.setVfo rfl ((h id).setDial hf)

theorem Convertible.vfoVfosChanged : s.vfoVfosChanged.Convertible calibration := by
  intro id'
  have hsettled : s.vfoVfosChanged.vfo id' = s.settle id' (s.vfo id') := by
    rw [toTuningState_vfoVfosChanged]
    rfl
  rw [hsettled]
  unfold settle
  split
  . exact (h id').frequencyChanged _ _
  . exact h id'

theorem Convertible.loadProfileIf (changed : Bool)
    : (s.loadProfileIf id changed).Convertible calibration := by
  apply h.setVfo (s.loadProfileIf_eq id changed)
  split
  . exact (h id).loadProfile _
  . exact h id

-- the other VFO may be tuned to where it follows
theorem Convertible.satFollow {delta : Int}
    (hother : (s.vfo (1 - id)).Admits calibration
      ((s.vfo (1 - id)).dial + satShift s.satMode delta))
    : (s.satFollow id delta).Convertible calibration := by
  unfold satShift at hother
  dsimp only [RadioState.satFollow]
  split
  next hmode =>
    rw [if_pos hmode] at hother
    apply Convertible.rxFrequencyChangedIfRunning
    exact h.setDial (1 - id) hother
  next hmode =>
    rw [if_neg hmode] at hother
    split
    next hrev =>
      rw [if_pos hrev] at hother
      apply Convertible.rxFrequencyChangedIfRunning
      exact h.setDial (1 - id) hother
    next => exact h

theorem Convertible.satFollowTo {delta : Int}
    (hother : (s.vfo (1 - id)).Admits calibration
      ((s.vfo (1 - id)).dial + satShift s.satMode delta))
    : (s.satFollowTo id delta).Convertible calibration := by
  dsimp only [RadioState.satFollowTo]
  split
  next hbranch =>
    obtain ⟨hmode, hctun⟩ := hbranch
    have hdial : (s.vfo (1 - id)).dial = (s.vfo (1 - id)).ctunFrequency := if_pos hctun
    rw [satShift, if_pos hmode, hdial] at hother
    have hset := (h (1 - id)).setDial hother
    rw [VfoState.setDial, if_pos hctun] at hset
    apply Convertible.rxFrequencyChangedIfRunning
    apply Convertible.vfoIdAdjustBand
    exact h.setVfo rfl hset
  next => exact h.satFollow id hother

end

-- where a command tunes the two VFOs
def AdmitsTune (s : RadioState) (calibration : Int) (id : Fin 2) (c : TuneCommand) : Prop :=
  ∀ f ∈ s.tuneTarget id c,
    (s.vfo id).Admits calibration f
      ∧ (s.vfo (1 - id)).Admits calibration
        ((s.vfo (1 - id)).dial + satShift s.satMode (f - (s.vfo id).dial))

-- the VFOs that a memory slot replaces
def AdmitsSlot (s : RadioState) (calibration : Int) (slot : Mem) : Prop :=
  if slot.satMode = satModeNone then
    ∀ b ∈ bandIndex? slot.bd,
      ((s.vfo s.config.activeReceiver).loadSlot s.bands b (memEntry slot)).Convertible calibration
  else
    (∀ b ∈ bandIndex? slot.bd,
        ((s.vfo 0).loadSlot s.bands b (memEntry slot)).Convertible calibration)
      ∧ ∀ b ∈ bandIndex? slot.altBd,
        ((s.vfo 1).loadSlot s.bands b (memAltEntry slot)).Convertible calibration

def AdmitsRequest (s : RadioState) (calibration : Int) : Request → Prop
  | .ctun id state =>
    let v := s.vfo id
    v.ctun ≠ 0 → state ≠ 0 → v.ctun ≠ state → v.Admits calibration v.frequency
  | .bandstack id b => ((s.vfo id).loadEntry (s.entryAt id b)).Convertible calibration
  | .band id b =>
    (b ≠ (s.vfo id).band ∧ OutOfRange s.config (s.bands b))
      ∨ { (s.vfo id).loadEntry (s.bandEntry id b) with
          lo := (s.bands b).lo }.Convertible calibration
  | .recallMemory index => s.AdmitsSlot calibration (s.mem index)
  | _ => True

-- the LO frequency of a VFO becomes `lo`, a frequency out of the range of the radio its middle
def AdmitsLo (v : VfoState) (calibration : Int) (config : RadioConfig) (lo : Int) : Prop :=
  if LeavesRange config lo v.frequency then
    { v with lo := lo }.Admits calibration (middleFrequency config lo)
  else
    { v with lo := lo }.Convertible calibration

instance (s : RadioState) (calibration : Int) (id : Fin 2) (c : TuneCommand)
    : Decidable (s.AdmitsTune calibration id c) := by
  unfold AdmitsTune
  infer_instance

/--
What an operation asks for is in range: the frequencies on the dials, those of the band stacks and
memory slots, with the LO frequency, and for the transmitter with XIT.
-/
def Admits (s : RadioState) (calibration : Int) : TermOperation → Prop
  | .receive (.frequency (.tune id c)) => s.AdmitsTune calibration id c
  | .receive (.frequency (.setFrequency id f)) => (s.vfo id).Admits calibration f
  | .receive (.frequency (.request r)) => s.AdmitsRequest calibration r
  | .receive (.cmdCtun id _) =>
    (s.vfo id).ctun ≠ 0 → (s.vfo id).Admits calibration (s.vfo id).frequency
  | .xitValue id value =>
    let v := s.vfo id
    InClock (calibrated calibration (v.dial + max (-9999) (min 9999 value) - v.lo))
  | .xitOnoff id enable =>
    let v := s.vfo id
    enable ≠ 0 → InClock (calibrated calibration (v.dial + v.xit - v.lo))
  | .xvtrs xvtrs =>
    ∀ id, (s.vfo id).band.val ≥ numBands →
      AdmitsLo (s.vfo id) calibration s.config (xvtrs (s.vfo id).band).lo
  | _ => True

section

variable (h : s.Convertible calibration)
include h

theorem Convertible.setDial_satFollow {id : Fin 2} {f : Int}
    (hf : (s.vfo id).Admits calibration f)
    (hother : (s.vfo (1 - id)).Admits calibration
      ((s.vfo (1 - id)).dial + satShift s.satMode (f - (s.vfo id).dial)))
    : ((s.setDial id f).satFollow id (f - (s.vfo id).dial)).Convertible calibration := by
  apply (h.setDial id hf).satFollow
  rw [vfo_setDial_other, (s.onlyVfo_setDial id f).satMode]
  exact hother

theorem Convertible.tune {id : Fin 2} {c : TuneCommand} (hc : s.AdmitsTune calibration id c)
    : (s.tune id c).Convertible calibration := by
  unfold AdmitsTune at hc
  cases c with
  | step st =>
    dsimp only [RadioState.tune, vfoIdStep, tuneTarget] at *
    split
    . exact h
    next hlocked =>
      rw [if_neg hlocked] at hc
      split
      . exact h
      next hstays =>
        rw [if_neg hstays] at hc
        obtain ⟨hown, hother⟩ := hc _ rfl
        exact (h.setDial_satFollow hown hother).rxFrequencyChangedIfRunning id
  | move hz rounded =>
    dsimp only [RadioState.tune, vfoIdMove, tuneTarget] at *
    split
    . exact h
    next hlocked =>
      rw [if_neg hlocked] at hc
      split
      . exact h
      next hstays =>
        rw [if_neg hstays] at hc
        obtain ⟨hown, hother⟩ := hc
          (if (s.vfo id).ctun ≠ 0 then
            if rounded ∧ (s.vfo id).mode ≠ modeCwl ∧ (s.vfo id).mode ≠ modeCwu then
              stepRound ((s.vfo id).ctunFrequency + hz) 0 (s.vfo id).step
            else
              (s.vfo id).ctunFrequency + hz
          else if rounded then
            stepRound ((s.vfo id).frequency - hz) 0 (s.vfo id).step
          else
            (s.vfo id).frequency - hz) (by split_ifs <;> rfl)
        exact (h.setDial_satFollow hown hother).rxFrequencyChangedIfRunning id
  | moveTo f rounded =>
    dsimp only [RadioState.tune, vfoIdMoveTo, tuneTarget] at *
    generalize (if rounded = true then stepRound f 0 (s.vfo id).step else f) = f at *
    split
    . exact h
    next hlocked =>
      rw [if_neg hlocked] at hc
      obtain ⟨hown, hother⟩ := hc f rfl
      have hfollow : ((s.setDial id f).satFollowTo id (f - (s.vfo id).dial)).Convertible
          calibration := by
        apply (h.setDial id hown).satFollowTo
        rw [vfo_setDial_other, (s.onlyVfo_setDial id f).satMode]
        exact hother
      split
      . exact hfollow.rxVfoChanged id
      . exact hfollow

theorem Convertible.vfoIdSetFrequency {id : Fin 2} {f : Int}
    (hf : (s.vfo id).Admits calibration f)
    : (s.vfoIdSetFrequency id f).Convertible calibration := by
  have hadjust := h.vfoIdAdjustBand id f
  have hvfo : (s.vfoIdAdjustBand id f).vfo id
      = (s.vfo id).adjustBand s.config s.bands f := by
    rw [toTuningState_vfoIdAdjustBand, TuningState.vfo_setVfo, Function.update_self]
  have hadmits : ((s.vfoIdAdjustBand id f).vfo id).Admits calibration f := by
    rw [hvfo, VfoState.adjustBand_eq]
    exact hf
  dsimp only [RadioState.vfoIdSetFrequency]
  split
  . exact hadjust.rxSetFrequency id hadmits
  . split
    next =>
      apply hadjust.setVfo rfl
      exact VfoState.convertible_of_admits hadmits rfl
    next hctun =>
      apply hadjust.setVfo rfl
      exact VfoState.convertible_of_admits hadmits (if_neg hctun)

-- a VFO that has got a single frequency, whether its receiver is told or not
theorem Convertible.retuned {s₁ : RadioState} {id : Fin 2} {w : VfoState} {f : Int} {p : Prop}
    [Decidable p] (hs₁ : s₁.toTuningState = s.toTuningState.setVfo id w) (hf : w.frequency = f)
    (hdial : w.dial = f) (hw : w.Admits calibration f)
    : (if p then (s₁.vfoIdAdjustBand id f).rxSetFrequency id f
        else s₁.vfoIdAdjustBand id f).Convertible calibration := by
  subst hf
  have hset := h.setVfo hs₁ (VfoState.convertible_of_admits hw hdial)
  have hadjust := hset.vfoIdAdjustBand id w.frequency
  split
  . apply hadjust.rxSetFrequency id
    rw [toTuningState_vfoIdAdjustBand, TuningState.vfo_setVfo, Function.update_self,
      VfoState.adjustBand_eq, hs₁, TuningState.vfo_setVfo, Function.update_self]
    exact hw
  . exact hadjust

theorem Convertible.vfoIdCtunUpdate {id : Fin 2} {state : Int}
    (hstate : s.AdmitsRequest calibration (.ctun id state))
    : (s.vfoIdCtunUpdate id state).Convertible calibration := by
  have hown := (VfoState.convertible_iff.mp (h id)).2
  unfold VfoState.dial at hown
  dsimp only [RadioState.vfoIdCtunUpdate, AdmitsRequest] at *
  split
  . exact h
  next hchange =>
    split
    next hon =>
      apply h.retuned
      . rfl
      . rfl
      . exact if_pos hon
      . by_cases hctun : (s.vfo id).ctun ≠ 0
        . exact hstate hctun hon hchange
        . rw [if_neg hctun] at hown
          exact hown
    next hoff =>
      have hctun : (s.vfo id).ctun ≠ 0 := by
        intro hzero
        rw [hzero] at hchange
        exact hoff fun hzero' => hchange hzero'.symm
      rw [if_pos hctun] at hown
      apply h.retuned
      . rw [apply_ite (fun s₁ => RadioState.setVfo s₁ id _), apply_ite RadioState.toTuningState]
        apply ite_self
      . rfl
      . exact if_neg hoff
      . exact hown

theorem Convertible.cmdCtun {id : Fin 2} {b2 : BitVec 8}
    (hctun : (s.vfo id).ctun ≠ 0 → (s.vfo id).Admits calibration (s.vfo id).frequency)
    : (cmdCtun s id b2).Convertible calibration := by
  have hadmits : (s.vfo id).Admits calibration (s.vfo id).frequency := by
    by_cases hon : (s.vfo id).ctun ≠ 0
    . exact hctun hon
    . have hdial : (s.vfo id).dial = (s.vfo id).frequency := if_neg hon
      rw [← hdial]
      exact (VfoState.convertible_iff.mp (h id)).2
  apply h.setVfo rfl
  apply VfoState.convertible_of_admits
  . exact hadmits
  . apply ite_self

end

theorem convertible_enterEntry {id : Fin 2} {entry : BandstackEntry}
    (hothers : ∀ id', id' ≠ id → (s.vfo id').Convertible calibration)
    (hentry : ((s.vfo id).loadEntry entry).Convertible calibration) (oldmode : Int)
    : (s.enterEntry id oldmode entry).Convertible calibration := by
  apply convertible_setVfo hothers (s.toTuningState_enterEntry id oldmode entry)
  have henter : ((s.vfo id).enter s.config s.bands entry).Convertible calibration :=
    hentry.adjustBand _ _ _
  dsimp only
  split
  . exact henter.loadProfile _
  . exact henter

theorem convertible_recallVfo {id : Fin 2} {b : BandIndex} {entry : BandstackEntry}
    (hothers : ∀ id', id' ≠ id → (s.vfo id').Convertible calibration)
    (hentry : ((s.vfo id).loadSlot s.bands b entry).Convertible calibration) (load : Bool)
    : (s.recallVfo id load b entry).Convertible calibration := by
  apply convertible_setVfo hothers (s.toTuningState_recallVfo id load b entry)
  apply hentry.congr
  . rfl
  . rfl
  . unfold VfoState.recallMode
    split <;> rfl
  . rfl

section

variable (h : s.Convertible calibration)
include h

theorem Convertible.vfoIdBandstackChanged {id : Fin 2} {b : Int}
    (hentry : ((s.vfo id).loadEntry (s.entryAt id b)).Convertible calibration)
    : (s.vfoIdBandstackChanged id b).Convertible calibration := by
  unfold RadioState.vfoIdBandstackChanged
  apply Convertible.vfoVfosChanged
  rw [enterBandstack_eq]
  apply convertible_enterEntry
  . intro id' hid'
    rw [toTuningState_setVfo, TuningState.vfo_setVfo, Function.update_of_ne hid', vfo_jumpedFor]
    exact h id'
  . rw [toTuningState_setVfo, TuningState.vfo_setVfo, Function.update_self]
    exact hentry.congr rfl rfl rfl rfl

theorem Convertible.vfoIdBandChanged {id : Fin 2} {b : BandIndex}
    (hb : s.AdmitsRequest calibration (.band id b))
    : (s.vfoIdBandChanged id b).Convertible calibration := by
  unfold RadioState.vfoIdBandChanged
  split
  . exact h
  next hrefused =>
    have hentry := hb.resolve_left hrefused
    apply Convertible.vfoVfosChanged
    have hentered : (((s.steppedFor id b).setVfo id (s.bandVfo id b)).enterEntry id (s.vfo id).mode
        (s.bandEntry id b)).Convertible calibration := by
      apply convertible_enterEntry
      . intro id' hid'
        rw [toTuningState_setVfo, TuningState.vfo_setVfo, Function.update_of_ne hid',
          vfo_steppedFor]
        exact h id'
      . rw [toTuningState_setVfo, TuningState.vfo_setVfo, Function.update_self]
        exact hentry.congr rfl rfl rfl (s.lo_bandVfo id b)
    rw [enterBand_eq]
    apply hentered.of_vfo
    rw [toTuningState_applyIfMoved]

theorem Convertible.recallAny {slot : Mem} {b : Fin 2 → BandIndex}
    (hfirst : bandIndex? slot.bd = some (b 0))
    (hsecond : slot.satMode ≠ satModeNone → bandIndex? slot.altBd = some (b 1))
    (hslot : s.AdmitsSlot calibration slot)
    : (s.recallAny slot b).Convertible calibration := by
  unfold AdmitsSlot at hslot
  unfold RadioState.recallAny
  split
  next hsat =>
    rw [if_pos hsat] at hslot
    exact convertible_recallVfo (fun id' _ => h id') (hslot _ hfirst) true
  next hsat =>
    rw [if_neg hsat] at hslot
    have hmain := convertible_recallVfo (fun id' _ => h id') (hslot.1 _ hfirst) true
    have hboth : (s.recallBoth slot b).Convertible calibration := by
      apply convertible_recallVfo fun id' _ => hmain id'
      have halt := hslot.2 _ (hsecond hsat)
      rw [toTuningState_recallVfo]
      exact halt
    apply hboth.of_vfo
    rw [toTuningState_radioSetSplit]

theorem Convertible.recallSlot {slot : Mem} {b : Fin 2 → BandIndex}
    (hfirst : bandIndex? slot.bd = some (b 0))
    (hsecond : slot.satMode ≠ satModeNone → bandIndex? slot.altBd = some (b 1))
    (hslot : s.AdmitsSlot calibration slot)
    : (s.recallSlot slot b).Convertible calibration := by
  have hset : (s.setSatMode slot.satMode).Convertible calibration := h.of_vfo rfl
  have hany := hset.recallAny hfirst hsecond hslot
  apply Convertible.vfoVfosChanged
  exact hany.of_vfo rfl

theorem Convertible.vfoAToB : s.vfoAToB.Convertible calibration := by
  dsimp only [RadioState.vfoAToB]
  apply Convertible.vfoVfosChanged
  apply Convertible.loadProfileIf
  exact h.setVfo rfl (h 0)

theorem Convertible.vfoBToA : s.vfoBToA.Convertible calibration := by
  dsimp only [RadioState.vfoBToA]
  apply Convertible.vfoVfosChanged
  apply Convertible.loadProfileIf
  exact h.setVfo rfl (h 1)

theorem Convertible.vfoASwapB : s.vfoASwapB.Convertible calibration := by
  dsimp only [RadioState.vfoASwapB]
  apply Convertible.vfoVfosChanged
  apply Convertible.loadProfileIf
  apply Convertible.loadProfileIf
  have hfirst : (s.setVfo 0 (s.vfo 1)).Convertible calibration := h.setVfo rfl (h 1)
  exact hfirst.setVfo rfl (h 0)

theorem Convertible.perform {r : Request} (hr : s.AdmitsRequest calibration r)
    (hs' : perform s r = some s')
    : s'.Convertible calibration := by
  cases r with
  | ctun id state =>
    rw [← Option.some.inj hs']
    exact h.vfoIdCtunUpdate hr
  | mode id m =>
    rw [← Option.some.inj hs']
    apply h.setVfo (s.toTuningState_vfoIdModeChanged id m)
    dsimp only
    split
    . exact (h id).congr rfl rfl rfl rfl
    . exact (h id).congr rfl rfl rfl rfl
  | bandstack id b =>
    rw [← Option.some.inj hs']
    exact h.vfoIdBandstackChanged hr
  | band id b =>
    rw [← Option.some.inj hs']
    exact h.vfoIdBandChanged hr
  | filter id f =>
    rw [← Option.some.inj hs']
    apply h.setVfo (s.toTuningState_vfoIdFilterChanged id f)
    exact (h id).congr rfl rfl rfl rfl
  | recallMemory index =>
    obtain ⟨b, hfirst, hsecond, heq⟩ := s.exists_recallSlot hs'
    rw [heq]
    exact h.recallSlot hfirst hsecond hr
  | aToB =>
    rw [← Option.some.inj hs']
    exact h.vfoAToB
  | bToA =>
    rw [← Option.some.inj hs']
    exact h.vfoBToA
  | swap =>
    rw [← Option.some.inj hs']
    exact h.vfoASwapB

theorem Convertible.xvtrChanged {id : Fin 2}
    (hlo : (s.vfo id).band.val ≥ numBands →
      AdmitsLo (s.vfo id) calibration s.config (s.bands (s.vfo id).band).lo)
    : (s.xvtrChanged id).Convertible calibration := by
  unfold AdmitsLo at hlo
  dsimp only [RadioState.xvtrChanged]
  split
  next hxvtr =>
    have hlo := hlo hxvtr
    unfold BandState.lo at hlo
    split
    next hleaves =>
      rw [if_pos hleaves] at hlo
      apply h.retuned
      . rfl
      . rfl
      . rfl
      . exact hlo
    next hstays =>
      rw [if_neg hstays] at hlo
      exact h.setVfo rfl hlo
  next => exact h

omit h in
theorem exists_xvtrChanged (s : RadioState) (id : Fin 2)
    : ∃ w, (s.xvtrChanged id).toTuningState = s.toTuningState.setVfo id w := by
  have hself : ∃ w, s.toTuningState = s.toTuningState.setVfo id w :=
    ⟨s.vfo id, (TuningState.setVfo_self _ _).symm⟩
  dsimp only [RadioState.xvtrChanged]
  split
  . split
    . split
      . unfold RadioState.rxSetFrequency
        rw [toTuningState_rxFrequencyChanged, toTuningState_setVfo, toTuningState_vfoIdAdjustBand,
          toTuningState_setVfo, TuningState.setVfo_setVfo, TuningState.setVfo_setVfo,
          TuningState.setVfo_setVfo]
        exact ⟨_, rfl⟩
      . rw [toTuningState_vfoIdAdjustBand, toTuningState_setVfo, TuningState.setVfo_setVfo]
        exact ⟨_, rfl⟩
    . exact ⟨_, rfl⟩
  . exact hself

theorem Convertible.vfoXvtrChanged
    (hlo : ∀ id, (s.vfo id).band.val ≥ numBands →
      AdmitsLo (s.vfo id) calibration s.config (s.bands (s.vfo id).band).lo)
    : s.vfoXvtrChanged.Convertible calibration := by
  obtain ⟨w, hfirst⟩ := s.exists_xvtrChanged 0
  have honly := s.onlyVfo_of_setVfo 0 hfirst
  have hsecond : (s.xvtrChanged 0).vfo 1 = s.vfo 1 := by
    rw [hfirst, TuningState.vfo_setVfo, Function.update_of_ne (by decide)]
  apply (h.xvtrChanged (hlo 0)).xvtrChanged
  rw [hsecond, honly.config, honly.bands]
  exact hlo 1

theorem Convertible.offsetOperate {op : OffsetOperation} (hop : s.Admits calibration (.receive op))
    (hs' : s.offsetOperate op = some s')
    : s'.Convertible calibration := by
  cases op with
  | frequency op =>
    cases op with
    | tune id c =>
      rw [← Option.some.inj hs']
      exact h.tune hop
    | setFrequency id f =>
      rw [← Option.some.inj hs']
      exact h.vfoIdSetFrequency hop
    | request r => exact h.perform hop hs'
  | ritValue id value =>
    rw [← Option.some.inj hs']
    apply Convertible.rxFrequencyChangedIfRunning
    exact h.setVfo rfl ((h id).congr rfl rfl rfl rfl)
  | ritOnoff id enable =>
    rw [← Option.some.inj hs']
    apply Convertible.rxFrequencyChangedIfRunning
    exact h.setVfo rfl ((h id).congr rfl rfl rfl rfl)
  | catRit c =>
    rw [← Option.some.inj hs']
    apply h.setVfo rfl
    cases c <;> exact (h 0).congr rfl rfl rfl rfl
  | cmdCtun id b2 =>
    rw [← Option.some.inj hs']
    exact h.cmdCtun hop
  | filterVar m f e =>
    rw [← Option.some.inj hs']
    apply h.of_vfo
    dsimp only [filterVarChanged]
    rw [toTuningState_filterChangedIfUsed, toTuningState_filterChangedIfUsed]
    exact s.vfo_withFilterVar m f e
  | var1Edges e =>
    rw [← Option.some.inj hs']
    have hset : (s.setVar1Edges e).Convertible calibration := h.of_vfo rfl
    apply hset.setVfo (toTuningState_vfoIdFilterChanged _ 0 filterVar1)
    exact (hset 0).congr rfl rfl rfl rfl
  | filterEdges id e =>
    rw [← Option.some.inj hs']
    apply h.of_vfo
    dsimp only [filterEdgesChanged]
    split <;> rfl
  | deviation id deviation =>
    rw [← Option.some.inj hs']
    have hset : (s.setVfo id { s.vfo id with deviation := deviation }).Convertible calibration :=
      h.setVfo rfl ((h id).congr rfl rfl rfl rfl)
    apply hset.of_vfo
    dsimp only [deviationChanged]
    rw [toTuningState_txSetFilter]
    split <;> rfl

theorem Convertible.vfoIdXitValue {id : Fin 2} {value : Int}
    (hvalue : s.Admits calibration (.xitValue id value))
    : (s.vfoIdXitValue id value).Convertible calibration := by
  apply h.setVfo rfl
  refine ⟨(h id).frequency, (h id).dial, ?_⟩
  have hpart (x : Int) : (if (if x ≠ 0 then (1 : Int) else 0) ≠ 0 then x else 0) = x := by
    split
    . rfl
    . split at * <;> simp_all
  unfold VfoState.xitPart
  dsimp only
  rw [hpart]
  exact hvalue

theorem Convertible.vfoIdXitOnoff {id : Fin 2} {enable : Int}
    (henable : s.Admits calibration (.xitOnoff id enable))
    : (s.vfoIdXitOnoff id enable).Convertible calibration := by
  apply h.setVfo rfl
  refine ⟨(h id).frequency, (h id).dial, ?_⟩
  unfold VfoState.xitPart
  dsimp only
  by_cases hon : enable ≠ 0
  . rw [if_pos hon]
    exact henable hon
  . rw [if_neg hon, if_neg (not_not.mpr rfl), Int.add_zero]
    exact (h id).dial

-- what one operation does
theorem Convertible.termOperate {op : TermOperation} (hop : s.Admits calibration op)
    (hs' : s.termOperate op = some s')
    : s'.Convertible calibration := by
  cases op with
  | receive op => exact h.offsetOperate hop hs'
  | xitValue id value =>
    rw [← Option.some.inj hs']
    exact h.vfoIdXitValue hop
  | xitOnoff id enable =>
    rw [← Option.some.inj hs']
    exact h.vfoIdXitOnoff hop
  | satMode mode =>
    rw [← Option.some.inj hs']
    exact h.of_vfo rfl
  | split val =>
    rw [← Option.some.inj hs']
    apply h.of_vfo
    rw [toTuningState_radioSetSplit]
  | xvtrs xvtrs =>
    rw [← Option.some.inj hs']
    have hset : (s.setXvtrs xvtrs).Convertible calibration := h.of_vfo rfl
    apply hset.vfoXvtrChanged
    intro id hxvtr
    have hband : (s.setXvtrs xvtrs).bands ((s.setXvtrs xvtrs).vfo id).band
        = xvtrs (s.vfo id).band := if_pos hxvtr
    rw [hband]
    exact hop id hxvtr

end

end RadioState

namespace NewProtocol.DdcSettings

variable (s : DdcSettings) (phase : Int → BitVec 32)

-- the words of the four DDCs in the packet "high priority"
def ddcWords : List Nat :=
  [9, 13, 17, 21]

-- a word that is left at zero, or that is made from a frequency
def Filled (w : BitVec 32) : Prop :=
  w = 0 ∨ ∃ f ∈ s.converted, w = phase f

section

variable {s phase} {p : Packet} (h : ∀ a ∈ ddcWords, s.Filled phase (p.word a))
include h

theorem filled_putWord {w : BitVec 32} {i : Nat} (hi : i ∈ 329 :: ddcWords) (hw : s.Filled phase w)
    : ∀ a ∈ ddcWords, s.Filled phase ((p.putWord i w).word a) := by
  intro a ha
  by_cases heq : a = i
  . rw [heq, Packet.word_putWord_self]
    exact hw
  . have hdisjoint : a + 4 ≤ i ∨ i + 4 ≤ a := by
      simp only [ddcWords, List.mem_cons, List.not_mem_nil, or_false] at hi ha
      omega
    rw [Packet.word_putWord_of_disjoint p hdisjoint]
    exact h a ha

end

theorem filled_newProtocolHighPriority
    : ∀ a ∈ ddcWords, s.Filled phase ((s.newProtocolHighPriority phase).word a) := by
  have hddc (id : Fin 2) : s.Filled phase (phase (s.ddcFrequency id)) := by
    right
    refine ⟨s.ddcFrequency id, ?_, rfl⟩
    match id with
    | 0 => exact List.mem_cons_self
    | 1 => exact List.mem_cons_of_mem _ List.mem_cons_self
  have hduc : s.Filled phase (phase s.ducFrequency) :=
    .inr ⟨s.ducFrequency, by simp [converted], rfl⟩
  have hzeros : ∀ a ∈ ddcWords, s.Filled phase (Packet.zeros.word a) := by
    intro a _
    left
    exact (by decide : 0#8 ++ 0#8 ++ 0#8 ++ 0#8 = (0 : BitVec 32))
  have hfirst := filled_putWord hzeros (i := 9) (by decide) (hddc 0)
  dsimp only [newProtocolHighPriority]
  -- the transmitter comes last
  have hlast {p : Packet} (h : ∀ a ∈ ddcWords, s.Filled phase (p.word a))
      : ∀ a ∈ ddcWords, s.Filled phase
          ((if s.xmit && s.puresignal then
            ((p.putWord 329 (phase s.ducFrequency)).putWord 9
              ((p.putWord 329 (phase s.ducFrequency)).word 329)).putWord 13
              ((p.putWord 329 (phase s.ducFrequency)).word 329)
          else
            p.putWord 329 (phase s.ducFrequency)).word a) := by
    have hset := filled_putWord h (i := 329) (by decide) hduc
    rw [Packet.word_putWord_self]
    split
    . have hpair := filled_putWord hset (i := 9) (by decide) hduc
      exact filled_putWord hpair (by decide) hduc
    . exact hset
  apply hlast
  split
  . exact filled_putWord hfirst (by decide) (hddc 0)
  . have hreceivers : ∀ a ∈ ddcWords, s.Filled phase
        ((if s.receivers > 1 then
          (Packet.zeros.putWord 9 (phase (s.ddcFrequency 0))).putWord 13 (phase (s.ddcFrequency 1))
        else
          Packet.zeros.putWord 9 (phase (s.ddcFrequency 0))).word a) := by
      split
      . exact filled_putWord hfirst (by decide) (hddc 1)
      . exact hfirst
    split
    . have hcopy := filled_putWord hreceivers (i := 17) (by decide) (hreceivers 9 (by decide))
      exact filled_putWord hcopy (by decide) (hreceivers 13 (by decide))
    . exact hreceivers

theorem word_newProtocolHighPriority_duc
    : (s.newProtocolHighPriority phase).word 329 = phase s.ducFrequency := by
  dsimp only [newProtocolHighPriority]
  split
  . rw [Packet.word_putWord_of_disjoint _ (by decide),
      Packet.word_putWord_of_disjoint _ (by decide), Packet.word_putWord_self]
  . apply Packet.word_putWord_self

/--
The frequencies that are converted are not negative and below the clock, and every word in the packet
is the phase of its frequency.
-/
structure PhasesHold : Prop where
  converted : ∀ f ∈ s.converted, InClock f
  duc : IsPhase s.ducFrequency ((s.newProtocolHighPriority phaseWord).word 329)
  ddc : ∀ a ∈ ddcWords,
    (s.newProtocolHighPriority phaseWord).word a = 0
      ∨ ∃ f ∈ s.converted, IsPhase f ((s.newProtocolHighPriority phaseWord).word a)

variable {s} in
theorem phasesHold_of_converted (h : ∀ f ∈ s.converted, InClock f) : s.PhasesHold where
  converted := h
  duc := by
    rw [word_newProtocolHighPriority_duc]
    apply isPhase_phaseWord
    apply h
    simp [DdcSettings.converted]
  ddc a ha := by
    obtain hzero | ⟨f, hf, hword⟩ := s.filled_newProtocolHighPriority phaseWord a ha
    . exact .inl hzero
    . right
      rw [hword]
      exact ⟨f, hf, isPhase_phaseWord (h f hf)⟩

end NewProtocol.DdcSettings

-- a VFO as the packets see it
structure VfoState.Shown (v : VfoState) (w : Vfo) : Prop where
  frequency : w.frequency = v.frequency
  ctun : w.ctun = decide (v.ctun ≠ 0)
  ctunFrequency : w.ctunFrequency = v.ctunFrequency
  xitEnabled : w.xitEnabled = decide (v.xitEnabled ≠ 0)
  xit : w.xit = v.xit
  lo : w.lo = v.lo

theorem VfoState.Shown.txFrequency {v : VfoState} {w : Vfo} (h : v.Shown w)
    : w.txFrequency = v.dial + v.xitPart := by
  unfold Vfo.txFrequency VfoState.dial VfoState.xitPart
  rw [h.frequency, h.ctun, h.ctunFrequency, h.xitEnabled, h.xit]
  simp only [decide_eq_true_eq]

namespace RadioState

-- Whatever else is set, the frequencies of VFOs that are convertible are converted.
theorem Convertible.inClock {s : RadioState} {d : DdcSettings}
    (h : s.Convertible d.frequencyCalibration) (hvfo : ∀ id, (s.vfo id).Shown (d.vfo id))
    : ∀ f ∈ d.converted, InClock f := by
  have hddc (id : Fin 2) : InClock (d.ddcFrequency id) := by
    unfold DdcSettings.ddcFrequency
    rw [(hvfo id).frequency, (hvfo id).lo]
    exact (h id).frequency
  have hduc : InClock d.ducFrequency := by
    dsimp only [DdcSettings.ducFrequency]
    rw [(hvfo _).txFrequency, (hvfo _).lo]
    exact (h _).transmit
  intro f hf
  simp only [DdcSettings.converted, List.mem_cons, List.not_mem_nil, or_false] at hf
  obtain rfl | rfl | rfl := hf
  . exact hddc 0
  . exact hddc 1
  . exact hduc

-- a run that has come to a state is in one where all frequencies are in range
def NextConvertible (calibration : Int) (o : Option RadioState) : Prop :=
  ∀ s, o = some s → s.Convertible calibration

def NextAdmits (calibration : Int) (o : Option RadioState) (op : TermOperation) : Prop :=
  ∀ s, o = some s → s.Admits calibration op

theorem nextConvertible_termNext {calibration : Int} {o : Option RadioState} {op : TermOperation}
    (h : NextConvertible calibration o) (hop : NextAdmits calibration o op)
    : NextConvertible calibration (termNext o op) := by
  intro s' hs'
  cases o with
  | none => contradiction
  | some s =>
    rw [termNext, Option.bind_some] at hs'
    exact (h s rfl).termOperate (hop s rfl) hs'

/--
Whatever is operated, in whatever order: if the start is convertible and every operation asks for
frequencies in range, then all words in every packet on the way are the phases of their frequencies.
-/
theorem phasesHold_exec (calibration : Int) {s : RadioState} (h : s.Convertible calibration)
    {ops : List TermOperation} (hops : Run.Along termNext (NextAdmits calibration) (some s) ops)
    : ∀ ops', ops' <+: ops → ∀ s', Run.exec termNext (some s) ops' = some s' →
        ∀ d : DdcSettings, d.frequencyCalibration = calibration →
          (∀ id, (s'.vfo id).Shown (d.vfo id)) → d.PhasesHold := by
  intro ops' hpre s' hs' d hcalibration hvfo
  have hstart : NextConvertible calibration (some s) := by
    intro s₁ hs₁
    rwa [← Option.some.inj hs₁]
  obtain ⟨post, hpost⟩ := hpre
  rw [← hpost, Run.along_append] at hops
  have hend : NextConvertible calibration (Run.exec termNext (some s) ops') :=
    Run.exec_invariant (fun _ _ => nextConvertible_termNext) hstart hops.1
  subst hcalibration
  exact DdcSettings.phasesHold_of_converted ((hend s' hs').inClock hvfo)

-- a transceiver that gets the frequencies of the VFOs
def shownBy (s : RadioState) : DdcSettings :=
  { DdcSettings.hermes with
    vfo := fun id =>
      let v := s.vfo id
      { band := v.band.val
        mode := .usb
        frequency := v.frequency
        ctun := v.ctun ≠ 0
        ctunFrequency := v.ctunFrequency
        xitEnabled := v.xitEnabled ≠ 0
        xit := v.xit
        lo := v.lo } }

theorem shown_shownBy (s : RadioState) (id : Fin 2) : (s.vfo id).Shown (s.shownBy.vfo id) :=
  ⟨rfl, rfl, rfl, rfl, rfl, rfl⟩

-- 40 m, XIT, and VFO B tuned together with VFO A
theorem phasesHold_exec_initialState
    : let ops := [.receive (.frequency (.setFrequency 0 7100000)), .xitValue 0 1000,
        .satMode satModeSat, .receive (.frequency (.tune 1 (.step 5)))]
      ∀ ops', ops' <+: ops → ∀ s', Run.exec termNext (some initialState) ops' = some s' →
        ∀ d : DdcSettings, d.frequencyCalibration = 0 → (∀ id, (s'.vfo id).Shown (d.vfo id)) →
          d.PhasesHold := by
  apply phasesHold_exec 0
  . decide
  . refine ⟨?_, ?_, ?_, ?_, trivial⟩
    . intro s' hs'
      rw [← Option.some.inj hs']
      exact (by decide : (initialState.vfo 0).Admits 0 7100000)
    . intro s' hs'
      rw [← Option.some.inj hs']
      show InClock _
      decide
    . intro s' hs'
      trivial
    . intro s' hs'
      rw [← Option.some.inj hs']
      show AdmitsTune _ _ _ _
      decide

-- VFO A is set to 99.999999999 GHz.
theorem not_phasesHold_exec
    : ¬ ∀ (ops : List TermOperation) (s' : RadioState),
        Run.exec termNext (some initialState) ops = some s' →
          ∀ d : DdcSettings, d.frequencyCalibration = 0 → (∀ id, (s'.vfo id).Shown (d.vfo id)) →
            d.PhasesHold := by
  intro h
  let s' := initialState.vfoIdSetFrequency 0 99999999999
  have hops := h [.receive (.frequency (.setFrequency 0 99999999999))] s' rfl s'.shownBy rfl
    (shown_shownBy s')
  have hout : ¬ InClock (s'.shownBy.ddcFrequency 0) := by decide
  exact hout (hops.converted _ List.mem_cons_self)

end RadioState
