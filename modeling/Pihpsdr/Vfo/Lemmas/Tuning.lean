import Pihpsdr.Radio.Startup
import Pihpsdr.Vfo.Lemmas.Settings

/-!
The band follows the frequency on the dial of each VFO, except for the one branch of
`vfo_id_move_to` that looks at the frequency of the other VFO.
-/

open RadioState

-- the band of a VFO with the band `b` for the frequency `f`
def adjustedBand (config : RadioConfig) (bands : BandIndex → BandState) (b : BandIndex) (f : Int)
    : BandIndex :=
  if WithinBand (bands b) f then b else getBandFromFrequency config bands f

-- names and limits of the bands are the same
def SameLimits (bands bands' : BandIndex → BandState) : Prop :=
  ∀ b, (bands' b).title = (bands b).title ∧ (bands' b).frequencyMin = (bands b).frequencyMin
    ∧ (bands' b).frequencyMax = (bands b).frequencyMax

theorem SameLimits.refl (bands : BandIndex → BandState) : SameLimits bands bands :=
  fun _ => ⟨rfl, rfl, rfl⟩

theorem SameLimits.setBandstack (bands : BandIndex → BandState) (b : BandIndex)
    (stack : BandstackState)
    : SameLimits bands (Function.update bands b { bands b with bandstack := stack }) := by
  intro b'
  by_cases hb : b' = b
  . rw [hb, Function.update_self]
    exact ⟨rfl, rfl, rfl⟩
  . rw [Function.update_of_ne hb]
    exact ⟨rfl, rfl, rfl⟩

theorem adjustedBand_congr {bands bands' : BandIndex → BandState} (h : SameLimits bands bands')
    (config : RadioConfig) (b : BandIndex) (f : Int)
    : adjustedBand config bands' b f = adjustedBand config bands b f := by
  have hholds (b : BandIndex) : bandHolds (bands' b) f ↔ bandHolds (bands b) f := by
    obtain ⟨htitle, hmin, hmax⟩ := h b
    rw [bandHolds, bandHolds, htitle, hmin, hmax]
  obtain ⟨_, hmin, hmax⟩ := h b
  simp only [adjustedBand, WithinBand, getBandFromFrequency, hmin, hmax, hholds]

def VfoState.adjustBand (v : VfoState) (config : RadioConfig) (bands : BandIndex → BandState)
    (f : Int) : VfoState :=
  let b := adjustedBand config bands v.band f
  if v.band = b then v else { v with band := b, bandstack := (bands b).bandstack.currentEntry }

namespace VfoState

variable (v : VfoState) (config : RadioConfig) (bands : BandIndex → BandState) (f : Int)

theorem adjustBand_eq
    : v.adjustBand config bands f
        =
      { v with
        band := adjustedBand config bands v.band f
        bandstack :=
          if v.band = adjustedBand config bands v.band f then
            v.bandstack
          else
            (bands (adjustedBand config bands v.band f)).bandstack.currentEntry } := by
  dsimp only [adjustBand]
  split
  next h => rw [← h]
  next h => rfl

@[simp]
theorem band_adjustBand
    : (v.adjustBand config bands f).band = adjustedBand config bands v.band f := by
  rw [adjustBand_eq]

@[simp]
theorem dial_adjustBand : (v.adjustBand config bands f).dial = v.dial := by
  rw [adjustBand_eq]
  rfl

@[simp]
theorem ctunFrequency_adjustBand
    : (v.adjustBand config bands f).ctunFrequency = v.ctunFrequency := by
  rw [adjustBand_eq]

@[simp]
theorem band_setDial : (v.setDial f).band = v.band := by
  unfold setDial
  split <;> rfl

@[simp]
theorem dial_setDial : (v.setDial f).dial = f := by
  unfold setDial dial
  split <;> simp_all

theorem ctunFrequency_setDial
    : (v.setDial f).ctunFrequency = if v.ctun ≠ 0 then f else v.ctunFrequency := by
  unfold setDial
  split <;> rfl

@[simp]
theorem band_frequencyChanged (rx : Passband) (rate : Int)
    : (v.frequencyChanged rx rate).band = v.band := by
  dsimp only [frequencyChanged]
  split <;> rfl

@[simp]
theorem dial_frequencyChanged (rx : Passband) (rate : Int)
    : (v.frequencyChanged rx rate).dial = v.dial := by
  unfold dial
  dsimp only [frequencyChanged]
  split <;> simp_all

end VfoState

namespace RadioState

variable (s : RadioState) (id : Fin 2) (f : Int)

theorem vfoIdAdjustBand_eq
    : s.vfoIdAdjustBand id f
        =
      if (s.vfo id).band = adjustedBand s.config s.bands (s.vfo id).band f then
        s
      else
        (s.setVfo id ((s.vfo id).adjustBand s.config s.bands f)).radioApplyBandSettings true id := by
  dsimp only [vfoIdAdjustBand, VfoState.adjustBand]
  by_cases hwithin : WithinBand (s.bands (s.vfo id).band) f
  . have hband : adjustedBand s.config s.bands (s.vfo id).band f = (s.vfo id).band :=
      if_pos hwithin
    rw [if_pos hwithin, if_pos hband.symm]
  . have hband : adjustedBand s.config s.bands (s.vfo id).band f
        = getBandFromFrequency s.config s.bands f :=
      if_neg hwithin
    rw [if_neg hwithin, hband]
    by_cases hb : (s.vfo id).band = getBandFromFrequency s.config s.bands f
    . rw [if_neg (not_not.mpr hb), if_pos hb]
    . rw [if_pos hb, if_neg hb, if_neg hb]

@[simp]
theorem toTuningState_vfoIdAdjustBand
    : (s.vfoIdAdjustBand id f).toTuningState
        =
      s.toTuningState.setVfo id ((s.vfo id).adjustBand s.config s.bands f) := by
  rw [vfoIdAdjustBand_eq]
  split
  next h =>
    have hsame : (s.vfo id).adjustBand s.config s.bands f = s.vfo id := if_pos h
    rw [hsame, TuningState.setVfo_self]
  next => rw [toTuningState_radioApplyBandSettings, toTuningState_setVfo]

@[simp]
theorem toPassband_vfoIdAdjustBand (id' : Fin 2)
    : ((s.vfoIdAdjustBand id f).receiver id').toPassband = (s.receiver id').toPassband := by
  rw [vfoIdAdjustBand_eq]
  split
  . rfl
  . rw [toPassband_radioApplyBandSettings, receiver_setVfo]

-- band and frequency on the dial of each VFO
def tuned (v : Fin 2) : BandIndex × Int :=
  ((s.vfo v).band, (s.vfo v).dial)

theorem tuned_eq_update {s s' : RadioState} {v : VfoState}
    (h : s'.toTuningState = s.toTuningState.setVfo id v)
    : s'.tuned = Function.update s.tuned id (v.band, v.dial) := by
  funext id'
  unfold tuned
  rw [h, TuningState.vfo_setVfo]
  by_cases hid : id' = id
  . rw [hid, Function.update_self, Function.update_self]
  . rw [Function.update_of_ne hid, Function.update_of_ne hid]

theorem tuned_vfoIdAdjustBand
    : (s.vfoIdAdjustBand id f).tuned
        =
      Function.update s.tuned id
        (adjustedBand s.config s.bands (s.vfo id).band f, (s.vfo id).dial) := by
  rw [tuned_eq_update id (s.toTuningState_vfoIdAdjustBand id f)]
  simp

@[simp]
theorem toTuningState_setDial
    : (s.setDial id f).toTuningState
        =
      s.toTuningState.setVfo id (((s.vfo id).setDial f).adjustBand s.config s.bands f) := by
  simp [setDial]

@[simp]
theorem tuned_setDial
    : (s.setDial id f).tuned
        =
      Function.update s.tuned id (adjustedBand s.config s.bands (s.vfo id).band f, f) := by
  rw [tuned_eq_update id (s.toTuningState_setDial id f)]
  simp

theorem tuned_setVfo (v : VfoState)
    : (s.setVfo id v).tuned = Function.update s.tuned id (v.band, v.dial) :=
  tuned_eq_update id rfl

theorem tuned_rxFrequencyChanged : (s.rxFrequencyChanged id).tuned = s.tuned := by
  rw [tuned_eq_update id (s.toTuningState_rxFrequencyChanged id)]
  simp only [VfoState.band_frequencyChanged, VfoState.dial_frequencyChanged]
  apply Function.update_eq_self

@[simp]
theorem tuned_rxFrequencyChangedIfRunning
    : (s.rxFrequencyChangedIfRunning id).tuned = s.tuned := by
  unfold rxFrequencyChangedIfRunning
  split
  . apply tuned_rxFrequencyChanged
  . rfl

theorem tuned_rxVfoChanged : (s.rxVfoChanged id).tuned = s.tuned := by
  rw [tuned_eq_update id (s.toTuningState_rxVfoChanged id)]
  simp only [VfoState.band_frequencyChanged, VfoState.dial_frequencyChanged]
  apply Function.update_eq_self

/--
Each VFO whose frequency has changed from `s` to `s'` has the band of its own frequency.
-/
def BandFollows (s s' : RadioState) : Prop :=
  ∀ v, (s'.vfo v).dial ≠ (s.vfo v).dial →
    (s'.vfo v).band = adjustedBand s.config s.bands (s.vfo v).band (s'.vfo v).dial

variable {s} {s₁ s₂ : RadioState}

theorem BandFollows.refl (h : s₁.tuned = s.tuned) : BandFollows s s₁ := by
  intro v hne
  have hdial : (s₁.vfo v).dial = (s.vfo v).dial := congrArg Prod.snd (congrFun h v)
  contradiction

theorem BandFollows.congr (h : s₂.tuned = s₁.tuned) : BandFollows s s₂ ↔ BandFollows s s₁ := by
  have hband (v : Fin 2) : (s₂.vfo v).band = (s₁.vfo v).band :=
    congrArg Prod.fst (congrFun h v)
  have hdial (v : Fin 2) : (s₂.vfo v).dial = (s₁.vfo v).dial :=
    congrArg Prod.snd (congrFun h v)
  unfold BandFollows
  simp only [hband, hdial]

-- The band of one more VFO is looked up at `g`, while its frequency is `f` now.
theorem BandFollows.update_iff {v : Fin 2} {g f : Int} (h : BandFollows s s₁)
    (hv : s₁.tuned v = s.tuned v)
    (h₂ : s₂.tuned
      = Function.update s₁.tuned v (adjustedBand s.config s.bands (s.vfo v).band g, f))
    : BandFollows s s₂
        ↔
      f = (s.vfo v).dial
        ∨ adjustedBand s.config s.bands (s.vfo v).band g
          = adjustedBand s.config s.bands (s.vfo v).band f := by
  have htuned : s₂.tuned v = (adjustedBand s.config s.bands (s.vfo v).band g, f) := by
    rw [h₂, Function.update_self]
  have hband : (s₂.vfo v).band = adjustedBand s.config s.bands (s.vfo v).band g :=
    congrArg Prod.fst htuned
  have hdial : (s₂.vfo v).dial = f := congrArg Prod.snd htuned
  constructor
  . intro hfollows
    by_cases hf : f = (s.vfo v).dial
    . left
      exact hf
    . right
      rw [← hband, hfollows v (by rwa [hdial]), hdial]
  . intro hcases v' hne
    by_cases hv' : v' = v
    . subst hv'
      rw [hband, hdial]
      rw [hdial] at hne
      cases hcases with
      | inl hf => contradiction
      | inr heq => exact heq
    . have hother : s₂.tuned v' = s₁.tuned v' := by
        rw [h₂, Function.update_of_ne hv']
      have hband' : (s₂.vfo v').band = (s₁.vfo v').band := congrArg Prod.fst hother
      have hdial' : (s₂.vfo v').dial = (s₁.vfo v').dial := congrArg Prod.snd hother
      rw [hband', hdial']
      rw [hdial'] at hne
      apply h v' hne

theorem BandFollows.update {v : Fin 2} {f : Int} (h : BandFollows s s₁)
    (hv : s₁.tuned v = s.tuned v)
    (h₂ : s₂.tuned
      = Function.update s₁.tuned v (adjustedBand s.config s.bands (s.vfo v).band f, f))
    : BandFollows s s₂ := by
  apply (h.update_iff hv h₂).mpr
  right
  rfl

variable (s) {id f}

theorem bandFollows_setDial : BandFollows s (s.setDial id f) := by
  apply BandFollows.update (BandFollows.refl rfl) rfl (s.tuned_setDial id f)

theorem tuned_setDial_of_ne {v : Fin 2} (h : v ≠ id) : (s.setDial id f).tuned v = s.tuned v := by
  rw [tuned_setDial, Function.update_of_ne h]

theorem other_ne (id : Fin 2) : 1 - id ≠ id := by
  revert id
  decide

variable {s} (hconfig : s₁.config = s.config) (hbands : s₁.bands = s.bands)
  (hsat : s₁.satMode = s.satMode) (hother : s₁.tuned (1 - id) = s.tuned (1 - id))
include hconfig hbands hother

theorem BandFollows.satFollow (h : BandFollows s s₁) (delta : Int)
    : BandFollows s (s₁.satFollow id delta) := by
  have hband : (s₁.vfo (1 - id)).band = (s.vfo (1 - id)).band := congrArg Prod.fst hother
  have hset (f : Int)
      : BandFollows s ((s₁.setDial (1 - id) f).rxFrequencyChangedIfRunning (1 - id)) := by
    apply h.update hother
    rw [tuned_rxFrequencyChangedIfRunning, tuned_setDial, hconfig, hbands, hband]
  dsimp only [RadioState.satFollow]
  split
  . apply hset
  . split
    . apply hset
    . exact h

include hsat in
theorem BandFollows.satFollowTo_iff (h : BandFollows s s₁) (delta : Int)
    : BandFollows s (s₁.satFollowTo id delta)
        ↔
      s.satMode ≠ satModeSat ∨ (s₁.vfo (1 - id)).ctun = 0 ∨ delta = 0
        ∨ adjustedBand s.config s.bands (s.vfo (1 - id)).band (s₁.vfo id).ctunFrequency
          = adjustedBand s.config s.bands (s.vfo (1 - id)).band
            ((s₁.vfo (1 - id)).ctunFrequency + delta) := by
  have hband : (s₁.vfo (1 - id)).band = (s.vfo (1 - id)).band := congrArg Prod.fst hother
  have hdial : (s₁.vfo (1 - id)).dial = (s.vfo (1 - id)).dial := congrArg Prod.snd hother
  dsimp only [RadioState.satFollowTo]
  split
  next hbranch =>
    have hctun : (s₁.vfo (1 - id)).dial = (s₁.vfo (1 - id)).ctunFrequency := if_pos hbranch.2
    rw [h.update_iff hother (g := (s₁.vfo id).ctunFrequency)
      (f := (s₁.vfo (1 - id)).ctunFrequency + delta)]
    . rw [hsat] at hbranch
      simp only [hbranch, ne_eq, not_true_eq_false, false_or]
      rw [← hdial, hctun]
      simp
    . have hset : { s₁.vfo (1 - id) with ctunFrequency := (s₁.vfo (1 - id)).ctunFrequency + delta }
          = (s₁.vfo (1 - id)).setDial ((s₁.vfo (1 - id)).ctunFrequency + delta) :=
        (if_pos hbranch.2).symm
      rw [tuned_rxFrequencyChangedIfRunning, hset, tuned_vfoIdAdjustBand, tuned_setVfo]
      simp [hband, hconfig, hbands]
  next hbranch =>
    apply iff_of_true
    . apply h.satFollow hconfig hbands hother
    . rw [hsat] at hbranch
      tauto

end RadioState

namespace RadioState

variable (s : RadioState) (id : Fin 2)

/--
In `vfo_id_move_to` with SAT mode and CTUN of the other VFO, the band of this VFO is looked up at
the CTUN frequency of the VFO that is tuned.
-/
def LooksUpOwn (s : RadioState) (id : Fin 2) : TuneCommand → Prop
  | .moveTo f rounded =>
    let v := s.vfo id
    let w := s.vfo (1 - id)
    let f := if rounded then stepRound f 0 v.step else f
    let delta := f - v.dial
    s.config.locked = true ∨ s.satMode ≠ satModeSat ∨ w.ctun = 0 ∨ delta = 0
      ∨ adjustedBand s.config s.bands w.band (if v.ctun ≠ 0 then f else v.ctunFrequency)
        = adjustedBand s.config s.bands w.band (w.ctunFrequency + delta)
  | _ => True

instance (c : TuneCommand) : Decidable (s.LooksUpOwn id c) := by
  unfold LooksUpOwn
  split <;> infer_instance

theorem bandFollows_setDial_satFollow (f delta : Int)
    : BandFollows s (((s.setDial id f).satFollow id delta).rxFrequencyChangedIfRunning id) := by
  apply (BandFollows.congr (tuned_rxFrequencyChangedIfRunning _ id)).mpr
  apply (s.bandFollows_setDial).satFollow
  . rw [toTuningState_setDial, TuningState.config_setVfo]
  . rw [toTuningState_setDial, TuningState.bands_setVfo]
  . apply tuned_setDial_of_ne
    apply other_ne

theorem bandFollows_vfoIdStep (st : Int) : BandFollows s (s.vfoIdStep id st) := by
  dsimp only [vfoIdStep]
  split
  . apply BandFollows.refl rfl
  . split
    . apply BandFollows.refl rfl
    . apply bandFollows_setDial_satFollow

theorem bandFollows_vfoIdMove (hz : Int) (rounded : Bool)
    : BandFollows s (s.vfoIdMove id hz rounded) := by
  dsimp only [vfoIdMove]
  split
  . apply BandFollows.refl rfl
  . split
    . apply BandFollows.refl rfl
    . apply bandFollows_setDial_satFollow

theorem bandFollows_vfoIdMoveTo_iff (f : Int) (rounded : Bool)
    : BandFollows s (s.vfoIdMoveTo id f rounded) ↔ s.LooksUpOwn id (.moveTo f rounded) := by
  dsimp only [vfoIdMoveTo, LooksUpOwn]
  split
  next hlocked =>
    apply iff_of_true
    . apply BandFollows.refl rfl
    . left
      exact hlocked
  next hlocked =>
    have hother : 1 - id ≠ id := other_ne id
    have hlast (s' : RadioState)
        : BandFollows s (if s'.Running id then s'.rxVfoChanged id else s') ↔ BandFollows s s' := by
      split
      . apply BandFollows.congr (tuned_rxVfoChanged _ id)
      . rfl
    rw [hlast, (s.bandFollows_setDial).satFollowTo_iff]
    . simp [hlocked, hother, VfoState.ctunFrequency_setDial]
    . rw [toTuningState_setDial, TuningState.config_setVfo]
    . rw [toTuningState_setDial, TuningState.bands_setVfo]
    . rw [toTuningState_setDial, TuningState.satMode_setVfo]
    . apply tuned_setDial_of_ne
      apply other_ne

theorem bandFollows_tune_iff (c : TuneCommand)
    : BandFollows s (s.tune id c) ↔ s.LooksUpOwn id c := by
  cases c with
  | step st =>
    apply iff_of_true
    . apply bandFollows_vfoIdStep
    . trivial
  | move hz rounded =>
    apply iff_of_true
    . apply bandFollows_vfoIdMove
    . trivial
  | moveTo f rounded => apply bandFollows_vfoIdMoveTo_iff

-- VFO A on 20 m without CTUN, VFO B on 15 m with CTUN
def satelliteState : RadioState :=
  { initialState with
    satMode := satModeSat
    vfo := fun v =>
      if v = 0 then
        { initialVfo with frequency := 14100000 }
      else
        { initialVfo with band := 9, frequency := 21100000, ctun := 1, ctunFrequency := 21100000 } }

theorem not_bandFollows_tune : ¬ ∀ s id c, BandFollows s (RadioState.tune s id c) := by
  intro h
  have hown := (bandFollows_vfoIdMoveTo_iff satelliteState 0 14101000 false).mp
    (h satelliteState 0 (.moveTo 14101000 false))
  revert hown
  decide

end RadioState
