import Pihpsdr.Lib.Run
import Pihpsdr.Vfo.Lemmas.Tuning

/-!
In the satellite modes the VFOs are tuned together: their difference is kept in SAT mode, their sum
in RSAT mode, and a locked radio keeps both frequencies.
-/

namespace RadioState

-- how far the other VFO goes with a VFO that is tuned by `delta`
def satShift (satMode delta : Int) : Int :=
  if satMode = satModeSat then delta else if satMode = satModeRsat then -delta else 0

/--
From `s` to `s'` the VFO `id` is tuned by some amount and the other one follows it, and neither moves
if the radio is locked.
-/
structure Follows (id : Fin 2) (s s' : RadioState) (delta : Int) : Prop where
  own : (s'.vfo id).dial = (s.vfo id).dial + delta
  other : (s'.vfo (1 - id)).dial = (s.vfo (1 - id)).dial + satShift s.satMode delta
  satMode : s'.satMode = s.satMode
  config : s'.config = s.config

variable {s s₁ s₂ : RadioState} {id : Fin 2} {delta : Int}

theorem Follows.refl (s : RadioState) (id : Fin 2) : Follows id s s 0 where
  own := (Int.add_zero _).symm
  other := by
    have hzero : satShift s.satMode 0 = 0 := by simp [satShift]
    rw [hzero, Int.add_zero]
  satMode := rfl
  config := rfl

theorem dial_eq_of_tuned (h : s₂.tuned = s₁.tuned) (v : Fin 2)
    : (s₂.vfo v).dial = (s₁.vfo v).dial :=
  congrArg Prod.snd (congrFun h v)

theorem Follows.congr (h : Follows id s s₁ delta) (htuned : s₂.tuned = s₁.tuned)
    (hsat : s₂.satMode = s₁.satMode) (hconfig : s₂.config = s₁.config)
    : Follows id s s₂ delta where
  own := by rw [dial_eq_of_tuned htuned, h.own]
  other := by rw [dial_eq_of_tuned htuned, h.other]
  satMode := by rw [hsat, h.satMode]
  config := by rw [hconfig, h.config]

theorem Follows.rxFrequencyChangedIfRunning (h : Follows id s s₁ delta) (id' : Fin 2)
    : Follows id s (s₁.rxFrequencyChangedIfRunning id') delta := by
  apply h.congr (tuned_rxFrequencyChangedIfRunning s₁ id')
  . unfold RadioState.rxFrequencyChangedIfRunning
    split
    . rw [toTuningState_rxFrequencyChanged, TuningState.satMode_setVfo]
    . rfl
  . unfold RadioState.rxFrequencyChangedIfRunning
    split
    . rw [toTuningState_rxFrequencyChanged, TuningState.config_setVfo]
    . rfl

theorem Follows.rxVfoChanged (h : Follows id s s₁ delta) (id' : Fin 2)
    : Follows id s (s₁.rxVfoChanged id') delta := by
  apply h.congr (tuned_rxVfoChanged s₁ id')
  . rw [toTuningState_rxVfoChanged, TuningState.satMode_setVfo]
  . rw [toTuningState_rxVfoChanged, TuningState.config_setVfo]

theorem dial_setDial (s : RadioState) (id v : Fin 2) (f : Int)
    : ((s.setDial id f).vfo v).dial = if v = id then f else (s.vfo v).dial := by
  have htuned : (s.setDial id f).tuned v
      = Function.update s.tuned id (adjustedBand s.config s.bands (s.vfo id).band f, f) v :=
    congrFun (s.tuned_setDial id f) v
  rw [Function.update_apply] at htuned
  split at htuned
  next h =>
    rw [if_pos h]
    exact congrArg Prod.snd htuned
  next h =>
    rw [if_neg h]
    exact congrArg Prod.snd htuned

-- One VFO has been tuned and the other one is where it was.
structure Alone (id : Fin 2) (s s' : RadioState) (delta : Int) : Prop where
  own : (s'.vfo id).dial = (s.vfo id).dial + delta
  other : (s'.vfo (1 - id)).dial = (s.vfo (1 - id)).dial
  satMode : s'.satMode = s.satMode
  config : s'.config = s.config

theorem alone_setDial (s : RadioState) (id : Fin 2) (f : Int)
    : Alone id s (s.setDial id f) (f - (s.vfo id).dial) where
  own := by
    rw [dial_setDial, if_pos rfl]
    omega
  other := by rw [dial_setDial, if_neg (other_ne id)]
  satMode := by rw [toTuningState_setDial, TuningState.satMode_setVfo]
  config := by rw [toTuningState_setDial, TuningState.config_setVfo]

-- The other VFO is set to where it has to follow.
theorem Alone.follows (h : Alone id s s₁ delta)
    (hown : (s₂.vfo id).dial = (s₁.vfo id).dial)
    (hother : (s₂.vfo (1 - id)).dial = (s₁.vfo (1 - id)).dial + satShift s.satMode delta)
    (hsat : s₂.satMode = s₁.satMode) (hconfig : s₂.config = s₁.config)
    : Follows id s s₂ delta where
  own := by rw [hown, h.own]
  other := by rw [hother, h.other]
  satMode := by rw [hsat, h.satMode]
  config := by rw [hconfig, h.config]

theorem Alone.follows_setDial (h : Alone id s s₁ delta) {f : Int}
    (hf : f = (s₁.vfo (1 - id)).dial + satShift s.satMode delta)
    : Follows id s (s₁.setDial (1 - id) f) delta := by
  apply h.follows
  . rw [dial_setDial, if_neg (other_ne id).symm]
  . rw [dial_setDial, if_pos rfl, hf]
  . rw [toTuningState_setDial, TuningState.satMode_setVfo]
  . rw [toTuningState_setDial, TuningState.config_setVfo]

theorem Alone.satFollow (h : Alone id s s₁ delta)
    : Follows id s (s₁.satFollow id delta) delta := by
  have hsat := h.satMode
  dsimp only [RadioState.satFollow]
  split
  next hmode =>
    apply Follows.rxFrequencyChangedIfRunning
    apply h.follows_setDial
    rw [satShift, if_pos (by rw [← hsat, hmode])]
  next hmode =>
    rw [hsat] at hmode
    split
    next hrev =>
      rw [hsat] at hrev
      apply Follows.rxFrequencyChangedIfRunning
      apply h.follows_setDial
      rw [satShift, if_neg hmode, if_pos hrev, Int.sub_eq_add_neg]
    next hrev =>
      rw [hsat] at hrev
      have hzero : satShift s.satMode delta = 0 := by rw [satShift, if_neg hmode, if_neg hrev]
      apply h.follows rfl _ rfl rfl
      rw [hzero, Int.add_zero]

-- The frequency that the band is looked up at does not matter here.
theorem Alone.satFollowTo (h : Alone id s s₁ delta)
    : Follows id s (s₁.satFollowTo id delta) delta := by
  dsimp only [RadioState.satFollowTo]
  split
  next hbranch =>
    obtain ⟨hmode, hctun⟩ := hbranch
    have hdial : (s₁.vfo (1 - id)).dial = (s₁.vfo (1 - id)).ctunFrequency := if_pos hctun
    apply Follows.rxFrequencyChangedIfRunning
    apply h.follows
    . rw [toTuningState_vfoIdAdjustBand, TuningState.vfo_setVfo,
        Function.update_of_ne (other_ne id).symm, toTuningState_setVfo, TuningState.vfo_setVfo,
        Function.update_of_ne (other_ne id).symm]
    . rw [toTuningState_vfoIdAdjustBand, TuningState.vfo_setVfo, Function.update_self,
        VfoState.dial_adjustBand, toTuningState_setVfo, TuningState.vfo_setVfo,
        Function.update_self, hdial, satShift, if_pos (by rw [← h.satMode, hmode])]
      apply if_pos hctun
    . rw [toTuningState_vfoIdAdjustBand, TuningState.satMode_setVfo, toTuningState_setVfo,
        TuningState.satMode_setVfo]
    . rw [toTuningState_vfoIdAdjustBand, TuningState.config_setVfo, toTuningState_setVfo,
        TuningState.config_setVfo]
  next => apply h.satFollow

-- What a single command does: the radio is not locked, or nothing moves.
theorem follows_tune (s : RadioState) (id : Fin 2) (c : TuneCommand)
    : ∃ delta, Follows id s (s.tune id c) delta ∧ (s.config.locked = true → delta = 0) := by
  have hstay : ∃ delta, Follows id s s delta ∧ (s.config.locked = true → delta = 0) :=
    ⟨0, Follows.refl s id, fun _ => rfl⟩
  have hmoved {delta : Int} {s' : RadioState} (hlocked : ¬ s.config.locked = true)
      (h : Follows id s s' delta)
      : ∃ delta, Follows id s s' delta ∧ (s.config.locked = true → delta = 0) :=
    ⟨delta, h, fun h' => absurd h' hlocked⟩
  cases c with
  | step st =>
    dsimp only [tune, vfoIdStep]
    split
    . exact hstay
    next hlocked =>
      split
      . exact hstay
      . apply hmoved hlocked
        apply Follows.rxFrequencyChangedIfRunning
        apply (alone_setDial s id _).satFollow
  | move hz rounded =>
    dsimp only [tune, vfoIdMove]
    split
    . exact hstay
    next hlocked =>
      split
      . exact hstay
      . apply hmoved hlocked
        apply Follows.rxFrequencyChangedIfRunning
        apply (alone_setDial s id _).satFollow
  | moveTo f rounded =>
    dsimp only [tune, vfoIdMoveTo]
    generalize (if rounded = true then stepRound f 0 (s.vfo id).step else f) = f
    split
    . exact hstay
    next hlocked =>
      apply hmoved hlocked
      have hfollows := (alone_setDial s id f).satFollowTo
      split
      . apply hfollows.rxVfoChanged
      . exact hfollows

/--
What tuning conserves between two states: the difference of the frequencies in SAT mode, their sum in
RSAT mode, and the frequencies themselves while the radio is locked.
-/
structure SatelliteConserved (s s' : RadioState) : Prop where
  satMode : s'.satMode = s.satMode
  config : s'.config = s.config
  difference : s.satMode = satModeSat →
    (s'.vfo 0).dial - (s'.vfo 1).dial = (s.vfo 0).dial - (s.vfo 1).dial
  sum : s.satMode = satModeRsat →
    (s'.vfo 0).dial + (s'.vfo 1).dial = (s.vfo 0).dial + (s.vfo 1).dial
  locked : s.config.locked = true → ∀ v, (s'.vfo v).dial = (s.vfo v).dial

theorem SatelliteConserved.refl (s : RadioState) : SatelliteConserved s s where
  satMode := rfl
  config := rfl
  difference _ := rfl
  sum _ := rfl
  locked _ _ := rfl

theorem SatelliteConserved.trans (h : SatelliteConserved s s₁) (h' : SatelliteConserved s₁ s₂)
    : SatelliteConserved s s₂ where
  satMode := by rw [h'.satMode, h.satMode]
  config := by rw [h'.config, h.config]
  difference hmode := by rw [h'.difference (by rw [h.satMode, hmode]), h.difference hmode]
  sum hmode := by rw [h'.sum (by rw [h.satMode, hmode]), h.sum hmode]
  locked hlocked v := by rw [h'.locked (by rw [h.config, hlocked]), h.locked hlocked]

theorem eq_other_of_ne {v id : Fin 2} (h : v ≠ id) : v = 1 - id := by
  revert v id
  decide

theorem Follows.conserved (h : Follows id s s₁ delta) (hlocked : s.config.locked = true → delta = 0)
    : SatelliteConserved s s₁ := by
  have hown := h.own
  have hother := h.other
  have hsub : (1 : Fin 2) - 0 = 1 ∧ (1 : Fin 2) - 1 = 0 := by decide
  constructor
  . exact h.satMode
  . exact h.config
  . intro hmode
    rw [satShift, if_pos hmode] at hother
    match id with
    | 0 =>
      rw [hsub.1] at hother
      omega
    | 1 =>
      rw [hsub.2] at hother
      omega
  . intro hmode
    have hsat : s.satMode ≠ satModeSat := by
      rw [hmode]
      decide
    rw [satShift, if_neg hsat, if_pos hmode] at hother
    match id with
    | 0 =>
      rw [hsub.1] at hother
      omega
    | 1 =>
      rw [hsub.2] at hother
      omega
  . intro hl v
    have hzero : satShift s.satMode 0 = 0 := by simp [satShift]
    rw [hlocked hl] at hown hother
    rw [hzero] at hother
    by_cases hv : v = id
    . rw [hv, hown, Int.add_zero]
    . rw [eq_other_of_ne hv, hother, Int.add_zero]

def tuneAny (s : RadioState) (c : Fin 2 × TuneCommand) : RadioState :=
  s.tune c.1 c.2

theorem conserved_tuneAny (s : RadioState) (c : Fin 2 × TuneCommand)
    : SatelliteConserved s (s.tuneAny c) := by
  obtain ⟨delta, hfollows, hlocked⟩ := follows_tune s c.1 c.2
  apply hfollows.conserved hlocked

theorem conserved_exec_tuneAny (s : RadioState) (cs : List (Fin 2 × TuneCommand))
    : SatelliteConserved s (Run.exec tuneAny s cs) := by
  apply Run.exec_invariant (I := SatelliteConserved s) (P := fun _ _ => True)
  . intro s' c h _
    apply h.trans (conserved_tuneAny s' c)
  . apply SatelliteConserved.refl
  . apply Run.along_true

end RadioState

/-!
Steps of a VFO add up: from a frequency that is a multiple of the step size on, rounding to the step
size changes nothing.
-/

theorem stepRound_eq (f n step : Int)
    : stepRound f n step = ((f + step.tdiv 2).tdiv step + n) * step :=
  rfl

-- A multiple of the step size is rounded to itself.
theorem stepRound_mul {m step : Int} (hstep : 0 < step) (hm : 0 ≤ m * step) (n : Int)
    : stepRound (m * step) n step = (m + n) * step := by
  have hhalf : 0 ≤ step.tdiv 2 ∧ step.tdiv 2 < step := by
    rw [Int.tdiv_eq_ediv_of_nonneg (by omega)]
    omega
  have hdiv : (m * step + step.tdiv 2).tdiv step = m := by
    rw [Int.tdiv_eq_ediv_of_nonneg (by omega), Int.add_comm,
      Int.add_mul_ediv_right _ _ (by omega), Int.ediv_eq_zero_of_lt hhalf.1 hhalf.2, Int.zero_add]
  rw [stepRound_eq, hdiv]

theorem stepRound_stepRound {f step : Int} (a b : Int) (hstep : 0 < step)
    (hf : 0 ≤ stepRound f a step)
    : stepRound (stepRound f a step) b step = stepRound f (a + b) step := by
  rw [stepRound_eq f a] at hf ⊢
  rw [stepRound_mul hstep hf, stepRound_eq f, Int.add_assoc]

namespace RadioState

/-- The call is refused at the edge of the CTUN window. -/
def RefusesStep (s : RadioState) (id : Fin 2) (st : Int) : Prop :=
  (s.vfo id).ctun ≠ 0 ∧ s.LeavesWindow id (stepRound (s.vfo id).dial st (s.vfo id).step)

instance (s : RadioState) (id : Fin 2) (st : Int) : Decidable (s.RefusesStep id st) :=
  inferInstanceAs (Decidable (_ ∧ _))

variable {s : RadioState} {id : Fin 2}

theorem satShift_add (satMode x y : Int)
    : satShift satMode x + satShift satMode y = satShift satMode (x + y) := by
  unfold satShift
  split
  . rfl
  . split <;> omega

theorem step_of_setVfo {s' : RadioState} {w : VfoState}
    (h : s'.toTuningState = s.toTuningState.setVfo id w) (hw : w.step = (s.vfo id).step)
    (v : Fin 2)
    : (s'.vfo v).step = (s.vfo v).step := by
  rw [h, TuningState.vfo_setVfo, Function.update_apply]
  split
  next hv => rw [hw, hv]
  next => rfl

theorem step_setDial (s : RadioState) (id v : Fin 2) (f : Int)
    : ((s.setDial id f).vfo v).step = (s.vfo v).step := by
  apply step_of_setVfo (s.toTuningState_setDial id f)
  rw [VfoState.adjustBand_eq]
  unfold VfoState.setDial
  split <;> rfl

theorem step_rxFrequencyChangedIfRunning (s : RadioState) (id v : Fin 2)
    : ((s.rxFrequencyChangedIfRunning id).vfo v).step = (s.vfo v).step := by
  unfold rxFrequencyChangedIfRunning
  split
  . apply step_of_setVfo (s.toTuningState_rxFrequencyChanged id)
    dsimp only [VfoState.frequencyChanged]
    split <;> rfl
  . rfl

theorem step_satFollow (s : RadioState) (id v : Fin 2) (delta : Int)
    : ((s.satFollow id delta).vfo v).step = (s.vfo v).step := by
  dsimp only [satFollow]
  split
  . rw [step_rxFrequencyChangedIfRunning, step_setDial]
  . split
    . rw [step_rxFrequencyChangedIfRunning, step_setDial]
    . rfl

theorem step_vfoIdStep (s : RadioState) (id v : Fin 2) (st : Int)
    : ((s.vfoIdStep id st).vfo v).step = (s.vfo v).step := by
  dsimp only [vfoIdStep]
  split
  . rfl
  . split
    . rfl
    . rw [step_rxFrequencyChangedIfRunning, step_satFollow, step_setDial]

-- A step that is not refused goes to the rounded frequency.
theorem follows_vfoIdStep {st : Int} (hlocked : s.config.locked = false)
    (hst : ¬ s.RefusesStep id st)
    : Follows id s (s.vfoIdStep id st)
        (stepRound (s.vfo id).dial st (s.vfo id).step - (s.vfo id).dial) := by
  unfold RefusesStep at hst
  dsimp only [vfoIdStep]
  rw [if_neg (by rw [hlocked]; decide), if_neg hst]
  apply Follows.rxFrequencyChangedIfRunning
  apply (alone_setDial s id _).satFollow

theorem dial_of_not_refused {st : Int} (hlocked : s.config.locked = false)
    (hst : ¬ s.RefusesStep id st)
    : ((s.vfoIdStep id st).vfo id).dial = stepRound (s.vfo id).dial st (s.vfo id).step := by
  rw [(follows_vfoIdStep hlocked hst).own]
  omega

theorem Follows.trans {s s₁ s₂ : RadioState} {x y : Int} (h : Follows id s s₁ x)
    (h' : Follows id s₁ s₂ y)
    : Follows id s s₂ (x + y) where
  own := by rw [h'.own, h.own, Int.add_assoc]
  other := by rw [h'.other, h.other, h.satMode, Int.add_assoc, satShift_add]
  satMode := by rw [h'.satMode, h.satMode]
  config := by rw [h'.config, h.config]

theorem Follows.dial_eq {s s₁ s₂ : RadioState} {x : Int} (h : Follows id s s₁ x)
    (h' : Follows id s s₂ x) (v : Fin 2)
    : (s₁.vfo v).dial = (s₂.vfo v).dial := by
  by_cases hv : v = id
  . rw [hv, h.own, h'.own]
  . rw [eq_other_of_ne hv, h.other, h'.other]

-- Only the dial between the two steps must not be negative, since division rounds to zero.
theorem vfoIdStep_vfoIdStep (s : RadioState) (id : Fin 2) (a b : Int)
    (hlocked : s.config.locked = false) (hstep : 0 < (s.vfo id).step)
    (ha : ¬ s.RefusesStep id a) (hb : ¬ (s.vfoIdStep id a).RefusesStep id b)
    (hab : ¬ s.RefusesStep id (a + b)) (hdial : 0 ≤ ((s.vfoIdStep id a).vfo id).dial)
    : (∀ v, (((s.vfoIdStep id a).vfoIdStep id b).vfo v).dial
          = ((s.vfoIdStep id (a + b)).vfo v).dial)
        ∧ (s.vfo id).step ∣ (((s.vfoIdStep id a).vfoIdStep id b).vfo id).dial := by
  have hfirst := follows_vfoIdStep hlocked ha
  have hlocked' : (s.vfoIdStep id a).config.locked = false := by rw [hfirst.config, hlocked]
  have hboth := hfirst.trans (follows_vfoIdStep hlocked' hb)
  have hsum := follows_vfoIdStep hlocked hab
  rw [dial_of_not_refused hlocked ha] at hdial
  have hdelta : stepRound (s.vfo id).dial a (s.vfo id).step - (s.vfo id).dial
      + (stepRound ((s.vfoIdStep id a).vfo id).dial b ((s.vfoIdStep id a).vfo id).step
        - ((s.vfoIdStep id a).vfo id).dial)
      = stepRound (s.vfo id).dial (a + b) (s.vfo id).step - (s.vfo id).dial := by
    rw [step_vfoIdStep, dial_of_not_refused hlocked ha, stepRound_stepRound a b hstep hdial]
    omega
  rw [hdelta] at hboth
  refine ⟨hboth.dial_eq hsum, ?_⟩
  rw [hboth.dial_eq hsum id, dial_of_not_refused hlocked hab, stepRound_eq]
  apply Int.dvd_mul_left

-- two steps up and three down in SAT mode
theorem vfoIdStep_vfoIdStep_satelliteState
    : (∀ v, (((satelliteState.vfoIdStep 0 2).vfoIdStep 0 (-3)).vfo v).dial
          = ((satelliteState.vfoIdStep 0 (2 + -3)).vfo v).dial)
        ∧ (satelliteState.vfo 0).step
          ∣ (((satelliteState.vfoIdStep 0 2).vfoIdStep 0 (-3)).vfo 0).dial :=
  vfoIdStep_vfoIdStep satelliteState 0 2 (-3) rfl (by decide) (by decide) (by decide) (by decide)
    (by decide)

end RadioState
