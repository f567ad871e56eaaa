import Pihpsdr.Lib.Run
import Pihpsdr.Radio.Startup
import Pihpsdr.Vfo.Impl.Persist
import Pihpsdr.Vfo.Lemmas.AdcChange
import Pihpsdr.Vfo.Lemmas.Untouched

/-!
The LO frequency of a VFO. Only the change of the band, the recall of a memory slot and the copies
between the VFOs set it, while the band also changes when a frequency leaves it.
-/

open ClientServer.Remote

-- the frequency that a band subtracts from the one on the dial
def BandState.lo (band : BandState) : Int :=
  band.frequencyLo + band.errorLo

namespace TuningState

-- band and LO frequency of each VFO
def located (t : TuningState) (v : Fin 2) : BandIndex × Int :=
  ((t.vfo v).band, (t.vfo v).lo)

-- each VFO has the LO frequency of its band
def LoFollows (t : TuningState) : Prop :=
  ∀ v, (t.vfo v).lo = (t.bands (t.vfo v).band).lo

theorem located_setVfo (t : TuningState) (id : Fin 2) (v : VfoState)
    : (t.setVfo id v).located = Function.update t.located id (v.band, v.lo) := by
  funext id'
  unfold located
  rw [vfo_setVfo]
  by_cases hid : id' = id
  . rw [hid, Function.update_self, Function.update_self]
  . rw [Function.update_of_ne hid, Function.update_of_ne hid]

end TuningState

namespace VfoState

variable (v : VfoState) (config : RadioConfig) (bands : BandIndex → BandState) (f : Int)

@[simp]
theorem lo_adjustBand : (v.adjustBand config bands f).lo = v.lo := by
  rw [adjustBand_eq]

@[simp]
theorem lo_setDial : (v.setDial f).lo = v.lo := by
  unfold setDial
  split <;> rfl

@[simp]
theorem lo_frequencyChanged (rx : Passband) (rate : Int) : (v.frequencyChanged rx rate).lo = v.lo := by
  dsimp only [frequencyChanged]
  split <;> rfl

@[simp]
theorem lo_enter (entry : BandstackEntry) : (v.enter config bands entry).lo = v.lo := by
  unfold enter
  rw [lo_adjustBand]
  rfl

end VfoState

namespace RadioState

variable (s : RadioState) (id : Fin 2)

theorem located_of_setVfo {s' : RadioState} {v : VfoState}
    (h : s'.toTuningState = s.toTuningState.setVfo id v)
    : s'.located = Function.update s.located id (v.band, v.lo) := by
  rw [h, TuningState.located_setVfo]

theorem located_rxFrequencyChanged : (s.rxFrequencyChanged id).located = s.located := by
  rw [s.located_of_setVfo id (s.toTuningState_rxFrequencyChanged id), VfoState.band_frequencyChanged,
    VfoState.lo_frequencyChanged]
  apply Function.update_eq_self

theorem located_rxFrequencyChangedIfRunning
    : (s.rxFrequencyChangedIfRunning id).located = s.located := by
  unfold rxFrequencyChangedIfRunning
  split
  . apply located_rxFrequencyChanged
  . rfl

theorem located_rxVfoChanged : (s.rxVfoChanged id).located = s.located := by
  rw [s.located_of_setVfo id (s.toTuningState_rxVfoChanged id), VfoState.band_frequencyChanged,
    VfoState.lo_frequencyChanged]
  apply Function.update_eq_self

-- the VFO `v` has its band looked up at `f`, if there is one
def relocate (s : RadioState) (located : Fin 2 → BandIndex × Int) (v : Fin 2)
    : Option Int → Fin 2 → BandIndex × Int
  | some f =>
    Function.update located v (adjustedBand s.config s.bands (s.vfo v).band f, (s.vfo v).lo)
  | none => located

theorem located_vfoIdAdjustBand (f : Int)
    : (s.vfoIdAdjustBand id f).located = s.relocate s.located id (some f) := by
  rw [s.located_of_setVfo id (s.toTuningState_vfoIdAdjustBand id f), VfoState.band_adjustBand,
    VfoState.lo_adjustBand]
  rfl

theorem located_setDial (f : Int)
    : (s.setDial id f).located = s.relocate s.located id (some f) := by
  rw [s.located_of_setVfo id (s.toTuningState_setDial id f), VfoState.band_adjustBand,
    VfoState.lo_adjustBand, VfoState.band_setDial, VfoState.lo_setDial]
  rfl

-- the frequency that a VFO is tuned to, if it is tuned
def tuneTarget (s : RadioState) (id : Fin 2) (c : TuneCommand) : Option Int :=
  let v := s.vfo id
  if s.config.locked then
    none
  else
    match c with
    | .step st =>
      let f := stepRound v.dial st v.step
      if v.ctun ≠ 0 ∧ s.LeavesWindow id f then none else some f
    | .move hz rounded =>
      if v.ctun ≠ 0 ∧ s.LeavesWindow id (v.ctunFrequency + hz) then
        none
      else if v.ctun ≠ 0 then
        if rounded ∧ v.mode ≠ modeCwl ∧ v.mode ≠ modeCwu then
          some (stepRound (v.ctunFrequency + hz) 0 v.step)
        else
          some (v.ctunFrequency + hz)
      else if rounded then
        some (stepRound (v.frequency - hz) 0 v.step)
      else
        some (v.frequency - hz)
    | .moveTo f rounded => some (if rounded then stepRound f 0 v.step else f)

-- the frequency at which the band of the other VFO is looked up
def followLookup (s : RadioState) (id : Fin 2) (c : TuneCommand) (f : Int) : Option Int :=
  let v := s.vfo id
  let w := s.vfo (1 - id)
  let delta := f - v.dial
  if s.satMode = satModeSat then
    match c with
    | .moveTo _ _ =>
      if w.ctun ≠ 0 then
        some (if v.ctun ≠ 0 then f else v.ctunFrequency)
      else
        some (w.dial + delta)
    | _ => some (w.dial + delta)
  else if s.satMode = satModeRsat then
    some (w.dial - delta)
  else
    none

-- what `satFollow` looks up
def satLookup (s : RadioState) (id : Fin 2) (delta : Int) : Option Int :=
  let w := s.vfo (1 - id)
  if s.satMode = satModeSat then
    some (w.dial + delta)
  else if s.satMode = satModeRsat then
    some (w.dial - delta)
  else
    none

section

variable {s id} {s₁ : RadioState} (hconfig : s₁.config = s.config) (hbands : s₁.bands = s.bands)
  (hsat : s₁.satMode = s.satMode) (hother : s₁.vfo (1 - id) = s.vfo (1 - id))
include hconfig hbands hother

theorem located_setDial_other (f : Int)
    : (s₁.setDial (1 - id) f).located = s.relocate s₁.located (1 - id) (some f) := by
  rw [located_setDial]
  dsimp only [relocate]
  rw [hconfig, hbands, hother]

include hsat in
theorem located_satFollow (delta : Int)
    : (s₁.satFollow id delta).located
        =
      s.relocate s₁.located (1 - id) (s.satLookup id delta) := by
  dsimp only [satFollow, satLookup]
  rw [hsat, hother]
  split
  . rw [located_rxFrequencyChangedIfRunning, located_setDial_other hconfig hbands hother]
  . split
    . rw [located_rxFrequencyChangedIfRunning, located_setDial_other hconfig hbands hother]
    . rfl

include hsat in
theorem located_satFollowTo (delta : Int)
    : (s₁.satFollowTo id delta).located
        =
      s.relocate s₁.located (1 - id)
        (if s.satMode = satModeSat ∧ (s.vfo (1 - id)).ctun ≠ 0 then
          some (s₁.vfo id).ctunFrequency
        else
          s.satLookup id delta) := by
  dsimp only [satFollowTo]
  rw [hsat, hother]
  split
  . rw [located_rxFrequencyChangedIfRunning, located_vfoIdAdjustBand]
    dsimp only [relocate]
    rw [toTuningState_setVfo, TuningState.config_setVfo, TuningState.bands_setVfo,
      TuningState.vfo_setVfo, Function.update_self, TuningState.located_setVfo, Function.update_idem,
      hconfig, hbands]
  . exact located_satFollow hconfig hbands hsat hother delta

end

section

variable (f : Int)

theorem vfo_setDial_other : (s.setDial id f).vfo (1 - id) = s.vfo (1 - id) := by
  rw [toTuningState_setDial, TuningState.vfo_setVfo, Function.update_of_ne (other_ne id)]

theorem ctunFrequency_setDial
    : ((s.setDial id f).vfo id).ctunFrequency
        =
      if (s.vfo id).ctun ≠ 0 then f else (s.vfo id).ctunFrequency := by
  rw [toTuningState_setDial, TuningState.vfo_setVfo, Function.update_self,
    VfoState.ctunFrequency_adjustBand, VfoState.ctunFrequency_setDial]

theorem located_setDial_satFollow (delta : Int)
    : ((s.setDial id f).satFollow id delta).located
        =
      s.relocate (s.relocate s.located id (some f)) (1 - id) (s.satLookup id delta) := by
  rw [located_satFollow (s.onlyVfo_setDial id f).config (s.onlyVfo_setDial id f).bands
    (s.onlyVfo_setDial id f).satMode (s.vfo_setDial_other id f), located_setDial]

end

-- where the two VFOs are after a command
theorem located_tune (c : TuneCommand)
    : (s.tune id c).located
        =
      s.relocate (s.relocate s.located id (s.tuneTarget id c)) (1 - id)
        ((s.tuneTarget id c).bind (s.followLookup id c)) := by
  cases c with
  | step st =>
    dsimp only [tune, vfoIdStep, tuneTarget]
    split
    . rfl
    . split
      . rfl
      . rw [located_rxFrequencyChangedIfRunning, located_setDial_satFollow]
        rfl
  | move hz rounded =>
    dsimp only [tune, vfoIdMove, tuneTarget]
    split
    . rfl
    . split
      . rfl
      . rw [located_rxFrequencyChangedIfRunning, located_setDial_satFollow]
        split_ifs <;> rfl
  | moveTo f rounded =>
    dsimp only [tune, vfoIdMoveTo, tuneTarget]
    generalize (if rounded = true then stepRound f 0 (s.vfo id).step else f) = f
    split
    . rfl
    . rw [apply_ite RadioState.toTuningState, apply_ite TuningState.located, located_rxVfoChanged,
        ite_self, located_satFollowTo (s.onlyVfo_setDial id f).config
        (s.onlyVfo_setDial id f).bands (s.onlyVfo_setDial id f).satMode (s.vfo_setDial_other id f), located_setDial, ctunFrequency_setDial]
      congr 1
      simp only [satLookup, followLookup, Option.bind_some]
      split_ifs <;> simp_all

theorem located_setVfo_same {v : VfoState} (hband : v.band = (s.vfo id).band)
    (hlo : v.lo = (s.vfo id).lo)
    : (s.setVfo id v).located = s.located := by
  rw [toTuningState_setVfo, TuningState.located_setVfo, hband, hlo]
  apply Function.update_eq_self

theorem located_rxSetFrequency (f : Int) : (s.rxSetFrequency id f).located = s.located := by
  rw [rxSetFrequency, located_rxFrequencyChanged, located_setVfo_same]
  . rw [VfoState.band_setDial]
  . rw [VfoState.lo_setDial]

theorem located_vfoIdSetFrequency (f : Int)
    : (s.vfoIdSetFrequency id f).located = s.relocate s.located id (some f) := by
  rw [← located_vfoIdAdjustBand]
  dsimp only [vfoIdSetFrequency]
  split
  . apply located_rxSetFrequency
  . split
    . apply located_setVfo_same <;> rfl
    . apply located_setVfo_same <;> rfl

-- the frequency at which the band is looked up when CTUN changes
def ctunLookup (s : RadioState) (id : Fin 2) (state : Int) : Option Int :=
  let v := s.vfo id
  if v.ctun = state then none
  else if state ≠ 0 then some v.frequency
  else some v.ctunFrequency

theorem located_adjusted {s₁ : RadioState} {v : VfoState}
    (h : s₁.toTuningState = s.toTuningState.setVfo id v) (hband : v.band = (s.vfo id).band)
    (hlo : v.lo = (s.vfo id).lo) (f : Int)
    : (s₁.vfoIdAdjustBand id f).located = s.relocate s.located id (some f) := by
  rw [located_vfoIdAdjustBand]
  dsimp only [relocate]
  rw [h, TuningState.config_setVfo, TuningState.bands_setVfo, TuningState.vfo_setVfo,
    Function.update_self, TuningState.located_setVfo, Function.update_idem, hband, hlo]

theorem located_vfoIdCtunUpdate (state : Int)
    : (s.vfoIdCtunUpdate id state).located
        =
      s.relocate s.located id (s.ctunLookup id state) := by
  dsimp only [vfoIdCtunUpdate, ctunLookup]
  split
  . rfl
  . split
    . rw [apply_ite RadioState.toTuningState, apply_ite TuningState.located, located_rxSetFrequency,
        ite_self]
      apply located_adjusted
      . rfl
      . rfl
      . rfl
    . rw [apply_ite RadioState.toTuningState, apply_ite TuningState.located, located_rxSetFrequency,
        ite_self]
      apply located_adjusted
      . rw [apply_ite (fun s' => RadioState.setVfo s' id _)]
        rw [apply_ite RadioState.toTuningState]
        apply ite_self
      . rfl
      . rfl

theorem lo_settle (v : VfoState) : (s.settle id v).lo = v.lo := by
  unfold settle
  split
  . apply VfoState.lo_frequencyChanged
  . rfl

theorem located_vfoVfosChanged : s.vfoVfosChanged.located = s.located := by
  funext v
  unfold TuningState.located
  rw [toTuningState_vfoVfosChanged]
  dsimp only [settled]
  rw [band_settle, lo_settle]

theorem located_enterEntry (oldmode : Int) (entry : BandstackEntry)
    : (s.enterEntry id oldmode entry).located
        =
      Function.update s.located id (s.entryBand (s.vfo id) entry, (s.vfo id).lo) := by
  have hband : ((s.vfo id).enter s.config s.bands entry).band = s.entryBand (s.vfo id) entry :=
    VfoState.band_adjustBand _ _ _ _
  rw [s.located_of_setVfo id (s.toTuningState_enterEntry id oldmode entry), ← hband,
    ← VfoState.lo_enter (s.vfo id) s.config s.bands entry]
  dsimp only
  split <;> rfl

-- a VFO that is set gets an entry, in a state with the same settings
theorem located_entered {s₁ : RadioState} (h : SameSettings s s₁) (hlocated : s₁.located = s.located)
    (v : VfoState) (oldmode : Int) (entry : BandstackEntry)
    : ((s₁.setVfo id v).enterEntry id oldmode entry).located
        =
      Function.update s.located id (s.entryBand v entry, v.lo) := by
  have hvfo : (s₁.setVfo id v).vfo id = v := by
    rw [toTuningState_setVfo, TuningState.vfo_setVfo, Function.update_self]
  have hband : (s₁.setVfo id v).entryBand v entry = s.entryBand v entry := h.entryBand_eq v entry
  rw [located_enterEntry, hvfo, hband, toTuningState_setVfo, TuningState.located_setVfo,
    Function.update_idem, hlocated]

theorem located_savedFor : (s.savedFor id).located = s.located := by
  unfold savedFor
  split <;> rfl

theorem located_vfoIdBandstackChanged (b : Int)
    : (s.vfoIdBandstackChanged id b).located
        =
      Function.update s.located id (s.bandstackBand id b, (s.vfo id).lo) := by
  have hlocated : (s.jumpedFor id b).located = s.located := by
    dsimp only [jumpedFor]
    split
    . exact s.located_savedFor id
    . rfl
  rw [vfoIdBandstackChanged, located_vfoVfosChanged, enterBandstack_eq,
    s.located_entered id (s.sameSettings_jumpedFor id b) hlocated]
  rfl

theorem sameStored_vfoIdBandstackChanged (b : Int)
    : SameStored s.bands (s.vfoIdBandstackChanged id b).bands := by
  rw [vfoIdBandstackChanged, (onlyVfo_vfoVfosChanged _).bands]
  apply sameStored_enterBandstack

theorem lo_bandVfo (b : BandIndex) : (s.bandVfo id b).lo = (s.bands b).lo := by
  have hband := (s.sameSettings_steppedFor id b).stored b
  dsimp only [bandVfo]
  rw [hband]
  rfl

theorem located_vfoIdBandChanged (b : BandIndex)
    : (s.vfoIdBandChanged id b).located
        =
      if b ≠ (s.vfo id).band ∧ OutOfRange s.config (s.bands b) then
        s.located
      else
        Function.update s.located id (s.bandBand id b, (s.bands b).lo) := by
  have hsame := s.sameSettings_steppedFor id b
  have hlocated : (s.steppedFor id b).located = s.located := by
    dsimp only [steppedFor]
    split
    . exact s.located_savedFor id
    . exact s.located_savedFor id
  unfold vfoIdBandChanged
  split
  . rfl
  . rw [located_vfoVfosChanged, enterBand_eq, toTuningState_applyIfMoved,
      s.located_entered id hsame hlocated, lo_bandVfo]
    rfl

theorem sameStored_vfoIdBandChanged (b : BandIndex)
    : SameStored s.bands (s.vfoIdBandChanged id b).bands := by
  unfold vfoIdBandChanged
  split
  . apply SameStored.refl
  . rw [(onlyVfo_vfoVfosChanged _).bands, enterBand_eq, toTuningState_applyIfMoved, toTuningState_enterEntry]
    exact (s.sameSettings_steppedFor id b).stored

-- a recall that finds its bands; the second one is for the satellite modes
theorem exists_recallSlot {index : Fin ClientServer.numMemories} {s' : RadioState}
    (h : s.recallMemorySlot index = some s')
    : ∃ b, bandIndex? (s.mem index).bd = some (b 0)
        ∧ ((s.mem index).satMode ≠ satModeNone → bandIndex? (s.mem index).altBd = some (b 1))
        ∧ s' = s.recallSlot (s.mem index) b := by
  cases hb : bandIndex? (s.mem index).bd with
  | none =>
    have hnone : s.recallMemorySlot index = none := by
      dsimp only [recallMemorySlot]
      rw [hb]
      rfl
    rw [hnone] at h
    contradiction
  | some b =>
    by_cases hsat : (s.mem index).satMode = satModeNone
    . rw [s.recallMemorySlot_eq_of_none hb hsat] at h
      exact ⟨fun _ => b, rfl, fun hsat' => absurd hsat hsat', (Option.some.inj h).symm⟩
    . cases halt : bandIndex? (s.mem index).altBd with
      | none =>
        have hnone : s.recallMemorySlot index = none := by
          dsimp only [recallMemorySlot]
          rw [hb, halt]
          simp only [if_neg hsat]
          rfl
        rw [hnone] at h
        contradiction
      | some altB =>
        have hboth : ∃ b' : Fin 2 → BandIndex, b' 0 = b ∧ b' 1 = altB :=
          ⟨fun v => if v = 0 then b else altB, rfl, rfl⟩
        obtain ⟨b', rfl, rfl⟩ := hboth
        rw [s.recallMemorySlot_eq hb halt] at h
        exact ⟨b', rfl, fun _ => rfl, (Option.some.inj h).symm⟩

theorem bands_recallSlot (slot : ClientServer.Mem) (b : Fin 2 → BandIndex)
    : (s.recallSlot slot b).bands = s.bands := by
  rw [recallSlot, (onlyVfo_vfoVfosChanged _).bands]
  exact (s.setSatMode slot.satMode).bands_recallAny slot b

theorem located_recallVfo (load : Bool) (b : BandIndex) (entry : BandstackEntry)
    : (s.recallVfo id load b entry).located = Function.update s.located id (b, (s.bands b).lo) :=
  s.located_of_setVfo id (s.toTuningState_recallVfo id load b entry)

-- a VFO that is recalled has the LO frequency of the band in the slot
theorem located_recallSlot (slot : ClientServer.Mem) (b : Fin 2 → BandIndex) (v : Fin 2)
    : (s.recallSlot slot b).located v = s.located v
        ∨ ∃ b', (s.recallSlot slot b).located v = (b', (s.bands b').lo) := by
  rw [recallSlot, located_vfoVfosChanged]
  have hctcss (s' : RadioState) : (s'.setCtcss slot.ctcssEnabled slot.ctcss).located = s'.located :=
    rfl
  rw [hctcss, recallAny]
  split
  . rw [located_recallVfo, Function.update_apply]
    split
    . exact .inr ⟨b 0, rfl⟩
    . exact .inl rfl
  . have hsplit : (((s.setSatMode slot.satMode).recallBoth slot b).radioSetSplit slot.split).located
        = ((s.setSatMode slot.satMode).recallBoth slot b).located := by
      rw [toTuningState_radioSetSplit]
      rfl
    rw [hsplit, recallBoth, located_recallVfo, Function.update_apply, located_recallVfo,
      Function.update_apply, toTuningState_recallVfo, TuningState.bands_setVfo]
    split
    . exact .inr ⟨b 1, rfl⟩
    . split
      . exact .inr ⟨b 0, rfl⟩
      . exact .inl rfl

theorem located_loadProfileIf (changed : Bool)
    : (s.loadProfileIf id changed).located = s.located := by
  rw [s.located_of_setVfo id (s.loadProfileIf_eq id changed)]
  split <;> apply Function.update_eq_self

theorem bands_loadProfileIf (changed : Bool) : (s.loadProfileIf id changed).bands = s.bands :=
  (s.onlyVfo_of_setVfo id (s.loadProfileIf_eq id changed)).bands

theorem bands_vfoAToB : s.vfoAToB.bands = s.bands := by
  dsimp only [vfoAToB]
  rw [(onlyVfo_vfoVfosChanged _).bands, bands_loadProfileIf]
  rfl

theorem bands_vfoBToA : s.vfoBToA.bands = s.bands := by
  dsimp only [vfoBToA]
  rw [(onlyVfo_vfoVfosChanged _).bands, bands_loadProfileIf]
  rfl

theorem bands_vfoASwapB : s.vfoASwapB.bands = s.bands := by
  dsimp only [vfoASwapB]
  rw [(onlyVfo_vfoVfosChanged _).bands, bands_loadProfileIf, bands_loadProfileIf]
  rfl

-- the copies take band and LO frequency from one of the VFOs
theorem located_vfoAToB (v : Fin 2) : s.vfoAToB.located v = s.located 0 := by
  dsimp only [vfoAToB]
  rw [located_vfoVfosChanged, located_loadProfileIf, toTuningState_setVfo,
    TuningState.located_setVfo]
  match v with
  | 0 => rfl
  | 1 => rfl

theorem located_vfoBToA (v : Fin 2) : s.vfoBToA.located v = s.located 1 := by
  dsimp only [vfoBToA]
  rw [located_vfoVfosChanged, located_loadProfileIf, toTuningState_setVfo,
    TuningState.located_setVfo]
  match v with
  | 0 => rfl
  | 1 => rfl

theorem located_vfoASwapB (v : Fin 2) : s.vfoASwapB.located v = s.located (1 - v) := by
  dsimp only [vfoASwapB]
  rw [located_vfoVfosChanged, located_loadProfileIf, located_loadProfileIf, toTuningState_setVfo,
    TuningState.located_setVfo, toTuningState_setVfo, TuningState.located_setVfo]
  match v with
  | 0 => rfl
  | 1 => rfl

theorem located_vfoIdModeChanged (m : Int) : (s.vfoIdModeChanged id m).located = s.located := by
  rw [s.located_of_setVfo id (s.toTuningState_vfoIdModeChanged id m)]
  dsimp only
  split <;> apply Function.update_eq_self

theorem located_vfoIdFilterChanged (f : Int)
    : (s.vfoIdFilterChanged id f).located = s.located := by
  rw [s.located_of_setVfo id (s.toTuningState_vfoIdFilterChanged id f)]
  apply Function.update_eq_self

-- the band for `f` of a VFO in the band `b` has the same LO frequency
def LoSame (s : RadioState) (b : BandIndex) (f : Int) : Prop :=
  (s.bands (adjustedBand s.config s.bands b f)).lo = (s.bands b).lo

instance (b : BandIndex) (f : Int) : Decidable (s.LoSame b f) :=
  inferInstanceAs (Decidable (_ = _))

/--
No VFO leaves its band for a band with another LO frequency, when it is tuned or when it gets an entry of
a band stack that is not in the band of the stack.
-/
def KeepsLo (s : RadioState) : FrequencyOperation → Prop
  | .tune id c =>
    (∀ f ∈ s.tuneTarget id c, s.LoSame (s.vfo id).band f)
      ∧ ∀ f ∈ s.tuneTarget id c, ∀ g ∈ s.followLookup id c f, s.LoSame (s.vfo (1 - id)).band g
  | .setFrequency id f => s.LoSame (s.vfo id).band f
  | .request (.ctun id state) => ∀ f ∈ s.ctunLookup id state, s.LoSame (s.vfo id).band f
  | .request (.bandstack id b) =>
    s.LoSame (s.vfo id).band ((s.vfo id).loadEntry (s.entryAt id b)).dial
  | .request (.band id b) =>
    (b ≠ (s.vfo id).band ∧ OutOfRange s.config (s.bands b))
      ∨ s.LoSame b ((s.vfo id).loadEntry (s.bandEntry id b)).dial
  | .request _ => True

section

variable {s id} {s' : RadioState}

-- what a VFO has is the LO frequency of its band
def LoOk (bands : BandIndex → BandState) (p : BandIndex × Int) : Prop :=
  p.2 = (bands p.1).lo

theorem loFollows_iff (h : SameStored s.bands s'.bands)
    : s'.LoFollows ↔ ∀ v, LoOk s.bands (s'.located v) := by
  have hlo (b : BandIndex) : (s'.bands b).lo = (s.bands b).lo := by
    rw [h b]
    rfl
  unfold TuningState.LoFollows LoOk TuningState.located
  simp only [hlo]

theorem forall_update_iff {p : BandIndex × Int} (h : ∀ v, LoOk s.bands (s.located v))
    (hp : s'.located = Function.update s.located id p)
    : (∀ v, LoOk s.bands (s'.located v)) ↔ LoOk s.bands p := by
  rw [hp, Function.forall_update_iff s.located fun _ p => LoOk s.bands p]
  exact and_iff_left fun v _ => h v

theorem loOk_adjusted_iff (h : ∀ v, LoOk s.bands (s.located v)) (v : Fin 2) (f : Int)
    : LoOk s.bands (adjustedBand s.config s.bands (s.vfo v).band f, (s.vfo v).lo)
        ↔
      s.LoSame (s.vfo v).band f := by
  have hown : (s.vfo v).lo = (s.bands (s.vfo v).band).lo := h v
  unfold LoOk LoSame
  rw [hown]
  exact eq_comm

theorem forall_relocate_iff (h : ∀ v, LoOk s.bands (s.located v)) (f : Option Int)
    : (∀ v, LoOk s.bands (s.relocate s.located id f v))
        ↔
      ∀ g ∈ f, s.LoSame (s.vfo id).band g := by
  cases f with
  | none => simp [relocate, h]
  | some f =>
    rw [relocate, Function.forall_update_iff s.located fun _ p => LoOk s.bands p,
      loOk_adjusted_iff h]
    simp [h]

theorem eq_of_ne_other {v id : Fin 2} (h : v ≠ 1 - id) : v = id := by
  revert v id
  decide

-- one VFO after the other
theorem forall_relocate_relocate_iff (h : ∀ v, LoOk s.bands (s.located v)) (f g : Int)
    : (∀ v, LoOk s.bands (s.relocate (s.relocate s.located id (some f)) (1 - id) (some g) v))
        ↔
      s.LoSame (s.vfo id).band f ∧ s.LoSame (s.vfo (1 - id)).band g := by
  have hown : s.relocate s.located id (some f) id
      = (adjustedBand s.config s.bands (s.vfo id).band f, (s.vfo id).lo) :=
    Function.update_self _ _ _
  rw [relocate, Function.forall_update_iff _ fun _ p => LoOk s.bands p, loOk_adjusted_iff h,
    ← loOk_adjusted_iff h id, ← hown]
  constructor
  . intro hboth
    exact ⟨hboth.2 id (other_ne id).symm, hboth.1⟩
  . intro hboth
    refine ⟨hboth.2, ?_⟩
    intro v hv
    rw [eq_of_ne_other hv]
    exact hboth.1

end

theorem loFollows_tune_iff (h : s.LoFollows) (c : TuneCommand)
    : (s.tune id c).LoFollows ↔ s.KeepsLo (.tune id c) := by
  have hs := (loFollows_iff (SameStored.refl s.bands)).mp h
  rw [loFollows_iff (s := s) (by rw [(s.onlyVfo_tune id c).bands]; apply SameStored.refl), located_tune]
  dsimp only [KeepsLo]
  cases htarget : s.tuneTarget id c with
  | none => simp [relocate, hs]
  | some f =>
    simp only [Option.bind_some, Option.mem_some_iff, forall_eq']
    cases hfollow : s.followLookup id c f with
    | none =>
      have hlast (located : Fin 2 → BandIndex × Int)
          : s.relocate located (1 - id) none = located := rfl
      rw [hlast, forall_relocate_iff hs]
      simp
    | some g =>
      rw [forall_relocate_relocate_iff hs]
      simp

theorem loFollows_request_iff (h : s.LoFollows) (r : Request) {s' : RadioState}
    (hs' : perform s r = some s')
    : s'.LoFollows ↔ s.KeepsLo (.request r) := by
  have hs := (loFollows_iff (SameStored.refl s.bands)).mp h
  have hsame (hbands : s'.bands = s.bands) : SameStored s.bands s'.bands := by
    rw [hbands]
    apply SameStored.refl
  cases r with
  | ctun id state =>
    have heq : s.vfoIdCtunUpdate id state = s' := Option.some.inj hs'
    rw [loFollows_iff (hsame (by rw [← heq, (s.onlyVfo_vfoIdCtunUpdate id state).bands])), ← heq,
      located_vfoIdCtunUpdate, forall_relocate_iff hs]
    rfl
  | mode id m =>
    have heq : s.vfoIdModeChanged id m = s' := Option.some.inj hs'
    have hbands := (s.onlyVfo_of_setVfo id (s.toTuningState_vfoIdModeChanged id m)).bands
    rw [loFollows_iff (hsame (by rw [← heq, hbands])), ← heq, located_vfoIdModeChanged]
    exact iff_of_true hs trivial
  | bandstack id b =>
    have heq : s.vfoIdBandstackChanged id b = s' := Option.some.inj hs'
    rw [← heq, loFollows_iff (s.sameStored_vfoIdBandstackChanged id b),
      forall_update_iff hs (s.located_vfoIdBandstackChanged id b)]
    exact loOk_adjusted_iff hs id _
  | band id b =>
    have heq : s.vfoIdBandChanged id b = s' := Option.some.inj hs'
    have hlocated := s.located_vfoIdBandChanged id b
    rw [← heq, loFollows_iff (s.sameStored_vfoIdBandChanged id b)]
    dsimp only [KeepsLo]
    split at hlocated
    next hrefused =>
      rw [hlocated]
      exact iff_of_true hs (.inl hrefused)
    next hrefused =>
      rw [forall_update_iff hs hlocated, or_iff_right hrefused]
      exact eq_comm
  | filter id f =>
    have heq : s.vfoIdFilterChanged id f = s' := Option.some.inj hs'
    have hbands := (s.onlyVfo_of_setVfo id (s.toTuningState_vfoIdFilterChanged id f)).bands
    rw [loFollows_iff (hsame (by rw [← heq, hbands])), ← heq, located_vfoIdFilterChanged]
    exact iff_of_true hs trivial
  | recallMemory index =>
    obtain ⟨b, -, -, heq⟩ := s.exists_recallSlot hs'
    rw [loFollows_iff (hsame (by rw [heq, bands_recallSlot]))]
    refine iff_of_true ?_ trivial
    intro v
    rw [heq]
    obtain hlocated | ⟨b', hlocated⟩ := s.located_recallSlot (s.mem index) b v
    . rw [hlocated]
      exact hs v
    . rw [hlocated]
      rfl
  | aToB =>
    have heq : s.vfoAToB = s' := Option.some.inj hs'
    rw [loFollows_iff (hsame (by rw [← heq, bands_vfoAToB])), ← heq]
    refine iff_of_true ?_ trivial
    intro v
    rw [located_vfoAToB]
    exact hs 0
  | bToA =>
    have heq : s.vfoBToA = s' := Option.some.inj hs'
    rw [loFollows_iff (hsame (by rw [← heq, bands_vfoBToA])), ← heq]
    refine iff_of_true ?_ trivial
    intro v
    rw [located_vfoBToA]
    exact hs 1
  | swap =>
    have heq : s.vfoASwapB = s' := Option.some.inj hs'
    rw [loFollows_iff (hsame (by rw [← heq, bands_vfoASwapB])), ← heq]
    refine iff_of_true ?_ trivial
    intro v
    rw [located_vfoASwapB]
    exact hs (1 - v)

-- one operation
theorem loFollows_operate_iff (h : s.LoFollows) (op : FrequencyOperation) {s' : RadioState}
    (hs' : s.operate op = some s')
    : s'.LoFollows ↔ s.KeepsLo op := by
  cases op with
  | tune id c =>
    have heq : s.tune id c = s' := Option.some.inj hs'
    rw [← heq]
    exact s.loFollows_tune_iff id h c
  | setFrequency id f =>
    have hs := (loFollows_iff (SameStored.refl s.bands)).mp h
    have heq : s.vfoIdSetFrequency id f = s' := Option.some.inj hs'
    have hsame : SameStored s.bands (s.vfoIdSetFrequency id f).bands := by
      rw [(s.onlyVfo_vfoIdSetFrequency id f).bands]
      apply SameStored.refl
    rw [← heq, loFollows_iff hsame, located_vfoIdSetFrequency, forall_relocate_iff hs]
    simp [KeepsLo]
  | request r => exact s.loFollows_request_iff h r hs'

theorem keepsLo_of_operate_eq_none {op : FrequencyOperation} (h : s.operate op = none)
    : s.KeepsLo op := by
  cases op with
  | tune id c => contradiction
  | setFrequency id f => contradiction
  | request r =>
    cases r with
    | recallMemory index => trivial
    | ctun id state => contradiction
    | mode id m => trivial
    | bandstack id b => contradiction
    | band id b => contradiction
    | filter id f => trivial
    | aToB => trivial
    | bToA => trivial
    | swap => trivial

def NextFollows (o : Option RadioState) : Prop :=
  ∀ s, o = some s → s.LoFollows

theorem nextFollows_operateNext_iff {o : Option RadioState} (h : NextFollows o)
    (op : FrequencyOperation)
    : NextFollows (operateNext o op) ↔ ∀ s, o = some s → s.KeepsLo op := by
  cases o with
  | none =>
    apply iff_of_true
    . intro s' hs'
      contradiction
    . intro s' hs'
      contradiction
  | some s =>
    have hs := h s rfl
    unfold NextFollows
    rw [operateNext, Option.bind_some]
    cases hop : s.operate op with
    | none =>
      apply iff_of_true
      . intro s' hs'
        contradiction
      . intro s' hs'
        rw [← Option.some.inj hs']
        exact s.keepsLo_of_operate_eq_none hop
    | some s₁ =>
      simp only [Option.some.injEq, forall_eq']
      exact s.loFollows_operate_iff hs op hop

-- Whatever is operated, in whatever order: the LO frequencies follow if no step loses one.
theorem loFollows_exec_iff (h : s.LoFollows) (ops : List FrequencyOperation)
    : (∀ ops', ops' <+: ops → ∀ s', Run.exec operateNext (some s) ops' = some s' → s'.LoFollows)
        ↔
      Run.Along operateNext (fun o op => ∀ s', o = some s' → s'.KeepsLo op) (some s) ops := by
  have hs : NextFollows (some s) := by
    intro s' hs'
    rwa [← Option.some.inj hs']
  exact Run.forall_prefix_iff_along (I := NextFollows)
    (fun _ op h => nextFollows_operateNext_iff h op) hs ops

theorem loFollows_initialState : initialState.LoFollows := by
  intro v
  rfl

-- The radio is tuned to another amateur band and to a frequency outside of all of them.
theorem loFollows_exec_initialState
    : let ops := [.setFrequency 0 7100000, .tune 1 (.moveTo 60000000 false), .request .swap]
      (∀ ops', ops' <+: ops → ∀ s', Run.exec operateNext (some initialState) ops' = some s' →
          s'.LoFollows)
        ↔
      Run.Along operateNext (fun o op => ∀ s', o = some s' → s'.KeepsLo op) (some initialState)
        ops :=
  initialState.loFollows_exec_iff loFollows_initialState _

end RadioState

-- a transverter for 144 MHz on the first transverter band, with VFO A on it
def transverterState : RadioState :=
  let band := initialBand ⟨['X', 'V'], 144000000, 146000000, 3, 0⟩
  let s := initialState.setBand 24 { band with frequencyLo := 116000000 }
  s.setVfo 0 { initialVfo with band := 24, frequency := 145000000, lo := 116000000 }

namespace RadioState

theorem loFollows_transverterState : transverterState.LoFollows := by
  intro v
  match v with
  | 0 => rfl
  | 1 => rfl

-- VFO A is set to a frequency of the 20 m band and keeps the LO frequency of the transverter.
theorem not_loFollows_operate
    : ¬ ∀ (s : RadioState) (op : FrequencyOperation) (s' : RadioState),
        s.LoFollows → s.operate op = some s' → s'.LoFollows := by
  intro h
  have hop := h transverterState (.setFrequency 0 14100000) _ loFollows_transverterState rfl
  rw [loFollows_operate_iff _ loFollows_transverterState (.setFrequency 0 14100000) rfl] at hop
  have hlost : ¬ transverterState.LoSame 24 14100000 := by decide +kernel
  exact hlost hop

end RadioState
