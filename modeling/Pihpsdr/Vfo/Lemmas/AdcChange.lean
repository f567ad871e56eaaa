import Pihpsdr.Vfo.Lemmas.Change
import Pihpsdr.Vfo.Lemmas.Recall

/-!
What the settings of a band and the changes of the VFOs do to the ADCs.
-/

-- the settings of a band for the ADC of a receiver
def Adcs.bandSettings (adc : Adcs) (config : RadioConfig) (flag : Bool) (id : Fin 2)
    (band : BandState) : Adcs :=
  let running := id.val < config.receivers
  let i := if running then config.rxAdc id else 0
  let adc :=
    if config.protocol = .soapysdr then adc else adc.applyBand config flag i band
  if flag = false then
    adc
  else if config.filterBoard = .charly25 then
    adc.setC25Att (-12 * band.alexAttenuation + 18 * (band.preamp + band.dither))
  else
    let adc :=
      if running ∧ config.haveRxAtt then
        adc.setAttenuation (config.rxAdc id) band.attenuation
      else
        adc
    if running ∧ config.haveRxGain then adc.setRfGain (config.rxAdc id) band.rfGain else adc

-- the settings of both VFOs, as `vfo_vfos_changed` applies them
def Adcs.vfoSettings (adc : Adcs) (config : RadioConfig) (band : Fin 2 → BandState) : Adcs :=
  let adc := adc.bandSettings config true 0 (band 0)
  if config.receivers = 2 then adc.bandSettings config true 1 (band 1) else adc

namespace RadioState

variable (s : RadioState)

@[simp]
theorem adc_storeWithBand (id : Fin 2) (store : BandState → BandState)
    : (s.storeWithBand id store).adc = s.adc := by
  unfold storeWithBand
  split <;> rfl

@[simp]
theorem adc_setReceiverIfRunning (id : Fin 2) (set : ReceiverState → ReceiverState)
    : (s.setReceiverIfRunning id set).adc = s.adc := by
  unfold setReceiverIfRunning
  split <;> rfl

@[simp]
theorem adc_radioSetPanhigh (id : Fin 2) (value : Int)
    : (s.radioSetPanhigh id value).adc = s.adc := by
  simp [radioSetPanhigh]

@[simp]
theorem adc_radioSetPanlow (id : Fin 2) (value : Int)
    : (s.radioSetPanlow id value).adc = s.adc := by
  simp [radioSetPanlow]

@[simp]
theorem adc_radioSetPanstep (id : Fin 2) (value : Int)
    : (s.radioSetPanstep id value).adc = s.adc := by
  simp [radioSetPanstep]

@[simp]
theorem adc_radioSetAgcGain (id : Fin 2) (value : ℚ)
    : (s.radioSetAgcGain id value).adc = s.adc := by
  dsimp only [radioSetAgcGain]
  split
  . rfl
  . split
    . simp
    . simp

@[simp]
theorem adc_applyDisplay (id : Fin 2) (band : BandState)
    : (s.applyDisplay id band).adc = s.adc := by
  dsimp only [applyDisplay]
  rw [apply_ite RadioState.adc]
  simp

theorem config_storeWithBand (id : Fin 2) (store : BandState → BandState)
    : (s.storeWithBand id store).config = s.config := by
  unfold storeWithBand
  split <;> rfl

theorem adc_radioSetAttenuation (id : Fin 2) (value : Int)
    : (s.radioSetAttenuation id value).adc
        =
      if s.Running id ∧ s.config.haveRxAtt then
        s.adc.setAttenuation (s.config.rxAdc id) value
      else
        s.adc := by
  dsimp only [radioSetAttenuation]
  by_cases hset : s.Running id ∧ s.config.haveRxAtt
  . rw [if_pos hset, if_neg (by simp [hset]), adc_storeWithBand]
  . rw [if_neg hset, if_pos (by simpa [imp_iff_not_or] using hset)]

theorem config_radioSetAttenuation (id : Fin 2) (value : Int)
    : (s.radioSetAttenuation id value).config = s.config := by
  dsimp only [radioSetAttenuation]
  split
  . rfl
  . rw [config_storeWithBand]

theorem adc_radioSetRfGain (id : Fin 2) (value : ℚ)
    : (s.radioSetRfGain id value).adc
        =
      if s.Running id ∧ s.config.haveRxGain then
        s.adc.setRfGain (s.config.rxAdc id) value
      else
        s.adc := by
  dsimp only [radioSetRfGain]
  by_cases hset : s.Running id ∧ s.config.haveRxGain
  . rw [if_pos hset, if_neg (by simp [hset]), adc_storeWithBand]
  . rw [if_neg hset, if_pos (by simpa [imp_iff_not_or] using hset)]

theorem adc_applyLevels (id : Fin 2) (band : BandState)
    : (s.applyLevels id band).adc
        =
      if s.config.filterBoard = .charly25 then
        s.adc.setC25Att (-12 * band.alexAttenuation + 18 * (band.preamp + band.dither))
      else
        let adc :=
          if s.Running id ∧ s.config.haveRxAtt then
            s.adc.setAttenuation (s.config.rxAdc id) band.attenuation
          else
            s.adc
        if s.Running id ∧ s.config.haveRxGain then
          adc.setRfGain (s.config.rxAdc id) band.rfGain
        else
          adc := by
  unfold applyLevels
  split
  next hboard => simp [radioSetC25Att, hboard]
  next hboard =>
    rw [adc_radioSetRfGain, adc_radioSetAttenuation]
    simp only [TuningState.Running, config_radioSetAttenuation]
    rfl

theorem adc_applyAntennas (flag : Bool) (i : Fin 3) (band : BandState)
    : (s.applyAntennas flag i band).adc
        =
      if s.config.protocol = .soapysdr then s.adc else s.adc.applyBand s.config flag i band := by
  unfold applyAntennas
  split <;> rfl

@[simp]
theorem adc_radioApplyBandSettings (flag : Bool) (id : Fin 2)
    : (s.radioApplyBandSettings flag id).adc
        =
      s.adc.bandSettings s.config flag id (s.bands (s.vfo id).band) := by
  have hconfig (i : Fin 3) (band : BandState)
      : (s.applyAntennas flag i band).config = s.config :=
    (s.sameTuning_applyAntennas flag i band).config
  dsimp only [radioApplyBandSettings, Adcs.bandSettings]
  cases flag
  case false =>
    simp only [Bool.false_eq_true, if_false, if_true]
    apply adc_applyAntennas
  case true =>
    simp only [if_true, Bool.true_eq_false, if_false]
    rw [adc_applyDisplay, adc_applyLevels, adc_applyAntennas]
    simp only [TuningState.Running, hconfig]

@[simp]
theorem adc_vfoVfosChanged
    : s.vfoVfosChanged.adc
        =
      s.adc.vfoSettings s.config (fun id => s.bands (s.vfo id).band) := by
  dsimp only [vfoVfosChanged, Adcs.vfoSettings]
  rw [apply_ite RadioState.adc]
  simp

@[simp]
theorem adc_vfoIdAdjustBand (id : Fin 2) (f : Int)
    : (s.vfoIdAdjustBand id f).adc
        =
      let b := adjustedBand s.config s.bands (s.vfo id).band f
      if (s.vfo id).band = b then
        s.adc
      else
        s.adc.bandSettings s.config true id (s.bands b) := by
  rw [vfoIdAdjustBand_eq]
  dsimp only
  split
  . rfl
  . simp

end RadioState

/-!
The settings that the ADCs have after a change of the VFOs. They are those of the bands that the
VFOs get, in the order in which the functions apply them.
-/

-- everything stored with the bands is the same, up to their stacks
def SameStored (bands bands' : BandIndex → BandState) : Prop :=
  ∀ b, bands' b = { bands b with bandstack := (bands' b).bandstack }

theorem SameStored.refl (bands : BandIndex → BandState) : SameStored bands bands :=
  fun _ => rfl

theorem SameStored.trans {bands bands' bands'' : BandIndex → BandState}
    (h : SameStored bands bands') (h' : SameStored bands' bands'') : SameStored bands bands'' := by
  intro b
  rw [h' b, h b]

theorem SameStored.sameLimits {bands bands' : BandIndex → BandState} (h : SameStored bands bands')
    : SameLimits bands bands' := by
  intro b
  rw [h b]
  exact ⟨rfl, rfl, rfl⟩

theorem sameStored_setBandstack (t : TuningState) (b : BandIndex) (stack : BandstackState)
    : SameStored t.bands (t.setBandstack b stack).bands :=
  fun b' => t.bands_setBandstack b b' stack

namespace Adcs

variable (adc : Adcs) (config : RadioConfig) {bands bands' : BandIndex → BandState}

theorem bandSettings_congr (h : SameStored bands bands') (flag : Bool) (id : Fin 2) (b : BandIndex)
    : adc.bandSettings config flag id (bands' b) = adc.bandSettings config flag id (bands b) := by
  rw [h b]
  rfl

theorem vfoSettings_congr (h : SameStored bands bands') (b : Fin 2 → BandIndex)
    : adc.vfoSettings config (fun id => bands' (b id))
        =
      adc.vfoSettings config (fun id => bands (b id)) := by
  dsimp only [vfoSettings]
  rw [bandSettings_congr adc config h, bandSettings_congr _ config h]

-- the settings of a VFO that goes from one band to another
def moveSettings (adc : Adcs) (config : RadioConfig) (bands : BandIndex → BandState) (id : Fin 2)
    (b b' : BandIndex) : Adcs :=
  if b = b' then adc else adc.bandSettings config true id (bands b')

theorem moveSettings_congr (h : SameStored bands bands') (id : Fin 2) (b b' : BandIndex)
    : adc.moveSettings config bands' id b b' = adc.moveSettings config bands id b b' := by
  unfold moveSettings
  rw [bandSettings_congr adc config h]

end Adcs

namespace RadioState

variable (s : RadioState)

-- the bands of the VFOs when VFO `id` has got band `b`
def bandsWith (s : RadioState) (id : Fin 2) (b : BandIndex) : Fin 2 → BandIndex :=
  Function.update (fun id => (s.vfo id).band) id b

def vfoSettings (s : RadioState) (adc : Adcs) (b : Fin 2 → BandIndex) : Adcs :=
  adc.vfoSettings s.config (fun id => s.bands (b id))

section

variable {s}
variable {s' : RadioState}

theorem adc_vfoVfosChanged_eq (hconfig : s'.config = s.config)
    (hstored : SameStored s.bands s'.bands) {b : Fin 2 → BandIndex}
    (hb : ∀ id, (s'.vfo id).band = b id)
    : s'.vfoVfosChanged.adc = s.vfoSettings s'.adc b := by
  have hbands : (fun id => s'.bands (s'.vfo id).band) = (fun id => s'.bands (b id)) := by
    funext id
    rw [hb]
  rw [adc_vfoVfosChanged, hbands, hconfig]
  apply Adcs.vfoSettings_congr _ _ hstored

theorem band_eq_bandsWith {id : Fin 2} {b : BandIndex} (hself : (s'.vfo id).band = b)
    (hother : ∀ id', id' ≠ id → s'.vfo id' = s.vfo id') (id' : Fin 2)
    : (s'.vfo id').band = s.bandsWith id b id' := by
  unfold bandsWith
  by_cases hid : id' = id
  . rw [hid, Function.update_self, hself]
  . rw [Function.update_of_ne hid, hother id' hid]

end

@[simp]
theorem adc_enterEntry (id : Fin 2) (oldmode : Int) (entry : BandstackEntry)
    : (s.enterEntry id oldmode entry).adc
        =
      s.adc.moveSettings s.config s.bands id (s.vfo id).band
        (adjustedBand s.config s.bands (s.vfo id).band ((s.vfo id).loadEntry entry).dial) := by
  dsimp only [enterEntry]
  rw [adc_loadProfileIf, adc_setCtcss, adc_vfoIdAdjustBand]
  simp only [toTuningState_setVfo, TuningState.vfo_setVfo, Function.update_self]
  rfl

theorem band_enterEntry (id : Fin 2) (oldmode : Int) (entry : BandstackEntry)
    : ((s.enterEntry id oldmode entry).vfo id).band
        =
      adjustedBand s.config s.bands (s.vfo id).band ((s.vfo id).loadEntry entry).dial := by
  rw [toTuningState_enterEntry, TuningState.vfo_setVfo, Function.update_self]
  dsimp only
  split
  . apply VfoState.band_adjustBand
  . apply VfoState.band_adjustBand

/--
The step from `s` to `s'` changes no more than the VFOs and the band stacks.
-/
structure SameSettings (s s' : RadioState) : Prop where
  config : s'.config = s.config
  satMode : s'.satMode = s.satMode
  stored : SameStored s.bands s'.bands
  adc : s'.adc = s.adc

variable {s} in
theorem SameSettings.setBandstack {s' : RadioState} (h : SameSettings s s') (b : BandIndex)
    (stack : BandstackState)
    : SameSettings s (s'.setBandstack b stack) where
  config := h.config
  satMode := h.satMode
  stored := h.stored.trans (sameStored_setBandstack s'.toTuningState b stack)
  adc := h.adc

theorem SameSettings.refl (s : RadioState) : SameSettings s s :=
  ⟨rfl, rfl, SameStored.refl s.bands, rfl⟩

-- the band of the VFO `v` with an entry
def entryBand (s : RadioState) (v : VfoState) (entry : BandstackEntry) : BandIndex :=
  adjustedBand s.config s.bands v.band (v.loadEntry entry).dial

section

variable {s}
variable {s' : RadioState} (h : SameSettings s s') (id : Fin 2) (v : VfoState) (oldmode : Int)
  (entry : BandstackEntry)
include h

theorem SameSettings.entryBand_eq : s'.entryBand v entry = s.entryBand v entry := by
  unfold entryBand
  rw [h.config, adjustedBand_congr h.stored.sameLimits]

theorem SameSettings.adc_enterEntry
    : ((s'.setVfo id v).enterEntry id oldmode entry).adc
        =
      s.adc.moveSettings s.config s.bands id v.band (s.entryBand v entry) := by
  have hband := h.entryBand_eq v entry
  unfold entryBand at *
  rw [RadioState.adc_enterEntry]
  simp only [toTuningState_setVfo, TuningState.vfo_setVfo, Function.update_self, adc_setVfo,
    TuningState.config_setVfo, TuningState.bands_setVfo]
  rw [hband, h.adc, h.config, Adcs.moveSettings_congr _ _ h.stored]

theorem SameSettings.band_enterEntry
    : (((s'.setVfo id v).enterEntry id oldmode entry).vfo id).band = s.entryBand v entry := by
  rw [RadioState.band_enterEntry, ← h.entryBand_eq]
  simp only [toTuningState_setVfo, TuningState.vfo_setVfo, Function.update_self]
  rfl

end

section

variable (id : Fin 2) (b : Int)

-- the band of the entry `b` of the stack of a VFO
def bandstackBand (s : RadioState) (id : Fin 2) (b : Int) : BandIndex :=
  s.entryBand (s.vfo id) (s.entryAt id b)

def bandstackSettings (s : RadioState) (id : Fin 2) (b : Int) : Adcs :=
  let b' := s.bandstackBand id b
  s.vfoSettings (s.adc.moveSettings s.config s.bands id (s.vfo id).band b') (s.bandsWith id b')

theorem sameStored_enterBandstack : SameStored s.bands (s.enterBandstack id b).bands := by
  rw [toTuningState_enterBandstack, TuningState.bands_setVfo]
  split
  . apply sameStored_setBandstack
  . apply SameStored.refl

theorem sameSettings_jumpedFor : SameSettings s (s.jumpedFor id b) := by
  dsimp only [jumpedFor, savedFor]
  split_ifs
  . apply SameSettings.setBandstack
    apply SameSettings.setBandstack
    apply SameSettings.refl
  . apply SameSettings.refl

theorem adc_enterBandstack
    : (s.enterBandstack id b).adc
        =
      s.adc.moveSettings s.config s.bands id (s.vfo id).band (s.bandstackBand id b) := by
  rw [enterBandstack_eq, (s.sameSettings_jumpedFor id b).adc_enterEntry]
  rfl

theorem adc_vfoIdBandstackChanged
    : (s.vfoIdBandstackChanged id b).adc = s.bandstackSettings id b := by
  rw [vfoIdBandstackChanged, adc_vfoVfosChanged_eq]
  . rw [adc_enterBandstack]
    rfl
  . apply config_enterBandstack
  . apply sameStored_enterBandstack
  . apply band_eq_bandsWith
    . apply band_enterBandstack
    . intro id' h
      apply s.vfo_enterBandstack_of_ne id b h

end

section

variable (id : Fin 2) (b : BandIndex)

def bandBand (s : RadioState) (id : Fin 2) (b : BandIndex) : BandIndex :=
  s.entryBand { s.vfo id with band := b } (s.bandEntry id b)

def bandSettings (s : RadioState) (id : Fin 2) (b : BandIndex) : Adcs :=
  if b ≠ (s.vfo id).band ∧ OutOfRange s.config (s.bands b) then
    s.adc
  else
    let b' := s.bandBand id b
    let adc := s.adc.moveSettings s.config s.bands id b b'
    s.vfoSettings (adc.moveSettings s.config s.bands id (s.vfo id).band b') (s.bandsWith id b')

theorem sameSettings_steppedFor : SameSettings s (s.steppedFor id b) := by
  have hsaved : SameSettings s (s.savedFor id) := by
    unfold savedFor
    split
    . apply SameSettings.setBandstack
      apply SameSettings.refl
    . apply SameSettings.refl
  dsimp only [steppedFor]
  split
  . apply hsaved.setBandstack
  . exact hsaved

theorem adc_applyIfMoved
    : (s.applyIfMoved id b).adc
        =
      s.adc.moveSettings s.config s.bands id b (s.vfo id).band := by
  unfold applyIfMoved Adcs.moveSettings
  by_cases hb : b = (s.vfo id).band
  . rw [if_pos hb, if_neg (not_not.mpr hb)]
  . rw [if_neg hb, if_pos hb, adc_radioApplyBandSettings]

theorem adc_vfoIdBandChanged : (s.vfoIdBandChanged id b).adc = s.bandSettings id b := by
  unfold vfoIdBandChanged bandSettings
  split
  . rfl
  . have hsame := s.sameSettings_steppedFor id b
    have hentry : s.entryBand (s.bandVfo id b) (s.bandEntry id b) = s.bandBand id b := rfl
    have hadc := hsame.adc_enterEntry id (s.bandVfo id b) (s.vfo id).mode (s.bandEntry id b)
    have hband := hsame.band_enterEntry id (s.bandVfo id b) (s.vfo id).mode (s.bandEntry id b)
    have htuning := ((s.steppedFor id b).setVfo id (s.bandVfo id b)).toTuningState_enterEntry id
      (s.vfo id).mode (s.bandEntry id b)
    rw [hentry] at hadc hband
    rw [enterBand_eq]
    generalize ((s.steppedFor id b).setVfo id (s.bandVfo id b)).enterEntry id (s.vfo id).mode
      (s.bandEntry id b) = s₂ at *
    have hconfig : s₂.config = s.config := by
      rw [htuning]
      exact hsame.config
    have hstored : SameStored s.bands s₂.bands := by
      rw [htuning]
      exact hsame.stored
    have hother (id' : Fin 2) (hid : id' ≠ id) : s₂.vfo id' = s.vfo id' := by
      rw [htuning]
      simp [Function.update_of_ne hid]
    rw [adc_vfoVfosChanged_eq]
    . rw [adc_applyIfMoved, hadc, hconfig, hband, Adcs.moveSettings_congr _ _ hstored]
      rfl
    . rw [toTuningState_applyIfMoved, hconfig]
    . rw [toTuningState_applyIfMoved]
      exact hstored
    . rw [toTuningState_applyIfMoved]
      apply band_eq_bandsWith hband hother

end

section

@[simp]
theorem isSome_transmitter_txSetFilter
    : s.txSetFilter.transmitter.isSome = s.transmitter.isSome := by
  unfold txSetFilter
  split
  . rfl
  next htx => simp [htx]

@[simp]
theorem isSome_transmitter_rxFilterChanged (id : Fin 2)
    : (s.rxFilterChanged id).transmitter.isSome = s.transmitter.isSome := by
  cases s.rxFilterChanged_eq id with
  | inl h =>
    rw [h]
    rfl
  | inr h =>
    rw [h, isSome_transmitter_txSetFilter]
    rfl

@[simp]
theorem isSome_transmitter_profilesLoadTxProfile (m : Int)
    : (s.profilesLoadTxProfile m).transmitter.isSome = s.transmitter.isSome := by
  unfold profilesLoadTxProfile
  split
  . rfl
  next htx => simp [htx]

@[simp]
theorem isSome_transmitter_loadProfileIf (id : Fin 2) (changed : Bool)
    : (s.loadProfileIf id changed).transmitter.isSome = s.transmitter.isSome := by
  have hload : (s.profilesLoadRxProfile id (s.vfo id).mode).transmitter.isSome
      = s.transmitter.isSome := by
    dsimp only [profilesLoadRxProfile]
    rw [isSome_transmitter_rxFilterChanged]
    rfl
  unfold loadProfileIf
  split
  . cases s.profilesLoadRxtxProfile_eq id with
    | inl h => rw [h, hload]
    | inr h => rw [h, isSome_transmitter_profilesLoadTxProfile, hload]
  . rfl

@[simp]
theorem isSome_transmitter_recallVfo (id : Fin 2) (load : Bool) (b : BandIndex)
    (entry : BandstackEntry)
    : (s.recallVfo id load b entry).transmitter.isSome = s.transmitter.isSome := by
  dsimp only [recallVfo]
  apply isSome_transmitter_loadProfileIf

theorem adc_radioSetSplit (val : Int)
    : (s.radioSetSplit val).adc
        =
      if s.transmitter.isSome then
        s.adc.bandSettings s.config false 0 (s.bands (s.vfo 0).band)
      else
        s.adc := by
  unfold radioSetSplit
  split
  . simp
  . rfl

variable (slot : ClientServer.Mem) (b : Fin 2 → BandIndex)

-- a slot of a satellite mode is for both VFOs
def slotBands (s : RadioState) (slot : ClientServer.Mem) (b : Fin 2 → BandIndex)
    : Fin 2 → BandIndex :=
  if slot.satMode = satModeNone then s.bandsWith s.config.activeReceiver (b 0) else b

-- the end of a recall in a satellite mode switches the split mode
def splitSettings (s : RadioState) (slot : ClientServer.Mem) (b : Fin 2 → BandIndex) : Adcs :=
  if slot.satMode ≠ satModeNone ∧ s.transmitter.isSome then
    s.adc.bandSettings s.config false 0 (s.bands (b 0))
  else
    s.adc

def recallSettings (s : RadioState) (slot : ClientServer.Mem) (b : Fin 2 → BandIndex) : Adcs :=
  s.vfoSettings (s.splitSettings slot b) (s.slotBands slot b)

theorem band_recallBoth (id : Fin 2) : ((s.recallBoth slot b).vfo id).band = b id := by
  have ⟨profile, load, hvfo⟩ := s.vfo_recallBoth slot b id
  rw [hvfo, VfoState.band_loadSlot]

@[simp]
theorem bands_recallBoth : (s.recallBoth slot b).bands = s.bands := by
  simp [recallBoth]

theorem bands_recallAny : (s.recallAny slot b).bands = s.bands := by
  unfold recallAny
  split
  . simp
  . simp [toTuningState_radioSetSplit]

theorem band_recallAny (id : Fin 2)
    : ((s.recallAny slot b).vfo id).band = s.slotBands slot b id := by
  unfold recallAny slotBands
  split
  . apply band_eq_bandsWith
    . simp
    . intro id' hid
      simp [Function.update_of_ne hid]
  . rw [toTuningState_radioSetSplit]
    apply band_recallBoth

theorem adc_recallAny : (s.recallAny slot b).adc = s.splitSettings slot b := by
  unfold recallAny splitSettings
  by_cases hsat : slot.satMode = satModeNone
  . rw [if_pos hsat, if_neg (fun h => h.1 hsat), adc_recallVfo]
  . have hadc : (s.recallBoth slot b).adc = s.adc := by
      simp [recallBoth]
    have htx : (s.recallBoth slot b).transmitter.isSome = s.transmitter.isSome := by
      simp [recallBoth]
    rw [if_neg hsat, adc_radioSetSplit, hadc, htx, band_recallBoth, bands_recallBoth,
      config_recallBoth]
    simp [hsat]

theorem adc_recallSlot : (s.recallSlot slot b).adc = s.recallSettings slot b := by
  have hvfos : (s.recallSlot slot b).adc
      = ((s.setSatMode slot.satMode).recallAny slot b).vfoVfosChanged.adc := by
    rw [recallSlot, adc_vfoVfosChanged, adc_vfoVfosChanged]
    rfl
  rw [hvfos, adc_vfoVfosChanged_eq (config_recallAny _ slot b)]
  . rw [adc_recallAny]
    rfl
  . rw [bands_recallAny]
    apply SameStored.refl
  . apply band_recallAny

end

theorem band_loadProfileIf (id id' : Fin 2) (changed : Bool)
    : ((s.loadProfileIf id changed).vfo id').band = (s.vfo id').band := by
  rw [loadProfileIf_eq, TuningState.vfo_setVfo]
  by_cases hid : id' = id
  . rw [hid, Function.update_self]
    split <;> rfl
  . rw [Function.update_of_ne hid]

theorem adc_copied (id : Fin 2) (v : VfoState) (changed : Bool)
    : ((s.setVfo id v).loadProfileIf id changed).vfoVfosChanged.adc
        =
      s.vfoSettings s.adc (s.bandsWith id v.band) := by
  rw [adc_vfoVfosChanged_eq (s := s) (b := s.bandsWith id v.band)]
  . simp
  . simp [loadProfileIf_eq]
  . simp [loadProfileIf_eq, SameStored.refl]
  . intro id'
    rw [band_loadProfileIf]
    apply band_eq_bandsWith
    . simp
    . intro id'' hid
      simp [Function.update_of_ne hid]

theorem adc_vfoAToB : s.vfoAToB.adc = s.vfoSettings s.adc (fun _ => (s.vfo 0).band) := by
  have hbands : s.bandsWith 1 (s.vfo 0).band = fun _ => (s.vfo 0).band := by
    funext id
    fin_cases id <;> rfl
  dsimp only [vfoAToB]
  rw [adc_copied, hbands]

theorem adc_vfoBToA : s.vfoBToA.adc = s.vfoSettings s.adc (fun _ => (s.vfo 1).band) := by
  have hbands : s.bandsWith 0 (s.vfo 1).band = fun _ => (s.vfo 1).band := by
    funext id
    fin_cases id <;> rfl
  dsimp only [vfoBToA]
  rw [adc_copied, hbands]

theorem adc_vfoASwapB
    : s.vfoASwapB.adc = s.vfoSettings s.adc (fun id => (s.vfo (1 - id)).band) := by
  dsimp only [vfoASwapB]
  rw [adc_vfoVfosChanged_eq (s := s) (b := fun id => (s.vfo (1 - id)).band)]
  . simp
  . simp [loadProfileIf_eq]
  . simp [loadProfileIf_eq, SameStored.refl]
  . intro id
    rw [band_loadProfileIf, band_loadProfileIf]
    fin_cases id <;> rfl

theorem adc_vfoIdModeChanged (id : Fin 2) (m : Int) : (s.vfoIdModeChanged id m).adc = s.adc := by
  dsimp only [vfoIdModeChanged]
  rw [adc_txSetFilter, apply_ite RadioState.adc]
  simp

theorem adc_rxFilterChangedIfRunning (id : Fin 2)
    : (s.rxFilterChangedIfRunning id).adc = s.adc := by
  unfold rxFilterChangedIfRunning
  split
  . apply adc_rxFilterChanged
  . rfl

theorem adc_storeFilter (id : Fin 2) (f : Int) : (s.storeFilter id f).adc = s.adc := by
  dsimp only [storeFilter]
  split <;> rfl

theorem adc_vfoIdFilterChanged (id : Fin 2) (f : Int)
    : (s.vfoIdFilterChanged id f).adc = s.adc := by
  dsimp only [vfoIdFilterChanged]
  rw [apply_ite RadioState.adc]
  simp only [adc_rxFilterChangedIfRunning, adc_storeFilter, adc_setVfo, ite_self]

theorem satMode_vfoIdBandstackChanged (id : Fin 2) (b : Int)
    : (s.vfoIdBandstackChanged id b).satMode = s.satMode := by
  rw [vfoIdBandstackChanged, toTuningState_vfoVfosChanged, enterBandstack_eq,
    toTuningState_enterEntry]
  exact (s.sameSettings_jumpedFor id b).satMode

theorem satMode_vfoIdBandChanged (id : Fin 2) (b : BandIndex)
    : (s.vfoIdBandChanged id b).satMode = s.satMode := by
  unfold vfoIdBandChanged
  split
  . rfl
  . rw [toTuningState_vfoVfosChanged, enterBand_eq, toTuningState_applyIfMoved,
      toTuningState_enterEntry]
    exact (s.sameSettings_steppedFor id b).satMode

end RadioState
