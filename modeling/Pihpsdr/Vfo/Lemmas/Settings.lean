import Pihpsdr.Vfo.Impl.Change
import Mathlib.Data.Fintype.Basic
import Mathlib.Tactic.FinCases

/-!
What the band settings, the filters and the profiles leave alone. The settings stored with a band
are not changed when they are applied, since each function stores the value that was read there.
-/

namespace TuningState

variable (t : TuningState)

@[simp]
theorem config_setVfo (id : Fin 2) (v : VfoState) : (t.setVfo id v).config = t.config := rfl

@[simp]
theorem bands_setVfo (id : Fin 2) (v : VfoState) : (t.setVfo id v).bands = t.bands := rfl

@[simp]
theorem satMode_setVfo (id : Fin 2) (v : VfoState) : (t.setVfo id v).satMode = t.satMode := rfl

@[simp]
theorem vfo_setVfo (id : Fin 2) (v : VfoState)
    : (t.setVfo id v).vfo = Function.update t.vfo id v := rfl

@[simp]
theorem bands_setBand (b : BandIndex) (band : BandState)
    : (t.setBand b band).bands = Function.update t.bands b band := rfl

@[simp]
theorem setVfo_self (id : Fin 2) : t.setVfo id (t.vfo id) = t := by
  simp [setVfo]

@[simp]
theorem setBand_self (b : BandIndex) : t.setBand b (t.bands b) = t := by
  simp [setBand]

@[simp]
theorem setVfo_setVfo (id : Fin 2) (v w : VfoState) : (t.setVfo id v).setVfo id w = t.setVfo id w := by
  simp [setVfo]

@[simp]
theorem vfo_setBandstack (b : BandIndex) (stack : BandstackState)
    : (t.setBandstack b stack).vfo = t.vfo := rfl

@[simp]
theorem config_setBandstack (b : BandIndex) (stack : BandstackState)
    : (t.setBandstack b stack).config = t.config := rfl

@[simp]
theorem bandstack_setBandstack_self (b : BandIndex) (stack : BandstackState)
    : ((t.setBandstack b stack).bands b).bandstack = stack := by
  simp [setBandstack]

theorem bandstack_setBandstack_of_ne {b b' : BandIndex} (h : b' ≠ b) (stack : BandstackState)
    : ((t.setBandstack b stack).bands b').bandstack = (t.bands b').bandstack := by
  simp [setBandstack, Function.update_of_ne h]

-- everything stored with a band but its stack
theorem bands_setBandstack (b b' : BandIndex) (stack : BandstackState)
    : (t.setBandstack b stack).bands b'
        =
      { t.bands b' with bandstack := ((t.setBandstack b stack).bands b').bandstack } := by
  by_cases hb : b' = b
  . rw [hb]
    simp [setBandstack]
  . simp [setBandstack, Function.update_of_ne hb]

@[simp]
theorem setBandstack_setBandstack (b : BandIndex) (stack stack' : BandstackState)
    : (t.setBandstack b stack).setBandstack b stack' = t.setBandstack b stack' := by
  simp [setBandstack, setBand]

@[simp]
theorem running_setBandstack (b : BandIndex) (stack : BandstackState) (id : Fin 2)
    : (t.setBandstack b stack).Running id ↔ t.Running id := Iff.rfl

theorem setVfo_zero {f : Fin 2 → VfoState} (h : t.vfo 1 = f 1)
    : t.setVfo 0 (f 0) = { t with vfo := f } := by
  have hf : Function.update t.vfo 0 (f 0) = f := by
    funext id
    fin_cases id
    . rfl
    . exact h
  rw [setVfo, hf]

theorem setVfo_zero_one (f : Fin 2 → VfoState)
    : (t.setVfo 0 (f 0)).setVfo 1 (f 1) = { t with vfo := f } := by
  have hf : Function.update (Function.update t.vfo 0 (f 0)) 1 (f 1) = f := by
    funext id
    fin_cases id <;> rfl
  rw [setVfo, vfo_setVfo, hf]
  rfl

@[simp]
theorem running_setVfo (id id' : Fin 2) (v : VfoState)
    : (t.setVfo id v).Running id' ↔ t.Running id' := Iff.rfl

@[simp]
theorem running_setBand (b : BandIndex) (band : BandState) (id : Fin 2)
    : (t.setBand b band).Running id ↔ t.Running id := Iff.rfl

end TuningState

namespace RadioState

variable (s : RadioState)

@[simp]
theorem toTuningState_setVfo (id : Fin 2) (v : VfoState)
    : (s.setVfo id v).toTuningState = s.toTuningState.setVfo id v := rfl

@[simp]
theorem toTuningState_setReceiver (id : Fin 2) (rx : ReceiverState)
    : (s.setReceiver id rx).toTuningState = s.toTuningState := rfl

@[simp]
theorem receiver_setVfo (id : Fin 2) (v : VfoState) : (s.setVfo id v).receiver = s.receiver := rfl

@[simp]
theorem receiver_setReceiver (id : Fin 2) (rx : ReceiverState)
    : (s.setReceiver id rx).receiver = Function.update s.receiver id rx := rfl

@[simp]
theorem adc_setVfo (id : Fin 2) (v : VfoState) : (s.setVfo id v).adc = s.adc := rfl

@[simp]
theorem adc_setReceiver (id : Fin 2) (rx : ReceiverState) : (s.setReceiver id rx).adc = s.adc := rfl

/--
The step from `s` to `s'` changes neither VFOs and bands nor the filter of a receiver or a profile.
-/
structure SameTuning (s s' : RadioState) : Prop where
  toTuningState : s'.toTuningState = s.toTuningState
  toPassband : ∀ id, (s'.receiver id).toPassband = (s.receiver id).toPassband
  profile : s'.profile = s.profile

variable {s} {s' s'' : RadioState}

theorem SameTuning.refl (s : RadioState) : SameTuning s s where
  toTuningState := rfl
  toPassband _ := rfl
  profile := rfl

theorem SameTuning.trans (h : SameTuning s s') (h' : SameTuning s' s'') : SameTuning s s'' where
  toTuningState := h'.toTuningState.trans h.toTuningState
  toPassband id := (h'.toPassband id).trans (h.toPassband id)
  profile := h'.profile.trans h.profile

theorem SameTuning.bands (h : SameTuning s s') : s'.bands = s.bands :=
  congrArg TuningState.bands h.toTuningState

theorem SameTuning.vfo (h : SameTuning s s') : s'.vfo = s.vfo :=
  congrArg TuningState.vfo h.toTuningState

theorem SameTuning.config (h : SameTuning s s') : s'.config = s.config :=
  congrArg TuningState.config h.toTuningState

variable (s)

theorem sameTuning_setReceiver (id : Fin 2) {rx : ReceiverState}
    (h : rx.toPassband = (s.receiver id).toPassband)
    : SameTuning s (s.setReceiver id rx) where
  toTuningState := rfl
  toPassband id' := by
    rw [receiver_setReceiver]
    by_cases hid : id' = id
    . rw [hid, Function.update_self, h]
    . rw [Function.update_of_ne hid]
  profile := rfl

theorem sameTuning_setReceiverIfRunning (id : Fin 2) {set : ReceiverState → ReceiverState}
    (h : ∀ rx, (set rx).toPassband = rx.toPassband)
    : SameTuning s (s.setReceiverIfRunning id set) := by
  unfold setReceiverIfRunning
  split
  . apply sameTuning_setReceiver
    apply h
  . apply SameTuning.refl

-- `store` writes the values that are stored already
theorem sameTuning_storeWithBand (id : Fin 2) {store : BandState → BandState}
    (h : store (s.bands (s.vfo id).band) = s.bands (s.vfo id).band)
    : SameTuning s (s.storeWithBand id store) := by
  dsimp only [storeWithBand]
  split
  . rw [h]
    constructor
    . apply TuningState.setBand_self
    . intro id'
      rfl
    . rfl
  . apply SameTuning.refl

theorem sameTuning_radioSetC25Att (id : Fin 2) (val : Int)
    : SameTuning s (s.radioSetC25Att id val) := by
  unfold radioSetC25Att
  split
  . apply SameTuning.refl
  . split <;> exact ⟨rfl, fun _ => rfl, rfl⟩

section

variable {s}
variable {id : Fin 2} {rxband : BandState} (h : SameTuning s s')
  (hband : rxband = s.bands (s.vfo id).band)
include h hband

theorem SameTuning.band_eq : rxband = s'.bands (s'.vfo id).band := by
  rw [h.bands, h.vfo, hband]

theorem SameTuning.storeWithBand {store : BandState → BandState} (hstore : store rxband = rxband)
    : SameTuning s (s'.storeWithBand id store) := by
  apply h.trans
  apply sameTuning_storeWithBand
  rw [← h.band_eq hband, hstore]

theorem SameTuning.radioSetAttenuation
    : SameTuning s (s'.radioSetAttenuation id rxband.attenuation) := by
  unfold RadioState.radioSetAttenuation
  split
  . exact h
  . apply SameTuning.storeWithBand _ hband rfl
    exact ⟨h.toTuningState, h.toPassband, h.profile⟩

theorem SameTuning.radioSetRfGain : SameTuning s (s'.radioSetRfGain id rxband.rfGain) := by
  unfold RadioState.radioSetRfGain
  split
  . exact h
  . apply SameTuning.storeWithBand _ hband rfl
    exact ⟨h.toTuningState, h.toPassband, h.profile⟩

theorem SameTuning.radioSetPanhigh : SameTuning s (s'.radioSetPanhigh id rxband.panhigh) := by
  apply SameTuning.storeWithBand _ hband rfl
  apply h.trans
  apply sameTuning_setReceiverIfRunning
  intro rx
  rfl

theorem SameTuning.radioSetPanlow : SameTuning s (s'.radioSetPanlow id rxband.panlow) := by
  apply SameTuning.storeWithBand _ hband rfl
  apply h.trans
  apply sameTuning_setReceiverIfRunning
  intro rx
  rfl

theorem SameTuning.radioSetPanstep : SameTuning s (s'.radioSetPanstep id rxband.panstep) := by
  apply SameTuning.storeWithBand _ hband rfl
  apply h.trans
  apply sameTuning_setReceiverIfRunning
  intro rx
  rfl

theorem SameTuning.radioSetAgcGain : SameTuning s (s'.radioSetAgcGain id rxband.agcGain) := by
  have hset : SameTuning s
      (s'.setReceiver id { s'.receiver id with agcGain := rxband.agcGain }) :=
    h.trans (s'.sameTuning_setReceiver id rfl)
  dsimp only [RadioState.radioSetAgcGain]
  split
  . exact h
  . split
    . apply SameTuning.storeWithBand hset hband rfl
    . exact hset

theorem SameTuning.applyLevels : SameTuning s (s'.applyLevels id rxband) := by
  unfold RadioState.applyLevels
  split
  . apply h.trans
    apply sameTuning_radioSetC25Att
  . apply SameTuning.radioSetRfGain _ hband
    apply h.radioSetAttenuation hband

theorem SameTuning.applyDisplay : SameTuning s (s'.applyDisplay id rxband) := by
  have hpan := ((h.radioSetPanhigh hband).radioSetPanlow hband).radioSetPanstep hband
  dsimp only [RadioState.applyDisplay]
  split
  . apply hpan.radioSetAgcGain hband
  . exact hpan

end

theorem sameTuning_applyAntennas (flag : Bool) (rxadc : Fin 3) (rxband : BandState)
    : SameTuning s (s.applyAntennas flag rxadc rxband) := by
  unfold applyAntennas
  split <;> exact ⟨rfl, fun _ => rfl, rfl⟩

theorem sameTuning_radioApplyBandSettings (flag : Bool) (id : Fin 2)
    : SameTuning s (s.radioApplyBandSettings flag id) := by
  have hantennas := s.sameTuning_applyAntennas flag
    (if s.Running id then s.config.rxAdc id else 0) (s.bands (s.vfo id).band)
  dsimp only [radioApplyBandSettings]
  cases flag
  case false =>
    exact hantennas
  case true =>
    apply SameTuning.applyDisplay _ rfl
    apply SameTuning.applyLevels hantennas rfl

@[simp]
theorem toTuningState_radioApplyBandSettings (flag : Bool) (id : Fin 2)
    : (s.radioApplyBandSettings flag id).toTuningState = s.toTuningState :=
  (s.sameTuning_radioApplyBandSettings flag id).toTuningState

@[simp]
theorem toPassband_radioApplyBandSettings (flag : Bool) (id id' : Fin 2)
    : ((s.radioApplyBandSettings flag id).receiver id').toPassband = (s.receiver id').toPassband :=
  (s.sameTuning_radioApplyBandSettings flag id).toPassband id'

@[simp]
theorem profile_radioApplyBandSettings (flag : Bool) (id : Fin 2)
    : (s.radioApplyBandSettings flag id).profile = s.profile :=
  (s.sameTuning_radioApplyBandSettings flag id).profile

@[simp]
theorem toTuningState_setCtcss (enabled ctcss : Int)
    : (s.setCtcss enabled ctcss).toTuningState = s.toTuningState := rfl

@[simp]
theorem receiver_setCtcss (enabled ctcss : Int)
    : (s.setCtcss enabled ctcss).receiver = s.receiver := rfl

@[simp]
theorem adc_setCtcss (enabled ctcss : Int) : (s.setCtcss enabled ctcss).adc = s.adc := rfl

@[simp]
theorem toTuningState_txSetFilter : s.txSetFilter.toTuningState = s.toTuningState := by
  unfold txSetFilter
  split <;> rfl

@[simp]
theorem receiver_txSetFilter : s.txSetFilter.receiver = s.receiver := by
  unfold txSetFilter
  split <;> rfl

@[simp]
theorem adc_txSetFilter : s.txSetFilter.adc = s.adc := by
  unfold txSetFilter
  split <;> rfl

@[simp]
theorem toTuningState_radioTxVfoChanged
    : s.radioTxVfoChanged.toTuningState = s.toTuningState :=
  s.toTuningState_txSetFilter

@[simp]
theorem receiver_radioTxVfoChanged : s.radioTxVfoChanged.receiver = s.receiver :=
  s.receiver_txSetFilter

@[simp]
theorem adc_radioTxVfoChanged : s.radioTxVfoChanged.adc = s.adc :=
  s.adc_txSetFilter

-- the transmitter may follow the filter of a receiver
theorem rxFilterChanged_eq (id : Fin 2)
    : s.rxFilterChanged id = s.rxSetFilter id
      ∨ s.rxFilterChanged id = (s.rxSetFilter id).txSetFilter := by
  dsimp only [rxFilterChanged]
  split
  . left
    rfl
  . split
    . right
      rfl
    . left
      rfl

@[simp]
theorem toTuningState_rxFilterChanged (id : Fin 2)
    : (s.rxFilterChanged id).toTuningState = s.toTuningState := by
  cases s.rxFilterChanged_eq id with
  | inl h =>
    rw [h]
    rfl
  | inr h =>
    rw [h, toTuningState_txSetFilter]
    rfl

@[simp]
theorem adc_rxFilterChanged (id : Fin 2) : (s.rxFilterChanged id).adc = s.adc := by
  cases s.rxFilterChanged_eq id with
  | inl h =>
    rw [h]
    rfl
  | inr h =>
    rw [h, adc_txSetFilter]
    rfl

@[simp]
theorem receiver_rxFilterChanged (id : Fin 2)
    : (s.rxFilterChanged id).receiver
        =
      Function.update s.receiver id ((s.receiver id).setFilter s.config (s.vfo id)) := by
  cases s.rxFilterChanged_eq id with
  | inl h =>
    rw [h]
    rfl
  | inr h =>
    rw [h, receiver_txSetFilter]
    rfl

@[simp]
theorem toTuningState_rxModeChanged (id : Fin 2)
    : (s.rxModeChanged id).toTuningState = s.toTuningState :=
  s.toTuningState_rxFilterChanged id

@[simp]
theorem adc_rxModeChanged (id : Fin 2) : (s.rxModeChanged id).adc = s.adc :=
  s.adc_rxFilterChanged id

@[simp]
theorem receiver_rxModeChanged (id : Fin 2)
    : (s.rxModeChanged id).receiver
        =
      Function.update s.receiver id ((s.receiver id).setFilter s.config (s.vfo id)) :=
  s.receiver_rxFilterChanged id

@[simp]
theorem toTuningState_rxFrequencyChanged (id : Fin 2)
    : (s.rxFrequencyChanged id).toTuningState
        =
      s.toTuningState.setVfo id
        ((s.vfo id).frequencyChanged (s.receiver id).toPassband (s.config.sampleRate id)) := rfl

@[simp]
theorem receiver_rxFrequencyChanged (id : Fin 2)
    : (s.rxFrequencyChanged id).receiver = s.receiver := rfl

@[simp]
theorem adc_rxFrequencyChanged (id : Fin 2) : (s.rxFrequencyChanged id).adc = s.adc := rfl

@[simp]
theorem toTuningState_rxVfoChanged (id : Fin 2)
    : (s.rxVfoChanged id).toTuningState
        =
      s.toTuningState.setVfo id
        ((s.vfo id).frequencyChanged (s.receiver id).toPassband (s.config.sampleRate id)) := by
  simp [rxVfoChanged]

@[simp]
theorem adc_rxVfoChanged (id : Fin 2) : (s.rxVfoChanged id).adc = s.adc := by
  simp [rxVfoChanged]

theorem receiver_rxVfoChanged_of_ne {id id' : Fin 2} (h : id' ≠ id)
    : (s.rxVfoChanged id).receiver id' = s.receiver id' := by
  simp [rxVfoChanged, Function.update_of_ne h]

@[simp]
theorem toTuningState_profilesLoadTxProfile (m : Int)
    : (s.profilesLoadTxProfile m).toTuningState = s.toTuningState := by
  unfold profilesLoadTxProfile
  split <;> simp

@[simp]
theorem receiver_profilesLoadTxProfile (m : Int)
    : (s.profilesLoadTxProfile m).receiver = s.receiver := by
  unfold profilesLoadTxProfile
  split <;> simp

@[simp]
theorem adc_profilesLoadTxProfile (m : Int) : (s.profilesLoadTxProfile m).adc = s.adc := by
  unfold profilesLoadTxProfile
  split <;> simp

theorem profilesLoadRxtxProfile_eq (id : Fin 2)
    : let m := (s.vfo id).mode
      let s' := s.profilesLoadRxProfile id m
      s.profilesLoadRxtxProfile id = s' ∨ s.profilesLoadRxtxProfile id = s'.profilesLoadTxProfile m := by
  dsimp only [profilesLoadRxtxProfile]
  split
  . right
    rfl
  . left
    rfl

@[simp]
theorem toTuningState_profilesLoadRxtxProfile (id : Fin 2)
    : (s.profilesLoadRxtxProfile id).toTuningState
        =
      s.toTuningState.setVfo id ((s.vfo id).loadProfile (s.profile (s.vfo id).mode)) := by
  cases s.profilesLoadRxtxProfile_eq id with
  | inl h => simp [h, profilesLoadRxProfile]
  | inr h => simp [h, profilesLoadRxProfile]

@[simp]
theorem adc_profilesLoadRxtxProfile (id : Fin 2)
    : (s.profilesLoadRxtxProfile id).adc = s.adc := by
  cases s.profilesLoadRxtxProfile_eq id with
  | inl h => simp [h, profilesLoadRxProfile]
  | inr h => simp [h, profilesLoadRxProfile]

theorem receiver_profilesLoadRxtxProfile_of_ne {id id' : Fin 2} (hid : id' ≠ id)
    : (s.profilesLoadRxtxProfile id).receiver id' = s.receiver id' := by
  cases s.profilesLoadRxtxProfile_eq id with
  | inl h => simp [h, profilesLoadRxProfile, Function.update_of_ne hid]
  | inr h => simp [h, profilesLoadRxProfile, Function.update_of_ne hid]

end RadioState
