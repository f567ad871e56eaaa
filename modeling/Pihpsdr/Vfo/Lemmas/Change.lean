import Pihpsdr.Vfo.Lemmas.Tuning

/-!
What the changes of band, band stack, mode and filter and the copies between the VFOs do to the two
VFOs and to the bands.
-/

namespace VfoState

-- the VFO with an entry of a band stack, in the band of its new frequency
def enter (v : VfoState) (config : RadioConfig) (bands : BandIndex → BandState)
    (entry : BandstackEntry) : VfoState :=
  (v.loadEntry entry).adjustBand config bands (v.loadEntry entry).dial

@[simp]
theorem mode_adjustBand (v : VfoState) (config : RadioConfig) (bands : BandIndex → BandState)
    (f : Int) : (v.adjustBand config bands f).mode = v.mode := by
  rw [adjustBand_eq]

@[simp]
theorem mode_loadEntry (v : VfoState) (entry : BandstackEntry)
    : (v.loadEntry entry).mode = entry.mode := rfl

@[simp]
theorem mode_loadProfile (v : VfoState) (profile : RxtxProfile)
    : (v.loadProfile profile).mode = v.mode := rfl

@[simp]
theorem mode_frequencyChanged (v : VfoState) (rx : Passband) (rate : Int)
    : (v.frequencyChanged rx rate).mode = v.mode := by
  dsimp only [frequencyChanged]
  split <;> rfl

@[simp]
theorem bandstack_frequencyChanged (v : VfoState) (rx : Passband) (rate : Int)
    : (v.frequencyChanged rx rate).bandstack = v.bandstack := by
  dsimp only [frequencyChanged]
  split <;> rfl

@[simp]
theorem mode_enter (v : VfoState) (config : RadioConfig) (bands : BandIndex → BandState)
    (entry : BandstackEntry) : (v.enter config bands entry).mode = entry.mode := by
  unfold enter
  rw [mode_adjustBand]
  rfl

end VfoState

namespace RadioState

variable (s : RadioState)

@[simp]
theorem profile_setVfo (id : Fin 2) (v : VfoState) : (s.setVfo id v).profile = s.profile := rfl

@[simp]
theorem toTuningState_setBandstack (b : BandIndex) (stack : BandstackState)
    : (s.setBandstack b stack).toTuningState
        =
      s.toTuningState.setBandstack b stack := rfl

@[simp]
theorem receiver_setBandstack (b : BandIndex) (stack : BandstackState)
    : (s.setBandstack b stack).receiver = s.receiver := rfl

@[simp]
theorem profile_setBandstack (b : BandIndex) (stack : BandstackState)
    : (s.setBandstack b stack).profile = s.profile := rfl

@[simp]
theorem profile_vfoIdAdjustBand (id : Fin 2) (f : Int)
    : (s.vfoIdAdjustBand id f).profile = s.profile := by
  rw [vfoIdAdjustBand_eq]
  split
  . rfl
  . rw [profile_radioApplyBandSettings, profile_setVfo]

@[simp]
theorem profile_setCtcss (enabled ctcss : Int)
    : (s.setCtcss enabled ctcss).profile = s.profile := rfl

-- the VFO `v` after its receiver has been told about the frequency
def settle (s : RadioState) (id : Fin 2) (v : VfoState) : VfoState :=
  if id = 0 ∨ s.config.receivers = 2 then
    v.frequencyChanged (s.receiver id).toPassband (s.config.sampleRate id)
  else
    v

@[simp]
theorem band_settle (id : Fin 2) (v : VfoState) : (s.settle id v).band = v.band := by
  unfold settle
  split
  . apply VfoState.band_frequencyChanged
  . rfl

@[simp]
theorem bandstack_settle (id : Fin 2) (v : VfoState)
    : (s.settle id v).bandstack = v.bandstack := by
  unfold settle
  split
  . apply VfoState.bandstack_frequencyChanged
  . rfl

@[simp]
theorem mode_settle (id : Fin 2) (v : VfoState) : (s.settle id v).mode = v.mode := by
  unfold settle
  split
  . apply VfoState.mode_frequencyChanged
  . rfl

theorem settle_congr {s s' : RadioState} {id : Fin 2} (hconfig : s'.config = s.config)
    (hpassband : (s'.receiver id).toPassband = (s.receiver id).toPassband) (v : VfoState)
    : s'.settle id v = s.settle id v := by
  unfold settle
  rw [hconfig, hpassband]

def settled (s : RadioState) (id : Fin 2) : VfoState :=
  s.settle id (s.vfo id)

@[simp]
theorem toTuningState_vfoVfosChanged
    : s.vfoVfosChanged.toTuningState = { s.toTuningState with vfo := s.settled } := by
  have hreceiver : (s.rxVfoChanged 0).receiver 1 = s.receiver 1 := by
    apply receiver_rxVfoChanged_of_ne
    decide
  have hfirst : s.settled 0
      = (s.vfo 0).frequencyChanged (s.receiver 0).toPassband (s.config.sampleRate 0) := by
    simp [settled, settle]
  dsimp only [vfoVfosChanged]
  split
  next hrunning =>
    have hrunning : s.config.receivers = 2 := by
      simpa using hrunning
    have hsecond : s.settled 1
        = (s.vfo 1).frequencyChanged (s.receiver 1).toPassband (s.config.sampleRate 1) := by
      simp [settled, settle, hrunning]
    have hother : Function.update s.vfo 0 (s.settled 0) 1 = s.vfo 1 := rfl
    simp only [toTuningState_radioApplyBandSettings, toTuningState_rxVfoChanged,
      toTuningState_radioTxVfoChanged, TuningState.vfo_setVfo, TuningState.config_setVfo,
      toPassband_radioApplyBandSettings, receiver_radioTxVfoChanged, hreceiver, ← hfirst, hother,
      ← hsecond]
    apply TuningState.setVfo_zero_one
  next hrunning =>
    have hsecond : s.settled 1 = s.vfo 1 := by
      unfold settled settle
      rw [if_neg]
      simpa using hrunning
    rw [toTuningState_radioApplyBandSettings, toTuningState_radioTxVfoChanged,
      toTuningState_rxVfoChanged, ← hfirst]
    apply TuningState.setVfo_zero
    exact hsecond.symm

theorem loadProfileIf_eq (id : Fin 2) (changed : Bool)
    : (s.loadProfileIf id changed).toTuningState
        =
      s.toTuningState.setVfo id
        (if changed then (s.vfo id).loadProfile (s.profile (s.vfo id).mode) else s.vfo id) := by
  unfold loadProfileIf
  split
  . rw [toTuningState_profilesLoadRxtxProfile]
  . rw [TuningState.setVfo_self]

theorem receiver_loadProfileIf_of_ne {id id' : Fin 2} (h : id' ≠ id) (changed : Bool)
    : (s.loadProfileIf id changed).receiver id' = s.receiver id' := by
  unfold loadProfileIf
  split
  . apply receiver_profilesLoadRxtxProfile_of_ne s h
  . rfl

@[simp]
theorem adc_loadProfileIf (id : Fin 2) (changed : Bool)
    : (s.loadProfileIf id changed).adc = s.adc := by
  unfold loadProfileIf
  split
  . apply adc_profilesLoadRxtxProfile
  . rfl

@[simp]
theorem toTuningState_enterEntry (id : Fin 2) (oldmode : Int) (entry : BandstackEntry)
    : (s.enterEntry id oldmode entry).toTuningState
        =
      s.toTuningState.setVfo id
        (let w := (s.vfo id).enter s.config s.bands entry
        if s.Running id ∧ oldmode ≠ entry.mode then
          w.loadProfile (s.profile entry.mode)
        else
          w) := by
  simp [enterEntry, loadProfileIf_eq, VfoState.enter]

theorem toPassband_enterEntry {id id' : Fin 2} {oldmode : Int} {entry : BandstackEntry}
    (h : id' ≠ id ∨ oldmode = entry.mode)
    : ((s.enterEntry id oldmode entry).receiver id').toPassband = (s.receiver id').toPassband := by
  cases h with
  | inl hid => simp [enterEntry, receiver_loadProfileIf_of_ne _ hid]
  | inr hmode => simp [enterEntry, loadProfileIf, hmode]

-- the band stack of VFO A is saved before VFO A gets an entry
def stackBefore (s : RadioState) (id : Fin 2) (b : BandIndex) : BandstackState :=
  if id = 0 ∧ b = (s.vfo 0).band then
    (s.bands b).bandstack.save (s.vfo 0) s.transmitter
  else
    (s.bands b).bandstack

theorem entries_stackBefore (id : Fin 2) (b : BandIndex)
    : (s.stackBefore id b).entries = (s.bands b).bandstack.entries := by
  unfold stackBefore
  split <;> rfl

section

variable (id : Fin 2) (b : BandIndex)

-- VFO A is saved before it enters another band
def savedFor (s : RadioState) (id : Fin 2) : RadioState :=
  if id = 0 then s.vfoSaveBandstack else s

theorem bandstack_savedFor
    : ((s.savedFor id).bands b).bandstack = s.stackBefore id b := by
  unfold savedFor stackBefore
  by_cases hid : id = 0
  . subst hid
    rw [if_pos rfl, vfoSaveBandstack]
    by_cases hb : b = (s.vfo 0).band
    . simp [hb]
    . rw [if_neg (fun h => hb h.2), toTuningState_setBandstack,
        TuningState.bandstack_setBandstack_of_ne _ hb]
  . rw [if_neg hid, if_neg (fun h => hid h.1)]

-- a step to the next entry of its stack is also a step of the stack, for VFO A
def steppedFor (s : RadioState) (id : Fin 2) (b : BandIndex) : RadioState :=
  let stack := s.stackBefore id b
  if b = (s.vfo id).band ∧ id = 0 then
    (s.savedFor id).setBandstack b
      { stack with currentEntry := nextBandstack (s.vfo id) b stack }
  else
    s.savedFor id

@[simp]
theorem vfo_steppedFor : (s.steppedFor id b).vfo = s.vfo := by
  dsimp only [steppedFor, savedFor]
  split_ifs <;> rfl

-- the entry that a change of the band reads
def bandEntry (s : RadioState) (id : Fin 2) (b : BandIndex) : BandstackEntry :=
  let stack := s.stackBefore id b
  stack.entry (nextBandstack (s.vfo id) b stack)

def bandVfo (s : RadioState) (id : Fin 2) (b : BandIndex) : VfoState :=
  let band := (s.steppedFor id b).bands b
  { s.vfo id with
    band := b
    bandstack := nextBandstack (s.vfo id) b (s.stackBefore id b)
    lo := band.frequencyLo + band.errorLo }

-- the settings of the new band are applied once more
def applyIfMoved (s : RadioState) (id : Fin 2) (b : BandIndex) : RadioState :=
  if b ≠ (s.vfo id).band then s.radioApplyBandSettings true id else s

@[simp]
theorem toTuningState_applyIfMoved : (s.applyIfMoved id b).toTuningState = s.toTuningState := by
  unfold applyIfMoved
  split
  . apply toTuningState_radioApplyBandSettings
  . rfl

theorem enterBand_eq
    : s.enterBand id b
        =
      (((s.steppedFor id b).setVfo id (s.bandVfo id b)).enterEntry id (s.vfo id).mode
        (s.bandEntry id b)).applyIfMoved id (s.vfo id).band := by
  have hstack := s.bandstack_savedFor id b
  unfold savedFor at hstack
  dsimp only [enterBand, bandEntry, bandVfo, applyIfMoved, steppedFor, savedFor]
  rw [hstack]

end

@[simp]
theorem toTuningState_vfoIdModeChanged (id : Fin 2) (m : Int)
    : (s.vfoIdModeChanged id m).toTuningState
        =
      s.toTuningState.setVfo id
        (let v := { s.vfo id with mode := m }
        if s.Running id then v.loadProfile (s.profile m) else v) := by
  dsimp only [vfoIdModeChanged]
  simp only [toTuningState_txSetFilter, TuningState.running_setVfo, toTuningState_setVfo]
  split
  . simp
  . simp

@[simp]
theorem toTuningState_rxFilterChangedIfRunning (id : Fin 2)
    : (s.rxFilterChangedIfRunning id).toTuningState = s.toTuningState := by
  unfold rxFilterChangedIfRunning
  split
  . apply toTuningState_rxFilterChanged
  . rfl

@[simp]
theorem toTuningState_storeFilter (id : Fin 2) (f : Int)
    : (s.storeFilter id f).toTuningState = s.toTuningState := by
  dsimp only [storeFilter]
  split <;> rfl

@[simp]
theorem toTuningState_vfoIdFilterChanged (id : Fin 2) (f : Int)
    : (s.vfoIdFilterChanged id f).toTuningState
        =
      s.toTuningState.setVfo id { s.vfo id with filter := f } := by
  dsimp only [vfoIdFilterChanged]
  split
  . simp
  . simp

-- the end of a copy to VFO `id` leaves the other VFO alone
theorem vfo_copied_of_ne {id id' : Fin 2} (h : id' ≠ id) (v : VfoState) (changed : Bool)
    : ((s.setVfo id v).loadProfileIf id changed).vfoVfosChanged.vfo id' = s.settled id' := by
  have hvfo : ((s.setVfo id v).loadProfileIf id changed).vfo id' = s.vfo id' := by
    simp [loadProfileIf_eq, Function.update_of_ne h]
  rw [toTuningState_vfoVfosChanged]
  dsimp only
  rw [settled, hvfo]
  apply settle_congr
  . simp [loadProfileIf_eq]
  . rw [receiver_loadProfileIf_of_ne _ h, receiver_setVfo]

theorem vfo_vfoAToB_zero : s.vfoAToB.vfo 0 = s.settled 0 := by
  dsimp only [vfoAToB]
  rw [vfo_copied_of_ne]
  decide

theorem vfo_vfoBToA_one : s.vfoBToA.vfo 1 = s.settled 1 := by
  dsimp only [vfoBToA]
  rw [vfo_copied_of_ne]
  decide

section

variable (id : Fin 2) (b : Int)

-- the entry that a change of the band stack reads
def entryAt (s : RadioState) (id : Fin 2) (b : Int) : BandstackEntry :=
  (s.stackBefore id (s.vfo id).band).entry b

-- a jump to an entry of its stack is also a jump of the stack, for VFO A
def jumpedFor (s : RadioState) (id : Fin 2) (b : Int) : RadioState :=
  let band := (s.vfo id).band
  if id = 0 then
    (s.savedFor id).setBandstack band { s.stackBefore id band with currentEntry := b }
  else
    s

@[simp]
theorem receiver_jumpedFor : (s.jumpedFor id b).receiver = s.receiver := by
  dsimp only [jumpedFor, savedFor]
  split_ifs <;> rfl

theorem enterBandstack_eq
    : s.enterBandstack id b
        =
      ((s.jumpedFor id b).setVfo id { s.vfo id with bandstack := b }).enterEntry id (s.vfo id).mode
        (s.entryAt id b) := by
  have hstack := s.bandstack_savedFor id (s.vfo id).band
  unfold savedFor at hstack
  dsimp only [enterBandstack, jumpedFor, entryAt, savedFor]
  by_cases hid : id = 0
  . rw [if_pos hid] at hstack
    simp only [if_pos hid, ← hstack, toTuningState_setVfo, TuningState.bands_setVfo,
      toTuningState_setBandstack, TuningState.bandstack_setBandstack_self]
  . rw [if_neg hid] at hstack
    simp only [if_neg hid, ← hstack, toTuningState_setVfo, TuningState.bands_setVfo]

theorem toTuningState_enterBandstack
    : (s.enterBandstack id b).toTuningState
        =
      let v := s.vfo id
      let stack := s.stackBefore id v.band
      let entry := stack.entry b
      let t :=
        if id = 0 then
          s.toTuningState.setBandstack v.band { stack with currentEntry := b }
        else
          s.toTuningState
      t.setVfo id
        (let w := { v with bandstack := b }.enter s.config t.bands entry
        if s.Running id ∧ v.mode ≠ entry.mode then w.loadProfile (s.profile entry.mode) else w) := by
  dsimp only [enterBandstack, stackBefore]
  by_cases hid : id = 0
  . subst hid
    simp [vfoSaveBandstack]
  . simp [hid]

theorem toPassband_enterBandstack {id' : Fin 2}
    (h : id' ≠ id ∨ (s.vfo id).mode = (s.entryAt id b).mode)
    : ((s.enterBandstack id b).receiver id').toPassband = (s.receiver id').toPassband := by
  rw [enterBandstack_eq, toPassband_enterEntry _ h, receiver_setVfo, receiver_jumpedFor]

theorem config_enterBandstack : (s.enterBandstack id b).config = s.config := by
  rw [toTuningState_enterBandstack, TuningState.config_setVfo]
  split <;> rfl

theorem vfo_vfoIdBandstackChanged
    : (s.vfoIdBandstackChanged id b).vfo = (s.enterBandstack id b).settled := by
  simp [vfoIdBandstackChanged]

theorem vfo_enterBandstack_of_ne {id' : Fin 2} (h : id' ≠ id)
    : (s.enterBandstack id b).vfo id' = s.vfo id' := by
  rw [toTuningState_enterBandstack, TuningState.vfo_setVfo, Function.update_of_ne h]
  split <;> rfl

theorem vfo_vfoIdBandstackChanged_of_ne {id' : Fin 2} (h : id' ≠ id)
    : (s.vfoIdBandstackChanged id b).vfo id' = s.settled id' := by
  rw [vfo_vfoIdBandstackChanged, settled, s.vfo_enterBandstack_of_ne id b h]
  apply settle_congr
  . apply config_enterBandstack
  . apply toPassband_enterBandstack
    left
    exact h

end

section

variable (id : Fin 2) (b : Int)

theorem vfo_enterBandstack
    : ∃ bands, SameLimits s.bands bands
        ∧ (s.enterBandstack id b).vfo id
          =
        let w := { s.vfo id with bandstack := b }.enter s.config bands (s.entryAt id b)
        if s.Running id ∧ (s.vfo id).mode ≠ (s.entryAt id b).mode then
          w.loadProfile (s.profile (s.entryAt id b).mode)
        else
          w := by
  by_cases hid : id = 0
  . apply Exists.intro
    apply And.intro
    . apply SameLimits.setBandstack s.bands (s.vfo id).band
        { s.stackBefore id (s.vfo id).band with currentEntry := b }
    . rw [toTuningState_enterBandstack, TuningState.vfo_setVfo, Function.update_self]
      simp only [if_pos hid]
      rfl
  . exists s.bands
    apply And.intro (SameLimits.refl s.bands)
    rw [toTuningState_enterBandstack, TuningState.vfo_setVfo, Function.update_self]
    simp only [if_neg hid]
    rfl

theorem band_enterBandstack
    : ((s.enterBandstack id b).vfo id).band
        =
      adjustedBand s.config s.bands (s.vfo id).band
        ((s.vfo id).loadEntry (s.entryAt id b)).dial := by
  have ⟨bands, hlimits, hvfo⟩ := s.vfo_enterBandstack id b
  rw [hvfo, ← adjustedBand_congr hlimits]
  split
  . apply VfoState.band_adjustBand
  . apply VfoState.band_adjustBand

theorem mode_enterBandstack
    : ((s.enterBandstack id b).vfo id).mode = (s.entryAt id b).mode := by
  have ⟨bands, hlimits, hvfo⟩ := s.vfo_enterBandstack id b
  rw [hvfo]
  split
  . rw [VfoState.mode_loadProfile, VfoState.mode_enter]
  . rw [VfoState.mode_enter]

variable {id b}

theorem settled_enterBandstack (hmode : (s.entryAt id b).mode = (s.vfo id).mode)
    (hband : adjustedBand s.config s.bands (s.vfo id).band
        ((s.vfo id).loadEntry (s.entryAt id b)).dial = (s.vfo id).band)
    : (s.enterBandstack id b).settled id
        =
      s.settle id ({ s.vfo id with bandstack := b }.loadEntry (s.entryAt id b)) := by
  have ⟨bands, hlimits, hvfo⟩ := s.vfo_enterBandstack id b
  have henter : { s.vfo id with bandstack := b }.enter s.config bands (s.entryAt id b)
      = { s.vfo id with bandstack := b }.loadEntry (s.entryAt id b) := by
    apply if_pos
    rw [← adjustedBand_congr hlimits] at hband
    exact hband.symm
  simp only [hmode, ne_eq, not_true_eq_false, and_false, if_false, henter] at hvfo
  rw [settled, hvfo]
  apply settle_congr
  . apply config_enterBandstack
  . apply toPassband_enterBandstack
    right
    exact hmode.symm

/--
The entry `b` of its band stack is what VFO `id` has already.
-/
structure EntryLoaded (s : RadioState) (id : Fin 2) (b : Int) : Prop where
  bandstack : b = (s.vfo id).bandstack
  mode : (s.entryAt id b).mode = (s.vfo id).mode
  band :
    adjustedBand s.config s.bands (s.vfo id).band
      ((s.vfo id).loadEntry (s.entryAt id b)).dial = (s.vfo id).band
  settled :
    s.settle id ((s.vfo id).loadEntry (s.entryAt id b)) = s.settle id (s.vfo id)

theorem vfo_vfoIdBandstackChanged_self_iff
    : (s.vfoIdBandstackChanged id b).vfo id = s.settled id ↔ s.EntryLoaded id b := by
  rw [vfo_vfoIdBandstackChanged]
  constructor
  . intro h
    have hmode : (s.entryAt id b).mode = (s.vfo id).mode := by
      have hmode := congrArg VfoState.mode h
      rwa [settled, settled, mode_settle, mode_settle, mode_enterBandstack] at hmode
    have hband : adjustedBand s.config s.bands (s.vfo id).band
        ((s.vfo id).loadEntry (s.entryAt id b)).dial = (s.vfo id).band := by
      have hband := congrArg VfoState.band h
      rwa [settled, settled, band_settle, band_settle, band_enterBandstack] at hband
    rw [settled_enterBandstack s hmode hband] at h
    have hbandstack : b = (s.vfo id).bandstack := by
      have hbandstack := congrArg VfoState.bandstack h
      rwa [settled, bandstack_settle, bandstack_settle] at hbandstack
    apply EntryLoaded.mk hbandstack hmode hband
    subst hbandstack
    exact h
  . intro ⟨hbandstack, hmode, hband, hsettled⟩
    rw [settled_enterBandstack s hmode hband, settled, ← hsettled, hbandstack]

end

end RadioState
