import Pihpsdr.Vfo.Lemmas.Hearing

/-!
What a receiver hears after the large changes: band and band stack, the copies between the VFOs and the
recall of a memory slot.
-/

open ClientServer

namespace RadioState

variable (s : RadioState) (id : Fin 2)

-- the window that the end of a large change chooses is right for the filter that it selects
def SettlesIn (s : RadioState) (id : Fin 2) : Prop :=
  s.FitsIn id (s.vfo id) (s.receiver id).toPassband ((s.vfo id).passband s.config)

theorem agreesAt_vfoVfosChanged_iff (hreceivers : s.config.receivers ≤ 2)
    : s.vfoVfosChanged.AgreesAt id ↔ s.SettlesIn id := by
  apply agreesAt_refresh_iff
  . exact s.onlyVfo_vfoVfosChanged.running_iff id
  . exact hearing_vfoVfosChanged hreceivers

theorem settlesIn_iff : s.SettlesIn id
    ↔ (s.Running id → (s.hearing id).Ready ((s.vfo id).passband s.config)) := Iff.rfl

theorem settlesIn_congr {s s₁ : RadioState} {id : Fin 2} (hconfig : s₁.config = s.config)
    (hvfo : s₁.vfo id = s.vfo id) (hhearing : s₁.hearing id = s.hearing id)
    : s₁.SettlesIn id ↔ s.SettlesIn id := by
  rw [settlesIn_iff, settlesIn_iff, hhearing, hvfo, hconfig]
  unfold TuningState.Running
  rw [hconfig]

-- the VFO `w` comes to the receiver, with the settings that are stored with its mode if `changed`
def LoadsIn (s : RadioState) (id : Fin 2) (w : VfoState) (profile : Int → RxtxProfile)
    (changed : Prop) [Decidable changed] : Prop :=
  if changed then
    let w := w.loadProfile (profile w.mode)
    s.FitsIn id w (w.passband s.config) (w.passband s.config)
  else
    s.FitsIn id w (s.receiver id).toPassband (w.passband s.config)

theorem hearing_loadProfileIf (changed : Bool)
    : (s.loadProfileIf id changed).hearing
        =
      if changed then
        Function.update s.hearing id
          ((s.hearing id).refilter
            (((s.vfo id).loadProfile (s.profile (s.vfo id).mode)).passband s.config))
      else
        s.hearing := by
  unfold loadProfileIf
  split
  . apply hearing_profilesLoadRxtxProfile
  . rfl

theorem config_loadProfileIf (changed : Bool)
    : (s.loadProfileIf id changed).config = s.config :=
  (s.onlyVfo_of_setVfo id (s.loadProfileIf_eq id changed)).config

section

variable {s id} {s₁ : RadioState} {w : VfoState} {profile : Int → RxtxProfile}
  (hconfig : s₁.config = s.config) (hhearing : s₁.hearing id = s.heard id w)
  (hprofile : s₁.profile = profile)
  (hvfo : ∃ band bandstack lo,
    s₁.vfo id = { w with band := band, bandstack := bandstack, lo := lo })
include hconfig hhearing hprofile hvfo

theorem settlesIn_loadProfileIf_iff (changed : Prop) [Decidable changed]
    : (s₁.loadProfileIf id changed).SettlesIn id ↔ s.LoadsIn id w profile changed := by
  obtain ⟨band, bandstack, lo, hvfo⟩ := hvfo
  have hrunning : (s₁.loadProfileIf id changed).Running id ↔ s.Running id := by
    unfold TuningState.Running
    rw [config_loadProfileIf, hconfig]
  have hload := s₁.loadProfileIf_eq id changed
  rw [settlesIn_iff, hrunning, hearing_loadProfileIf, config_loadProfileIf, hload,
    TuningState.vfo_setVfo, Function.update_self, hvfo, hprofile, hconfig]
  unfold LoadsIn
  by_cases hchanged : changed
  . simp only [hchanged, decide_true, if_true]
    rw [Function.update_self, hhearing]
    exact Iff.rfl
  . simp only [hchanged, decide_false, Bool.false_eq_true, if_false]
    rw [hhearing]
    exact Iff.rfl

end

theorem loadsIn_congr {s : RadioState} {id : Fin 2} {w : VfoState} {profile : Int → RxtxProfile}
    {c c' : Prop} [Decidable c] [Decidable c'] (h : s.Running id → (c ↔ c'))
    : s.LoadsIn id w profile c ↔ s.LoadsIn id w profile c' := by
  unfold LoadsIn FitsIn
  by_cases hid : s.Running id
  . simp only [h hid]
  . simp [hid]

-- an entry of a band stack
def EntersIn (s : RadioState) (id : Fin 2) (entry : BandstackEntry) : Prop :=
  s.LoadsIn id ((s.vfo id).loadEntry entry) s.profile ((s.vfo id).mode ≠ entry.mode)

-- an entry before the settings of its mode are loaded
def enteredEntry (s : RadioState) (id : Fin 2) (entry : BandstackEntry) : RadioState :=
  let s := s.setVfo id ((s.vfo id).loadEntry entry)
  (s.vfoIdAdjustBand id (s.vfo id).dial).setCtcss entry.ctcssEnabled entry.ctcss

theorem hearing_setCtcss (enabled ctcss : Int) : (s.setCtcss enabled ctcss).hearing = s.hearing :=
  rfl

section

variable (entry : BandstackEntry)

theorem toTuningState_enteredEntry
    : (s.enteredEntry id entry).toTuningState
        =
      s.toTuningState.setVfo id ((s.vfo id).enter s.config s.bands entry) := by
  simp [enteredEntry, VfoState.enter]

theorem hearing_enteredEntry
    : (s.enteredEntry id entry).hearing
        =
      Function.update s.hearing id (s.heard id ((s.vfo id).loadEntry entry)) := by
  dsimp only [enteredEntry]
  rw [hearing_setCtcss, hearing_vfoIdAdjustBand, hearing_setVfo]

theorem profile_enteredEntry : (s.enteredEntry id entry).profile = s.profile := by
  simp [enteredEntry]

theorem enterEntry_eq (oldmode : Int)
    : s.enterEntry id oldmode entry
        =
      (s.enteredEntry id entry).loadProfileIf id
        ((s.enteredEntry id entry).Running id ∧ oldmode ≠ ((s.enteredEntry id entry).vfo id).mode) :=
  rfl

theorem settlesIn_enterEntry_iff {s s₀ : RadioState} {id : Fin 2} (hconfig : s₀.config = s.config)
    (hreceiver : s₀.receiver = s.receiver) (hprofile : s₀.profile = s.profile)
    (hvfo : ∃ band bandstack lo,
      s₀.vfo id = { s.vfo id with band := band, bandstack := bandstack, lo := lo })
    : (s₀.enterEntry id (s.vfo id).mode entry).SettlesIn id ↔ s.EntersIn id entry := by
  obtain ⟨band, bandstack, lo, hvfo⟩ := hvfo
  have hentered := s₀.toTuningState_enteredEntry id entry
  have hvfo' : (s₀.enteredEntry id entry).vfo id = (s₀.vfo id).enter s₀.config s₀.bands entry := by
    rw [hentered, TuningState.vfo_setVfo, Function.update_self]
  have hconfig' : (s₀.enteredEntry id entry).config = s.config := by
    rw [hentered]
    exact hconfig
  have hhearing : (s₀.enteredEntry id entry).hearing id = s.heard id ((s.vfo id).loadEntry entry) := by
    rw [hearing_enteredEntry, Function.update_self, hvfo]
    unfold heard
    rw [hconfig, hreceiver]
    rfl
  have hprofile' : (s₀.enteredEntry id entry).profile = s.profile := by
    rw [profile_enteredEntry, hprofile]
  have hloaded : ∃ band bandstack lo, (s₀.enteredEntry id entry).vfo id
      = { (s.vfo id).loadEntry entry with band := band, bandstack := bandstack, lo := lo } := by
    rw [hvfo', VfoState.enter, VfoState.adjustBand_eq, hvfo]
    exact ⟨_, _, _, rfl⟩
  rw [enterEntry_eq, settlesIn_loadProfileIf_iff hconfig' hhearing hprofile' hloaded]
  apply loadsIn_congr
  intro h
  have hrunning : (s₀.enteredEntry id entry).Running id := by
    unfold TuningState.Running
    rwa [hconfig']
  rw [hvfo', VfoState.mode_enter]
  exact and_iff_right hrunning

-- the other VFO
theorem settlesIn_enterEntry_of_ne {s s₀ : RadioState} {id v : Fin 2} (hv : v ≠ id)
    (hconfig : s₀.config = s.config) (hvfo : s₀.vfo v = s.vfo v) (hhearing : s₀.hearing v = s.hearing v)
    (oldmode : Int)
    : (s₀.enterEntry id oldmode entry).SettlesIn v ↔ s.SettlesIn v := by
  have hentered := s₀.toTuningState_enteredEntry id entry
  have hload := (s₀.enteredEntry id entry).loadProfileIf_eq id
  rw [enterEntry_eq]
  apply settlesIn_congr
  . rw [config_loadProfileIf, hentered]
    exact hconfig
  . rw [hload, TuningState.vfo_setVfo, Function.update_of_ne hv, hentered, TuningState.vfo_setVfo,
      Function.update_of_ne hv, hvfo]
  . rw [hearing_loadProfileIf]
    split
    . rw [Function.update_of_ne hv, hearing_enteredEntry, Function.update_of_ne hv, hhearing]
    . rw [hearing_enteredEntry, Function.update_of_ne hv, hhearing]

end

-- the bookkeeping of the band stacks before an entry is used
theorem profile_savedFor : (s.savedFor id).profile = s.profile := by
  unfold savedFor
  split <;> rfl

theorem receiver_savedFor : (s.savedFor id).receiver = s.receiver := by
  unfold savedFor
  split <;> rfl

theorem config_savedFor : (s.savedFor id).config = s.config := by
  unfold savedFor
  split <;> rfl

section

variable (b : Int)

theorem profile_jumpedFor : (s.jumpedFor id b).profile = s.profile := by
  dsimp only [jumpedFor]
  split
  . exact s.profile_savedFor id
  . rfl

theorem config_jumpedFor : (s.jumpedFor id b).config = s.config := by
  dsimp only [jumpedFor]
  split
  . exact s.config_savedFor id
  . rfl

theorem vfo_jumpedFor : (s.jumpedFor id b).vfo = s.vfo := by
  dsimp only [jumpedFor, savedFor]
  split_ifs <;> rfl

theorem agreesAt_vfoIdBandstackChanged_iff (hreceivers : s.config.receivers ≤ 2)
    : (∀ v, (s.vfoIdBandstackChanged id b).AgreesAt v)
        ↔
      s.EntersIn id (s.entryAt id b) ∧ s.SettlesIn (1 - id) := by
  have hconfig : ((s.jumpedFor id b).setVfo id { s.vfo id with bandstack := b }).config = s.config :=
    s.config_jumpedFor id b
  have hreceivers' : (s.enterBandstack id b).config.receivers ≤ 2 := by
    rwa [config_enterBandstack]
  rw [forall_fin_two_iff id, vfoIdBandstackChanged, agreesAt_vfoVfosChanged_iff _ _ hreceivers',
    agreesAt_vfoVfosChanged_iff _ _ hreceivers', enterBandstack_eq]
  apply and_congr
  . apply settlesIn_enterEntry_iff _ hconfig
    . exact s.receiver_jumpedFor id b
    . exact s.profile_jumpedFor id b
    . rw [toTuningState_setVfo, TuningState.vfo_setVfo, Function.update_self]
      exact ⟨_, _, _, rfl⟩
  . have hid := other_ne id
    have hvfo : ((s.jumpedFor id b).setVfo id { s.vfo id with bandstack := b }).vfo (1 - id)
        = s.vfo (1 - id) := by
      rw [toTuningState_setVfo, TuningState.vfo_setVfo, Function.update_of_ne hid, vfo_jumpedFor]
    apply settlesIn_enterEntry_of_ne _ hid hconfig hvfo
    unfold hearing heard
    rw [hvfo, hconfig, receiver_setVfo, receiver_jumpedFor]

end

section

variable (b : BandIndex)

theorem profile_steppedFor : (s.steppedFor id b).profile = s.profile := by
  dsimp only [steppedFor]
  split
  . exact s.profile_savedFor id
  . exact s.profile_savedFor id

theorem receiver_steppedFor : (s.steppedFor id b).receiver = s.receiver := by
  dsimp only [steppedFor]
  split
  . exact s.receiver_savedFor id
  . exact s.receiver_savedFor id

theorem config_steppedFor : (s.steppedFor id b).config = s.config := by
  dsimp only [steppedFor]
  split
  . exact s.config_savedFor id
  . exact s.config_savedFor id

theorem hearing_applyIfMoved : (s.applyIfMoved id b).hearing = s.hearing := by
  unfold applyIfMoved
  split
  . apply hearing_radioApplyBandSettings
  . rfl

theorem config_enterBand : (s.enterBand id b).config = s.config := by
  rw [enterBand_eq, toTuningState_applyIfMoved, toTuningState_enterEntry]
  exact s.config_steppedFor id b

theorem settlesIn_enterBand_iff (v : Fin 2)
    : (s.enterBand id b).SettlesIn v
        ↔
      (((s.steppedFor id b).setVfo id (s.bandVfo id b)).enterEntry id (s.vfo id).mode
        (s.bandEntry id b)).SettlesIn v := by
  rw [enterBand_eq]
  apply settlesIn_congr
  . rw [toTuningState_applyIfMoved]
  . rw [toTuningState_applyIfMoved]
  . rw [hearing_applyIfMoved]

-- the change of the band, unless it is refused
def BandIn (s : RadioState) (id : Fin 2) (b : BandIndex) : Prop :=
  (b ≠ (s.vfo id).band ∧ OutOfRange s.config (s.bands b))
    ∨ s.EntersIn id (s.bandEntry id b) ∧ s.SettlesIn (1 - id)

theorem agreesAt_vfoIdBandChanged_iff (hs : ∀ id, s.AgreesAt id)
    (hreceivers : s.config.receivers ≤ 2)
    : (∀ v, (s.vfoIdBandChanged id b).AgreesAt v) ↔ s.BandIn id b := by
  unfold vfoIdBandChanged BandIn
  split
  next hrefused => exact iff_of_true hs (.inl hrefused)
  next hrefused =>
    have hconfig : ((s.steppedFor id b).setVfo id (s.bandVfo id b)).config = s.config :=
      s.config_steppedFor id b
    have hreceivers' : (s.enterBand id b).config.receivers ≤ 2 := by
      rwa [config_enterBand]
    rw [or_iff_right hrefused, forall_fin_two_iff id, agreesAt_vfoVfosChanged_iff _ _ hreceivers',
      agreesAt_vfoVfosChanged_iff _ _ hreceivers', settlesIn_enterBand_iff, settlesIn_enterBand_iff]
    apply and_congr
    . apply settlesIn_enterEntry_iff _ hconfig
      . exact s.receiver_steppedFor id b
      . exact s.profile_steppedFor id b
      . rw [toTuningState_setVfo, TuningState.vfo_setVfo, Function.update_self]
        exact ⟨_, _, _, rfl⟩
    . have hid := other_ne id
      have hvfo : ((s.steppedFor id b).setVfo id (s.bandVfo id b)).vfo (1 - id) = s.vfo (1 - id) := by
        rw [toTuningState_setVfo, TuningState.vfo_setVfo, Function.update_of_ne hid, vfo_steppedFor]
      apply settlesIn_enterEntry_of_ne _ hid hconfig hvfo
      unfold hearing heard
      rw [hvfo, hconfig, receiver_setVfo, receiver_steppedFor]

end

section

variable {s id}

-- the copy of one VFO to the other, up to its end
theorem settlesIn_copied_iff (w : VfoState) (changed : Prop) [Decidable changed]
    : ((s.setVfo id w).loadProfileIf id changed).SettlesIn id ↔ s.LoadsIn id w s.profile changed := by
  apply settlesIn_loadProfileIf_iff
  . rfl
  . rw [hearing_setVfo, Function.update_self]
  . rfl
  . rw [toTuningState_setVfo, TuningState.vfo_setVfo, Function.update_self]
    exact ⟨_, _, _, rfl⟩

theorem settlesIn_loadProfileIf_of_ne {v : Fin 2} (hv : v ≠ id) (changed : Bool)
    : (s.loadProfileIf id changed).SettlesIn v ↔ s.SettlesIn v := by
  apply settlesIn_congr
  . apply config_loadProfileIf
  . rw [loadProfileIf_eq, TuningState.vfo_setVfo, Function.update_of_ne hv]
  . rw [hearing_loadProfileIf]
    split
    . rw [Function.update_of_ne hv]
    . rfl

theorem settlesIn_setVfo_of_ne {v : Fin 2} (hv : v ≠ id) (w : VfoState)
    : (s.setVfo id w).SettlesIn v ↔ s.SettlesIn v := by
  apply settlesIn_congr
  . rfl
  . rw [toTuningState_setVfo, TuningState.vfo_setVfo, Function.update_of_ne hv]
  . rw [hearing_setVfo, Function.update_of_ne hv]

end

theorem agreesAt_vfoAToB_iff (hreceivers : s.config.receivers ≤ 2)
    : (∀ v, s.vfoAToB.AgreesAt v)
        ↔
      s.SettlesIn 0 ∧ s.LoadsIn 1 (s.vfo 0) s.profile ((s.vfo 0).mode ≠ (s.vfo 1).mode) := by
  have hreceivers' (changed : Bool)
      : ((s.setVfo 1 (s.vfo 0)).loadProfileIf 1 changed).config.receivers ≤ 2 := by
    rw [config_loadProfileIf]
    exact hreceivers
  have hne : (0 : Fin 2) ≠ 1 := by decide
  dsimp only [vfoAToB]
  rw [forall_fin_two_iff 0, agreesAt_vfoVfosChanged_iff _ _ (hreceivers' _),
    agreesAt_vfoVfosChanged_iff _ _ (hreceivers' _), settlesIn_loadProfileIf_of_ne hne,
    settlesIn_setVfo_of_ne hne]
  apply and_congr_right'
  have hone : (1 : Fin 2) - 0 = 1 := rfl
  rw [hone, settlesIn_copied_iff, toTuningState_setVfo, TuningState.vfo_setVfo, Function.update_self]
  apply loadsIn_congr
  intro h
  have htwo : s.config.receivers = 2 := by
    have hlt : 1 < s.config.receivers := h
    omega
  exact and_iff_left htwo

theorem agreesAt_vfoBToA_iff (hreceivers : s.config.receivers ≤ 2)
    : (∀ v, s.vfoBToA.AgreesAt v)
        ↔
      s.LoadsIn 0 (s.vfo 1) s.profile ((s.vfo 1).mode ≠ (s.vfo 0).mode) ∧ s.SettlesIn 1 := by
  have hreceivers' (changed : Bool)
      : ((s.setVfo 0 (s.vfo 1)).loadProfileIf 0 changed).config.receivers ≤ 2 := by
    rw [config_loadProfileIf]
    exact hreceivers
  have hne : (1 : Fin 2) - 0 ≠ 0 := by decide
  dsimp only [vfoBToA]
  rw [forall_fin_two_iff 0, agreesAt_vfoVfosChanged_iff _ _ (hreceivers' _),
    agreesAt_vfoVfosChanged_iff _ _ (hreceivers' _), settlesIn_loadProfileIf_of_ne hne,
    settlesIn_setVfo_of_ne hne, settlesIn_copied_iff, toTuningState_setVfo, TuningState.vfo_setVfo,
    Function.update_self]
  exact Iff.rfl

def swapped (s : RadioState) : RadioState :=
  (s.setVfo 0 (s.vfo 1)).setVfo 1 (s.vfo 0)

theorem hearing_swapped (v : Fin 2) : s.swapped.hearing v = s.heard v (s.vfo (1 - v)) := by
  match v with
  | 0 =>
    rw [swapped, hearing_setVfo, Function.update_of_ne (by decide), hearing_setVfo,
      Function.update_self]
    rfl
  | 1 =>
    rw [swapped, hearing_setVfo, Function.update_self]
    rfl

theorem vfo_swapped (v : Fin 2) : s.swapped.vfo v = s.vfo (1 - v) := by
  match v with
  | 0 => rfl
  | 1 => rfl

-- the settings of the modes after the first VFO has got the other one
def swappedProfile (s : RadioState) : Int → RxtxProfile :=
  (s.swapped.loadProfileIf 0 ((s.vfo 1).mode ≠ (s.vfo 0).mode)).profile

theorem agreesAt_vfoASwapB_iff (hreceivers : s.config.receivers ≤ 2)
    : (∀ v, s.vfoASwapB.AgreesAt v)
        ↔
      s.LoadsIn 0 (s.vfo 1) s.profile ((s.vfo 1).mode ≠ (s.vfo 0).mode)
        ∧ s.LoadsIn 1 (s.vfo 0) s.swappedProfile ((s.vfo 1).mode ≠ (s.vfo 0).mode) := by
  have hconfig (changed : Bool) : (s.swapped.loadProfileIf 0 changed).config = s.config := by
    rw [config_loadProfileIf]
    rfl
  have hreceivers' (changed changed' : Bool)
      : ((s.swapped.loadProfileIf 0 changed).loadProfileIf 1 changed').config.receivers ≤ 2 := by
    rw [config_loadProfileIf, hconfig]
    exact hreceivers
  have hvfo (changed : Bool) : (s.swapped.loadProfileIf 0 changed).vfo 1 = s.vfo 0 := by
    rw [loadProfileIf_eq, TuningState.vfo_setVfo, Function.update_of_ne (by decide)]
    exact s.vfo_swapped 1
  have hearing (changed : Bool)
      : (s.swapped.loadProfileIf 0 changed).hearing 1 = s.heard 1 (s.vfo 0) := by
    have hsame : (s.swapped.loadProfileIf 0 changed).hearing 1 = s.swapped.hearing 1 := by
      rw [hearing_loadProfileIf]
      split
      . rw [Function.update_of_ne (by decide)]
      . rfl
    rw [hsame]
    exact s.hearing_swapped 1
  have hswap : s.vfoASwapB
      = ((s.swapped.loadProfileIf 0 ((s.vfo 1).mode ≠ (s.vfo 0).mode)).loadProfileIf 1
        ((s.vfo 1).mode ≠ (s.vfo 0).mode
          ∧ (s.swapped.loadProfileIf 0 ((s.vfo 1).mode ≠ (s.vfo 0).mode)).config.receivers
            = 2)).vfoVfosChanged := rfl
  rw [hswap, forall_fin_two_iff 0, agreesAt_vfoVfosChanged_iff _ _ (hreceivers' _ _),
    agreesAt_vfoVfosChanged_iff _ _ (hreceivers' _ _), settlesIn_loadProfileIf_of_ne (by decide)]
  apply and_congr
  . apply settlesIn_loadProfileIf_iff
    . rfl
    . exact s.hearing_swapped 0
    . rfl
    . rw [vfo_swapped]
      exact ⟨_, _, _, rfl⟩
  . have hone : (1 : Fin 2) - 0 = 1 := rfl
    rw [hone, settlesIn_loadProfileIf_iff (hconfig _) (hearing _) rfl]
    . apply loadsIn_congr
      intro h
      have htwo : s.config.receivers = 2 := by
        have hlt : 1 < s.config.receivers := h
        omega
      rw [hconfig]
      exact and_iff_left htwo
    . rw [hvfo]
      exact ⟨_, _, _, rfl⟩

-- the filter of a receiver before the VFO gets an entry of a memory slot
def recallFilter (s : RadioState) (id : Fin 2) (profile : Int → RxtxProfile)
    (entry : BandstackEntry) : Passband :=
  if (s.vfo id).mode ≠ entry.mode then
    ({ s.vfo id with mode := entry.mode }.loadProfile (profile entry.mode)).passband s.config
  else
    (s.receiver id).toPassband

def RecallsIn (s : RadioState) (id : Fin 2) (profile : Int → RxtxProfile)
    (entry : BandstackEntry) : Prop :=
  let w := (s.vfo id).loadEntry entry
  s.FitsIn id w (s.recallFilter id profile entry) (w.passband s.config)

section

variable (b : BandIndex) (entry : BandstackEntry)

theorem config_recallVfo (load : Bool) : (s.recallVfo id load b entry).config = s.config := by
  rw [toTuningState_recallVfo]
  rfl

theorem recallFilter_congr {s s₀ : RadioState} {id : Fin 2} (profile : Int → RxtxProfile)
    (entry : BandstackEntry) (hconfig : s₀.config = s.config)
    (hfilter : (s₀.receiver id).toPassband = (s.receiver id).toPassband)
    (hvfo : s₀.vfo id = s.vfo id)
    : s₀.recallFilter id profile entry = s.recallFilter id profile entry := by
  unfold recallFilter
  rw [hconfig, hfilter, hvfo]

-- the receiver still has the filter of its new mode
theorem toPassband_recallVfo
    : ((s.recallVfo id true b entry).receiver id).toPassband
        =
      s.recallFilter id s.profile entry := by
  have hset : (s.setVfo id { s.vfo id with mode := entry.mode }).hearing = s.hearing :=
    s.hearing_setVfo_same id rfl
  have hfilter := congrArg (fun hearing => (hearing id).filter)
    (hearing_loadProfileIf (s.setVfo id { s.vfo id with mode := entry.mode }) id
      ((s.vfo id).mode ≠ entry.mode ∧ true))
  refine Eq.trans hfilter ?_
  unfold recallFilter
  by_cases hmode : (s.vfo id).mode ≠ entry.mode
  . rw [if_pos hmode, if_pos (by simp [hmode]), Function.update_self, toTuningState_setVfo, TuningState.vfo_setVfo,
      Function.update_self]
    rfl
  . rw [if_neg hmode, if_neg (by simp [hmode]), hset]
    rfl

theorem hearing_recallVfo
    : (s.recallVfo id true b entry).hearing id
        =
      ((s.vfo id).loadEntry entry).hearing (s.recallFilter id s.profile entry)
        (s.config.sampleRate id) := by
  unfold hearing heard
  rw [toPassband_recallVfo, config_recallVfo, toTuningState_recallVfo, TuningState.vfo_setVfo,
    Function.update_self]
  unfold VfoState.recallMode
  split <;> rfl

theorem settlesIn_recallVfo_iff {s s₀ : RadioState} {id : Fin 2} {load : Bool}
    {profile : Int → RxtxProfile} (hload : s.Running id → load = true)
    (hconfig : s₀.config = s.config)
    (hfilter : (s₀.receiver id).toPassband = (s.receiver id).toPassband)
    (hvfo : s₀.vfo id = s.vfo id) (hprofile : s₀.profile = profile)
    : (s₀.recallVfo id load b entry).SettlesIn id ↔ s.RecallsIn id profile entry := by
  have hrunning : (s₀.recallVfo id load b entry).Running id ↔ s.Running id := by
    unfold TuningState.Running
    rw [config_recallVfo, hconfig]
  rw [settlesIn_iff, hrunning]
  unfold RecallsIn FitsIn
  apply forall_congr'
  intro h
  rw [hload h, hearing_recallVfo, config_recallVfo, toTuningState_recallVfo, TuningState.vfo_setVfo,
    Function.update_self, recallFilter_congr _ entry hconfig hfilter hvfo, hconfig, hvfo, hprofile]
  unfold VfoState.recallMode
  split <;> exact Iff.rfl

theorem settlesIn_recallVfo_of_ne {v : Fin 2} (hv : v ≠ id) (load : Bool)
    : (s.recallVfo id load b entry).SettlesIn v ↔ s.SettlesIn v := by
  apply settlesIn_congr
  . apply config_recallVfo
  . rw [toTuningState_recallVfo, TuningState.vfo_setVfo, Function.update_of_ne hv]
  . unfold hearing heard
    rw [config_recallVfo, receiver_recallVfo_of_ne _ _ _ _ _ hv, toTuningState_recallVfo,
      TuningState.vfo_setVfo, Function.update_of_ne hv]

end

-- the settings of the modes after the first VFO has been recalled
def recalledProfile (s : RadioState) (entry : BandstackEntry) : Int → RxtxProfile :=
  ((s.setVfo 0 { s.vfo 0 with mode := entry.mode }).loadProfileIf 0
    ((s.vfo 0).mode ≠ entry.mode)).profile

theorem profile_recallVfo (b : BandIndex) (entry : BandstackEntry)
    : (s.recallVfo 0 true b entry).profile = s.recalledProfile entry := by
  dsimp only [recallVfo, recalledProfile]
  rw [profile_setVfo]
  simp

-- a memory slot, which belongs to both VFOs in the satellite modes
def SlotIn (s : RadioState) (slot : Mem) : Prop :=
  if slot.satMode = satModeNone then
    let id := s.config.activeReceiver
    s.RecallsIn id s.profile (slotEntry slot 0) ∧ s.SettlesIn (1 - id)
  else
    s.RecallsIn 0 s.profile (slotEntry slot 0)
      ∧ s.RecallsIn 1 (s.recalledProfile (slotEntry slot 0)) (slotEntry slot 1)

section

variable (slot : Mem) (b : Fin 2 → BandIndex)

theorem settlesIn_recallBoth_zero_iff
    : (s.recallBoth slot b).SettlesIn 0 ↔ s.RecallsIn 0 s.profile (slotEntry slot 0) := by
  dsimp only [recallBoth]
  rw [settlesIn_recallVfo_of_ne _ _ _ _ (by decide)]
  apply settlesIn_recallVfo_iff
  . intro _
    rfl
  . rfl
  . rfl
  . rfl
  . rfl

theorem settlesIn_recallBoth_one_iff
    : (s.recallBoth slot b).SettlesIn 1
        ↔
      s.RecallsIn 1 (s.recalledProfile (slotEntry slot 0)) (slotEntry slot 1) := by
  have hne : (1 : Fin 2) ≠ 0 := by decide
  dsimp only [recallBoth]
  apply settlesIn_recallVfo_iff
  . intro h
    rw [config_recallVfo]
    exact decide_eq_true h
  . apply config_recallVfo
  . rw [receiver_recallVfo_of_ne _ _ _ _ _ hne]
  . rw [toTuningState_recallVfo, TuningState.vfo_setVfo, Function.update_of_ne hne]
  . apply profile_recallVfo

theorem settlesIn_recallAny_iff
    : (∀ v, (s.recallAny slot b).SettlesIn v) ↔ s.SlotIn slot := by
  unfold recallAny SlotIn
  by_cases hsat : slot.satMode = satModeNone
  . rw [if_pos hsat, if_pos hsat, forall_fin_two_iff s.config.activeReceiver,
      settlesIn_recallVfo_of_ne _ _ _ _ (other_ne s.config.activeReceiver)]
    apply and_congr_left'
    apply settlesIn_recallVfo_iff
    . intro _
      rfl
    . rfl
    . rfl
    . rfl
    . rfl
  . rw [if_neg hsat, if_neg hsat, ← settlesIn_recallBoth_zero_iff s slot b,
      ← settlesIn_recallBoth_one_iff s slot b, forall_fin_two_iff 0]
    have hsplit (v : Fin 2) : ((s.recallBoth slot b).radioSetSplit slot.split).SettlesIn v
        ↔ (s.recallBoth slot b).SettlesIn v := by
      apply settlesIn_congr
      . rw [toTuningState_radioSetSplit]
      . rw [toTuningState_radioSetSplit]
      . unfold hearing heard
        rw [toPassband_radioSetSplit, toTuningState_radioSetSplit]
    exact and_congr (hsplit 0) (hsplit 1)

theorem agreesAt_recallSlot_iff (hreceivers : s.config.receivers ≤ 2)
    : (∀ v, (s.recallSlot slot b).AgreesAt v) ↔ (s.setSatMode slot.satMode).SlotIn slot := by
  have hreceivers' : ((s.setSatMode slot.satMode).recallAny slot b).config.receivers ≤ 2 := by
    rw [config_recallAny]
    exact hreceivers
  rw [← settlesIn_recallAny_iff _ slot b]
  apply forall_congr'
  intro v
  rw [recallSlot, agreesAt_vfoVfosChanged_iff]
  . exact Iff.rfl
  . exact hreceivers'

end

end RadioState
