import Pihpsdr.Transmit.Impl.Switch
import Pihpsdr.Transmit.Lemmas.Switch

/-!
The flags after each call of `radio_set_mox`, `radio_set_vox` and `radio_set_tune`. Whatever the calls
were, MOX, VOX and TUNE exclude each other.
-/

namespace Transmit

namespace RxTx

variable {s : RxTx} {state : CInt} {env : TxEnv}

structure HasFlags (s : RxTx) (mox vox tune : CInt) : Prop where
  mox : s.mox = mox
  vox : s.vox = vox
  tune : s.tune = tune

theorem radioSetTune_of_tuneChange_none (h : s.tuneChange env state = none)
    : s.radioSetTune env state = s := by
  apply radioSetTune_eq_self
  unfold tuneChange at h
  grind

theorem hasFlags_radioSetTune {st : CInt} (h : s.tuneChange env state = some st)
    : (s.radioSetTune env state).HasFlags 0 0 st := by
  have ⟨ht, hinh, hne, hst⟩ : s.hasTransmitter ∧ ¬ (state ≠ 0 ∧ env.txInhibit) ∧ s.tune ≠ st ∧
      st = (if state ≠ 0 ∧ ¬ env.transmitAllowed then 0 else state) := by
    unfold tuneChange at h
    grind
  by_cases hoff : state = 0 ∨ ¬ env.transmitAllowed
  . have hst : st = 0 := by grind
    rw [hst] at hne ⊢
    rw [radioSetTune_off ht hne hoff hinh]
    exact ⟨rxtx_mox.trans endTransmission_mox, rxtx_vox.trans endTransmission_vox, rfl⟩
  . have ⟨hstate, hallowed⟩ := not_or.mp hoff
    have hst : st = state := by grind
    rw [hst] at hne ⊢
    rw [radioSetTune_on ht hstate hne (not_not.mp hallowed) (by tauto)]
    constructor
    . rw [rxtx_mox]
      split <;> exact endTransmission_mox
    . rw [rxtx_vox]
      split <;> exact endTransmission_vox
    . rw [rxtx_tune]

theorem radioSetMox_of_moxChange_none (h : s.moxChange env state = none)
    : s.radioSetMox env state = s := by
  apply radioSetMox_eq_self
  unfold moxChange at h
  grind

theorem hasFlags_radioSetMox {st : CInt} (h : s.moxChange env state = some st)
    : (s.radioSetMox env state).HasFlags st 0 0 := by
  have ⟨ht, hinh, hst⟩ : s.hasTransmitter ∧ ¬ (moxState env state ≠ 0 ∧ env.txInhibit) ∧
      moxState env state = st := by
    unfold moxChange at h
    unfold moxState
    grind
  rw [radioSetMox_eq ht hinh, hst]
  exact ⟨rfl, rfl, rfl⟩

-- the checks of `radio_set_vox`
def VoxChanges (s : RxTx) (env : TxEnv) (state : CInt) : Prop :=
  s.hasTransmitter ∧ s.mox = 0 ∧ s.tune = 0 ∧ ¬ (state ≠ 0 ∧ env.txInhibit)

theorem radioSetVox_of_not_voxChanges (h : ¬ s.VoxChanges env state)
    : s.radioSetVox env state = s := by
  apply radioSetVox_eq_self
  unfold VoxChanges at h
  tauto

theorem hasFlags_radioSetVox (h : s.VoxChanges env state)
    : (s.radioSetVox env state).HasFlags 0 state 0 := by
  have ⟨ht, hmox, htune, hinh⟩ := h
  by_cases hvox : s.vox = state
  . rw [radioSetVox_eq_self (by tauto)]
    exact ⟨hmox, hvox, htune⟩
  . rw [radioSetVox_of_ne ht hmox htune hinh hvox]
    exact ⟨rxtx_mox.trans hmox, rfl, rxtx_tune.trans htune⟩

theorem radioSetTune_hasTransmitter
    : (s.radioSetTune env state).hasTransmitter = s.hasTransmitter := by
  unfold radioSetTune
  grind [rxOff, rxtx_hasTransmitter]

theorem radioSetMox_hasTransmitter
    : (s.radioSetMox env state).hasTransmitter = s.hasTransmitter := by
  unfold radioSetMox
  grind [rxtx_hasTransmitter, radioSetTune_hasTransmitter]

theorem radioSetVox_hasTransmitter
    : (s.radioSetVox env state).hasTransmitter = s.hasTransmitter := by
  unfold radioSetVox
  grind [rxtx_hasTransmitter]

theorem radioToggleTune_eq
    : s.radioToggleTune env = s.radioSetTune env (if s.tune = 0 then 1 else 0) := by
  unfold radioToggleTune
  split
  next => rfl
  next ht =>
    rw [radioSetTune_eq_self]
    exact Or.inl ht

theorem call_hasTransmitter (call : TxEnv × SwitchCall)
    : (s.call call).hasTransmitter = s.hasTransmitter := by
  match call with
  | (env, .setMox state) => exact radioSetMox_hasTransmitter
  | (env, .setVox state) => exact radioSetVox_hasTransmitter
  | (env, .setTune state) => exact radioSetTune_hasTransmitter
  | (env, .toggleTune) =>
    dsimp only [RxTx.call]
    rw [radioToggleTune_eq]
    exact radioSetTune_hasTransmitter

structure Exclusive (s : RxTx) : Prop where
  mox_vox : s.mox = 0 ∨ s.vox = 0
  mox_tune : s.mox = 0 ∨ s.tune = 0
  vox_tune : s.vox = 0 ∨ s.tune = 0

theorem HasFlags.exclusive {mox vox tune : CInt} (h : s.HasFlags mox vox tune)
    (hmv : mox = 0 ∨ vox = 0) (hmt : mox = 0 ∨ tune = 0) (hvt : vox = 0 ∨ tune = 0)
    : s.Exclusive := by
  have ⟨hmox, hvox, htune⟩ := h
  constructor
  . rwa [hmox, hvox]
  . rwa [hmox, htune]
  . rwa [hvox, htune]

theorem radioSetTune_exclusive (h : s.Exclusive) : (s.radioSetTune env state).Exclusive := by
  cases hchange : s.tuneChange env state with
  | none => rwa [radioSetTune_of_tuneChange_none hchange]
  | some st =>
    apply (hasFlags_radioSetTune hchange).exclusive
    . exact Or.inl rfl
    . exact Or.inl rfl
    . exact Or.inl rfl

theorem call_exclusive (h : s.Exclusive) (call : TxEnv × SwitchCall) : (s.call call).Exclusive := by
  match call with
  | (env, .setMox state) =>
    dsimp only [RxTx.call]
    cases hchange : s.moxChange env state with
    | none => rwa [radioSetMox_of_moxChange_none hchange]
    | some st =>
      apply (hasFlags_radioSetMox hchange).exclusive
      . exact Or.inr rfl
      . exact Or.inr rfl
      . exact Or.inl rfl
  | (env, .setVox state) =>
    dsimp only [RxTx.call]
    by_cases hchange : s.VoxChanges env state
    . apply (hasFlags_radioSetVox hchange).exclusive
      . exact Or.inl rfl
      . exact Or.inl rfl
      . exact Or.inr rfl
    . rwa [radioSetVox_of_not_voxChanges hchange]
  | (env, .setTune state) => exact radioSetTune_exclusive h
  | (env, .toggleTune) =>
    dsimp only [RxTx.call]
    rw [radioToggleTune_eq]
    exact radioSetTune_exclusive h

-- without `vox_cancel` only a VOX call has an effect
theorem call_of_not_cancelsVox {c : TxEnv × SwitchCall} (hc : s.cancelsVox c = false)
    (hvox : ∀ state, c.2 ≠ .setVox state)
    : s.call c = s := by
  match c with
  | (env, .setMox state) =>
    apply radioSetMox_of_moxChange_none
    simpa [cancelsVox] using hc
  | (env, .setVox state) => exact absurd rfl (hvox state)
  | (env, .setTune state) =>
    apply radioSetTune_of_tuneChange_none
    simpa [cancelsVox] using hc
  | (env, .toggleTune) =>
    dsimp only [RxTx.call]
    rw [radioToggleTune_eq]
    apply radioSetTune_of_tuneChange_none
    simpa [cancelsVox] using hc

theorem call_vox_of_cancelsVox {c : TxEnv × SwitchCall} (hc : s.cancelsVox c = true)
    : (s.call c).vox = 0 := by
  match c with
  | (env, .setMox state) =>
    have ⟨st, hst⟩ := Option.isSome_iff_exists.mp hc
    exact (hasFlags_radioSetMox hst).vox
  | (env, .setVox state) => contradiction
  | (env, .setTune state) =>
    have ⟨st, hst⟩ := Option.isSome_iff_exists.mp hc
    exact (hasFlags_radioSetTune hst).vox
  | (env, .toggleTune) =>
    have ⟨st, hst⟩ := Option.isSome_iff_exists.mp hc
    dsimp only [RxTx.call]
    rw [radioToggleTune_eq]
    exact (hasFlags_radioSetTune hst).vox

theorem radioSetVox_tune : (s.radioSetVox env state).tune = s.tune := by
  by_cases h : s.VoxChanges env state
  . rw [(hasFlags_radioSetVox h).tune, h.2.2.1]
  . rw [radioSetVox_of_not_voxChanges h]

theorem call_tune_of_not_cancelsVox {c : TxEnv × SwitchCall} (hc : s.cancelsVox c = false)
    : (s.call c).tune = s.tune := by
  by_cases hvox : ∀ state, c.2 ≠ .setVox state
  . rw [call_of_not_cancelsVox hc hvox]
  . simp only [not_forall, not_not] at hvox
    have ⟨state, hstate⟩ := hvox
    have ⟨env, c'⟩ := c
    dsimp only at hstate
    rw [hstate]
    exact radioSetVox_tune

-- without a transmitter nothing happens
theorem call_of_no_transmitter (ht : ¬ s.hasTransmitter) (c : TxEnv × SwitchCall) : s.call c = s := by
  match c with
  | (env, .setMox state) => exact radioSetMox_eq_self (Or.inl ht)
  | (env, .setVox state) => exact radioSetVox_eq_self (Or.inl ht)
  | (env, .setTune state) => exact radioSetTune_eq_self (Or.inl ht)
  | (env, .toggleTune) =>
    dsimp only [RxTx.call]
    rw [radioToggleTune_eq]
    exact radioSetTune_eq_self (Or.inl ht)

end RxTx

end Transmit
