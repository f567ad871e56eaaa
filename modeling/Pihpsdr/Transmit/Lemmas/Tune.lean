import Pihpsdr.Transmit.Impl.Station
import Pihpsdr.Transmit.Impl.Tune

/-!
A radio that tunes beside one that does not. The two differ in the table of the stored settings, where TUNE
has muted the compressor and the CFC, until a profile is loaded from it.
-/

namespace Transmit

variable {ρ : Type}

abbrev ProfileTable (ρ : Type) :=
  Mode → RxtxEntry ρ

def RxtxEntry.withComp (entry : RxtxEntry ρ) (c : CompressorSettings) : RxtxEntry ρ :=
  { entry with tx := { entry.tx with comp := c } }

def RxtxEntry.withFilter (entry : RxtxEntry ρ) (f : FilterSettings) : RxtxEntry ρ :=
  { entry with tx := { entry.tx with filter := f } }

-- other settings of the compressor and the CFC for one group of modes, or the table as it is
def muted (g : Mode) (c : Option CompressorSettings) (p : ProfileTable ρ) : ProfileTable ρ :=
  fun m =>
    match c with
    | some c => if m.group = g then (p m).withComp c else p m
    | none => p m

variable {g : Mode} {c : Option CompressorSettings} {p : ProfileTable ρ} {m m' : Mode}

theorem muted_none : muted g none p = p := rfl

theorem muted_of_group_ne (h : m.group ≠ g) : muted g c p m = p m := by
  unfold muted
  cases c with
  | none => rfl
  | some c => exact if_neg h

theorem muted_withComp (d : CompressorSettings) : (muted g c p m).withComp d = (p m).withComp d := by
  unfold muted
  cases c with
  | none => rfl
  | some c => dsimp only; split <;> rfl

theorem muted_filter : (muted g c p m).tx.filter = (p m).tx.filter := by
  unfold muted
  cases c with
  | none => rfl
  | some c => dsimp only; split <;> rfl

theorem muted_eq_of_group (hm : m.group = m'.group) (h : p m = p m')
    : muted g c p m = muted g c p m' := by
  unfold muted
  rw [hm, h]

theorem profilesCopyRxtxprofile_update (p : ProfileTable ρ) (m : Mode) (e : RxtxEntry ρ)
    : profilesCopyRxtxprofile (Function.update p m e) m =
        fun m' => if m'.group = m.group then e else p m' := by
  funext m'
  unfold profilesCopyRxtxprofile
  rw [Function.update_self]
  split
  next => rfl
  next h =>
    rw [Function.update_of_ne]
    intro heq
    exact h (congrArg Mode.group heq)

theorem muted_copy
    : muted g c (profilesCopyRxtxprofile p m) = profilesCopyRxtxprofile (muted g c p) m := by
  funext m'
  unfold profilesCopyRxtxprofile muted
  cases c with
  | none => rfl
  | some c => dsimp only; grind

theorem muted_storeFilter (f : FilterSettings)
    : muted g c (profilesCopyRxtxprofile (Function.update p m ((p m).withFilter f)) m) =
        profilesCopyRxtxprofile
          (Function.update (muted g c p) m ((muted g c p m).withFilter f)) m := by
  rw [profilesCopyRxtxprofile_update, profilesCopyRxtxprofile_update]
  funext m'
  unfold muted
  cases c with
  | none => rfl
  | some c =>
    dsimp only
    by_cases hm : m'.group = m.group
    . rw [if_pos hm, if_pos hm, hm]
      split <;> rfl
    . rw [if_neg hm, if_neg hm]

namespace TuneRadio

-- the change loads the settings of the transmitter that are stored for its mode
def LoadsTx (s : TuneRadio ρ) : VfoChange → Prop
  | .mode id _ => s.Running id ∧ id = s.vfoGetTxVfo
  | .entry id m => s.Running id ∧ s.vfoMode id ≠ m ∧ id = s.vfoGetTxVfo
  | .aToB => s.vfoMode 0 ≠ s.vfoMode 1 ∧ s.receivers = 2 ∧ 1 = s.vfoGetTxVfo
  | .bToA => s.vfoMode 1 ≠ s.vfoMode 0 ∧ 0 = s.vfoGetTxVfo
  | .aSwapB => s.vfoMode 1 ≠ s.vfoMode 0 ∧ (0 = s.vfoGetTxVfo ∨ s.receivers = 2)
  | .split _ => False
  | .active _ => False

instance (s : TuneRadio ρ) (e : VfoChange) : Decidable (s.LoadsTx e) := by
  cases e <;> unfold LoadsTx <;> infer_instance

theorem setMode_self (s : TuneRadio ρ) (id : Fin 2) (m : Mode) : (s.setMode id m).vfoMode id = m := by
  change Function.update s.vfoMode id m id = m
  rw [Function.update_self]

-- nothing but the settings and their table changes
def KeepsVfos (s s' : TuneRadio ρ) : Prop :=
  s' = { s with state := s'.state }

namespace KeepsVfos

variable {s s' s'' : TuneRadio ρ}

theorem trans (h : KeepsVfos s s') (h' : KeepsVfos s' s'') : KeepsVfos s s'' := by
  unfold KeepsVfos at h h' ⊢
  rw [h] at h'
  exact h'

theorem vfoGetTxVfo (h : KeepsVfos s s') : s'.vfoGetTxVfo = s.vfoGetTxVfo := by
  rw [h]
  rfl

end KeepsVfos

variable {s : TuneRadio ρ} {pow10 : ℚ → ℚ}

theorem rxFilterChanged_keepsVfos (id : Fin 2) : KeepsVfos s (s.rxFilterChanged id) := by
  unfold TuneRadio.rxFilterChanged
  split <;> rfl

theorem profilesLoadRxProfile_keepsVfos (id : Fin 2) (m : Mode)
    : KeepsVfos s (s.profilesLoadRxProfile id m) := by
  unfold TuneRadio.profilesLoadRxProfile
  refine KeepsVfos.trans ?_ (rxFilterChanged_keepsVfos id)
  split <;> rfl

theorem profilesLoadRxtxProfile_keepsVfos (pow10 : ℚ → ℚ) (id : Fin 2)
    : KeepsVfos s (s.profilesLoadRxtxProfile pow10 id) := by
  unfold TuneRadio.profilesLoadRxtxProfile
  refine (profilesLoadRxProfile_keepsVfos id (s.vfoMode id)).trans ?_
  dsimp only
  split <;> rfl

theorem loadProfileIf_keepsVfos (pow10 : ℚ → ℚ) (id : Fin 2) (changed : Bool)
    : KeepsVfos s (s.loadProfileIf pow10 id changed) := by
  unfold TuneRadio.loadProfileIf
  split
  next => exact profilesLoadRxtxProfile_keepsVfos pow10 id
  next => rfl

theorem radioTxVfoChanged_keepsVfos : KeepsVfos s s.radioTxVfoChanged := rfl

theorem vfoVfosChanged_keepsVfos : KeepsVfos s s.vfoVfosChanged := by
  unfold TuneRadio.vfoVfosChanged
  have h₀ : KeepsVfos s (s.rxVfoChanged 0) := rxFilterChanged_keepsVfos 0
  have h := h₀.trans radioTxVfoChanged_keepsVfos
  dsimp only
  split
  next => exact h.trans (rxFilterChanged_keepsVfos 1)
  next => exact h

/--
`a` tunes and `b` does not, and both have the same VFOs and the same settings of the transmitter.
-/
structure Alike (g : Mode) (c : Option CompressorSettings) (a b : TuneRadio ρ) : Prop where
  profile : a.state.profile = muted g c b.state.profile
  tx : a.state.tx = b.state.tx
  vfoMode : a.vfoMode = b.vfoMode
  split : a.split = b.split
  activeReceiver : a.activeReceiver = b.activeReceiver
  receivers : a.receivers = b.receivers

namespace Alike

variable {a b : TuneRadio ρ} {pow10 : ℚ → ℚ}

theorem vfoGetTxVfo (h : Alike g c a b) : a.vfoGetTxVfo = b.vfoGetTxVfo := by
  unfold TuneRadio.vfoGetTxVfo
  rw [h.split, h.activeReceiver]

theorem vfoGetTxMode (h : Alike g c a b) : a.vfoGetTxMode = b.vfoGetTxMode := by
  unfold TuneRadio.vfoGetTxMode
  rw [h.vfoMode, h.vfoGetTxVfo]

theorem setMode (h : Alike g c a b) (id : Fin 2) (m : Mode)
    : Alike g c (a.setMode id m) (b.setMode id m) :=
  ⟨h.profile, h.tx, congrArg (fun f : Fin 2 → Mode => Function.update f id m) h.vfoMode, h.split, h.activeReceiver,
    h.receivers⟩

theorem txSetFilter (h : Alike g c a b) (m : Mode)
    : Alike g c { a with state := a.state.txSetFilter m } { b with state := b.state.txSetFilter m } := by
  refine ⟨?_, h.tx, h.vfoMode, h.split, h.activeReceiver, h.receivers⟩
  change profilesCopyRxtxprofile
    (Function.update a.state.profile m ((a.state.profile m).withFilter a.state.tx.filter)) m = _
  rw [h.profile, h.tx, ← muted_storeFilter]
  rfl

theorem radioTxVfoChanged (h : Alike g c a b)
    : Alike g c a.radioTxVfoChanged b.radioTxVfoChanged := by
  have hset := h.txSetFilter b.vfoGetTxMode
  unfold TuneRadio.radioTxVfoChanged TuneRadio.txSetMode
  rw [h.vfoGetTxMode]
  exact ⟨hset.profile, hset.tx, hset.vfoMode, hset.split, hset.activeReceiver, hset.receivers⟩

theorem rxFilterChanged (h : Alike g c a b) (id : Fin 2)
    : Alike g c (a.rxFilterChanged id) (b.rxFilterChanged id) := by
  have hiff : (a.state.tx.filter.useRxFilter ∧ id = a.activeReceiver ∨ a.vfoGetTxMode = .fmn) ↔
      (b.state.tx.filter.useRxFilter ∧ id = b.activeReceiver ∨ b.vfoGetTxMode = .fmn) := by
    rw [h.tx, h.activeReceiver, h.vfoGetTxMode]
  unfold TuneRadio.rxFilterChanged
  by_cases hb : b.state.tx.filter.useRxFilter ∧ id = b.activeReceiver ∨ b.vfoGetTxMode = .fmn
  . rw [if_pos (hiff.mpr hb), if_pos hb, h.vfoGetTxMode]
    exact h.txSetFilter b.vfoGetTxMode
  . rw [if_neg (mt hiff.mp hb), if_neg hb]
    exact h

theorem profilesLoadRxProfile (h : Alike g c a b) (id : Fin 2) (m : Mode)
    : Alike g c (a.profilesLoadRxProfile id m) (b.profilesLoadRxProfile id m) := by
  unfold TuneRadio.profilesLoadRxProfile
  apply rxFilterChanged
  split
  next =>
    refine ⟨?_, h.tx, h.vfoMode, h.split, h.activeReceiver, h.receivers⟩
    rw [muted_copy, h.profile]
  next => exact h

-- a load reads the table, which has to be the same
theorem profilesLoadTxProfile (h : Alike g none a b) (m : Mode)
    : Alike g none
        { a with state := a.state.profilesLoadTxProfile pow10 a.vfoGetTxMode m }
        { b with state := b.state.profilesLoadTxProfile pow10 b.vfoGetTxMode m } := by
  have hstate : a.state = ⟨b.state.tx, b.state.profile, a.state.dsp⟩ := by
    have hprofile := h.profile
    rw [muted_none] at hprofile
    rw [← h.tx, ← hprofile]
  rw [hstate, h.vfoGetTxMode]
  exact ⟨rfl, rfl, h.vfoMode, h.split, h.activeReceiver, h.receivers⟩

theorem profilesLoadRxtxProfile (h : Alike g c a b) (id : Fin 2)
    (hload : c = none ∨ id ≠ b.vfoGetTxVfo)
    : Alike g c (a.profilesLoadRxtxProfile pow10 id) (b.profilesLoadRxtxProfile pow10 id) := by
  have hrx := h.profilesLoadRxProfile id (b.vfoMode id)
  have hvfo := (profilesLoadRxProfile_keepsVfos (s := b) id (b.vfoMode id)).vfoGetTxVfo
  unfold TuneRadio.profilesLoadRxtxProfile
  rw [h.vfoMode]
  dsimp only
  by_cases hid : id = b.vfoGetTxVfo
  . have hnone : c = none := by
      cases hload with
      | inl hnone => exact hnone
      | inr hne => contradiction
    rw [hnone] at hrx ⊢
    rw [if_pos (by rw [hrx.vfoGetTxVfo, hvfo]; exact hid), if_pos (by rw [hvfo]; exact hid)]
    exact hrx.profilesLoadTxProfile (b.vfoMode id)
  . rw [if_neg (by rw [hrx.vfoGetTxVfo, hvfo]; exact hid), if_neg (by rw [hvfo]; exact hid)]
    exact hrx

theorem loadProfileIf (h : Alike g c a b) (id : Fin 2) (changed : Bool)
    (hload : c = none ∨ ¬ (changed ∧ id = b.vfoGetTxVfo))
    : Alike g c (a.loadProfileIf pow10 id changed) (b.loadProfileIf pow10 id changed) := by
  unfold TuneRadio.loadProfileIf
  split
  next hchanged =>
    apply h.profilesLoadRxtxProfile id
    apply hload.imp_right
    intro hnot hid
    exact hnot ⟨hchanged, hid⟩
  next => exact h

theorem vfoVfosChanged (h : Alike g c a b) : Alike g c a.vfoVfosChanged b.vfoVfosChanged := by
  have hchanged := (h.rxFilterChanged 0).radioTxVfoChanged
  unfold TuneRadio.vfoVfosChanged TuneRadio.rxVfoChanged
  dsimp only
  rw [hchanged.receivers]
  split
  next => exact hchanged.rxFilterChanged 1
  next => exact hchanged

theorem running_iff (h : Alike g c a b) (id : Fin 2) : a.Running id ↔ b.Running id := by
  unfold TuneRadio.Running
  rw [h.receivers]

theorem vfoIdModeChanged (h : Alike g c a b) (id : Fin 2) (m : Mode)
    (hload : c = none ∨ ¬ (b.Running id ∧ id = b.vfoGetTxVfo))
    : Alike g c (a.vfoIdModeChanged pow10 id m) (b.vfoIdModeChanged pow10 id m) := by
  have hset := h.setMode id m
  unfold TuneRadio.vfoIdModeChanged
  apply radioTxVfoChanged
  by_cases hrun : (b.setMode id m).Running id
  . have hload' : c = none ∨ id ≠ (b.setMode id m).vfoGetTxVfo := by
      apply hload.imp_right
      intro hnot hid
      exact hnot ⟨hrun, hid⟩
    rw [if_pos ((hset.running_iff id).mpr hrun), if_pos hrun]
    exact ((hset.profilesLoadRxtxProfile id hload').rxFilterChanged id).rxFilterChanged id
  . rw [if_neg (mt (hset.running_iff id).mp hrun), if_neg hrun]
    exact hset

theorem change (h : Alike g c a b) (e : VfoChange) (hload : c = none ∨ ¬ b.LoadsTx e)
    : Alike g c (a.change pow10 e) (b.change pow10 e) := by
  cases e with
  | mode id m => exact h.vfoIdModeChanged id m hload
  | entry id m =>
    have hchanged : decide (a.Running id ∧ a.vfoMode id ≠ m) =
        decide (b.Running id ∧ b.vfoMode id ≠ m) := by
      rw [h.vfoMode]
      exact decide_eq_decide.mpr (and_congr_left' (h.running_iff id))
    apply vfoVfosChanged
    have hdecide : decide ((a.setMode id m).Running id ∧ a.vfoMode id ≠ m) =
        decide ((b.setMode id m).Running id ∧ b.vfoMode id ≠ m) := hchanged
    rw [hdecide]
    apply (h.setMode id m).loadProfileIf
    apply hload.imp_right
    intro hnot ⟨hchanged, hid⟩
    have ⟨hrun, hne⟩ := of_decide_eq_true hchanged
    exact hnot ⟨hrun, hne, hid⟩
  | aToB =>
    have hset := h.setMode 1 (b.vfoMode 0)
    dsimp only [TuneRadio.change]
    unfold TuneRadio.vfoAToB
    apply vfoVfosChanged
    rw [h.vfoMode, hset.vfoMode, hset.receivers, setMode_self]
    apply hset.loadProfileIf
    apply hload.imp_right
    intro hnot ⟨hchanged, hid⟩
    have ⟨hne, hreceivers⟩ := of_decide_eq_true hchanged
    exact hnot ⟨hne, hreceivers, hid⟩
  | bToA =>
    have hset := h.setMode 0 (b.vfoMode 1)
    dsimp only [TuneRadio.change]
    unfold TuneRadio.vfoBToA
    apply vfoVfosChanged
    rw [h.vfoMode, hset.vfoMode, setMode_self]
    apply hset.loadProfileIf
    apply hload.imp_right
    intro hnot ⟨hchanged, hid⟩
    exact hnot ⟨of_decide_eq_true hchanged, hid⟩
  | aSwapB =>
    have hset := (h.setMode 0 (b.vfoMode 1)).setMode 1 (b.vfoMode 0)
    dsimp only [TuneRadio.change]
    unfold TuneRadio.vfoASwapB
    apply vfoVfosChanged
    rw [h.vfoMode]
    have hfirst : Alike g c
        (TuneRadio.loadProfileIf pow10 ((a.setMode 0 (b.vfoMode 1)).setMode 1 (b.vfoMode 0)) 0
          (b.vfoMode 1 ≠ b.vfoMode 0))
        (TuneRadio.loadProfileIf pow10 ((b.setMode 0 (b.vfoMode 1)).setMode 1 (b.vfoMode 0)) 0
          (b.vfoMode 1 ≠ b.vfoMode 0)) := by
      apply hset.loadProfileIf
      apply hload.imp_right
      intro hnot ⟨hchanged, hid⟩
      exact hnot ⟨of_decide_eq_true hchanged, Or.inl hid⟩
    have hkeeps := loadProfileIf_keepsVfos pow10 0 (b.vfoMode 1 ≠ b.vfoMode 0)
      (s := (b.setMode 0 (b.vfoMode 1)).setMode 1 (b.vfoMode 0))
    rw [hfirst.receivers]
    apply hfirst.loadProfileIf
    apply hload.imp_right
    intro hnot ⟨hchanged, _⟩
    have ⟨hne, hreceivers⟩ := of_decide_eq_true hchanged
    rw [hkeeps] at hreceivers
    exact hnot ⟨hne, Or.inr hreceivers⟩
  | split val =>
    have hsplit : Alike g c { a with split := val } { b with split := val } :=
      ⟨h.profile, h.tx, h.vfoMode, rfl, h.activeReceiver, h.receivers⟩
    exact hsplit.radioTxVfoChanged
  | active id =>
    have hactive : Alike g c { a with activeReceiver := id } { b with activeReceiver := id } :=
      ⟨h.profile, h.tx, h.vfoMode, h.split, rfl, h.receivers⟩
    exact hactive.radioTxVfoChanged

end Alike

/--
The table holds the same settings for all modes that share their entry with the mode of the transmitter,
and these are the filter settings of the transmitter.
-/
structure TableSettled (s : TuneRadio ρ) : Prop where
  group : ∀ m, m.group = s.vfoGetTxMode.group → s.state.profile m = s.state.profile s.vfoGetTxMode
  filter : (s.state.profile s.vfoGetTxMode).tx.filter = s.state.tx.filter

def ModeSet (s : TuneRadio ρ) : Prop :=
  s.state.dsp.mode = s.vfoGetTxMode

-- the settings of the compressor and the CFC are those stored for the mode of the transmitter
def CompStored (s : TuneRadio ρ) : Prop :=
  (s.state.profile s.vfoGetTxMode).tx.comp = s.state.tx.comp

theorem TableSettled.txSetFilter_profile (h : s.TableSettled)
    : (s.state.txSetFilter s.vfoGetTxMode).profile = s.state.profile := by
  change profilesCopyRxtxprofile (Function.update s.state.profile s.vfoGetTxMode
    ((s.state.profile s.vfoGetTxMode).withFilter s.state.tx.filter)) s.vfoGetTxMode = _
  rw [profilesCopyRxtxprofile_update, ← h.filter]
  funext m
  split
  next hm => exact (h.group m hm).symm
  next => rfl

theorem txSetFilter_tableSettled (s : TuneRadio ρ)
    : TableSettled { s with state := s.state.txSetFilter s.vfoGetTxMode } := by
  have hprofile : (s.state.txSetFilter s.vfoGetTxMode).profile = fun m =>
      if m.group = s.vfoGetTxMode.group then
        (s.state.profile s.vfoGetTxMode).withFilter s.state.tx.filter
      else s.state.profile m :=
    profilesCopyRxtxprofile_update _ _ _
  constructor
  . intro m hm
    change (s.state.txSetFilter s.vfoGetTxMode).profile m =
      (s.state.txSetFilter s.vfoGetTxMode).profile s.vfoGetTxMode
    rw [hprofile]
    dsimp only
    rw [if_pos rfl]
    exact if_pos hm
  . change ((s.state.txSetFilter s.vfoGetTxMode).profile s.vfoGetTxMode).tx.filter = s.state.tx.filter
    rw [hprofile]
    dsimp only
    rw [if_pos rfl]
    rfl

structure Settled (s : TuneRadio ρ) : Prop extends TableSettled s where
  mode : s.ModeSet

theorem radioTxVfoChanged_settled (s : TuneRadio ρ) : s.radioTxVfoChanged.Settled := by
  have h := txSetFilter_tableSettled s
  exact ⟨⟨h.group, h.filter⟩, rfl⟩

theorem Settled.rxFilterChanged (h : s.Settled) (id : Fin 2) : (s.rxFilterChanged id).Settled := by
  unfold TuneRadio.rxFilterChanged
  split
  next => exact ⟨txSetFilter_tableSettled s, h.mode⟩
  next => exact h

theorem vfoVfosChanged_settled (s : TuneRadio ρ) : s.vfoVfosChanged.Settled := by
  have h := radioTxVfoChanged_settled (s.rxVfoChanged 0)
  unfold TuneRadio.vfoVfosChanged
  dsimp only
  split
  next => exact h.rxFilterChanged 1
  next => exact h

theorem change_settled (s : TuneRadio ρ) (e : VfoChange) : (s.change pow10 e).Settled := by
  cases e with
  | mode id m => exact radioTxVfoChanged_settled _
  | entry id m => exact vfoVfosChanged_settled _
  | aToB => exact vfoVfosChanged_settled _
  | bToA => exact vfoVfosChanged_settled _
  | aSwapB => exact vfoVfosChanged_settled _
  | split val => exact radioTxVfoChanged_settled _
  | active id => exact radioTxVfoChanged_settled _

theorem Alike.tableSettled {a b : TuneRadio ρ} (h : Alike g c a b) (hb : b.TableSettled)
    : a.TableSettled := by
  constructor
  . intro m hm
    rw [h.vfoGetTxMode] at hm ⊢
    rw [h.profile]
    exact muted_eq_of_group hm (hb.group m hm)
  . rw [h.profile, h.vfoGetTxMode, muted_filter, hb.filter, h.tx]

-- what TUNE keeps for its end, and the flags
def tuneKeys (s : TuneRadio ρ) : RxTx × Int × Mode × Int :=
  (s.radio, s.cwKeyerInternal, s.preTuneMode, s.preTuneCwInternal)

theorem KeepsVfos.tuneKeys {s s' : TuneRadio ρ} (h : KeepsVfos s s') : s'.tuneKeys = s.tuneKeys := by
  rw [h]
  rfl

theorem loadProfileIf_vfosChanged_tuneKeys (id : Fin 2) (changed : Bool)
    : (s.loadProfileIf pow10 id changed).vfoVfosChanged.tuneKeys = s.tuneKeys :=
  ((loadProfileIf_keepsVfos pow10 id changed).trans vfoVfosChanged_keepsVfos).tuneKeys

theorem change_tuneKeys (s : TuneRadio ρ) (e : VfoChange)
    : (s.change pow10 e).tuneKeys = s.tuneKeys := by
  cases e with
  | mode id m =>
    dsimp only [change]
    unfold vfoIdModeChanged
    dsimp only
    split
    next =>
      have h₁ := (profilesLoadRxtxProfile_keepsVfos pow10 id (s := s.setMode id m)).trans
        (rxFilterChanged_keepsVfos id)
      exact ((h₁.trans (rxFilterChanged_keepsVfos id)).trans radioTxVfoChanged_keepsVfos).tuneKeys
    next => rfl
  | entry id m => exact loadProfileIf_vfosChanged_tuneKeys _ _
  | aToB => exact loadProfileIf_vfosChanged_tuneKeys _ _
  | bToA => exact loadProfileIf_vfosChanged_tuneKeys _ _
  | aSwapB =>
    refine (loadProfileIf_vfosChanged_tuneKeys _ _).trans ?_
    exact (loadProfileIf_keepsVfos pow10 0 _).tuneKeys
  | split val => rfl
  | active id => rfl

theorem txSetCompressor_profile (s : TxState ρ) (txMode : Mode)
    : (s.txSetCompressor txMode).profile = fun m =>
        if m.group = txMode.group then (s.profile txMode).withComp s.tx.comp else s.profile m :=
  profilesCopyRxtxprofile_update _ _ _

theorem muteCompressor_alike (h : s.TableSettled) (hcomp : s.CompStored)
    (hc : c = some s.state.tx.comp.off ∨ c = none ∧ s.state.tx.comp.off = s.state.tx.comp)
    : Alike s.vfoGetTxMode.group c s.muteCompressor s := by
  refine ⟨?_, rfl, rfl, rfl, rfl, rfl⟩
  refine (txSetCompressor_profile _ _).trans ?_
  funext m
  dsimp only
  cases hc with
  | inl hc =>
    rw [hc]
    unfold muted
    dsimp only
    split
    next hm => rw [h.group m hm]
    next => rfl
  | inr hc =>
    rw [hc.1, muted_none, hc.2]
    split
    next hm =>
      rw [h.group m hm, ← hcomp]
      rfl
    next => rfl

-- the mode of the DSP apart
theorem txSetMode_alike {a b : TuneRadio ρ} (h : Alike g c a b) (ha : a.TableSettled) (m : Mode)
    : Alike g c (a.txSetMode m) b := by
  refine ⟨?_, h.tx, h.vfoMode, h.split, h.activeReceiver, h.receivers⟩
  rw [← h.profile]
  exact ha.txSetFilter_profile

theorem tuneOn_alike (h : s.TableSettled) (hcomp : s.CompStored)
    (hc : c = some s.state.tx.comp.off ∨ c = none ∧ s.state.tx.comp.off = s.state.tx.comp)
    : Alike s.vfoGetTxMode.group c s.tuneOn s := by
  have hmute := muteCompressor_alike h hcomp hc
  have hsettled := hmute.tableSettled h
  have hstart (keyer : Int) : Alike s.vfoGetTxMode.group c
      { s.muteCompressor with
        preTuneMode := s.vfoGetTxMode, preTuneCwInternal := s.cwKeyerInternal
        cwKeyerInternal := keyer } s :=
    ⟨hmute.profile, hmute.tx, rfl, rfl, rfl, rfl⟩
  unfold tuneOn
  dsimp only
  split
  next => exact txSetMode_alike (hstart 0) ⟨hsettled.group, hsettled.filter⟩ _
  next => exact txSetMode_alike (hstart 0) ⟨hsettled.group, hsettled.filter⟩ _
  next => exact hstart s.cwKeyerInternal

theorem tuneOn_preTune (s : TuneRadio ρ)
    : s.tuneOn.preTuneMode = s.vfoGetTxMode ∧ s.tuneOn.preTuneCwInternal = s.cwKeyerInternal := by
  unfold tuneOn
  dsimp only
  split <;> exact ⟨rfl, rfl⟩

theorem tuneOn_of_not_cw (hcw : ¬ Mode.isCw s.vfoGetTxMode)
    : s.tuneOn.cwKeyerInternal = s.cwKeyerInternal ∧ s.tuneOn.state.dsp.mode = s.state.dsp.mode := by
  have hmode : s.muteCompressor.vfoGetTxMode = s.vfoGetTxMode := rfl
  unfold tuneOn
  dsimp only
  rw [hmode]
  split
  next h =>
    rw [h] at hcw
    exact absurd rfl hcw
  next h =>
    rw [h] at hcw
    exact absurd rfl hcw
  next => exact ⟨rfl, rfl⟩

-- the end of TUNE, before the compressor and the CFC are set again
def restoreMode (s : TuneRadio ρ) : TuneRadio ρ :=
  match s.preTuneMode with
  | .cwl => { s.txSetMode .cwl with cwKeyerInternal := s.preTuneCwInternal }
  | .cwu => { s.txSetMode .cwu with cwKeyerInternal := s.preTuneCwInternal }
  | _ => s

theorem tuneOff_eq
    : s.tuneOff =
        { s.restoreMode with
          state := s.restoreMode.state.txSetCompressor s.restoreMode.vfoGetTxMode } := rfl

theorem restoreMode_alike {a b : TuneRadio ρ} (h : Alike g c a b) (ha : a.TableSettled)
    : Alike g c a.restoreMode b := by
  unfold restoreMode
  split
  next =>
    have hset := txSetMode_alike h ha .cwl
    exact ⟨hset.profile, hset.tx, hset.vfoMode, hset.split, hset.activeReceiver, hset.receivers⟩
  next =>
    have hset := txSetMode_alike h ha .cwu
    exact ⟨hset.profile, hset.tx, hset.vfoMode, hset.split, hset.activeReceiver, hset.receivers⟩
  next => exact h

theorem restoreMode_of_cw (hcw : Mode.isCw s.preTuneMode)
    : s.restoreMode.cwKeyerInternal = s.preTuneCwInternal ∧
        s.restoreMode.state.dsp.mode = s.preTuneMode := by
  unfold restoreMode
  split
  next h => exact ⟨rfl, h.symm⟩
  next h => exact ⟨rfl, h.symm⟩
  next h₁ h₂ =>
    unfold Mode.isCw at hcw
    grind

theorem restoreMode_of_not_cw (hcw : ¬ Mode.isCw s.preTuneMode) : s.restoreMode = s := by
  unfold restoreMode
  split
  next h =>
    rw [h] at hcw
    exact absurd rfl hcw
  next h =>
    rw [h] at hcw
    exact absurd rfl hcw
  next => rfl

theorem tuneOff_profile {a b : TuneRadio ρ} (h : Alike g c a b) (hb : b.TableSettled)
    (hcomp : b.CompStored) (hg : c = none ∨ b.vfoGetTxMode.group = g)
    : a.tuneOff.state.profile = b.state.profile := by
  have hrestore := restoreMode_alike h (h.tableSettled hb)
  rw [tuneOff_eq]
  refine (txSetCompressor_profile _ _).trans ?_
  funext m
  rw [hrestore.vfoGetTxMode, hrestore.profile, hrestore.tx, muted_withComp, ← hcomp]
  split
  next hm =>
    rw [hb.group m hm]
    rfl
  next hm =>
    cases hg with
    | inl hnone => rw [hnone, muted_none]
    | inr hg =>
      apply muted_of_group_ne
      rwa [← hg]

theorem exec_alike {a b : TuneRadio ρ} (h : Alike g c a b) {es : List VfoChange}
    (hload : c = none ∨ Run.Along (change pow10) (fun s e => ¬ s.LoadsTx e) b es)
    : Alike g c (Run.exec (change pow10) a es) (Run.exec (change pow10) b es) := by
  induction es generalizing a b with
  | nil => exact h
  | cons e es ih =>
    have hstep : Alike g c (a.change pow10 e) (b.change pow10 e) :=
      h.change e (hload.imp_right And.left)
    exact ih hstep (hload.imp_right And.right)

theorem exec_settled (h : s.Settled) (es : List VfoChange)
    : (Run.exec (change pow10) s es).Settled :=
  Run.exec_invariant (fun s e _ _ => change_settled s e) h (Run.along_true s es)

theorem exec_modeSet (h : s.ModeSet) (es : List VfoChange)
    : (Run.exec (change pow10) s es).ModeSet :=
  Run.exec_invariant (fun s e _ _ => (change_settled s e).mode) h (Run.along_true s es)

theorem exec_tuneKeys (s : TuneRadio ρ) (es : List VfoChange)
    : (Run.exec (change pow10) s es).tuneKeys = s.tuneKeys :=
  Run.exec_invariant (I := fun s' : TuneRadio ρ => s'.tuneKeys = s.tuneKeys)
    (fun s' e h _ => (change_tuneKeys s' e).trans h) rfl (Run.along_true s es)

/--
The settings of `a` are those of `b`, and the DSP has been told them.
-/
structure NoTrace (a b : TuneRadio ρ) : Prop where
  profile : a.state.profile = b.state.profile
  tx : a.state.tx = b.state.tx
  comp : a.state.dsp.comp = a.state.tx.comp.dsp
  cwKeyerInternal : a.cwKeyerInternal = b.cwKeyerInternal
  dspMode : a.state.dsp.mode = b.state.dsp.mode
  mode : a.state.dsp.mode = a.vfoGetTxMode

/--
The conditions of a TUNE with the changes `es`. Before and after the changes the table holds what the
transmitter uses in its mode. Either the compressor and the CFC are off, or no change loads other settings
and the mode stays in its group. A CW mode is the same afterwards.
-/
structure Traceless (pow10 : ℚ → ℚ) (s : TuneRadio ρ) (es : List VfoChange) : Prop where
  settled : s.Settled
  stored : s.CompStored
  storedAfter : (Run.exec (change pow10) s es).CompStored
  kept : s.state.tx.comp.compressor = false ∧ s.state.tx.comp.cfc = false ∨
    Run.Along (change pow10) (fun s e => ¬ s.LoadsTx e) s es ∧
      (Run.exec (change pow10) s es).vfoGetTxMode.group = s.vfoGetTxMode.group
  cw : Mode.isCw s.vfoGetTxMode → (Run.exec (change pow10) s es).vfoGetTxMode = s.vfoGetTxMode

theorem call_of_callTune_on {call : TxEnv × SwitchCall} {state : CInt}
    (hcall : s.radio.callTune call = some state) (hstate : state ≠ 0)
    : s.call call = { s.tuneOn with radio := s.radio.call call } := by
  unfold TuneRadio.call
  rw [hcall]
  dsimp only
  rw [if_pos hstate]

theorem call_of_callTune_off {call : TxEnv × SwitchCall} (hcall : s.radio.callTune call = some 0)
    : s.call call = { s.tuneOff with radio := s.radio.call call } := by
  unfold TuneRadio.call
  rw [hcall]
  rfl

theorem off_eq_self {comp : CompressorSettings} (h : comp.compressor = false ∧ comp.cfc = false)
    : comp.off = comp := by
  cases comp with
  | mk compressor level cfc cfcEq freq lvl post =>
    have ⟨hcompressor, hcfc⟩ := h
    dsimp only at hcompressor hcfc
    rw [hcompressor, hcfc]
    rfl

theorem Alike.setRadio {a b : TuneRadio ρ} (h : Alike g c a b) (radio : RxTx)
    : Alike g c { a with radio := radio } b :=
  ⟨h.profile, h.tx, h.vfoMode, h.split, h.activeReceiver, h.receivers⟩

section

variable {es : List VfoChange} {on off : TxEnv × SwitchCall} {state : CInt}

theorem exec_call_alike (hon : s.radio.callTune on = some state) (hstate : state ≠ 0)
    (h : Traceless pow10 s es)
    : ∃ c, Alike s.vfoGetTxMode.group c (Run.exec (change pow10) (s.call on) es)
        (Run.exec (change pow10) s es) ∧
          (c = none ∨
            (Run.exec (change pow10) s es).vfoGetTxMode.group = s.vfoGetTxMode.group) := by
  rw [call_of_callTune_on hon hstate]
  cases h.kept with
  | inl hoff =>
    have halike := tuneOn_alike h.settled.toTableSettled h.stored (Or.inr ⟨rfl, off_eq_self hoff⟩)
    exact ⟨none, exec_alike (halike.setRadio _) (Or.inl rfl), Or.inl rfl⟩
  | inr hkept =>
    have halike := tuneOn_alike h.settled.toTableSettled h.stored (Or.inl rfl)
    exact ⟨_, exec_alike (halike.setRadio _) (Or.inr hkept.1), Or.inr hkept.2⟩

-- the end of TUNE finds in its variables what was so before
theorem exec_call_keys (hon : s.radio.callTune on = some state) (hstate : state ≠ 0)
    : let a := Run.exec (change pow10) (s.call on) es
      a.preTuneMode = s.vfoGetTxMode ∧ a.preTuneCwInternal = s.cwKeyerInternal ∧
        (¬ Mode.isCw s.vfoGetTxMode → a.cwKeyerInternal = s.cwKeyerInternal) := by
  intro a
  have hkeys : a.tuneKeys = (s.call on).tuneKeys := exec_tuneKeys _ es
  rw [call_of_callTune_on hon hstate] at hkeys
  have ⟨_, hkeys⟩ := Prod.mk.inj hkeys
  have ⟨hkeyer, hkeys⟩ := Prod.mk.inj hkeys
  have ⟨hmode, hinternal⟩ := Prod.mk.inj hkeys
  have ⟨hpre, hpreInternal⟩ := tuneOn_preTune s
  refine ⟨hmode.trans hpre, hinternal.trans hpreInternal, ?_⟩
  intro hcw
  exact hkeyer.trans (tuneOn_of_not_cw hcw).1

theorem exec_call_modeSet (hon : s.radio.callTune on = some state) (hstate : state ≠ 0)
    (h : s.Settled) (hcomp : s.CompStored) (hcw : ¬ Mode.isCw s.vfoGetTxMode)
    : (Run.exec (change pow10) (s.call on) es).ModeSet := by
  apply exec_modeSet
  rw [call_of_callTune_on hon hstate]
  have hmode := (tuneOn_alike h.toTableSettled hcomp (Or.inl rfl)).vfoGetTxMode
  exact ((tuneOn_of_not_cw hcw).2.trans h.mode).trans hmode.symm

theorem restoreMode_exec_call (hon : s.radio.callTune on = some state) (hstate : state ≠ 0)
    (h : Traceless pow10 s es)
    : let a := Run.exec (change pow10) (s.call on) es
      a.restoreMode.cwKeyerInternal = s.cwKeyerInternal ∧
        a.restoreMode.state.dsp.mode = (Run.exec (change pow10) s es).vfoGetTxMode := by
  intro a
  have hkeys : a.preTuneMode = s.vfoGetTxMode ∧ a.preTuneCwInternal = s.cwKeyerInternal ∧
      (¬ Mode.isCw s.vfoGetTxMode → a.cwKeyerInternal = s.cwKeyerInternal) :=
    exec_call_keys hon hstate
  have ⟨hpre, hinternal, hkeyer⟩ := hkeys
  by_cases hcw : Mode.isCw s.vfoGetTxMode
  . have hpreCw : Mode.isCw a.preTuneMode := by rwa [hpre]
    have ⟨hcwKeyer, hmode⟩ := restoreMode_of_cw hpreCw
    refine ⟨hcwKeyer.trans hinternal, ?_⟩
    rw [hmode, hpre, h.cw hcw]
  . have hpreCw : ¬ Mode.isCw a.preTuneMode := by rwa [hpre]
    rw [restoreMode_of_not_cw hpreCw]
    refine ⟨hkeyer hcw, ?_⟩
    have ⟨c, halike, _⟩ := exec_call_alike hon hstate h
    have hset : a.ModeSet := exec_call_modeSet hon hstate h.settled h.stored hcw
    exact hset.trans halike.vfoGetTxMode

/--
A TUNE that begins with the call `on` and ends with the call `off`, which may be one that sets MOX, leaves
the settings as the changes alone would have.
-/
theorem tune_leaves_no_trace (pow10 : ℚ → ℚ) (s : TuneRadio ρ) (es : List VfoChange)
    (on off : TxEnv × SwitchCall) (state : CInt) (hon : s.radio.callTune on = some state)
    (hstate : state ≠ 0)
    (hoff : (Run.exec (change pow10) (s.call on) es).radio.callTune off = some 0)
    (h : Traceless pow10 s es)
    : NoTrace ((Run.exec (change pow10) (s.call on) es).call off) (Run.exec (change pow10) s es) := by
  have ⟨c, halike, hc⟩ := exec_call_alike hon hstate h
  have hb : (Run.exec (change pow10) s es).Settled := exec_settled h.settled es
  have hkeys : (Run.exec (change pow10) s es).tuneKeys = s.tuneKeys := exec_tuneKeys s es
  have ⟨_, hkeys⟩ := Prod.mk.inj hkeys
  have ⟨hkeyer, _⟩ := Prod.mk.inj hkeys
  have ⟨hrestored, hmode⟩ := restoreMode_exec_call hon hstate h
  have hrestore := restoreMode_alike halike (halike.tableSettled hb.toTableSettled)
  rw [call_of_callTune_off hoff]
  constructor
  . exact tuneOff_profile halike hb.toTableSettled h.storedAfter hc
  . exact hrestore.tx
  . rfl
  . exact hrestored.trans hkeyer.symm
  . exact hmode.trans hb.mode.symm
  . exact hmode.trans hrestore.vfoGetTxMode.symm

end

-- both VFOs in one mode, and with everything off but possibly the compressor
def speech (compressor : Bool) (mode : Mode) : TuneRadio Unit where
  radio := .receiving true false 1
  state :=
    .inSync (fun _ => 1)
      { comp := ⟨compressor, 0, false, false, fun _ => 0, fun _ => 0, fun _ => 0⟩
        phrot := ⟨false, false, 8, 338⟩
        dexp := ⟨false, false, 0, 0, 0, 0, 0, 0, 0, 0, 0⟩
        eq := ⟨false, fun _ => 0, fun _ => 0⟩
        filter := ⟨false, 150, 2850⟩
        micGain := 0
        pttDelay := 0 } mode
  vfoMode := fun _ => mode
  split := false
  activeReceiver := 0
  receivers := 1
  cwKeyerInternal := 1
  preTuneMode := mode
  preTuneCwInternal := 1

-- without the compressor, to CW and then with MOX
theorem tune_leaves_no_trace_off
    : let es := [VfoChange.mode 0 .cwu, .split true]
      NoTrace
        ((Run.exec (change fun _ => 1) ((speech false .usb).call (⟨true, false⟩, .setTune 1)) es).call
          (⟨true, false⟩, .setMox 1))
        (Run.exec (change fun _ => 1) (speech false .usb) es) := by
  apply tune_leaves_no_trace (fun _ => 1) (speech false .usb) [.mode 0 .cwu, .split true]
    (⟨true, false⟩, .setTune 1) (⟨true, false⟩, .setMox 1) 1
  . rfl
  . decide
  . rfl
  . refine ⟨⟨⟨fun _ _ => rfl, rfl⟩, rfl⟩, rfl, rfl, Or.inl ⟨rfl, rfl⟩, ?_⟩
    intro hcw
    contradiction

-- with the compressor, from USB to CW: it is off afterwards in the settings stored for USB
theorem tune_mutes_profile
    : ¬ NoTrace
        ((Run.exec (change fun _ => 1) ((speech true .usb).call (⟨true, false⟩, .setTune 1))
          [.mode 0 .cwu]).call (⟨true, false⟩, .setTune 0))
        (Run.exec (change fun _ => 1) (speech true .usb) [.mode 0 .cwu]) := by
  intro h
  have hprofile := congrArg (fun p => (p .usb).tx.comp.compressor) h.profile
  contradiction

end TuneRadio

end Transmit
