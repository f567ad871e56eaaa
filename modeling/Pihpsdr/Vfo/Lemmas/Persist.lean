import Pihpsdr.Properties.Lemmas.Property
import Pihpsdr.Vfo.Impl.Persist
import Pihpsdr.Vfo.Lemmas.Bandstack
import Pihpsdr.Vfo.Lemmas.Recall

/-!
The VFOs after a restart: all of their settings are in the file but the place in the band stack, and so
a VFO comes back to the first entry of its band. The next operation on VFO A saves it there.
-/

open Text Properties

theorem VfoField.key_injective : Function.Injective VfoField.key := by
  intro f g h
  cases f <;> cases g <;> first | rfl | (revert h; decide)

theorem mem_savedVfoFields (f : VfoField) : f ∈ savedVfoFields := by
  cases f <;> decide

def vfoGroup : Properties.Group 2 VfoField where
  group := "vfo"
  key := VfoField.key
  group_ne_nil := by decide
  not_comment := by decide
  plain_group := by constructor <;> decide
  plain_key f := by cases f <;> constructor <;> decide
  key_injective := VfoField.key_injective
  length_le i f := by
    revert i
    cases f <;> decide

theorem getInt_savedVfo (vfo : Fin 2 → VfoState) (id : Fin 2) (f : VfoField)
    : getInt (loadProperties (saveProperties (setAll [] (savedVfo vfo)))) (vfoName id f.key)
        =
      some (longLong (f.value (vfo id))) :=
  vfoGroup.getInt_saved savedVfoFields (fun id f => f.value (vfo id)) WellFormed.nil id
    (mem_savedVfoFields f)

-- all fields have the range of their types
def VfoState.FitsLongLong (v : VfoState) : Prop :=
  ∀ f : VfoField, -2 ^ 63 ≤ f.value v ∧ f.value v < 2 ^ 63

namespace RadioState

variable {s : RadioState}

theorem getInt_restart (h : ∀ id, (s.vfo id).FitsLongLong) (id : Fin 2) (f : VfoField)
    : getInt (loadProperties (saveProperties (s.vfoSaveState []).2)) (vfoName id f.key)
        =
      some (f.value (s.vfo id)) := by
  have hvfo : s.vfoSaveBandstack.vfo = s.vfo := rfl
  obtain ⟨hlo, hhi⟩ := h id f
  rw [vfoSaveState, hvfo, getInt_savedVfo, longLong_eq hlo hhi]

-- what a VFO is after a restart
theorem vfo_restart (h : ∀ id, (s.vfo id).FitsLongLong) (r : RadioState) (id : Fin 2)
    : (s.restart r).vfo id
        =
      { s.vfo id with
        bandstack := 0
        offset := if (s.vfo id).ctun = 0 then 0 else (s.vfo id).offset } := by
  have hget := getInt_restart h id
  have hprops : vfoProps (loadProperties (saveProperties (s.vfoSaveState []).2)) id
      =
    { band := some (s.vfo id).band
      frequency := some (s.vfo id).frequency
      ctun := some (s.vfo id).ctun
      ctunFrequency := some (s.vfo id).ctunFrequency
      rit := some (s.vfo id).rit
      ritEnabled := some (s.vfo id).ritEnabled
      xit := some (s.vfo id).xit
      xitEnabled := some (s.vfo id).xitEnabled
      lo := some (s.vfo id).lo
      offset := some (s.vfo id).offset
      mode := some (s.vfo id).mode
      filter := some (s.vfo id).filter
      cwApf := some (s.vfo id).cwAudioPeakFilter
      deviation := some (s.vfo id).deviation
      step := some (s.vfo id).step
      ritStep := some (s.vfo id).ritStep } := by
    have hband := congrArg (Option.bind · bandIndex?) (hget .band)
    dsimp only [Option.bind_some] at hband
    rw [vfoProps, VfoProps.mk.injEq]
    refine ⟨?_, hget .frequency, hget .ctun, hget .ctunFrequency, hget .rit, hget .ritEnabled,
      hget .xit, hget .xitEnabled, hget .lo, hget .offset, hget .mode, hget .filter, hget .cwApf,
      hget .deviation, hget .step, hget .ritStep⟩
    rw [← bandIndex?_val (s.vfo id).band]
    exact hband
  have hrestart : (s.restart r).vfo id
      = (vfoProps (loadProperties (saveProperties (s.vfoSaveState []).2)) id).restore r.config
        (r.vfo id) := rfl
  rw [hrestart, hprops]
  rfl

theorem bands_restart (s r : RadioState) : (s.restart r).bands = r.bands := by
  rw [restart, vfoRestoreState]

theorem vfo_restart_eq_iff (h : ∀ id, (s.vfo id).FitsLongLong) (r : RadioState)
    : (s.restart r).vfo = s.vfo
        ↔
      ∀ id, (s.vfo id).bandstack = 0 ∧ ((s.vfo id).ctun ≠ 0 ∨ (s.vfo id).offset = 0) := by
  rw [funext_iff]
  apply forall_congr'
  intro id
  rw [vfo_restart h]
  constructor
  . intro heq
    constructor
    . exact (congrArg VfoState.bandstack heq).symm
    . have hoffset := congrArg VfoState.offset heq
      dsimp only at hoffset
      by_cases hctun : (s.vfo id).ctun = 0
      . rw [if_pos hctun] at hoffset
        right
        exact hoffset.symm
      . left
        exact hctun
  . intro ⟨hbandstack, hoffset⟩
    have hif : (if (s.vfo id).ctun = 0 then 0 else (s.vfo id).offset) = (s.vfo id).offset := by
      split
      next hctun => exact (hoffset.resolve_left (not_not.mpr hctun)).symm
      next => rfl
    rw [hif, ← hbandstack]

-- no entry has changed, but perhaps the one that VFO A is on
def OnlyOwnEntry (s s' : RadioState) : Prop :=
  ∀ b i, (s'.bands b).bandstack.entry i ≠ (s.bands b).bandstack.entry i →
    b = (s.vfo 0).band ∧ i = (s.vfo 0).bandstack

theorem onlyOwnEntry_of_eq {s s' : RadioState}
    (h : ∀ b, (s'.bands b).bandstack.entry = (s.bands b).bandstack.entry)
    : OnlyOwnEntry s s' := by
  intro b i hne
  rw [h] at hne
  contradiction

theorem entry_stackBefore_of_ne (id : Fin 2) {b : BandIndex} {i : Int}
    (h : ¬ (b = (s.vfo 0).band ∧ i = (s.vfo 0).bandstack))
    : (s.stackBefore id b).entry i = (s.bands b).bandstack.entry i := by
  unfold stackBefore
  split
  next hsaved =>
    have hi : i ≠ (s.vfo 0).bandstack := fun hi => h ⟨hsaved.2, hi⟩
    dsimp only [BandstackState.save]
    rw [Function.update_of_ne hi]
  next => rfl

theorem onlyOwnEntry_vfoIdBandChanged (s : RadioState) (id : Fin 2) (b : BandIndex)
    : OnlyOwnEntry s (s.vfoIdBandChanged id b) := by
  have hstepped (b' : BandIndex) (i : Int)
      : ((s.steppedFor id b).bands b').bandstack.entry i = (s.stackBefore id b').entry i := by
    have hsaved := s.bandstack_savedFor id
    dsimp only [steppedFor]
    split
    . rw [toTuningState_setBandstack]
      by_cases hb : b' = b
      . rw [hb, TuningState.bandstack_setBandstack_self]
      . rw [TuningState.bandstack_setBandstack_of_ne _ hb, hsaved]
    . rw [hsaved]
  unfold vfoIdBandChanged
  split
  . apply onlyOwnEntry_of_eq
    intro b'
    rfl
  . intro b' i hne
    by_contra hown
    apply hne
    rw [toTuningState_vfoVfosChanged, enterBand_eq, toTuningState_applyIfMoved,
      toTuningState_enterEntry, ← entry_stackBefore_of_ne id hown, ← hstepped]
    rfl

theorem onlyOwnEntry_vfoIdBandstackChanged (s : RadioState) (id : Fin 2) (b : Int)
    : OnlyOwnEntry s (s.vfoIdBandstackChanged id b) := by
  intro b' i hne
  by_contra hown
  apply hne
  have hbefore := entry_stackBefore_of_ne id hown
  rw [vfoIdBandstackChanged, toTuningState_vfoVfosChanged, toTuningState_enterBandstack]
  dsimp only
  rw [TuningState.bands_setVfo]
  split
  next hid =>
    by_cases hb : b' = (s.vfo id).band
    . subst hb
      rw [TuningState.bandstack_setBandstack_self, hbefore]
    . rw [TuningState.bandstack_setBandstack_of_ne _ hb]
  next => rfl

theorem onlyOwnEntry_bandOperation (s : RadioState) (e : BandOperation)
    : OnlyOwnEntry s (s.bandOperation e) := by
  cases e with
  | bandChanged id b => apply onlyOwnEntry_vfoIdBandChanged
  | bandstackChanged id b => apply onlyOwnEntry_vfoIdBandstackChanged

-- band and band stack entry of VFO A
def placeA (s : RadioState) : BandIndex × Int :=
  ((s.vfo 0).band, (s.vfo 0).bandstack)

theorem placeA_bandOperation (s : RadioState) {e : BandOperation} (h : s.LeavesVfoA e)
    : (s.bandOperation e).placeA = s.placeA := by
  have hvfos (s' : RadioState) : s'.vfoVfosChanged.placeA = s'.placeA := by
    simp [placeA, settled]
  cases e with
  | bandChanged id b =>
    dsimp only [bandOperation, vfoIdBandChanged]
    split
    next => rfl
    next hgoes =>
      have hid : id ≠ 0 := h.resolve_right hgoes
      have hvfo : (s.enterBand id b).vfo 0 = s.vfo 0 := by
        rw [enterBand_eq, toTuningState_applyIfMoved, toTuningState_enterEntry,
          TuningState.vfo_setVfo, Function.update_of_ne hid.symm, toTuningState_setVfo,
          TuningState.vfo_setVfo, Function.update_of_ne hid.symm, vfo_steppedFor]
      rw [hvfos, placeA, hvfo, placeA]
  | bandstackChanged id b =>
    dsimp only [bandOperation, vfoIdBandstackChanged]
    rw [hvfos, placeA, s.vfo_enterBandstack_of_ne id b (Ne.symm h), placeA]

theorem placeA_exec {s : RadioState} {es : List BandOperation}
    (h : Run.Along bandOperation LeavesVfoA s es)
    : (Run.exec bandOperation s es).placeA = s.placeA := by
  apply Run.exec_invariant (I := fun s' : RadioState => s'.placeA = s.placeA) (P := LeavesVfoA)
  . intro s' e hs' he
    rw [placeA_bandOperation s' he, hs']
  . rfl
  . exact h

/--
Whatever is done with bands and band stacks, the first operation on VFO A overwrites no entry but the
one that VFO A was on in `s`.
-/
def KeepsEntries (s r : RadioState) : Prop :=
  ∀ es, Run.Along bandOperation LeavesVfoA r es → ∀ e b i,
    ((bandOperation (Run.exec bandOperation r es) e).bands b).bandstack.entry i
      ≠ ((Run.exec bandOperation r es).bands b).bandstack.entry i →
    b = (s.vfo 0).band ∧ i = (s.vfo 0).bandstack

theorem keepsEntries_of_placeA {s r : RadioState} (h : r.placeA = s.placeA) : KeepsEntries s r := by
  intro es hes e b i hne
  have hplace := placeA_exec hes
  have hown := onlyOwnEntry_bandOperation (Run.exec bandOperation r es) e b i hne
  rw [h, placeA, placeA, Prod.mk.injEq] at hplace
  rwa [hplace.1, hplace.2] at hown

-- VFO A is saved before it takes another entry of its band stack
theorem frequency_entry_vfoIdBandstackChanged (r : RadioState) (b : Int)
    : (((r.vfoIdBandstackChanged 0 b).bands (r.vfo 0).band).bandstack.entry
        (r.vfo 0).bandstack).frequency
        =
      (r.vfo 0).frequency := by
  rw [vfoIdBandstackChanged, toTuningState_vfoVfosChanged, toTuningState_enterBandstack]
  simp only [TuningState.bands_setVfo, if_true, TuningState.bandstack_setBandstack_self, stackBefore,
    and_self]
  dsimp only [BandstackState.save]
  rw [Function.update_self]
  split <;> rfl

-- an entry is lost if VFO A is on another one than before and has another frequency
theorem not_keepsEntries {r : RadioState} (hplace : (r.vfo 0).bandstack ≠ (s.vfo 0).bandstack)
    (hfrequency : ((r.bands (r.vfo 0).band).bandstack.entry (r.vfo 0).bandstack).frequency
      ≠ (r.vfo 0).frequency)
    : ¬ KeepsEntries s r := by
  intro hkeeps
  have hafter := frequency_entry_vfoIdBandstackChanged r 0
  have hown := hkeeps [] trivial (.bandstackChanged 0 0) (r.vfo 0).band (r.vfo 0).bandstack
  rw [Run.exec_nil, bandOperation] at hown
  apply hplace
  refine (hown ?_).2
  intro heq
  rw [heq] at hafter
  exact hfrequency hafter

/--
A restart brings the VFOs back, and no entry of a band stack is lost after it, exactly if both VFOs are
on the first entry of their band and the offset of each VFO is the one of its CTUN state.
-/
theorem restart_reproduces_iff (s r : RadioState) (h : ∀ id, (s.vfo id).FitsLongLong)
    : ((s.restart r).vfo = s.vfo ∧ KeepsEntries s (s.restart r))
        ↔
      ∀ id, (s.vfo id).bandstack = 0 ∧ ((s.vfo id).ctun ≠ 0 ∨ (s.vfo id).offset = 0) := by
  rw [← vfo_restart_eq_iff h r]
  constructor
  . intro hboth
    exact hboth.1
  . intro hvfo
    refine ⟨hvfo, keepsEntries_of_placeA ?_⟩
    rw [placeA, placeA, hvfo]

theorem fitsLongLong_initialState (id : Fin 2) : (initialState.vfo id).FitsLongLong := by
  intro f
  revert id
  cases f <;> decide

theorem initialState_restart_reproduces
    : (initialState.restart initialState).vfo = initialState.vfo
        ∧ KeepsEntries initialState (initialState.restart initialState) := by
  apply (restart_reproduces_iff initialState initialState fitsLongLong_initialState).mpr
  decide

-- VFO A on the last entry of the band stack for 20 m
def lastEntryState : RadioState :=
  initialState.setVfo 0 { initialVfo with bandstack := 3 }

theorem fitsLongLong_lastEntryState (id : Fin 2) : (lastEntryState.vfo id).FitsLongLong := by
  intro f
  revert id
  cases f <;> decide

theorem not_restart_reproduces
    : ¬ ∀ s r : RadioState, (∀ id, (s.vfo id).FitsLongLong) →
        (s.restart r).vfo = s.vfo ∧ KeepsEntries s (s.restart r) := by
  intro h
  have hkeeps := (h lastEntryState initialState fitsLongLong_lastEntryState).2
  have hvfo := vfo_restart fitsLongLong_lastEntryState initialState 0
  have hbands := bands_restart lastEntryState initialState
  apply not_keepsEntries _ _ hkeeps
  . rw [hvfo]
    decide
  . rw [hvfo, hbands]
    decide

end RadioState
