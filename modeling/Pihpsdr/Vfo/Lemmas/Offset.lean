import Pihpsdr.Rigctl.Impl.Standard
import Pihpsdr.Vfo.Impl.Offset
import Pihpsdr.Vfo.Lemmas.HearingChange

/-!
Every operation that changes frequency, CTUN, RIT, mode or filter of a VFO, and when the receivers that
run are still tuned to it.
-/

open ClientServer ClientServer.Remote

namespace Rigctl

-- the commands of the CAT interface
theorem catRc_eq
    : catRc = .actAt 2 fun s => s.setVfoA ((s.radio.vfo 0).ritCommand .clear) := rfl

theorem catRd_eq
    : catRd
        =
      .readSet 2 7 (fun s => s.setVfoA ((s.radio.vfo 0).ritCommand .decrement))
        fun x s => s.setVfoA ((s.radio.vfo 0).ritCommand (.setNegative x)) := rfl

theorem catRt_eq
    : catRt
        =
      .readSet 2 3 (fun s => s.answerInt ['R', 'T'] 0 (s.radio.vfo 0).ritEnabled)
        fun x s => s.setVfoA ((s.radio.vfo 0).ritCommand (.enable x)) := rfl

theorem catRu_eq
    : catRu
        =
      .readSet 2 7 (fun s => s.setVfoA ((s.radio.vfo 0).ritCommand .increment))
        fun x s => s.setVfoA ((s.radio.vfo 0).ritCommand (.set x)) := rfl

theorem setVfoA_ritCommand (s : Rig) (c : RitCommand)
    : (s.setVfoA ((s.radio.vfo 0).ritCommand c)).1.radio = s.radio.catRit c := rfl

end Rigctl

namespace RadioState

variable (s : RadioState) (id : Fin 2)

-- RIT moves the offset and not the window
theorem agreesAt_rit {s : RadioState} {id : Fin 2} (hs : ∀ id, s.AgreesAt id) {w : VfoState}
    (hfrequency : w.frequency = (s.vfo id).frequency) (hctun : w.ctun = (s.vfo id).ctun)
    (hctunFrequency : w.ctunFrequency = (s.vfo id).ctunFrequency)
    : ∀ v, ((s.setVfo id w).rxFrequencyChangedIfRunning id).AgreesAt v := by
  have hrunning (v : Fin 2)
      : ((s.setVfo id w).rxFrequencyChangedIfRunning id).Running v ↔ s.Running v :=
    (OnlyVfo.rxFrequencyChangedIfRunning id (onlyVfo_setVfo s.toTuningState id w)).running_iff v
  rw [forall_agreesAt_iff hs hrunning, agreesAt_refreshed_iff (w := w) (hrunning id)]
  . intro h hon
    have hwindow := (hs id h).window (ne_of_eq_of_ne hctun.symm hon)
    have hwindow' : (w.hearing (s.receiver id).toPassband (s.config.sampleRate id)).InWindow
        (s.receiver id).toPassband w.frequency := by
      unfold Hearing.InWindow at hwindow ⊢
      rw [hfrequency, show (w.hearing _ _).ctunFrequency = (s.vfo id).ctunFrequency from hctunFrequency]
      exact hwindow
    exact (if_pos hwindow').symm ▸ hwindow'
  . intro h
    have h' : (s.setVfo id w).Running id := h
    rw [hearing_rxFrequencyChangedIfRunning _ _ h', Function.update_self, hearing_setVfo,
      Function.update_self]
  . rw [hearing_rxFrequencyChangedIfRunning_of_ne _ _ (other_ne id), hearing_setVfo,
      Function.update_of_ne (other_ne id)]

theorem agreesAt_catRit_iff (hs : ∀ id, s.AgreesAt id) (c : RitCommand)
    : (∀ v, (s.catRit c).AgreesAt v)
        ↔
      (s.Running 0 → ((s.vfo 0).ritCommand c).ritPart = (s.vfo 0).ritPart) := by
  have hearing : (s.catRit c).hearing 0
      = { s.hearing 0 with rit := ((s.vfo 0).ritCommand c).ritPart } := by
    rw [catRit, hearing_setVfo, Function.update_self]
    cases c <;> rfl
  have hrunning (v : Fin 2) : (s.catRit c).Running v ↔ s.Running v := Iff.rfl
  rw [forall_agreesAt_iff hs hrunning]
  . apply forall_congr'
    intro h
    have hoffset := (hs 0 h).offset
    rw [hearing]
    constructor
    . intro hagrees
      have hoffset' := hagrees.offset
      dsimp only at hoffset'
      have hrit : (s.hearing 0).rit = (s.vfo 0).ritPart := rfl
      omega
    . intro hsame
      have heq : { s.hearing 0 with rit := ((s.vfo 0).ritCommand c).ritPart } = s.hearing 0 := by
        rw [hsame]
        rfl
      rw [heq]
      exact hs 0 h
  . rw [catRit, hearing_setVfo, Function.update_of_ne (other_ne 0)]

-- the server switches CTUN off where RIT is off, and on in the middle of the window
def CmdCtunIn (s : RadioState) (id : Fin 2) (b2 : BitVec 8) : Prop :=
  let v := s.vfo id
  s.Running id →
    if from8 b2 = 0 then
      v.ritPart = 0
    else
      (v.ctun ≠ 0 → v.ctunFrequency = v.frequency)
        ∧ (s.heard id { v with ctunFrequency := v.frequency }).InWindow
          (s.receiver id).toPassband v.frequency

theorem agreesAt_cmdCtun_iff (hs : ∀ id, s.AgreesAt id) (b2 : BitVec 8)
    : (∀ v, (cmdCtun s id b2).AgreesAt v) ↔ s.CmdCtunIn id b2 := by
  have hrunning (v : Fin 2) : (cmdCtun s id b2).Running v ↔ s.Running v := Iff.rfl
  rw [forall_agreesAt_iff hs hrunning]
  . apply forall_congr'
    intro h
    have hearing : (cmdCtun s id b2).hearing id = (s.hearing id).setCtun (from8 b2) := by
      rw [cmdCtun, hearing_setVfo, Function.update_self]
      rfl
    rw [hearing]
    exact (hs id h).setCtun_iff _
  . rw [cmdCtun, hearing_setVfo, Function.update_of_ne (other_ne id)]

section

variable {s id} {m f : Int}

theorem toTuningState_filterChangedIfUsed (v : Fin 2)
    : (s.filterChangedIfUsed m f v).toTuningState = s.toTuningState := by
  unfold filterChangedIfUsed
  split
  next h =>
    have hsame : { s.vfo v with filter := f } = s.vfo v := by
      rw [← h.2.2]
    rw [toTuningState_vfoIdFilterChanged, hsame, TuningState.setVfo_self]
  next => rfl

theorem hearing_filterChangedIfUsed (v u : Fin 2)
    : (s.filterChangedIfUsed m f v).hearing u
        =
      if s.Running u ∧ s.UsesFilter v m f ∧ Refiltered v u f then
        (s.hearing u).refilter ((s.vfo u).passband s.config)
      else
        s.hearing u := by
  unfold filterChangedIfUsed
  by_cases h : s.UsesFilter v m f
  . have hsame : Function.update s.vfo v { s.vfo v with filter := f } = s.vfo := by
      rw [← h.2.2]
      apply Function.update_eq_self
    rw [if_pos h, hearing_vfoIdFilterChanged, hsame]
    simp only [h, true_and]
  . rw [if_neg h]
    simp only [h, false_and, and_false, if_false]

-- the receivers on which a change of the filter `f` has an effect
def Affected (s : RadioState) (m f : Int) (u : Fin 2) : Prop :=
  ∃ v, s.UsesFilter v m f ∧ Refiltered v u f

theorem hearing_filterChangedIfUsed_both (u : Fin 2) [Decidable (s.Running u ∧ s.Affected m f u)]
    : ((s.filterChangedIfUsed m f 0).filterChangedIfUsed m f 1).hearing u
        =
      if s.Running u ∧ s.Affected m f u then
        (s.hearing u).refilter ((s.vfo u).passband s.config)
      else
        s.hearing u := by
  have haffected : s.Affected m f u
      ↔ (s.UsesFilter 0 m f ∧ Refiltered 0 u f) ∨ s.UsesFilter 1 m f ∧ Refiltered 1 u f :=
    Fin.exists_fin_two
  have huses : (s.filterChangedIfUsed m f 0).UsesFilter 1 m f ↔ s.UsesFilter 1 m f := by
    unfold UsesFilter
    rw [toTuningState_filterChangedIfUsed]
  rw [hearing_filterChangedIfUsed, hearing_filterChangedIfUsed, toTuningState_filterChangedIfUsed]
  simp only [huses, haffected]
  by_cases hu : s.Running u
  . by_cases hzero : s.UsesFilter 0 m f ∧ Refiltered 0 u f
    . by_cases hone : s.UsesFilter 1 m f ∧ Refiltered 1 u f
      . simp [hu, hzero, hone, Hearing.refilter]
      . simp [hu, hzero, hone]
    . by_cases hone : s.UsesFilter 1 m f ∧ Refiltered 1 u f
      . simp [hu, hzero, hone]
      . simp [hu, hzero, hone]
  . simp [hu]

end

-- the filters after a change of the edges of a variable filter
def withFilterVar (s : RadioState) (m f : Int) (e : FilterEdges) : RadioState :=
  if f = filterVar1 ∨ f = filterVar2 then s.setFilterEdges m f e else s

theorem hearing_withFilterVar (m f : Int) (e : FilterEdges)
    : (s.withFilterVar m f e).hearing = s.hearing := by
  unfold withFilterVar
  split <;> rfl

theorem vfo_withFilterVar (m f : Int) (e : FilterEdges)
    : (s.withFilterVar m f e).vfo = s.vfo := by
  unfold withFilterVar
  split <;> rfl

theorem running_withFilterVar (m f : Int) (e : FilterEdges) (v : Fin 2)
    : (s.withFilterVar m f e).Running v ↔ s.Running v := by
  unfold withFilterVar
  split <;> rfl

theorem agreesAt_filterVarChanged_iff (hs : ∀ id, s.AgreesAt id) (m f : Int) (e : FilterEdges)
    : (∀ v, (s.filterVarChanged m f e).AgreesAt v)
        ↔
      ∀ v, s.Affected m f v →
        s.FiltersIn v ((s.vfo v).passband (s.withFilterVar m f e).config) := by
  classical
  have heq : s.filterVarChanged m f e
      = ((s.withFilterVar m f e).filterChangedIfUsed m f 0).filterChangedIfUsed m f 1 := rfl
  have haffected (v : Fin 2) : (s.withFilterVar m f e).Affected m f v ↔ s.Affected m f v := by
    unfold Affected UsesFilter
    simp only [running_withFilterVar, vfo_withFilterVar]
  apply forall_congr'
  intro v
  have hrunning : (s.filterVarChanged m f e).Running v ↔ s.Running v := by
    rw [heq, toTuningState_filterChangedIfUsed, toTuningState_filterChangedIfUsed,
      running_withFilterVar]
  have hearing : (s.filterVarChanged m f e).hearing v
      = if s.Running v ∧ s.Affected m f v then
          (s.hearing v).refilter ((s.vfo v).passband (s.withFilterVar m f e).config)
        else s.hearing v := by
    rw [heq, hearing_filterChangedIfUsed_both, hearing_withFilterVar, vfo_withFilterVar]
    simp only [running_withFilterVar, haffected]
  by_cases hv : s.Affected m f v
  . rw [forall_prop_of_true hv]
    apply agreesAt_refilter_iff (hs v) hrunning
    intro h
    rw [hearing, if_pos ⟨h, hv⟩]
  . rw [agreesAt_same_iff hrunning fun _ => by rw [hearing, if_neg fun h => hv h.2]]
    simp [hv, hs v]

theorem agreesAt_applyVar1Edges_iff (hs : ∀ id, s.AgreesAt id) (e : FilterEdges)
    : (∀ v, (s.applyVar1Edges e).AgreesAt v)
        ↔
      ∀ v, s.FiltersIn v ((Function.update s.vfo 0 { s.vfo 0 with filter := filterVar1 } v).passband
        (s.setVar1Edges e).config) := by
  have hs' : ∀ id, (s.setVar1Edges e).AgreesAt id := hs
  rw [applyVar1Edges, agreesAt_vfoIdFilterChanged_iff _ _ hs']
  apply forall_congr'
  intro v
  have hrefiltered : Refiltered 0 v filterVar1 := .inr (.inl rfl)
  rw [forall_prop_of_true hrefiltered]
  exact Iff.rfl

theorem toPassband_setReceiver (rx : ReceiverState) (v : Fin 2)
    : ((s.setReceiver id rx).receiver v).toPassband
        =
      if v = id then rx.toPassband else (s.receiver v).toPassband := by
  rw [receiver_setReceiver, Function.update_apply]
  split <;> rfl

theorem hearing_setReceiver (rx : ReceiverState)
    : (s.setReceiver id rx).hearing
        =
      Function.update s.hearing id ((s.hearing id).refilter rx.toPassband) := by
  apply hearing_of_refilter
  . rfl
  . rw [toPassband_setReceiver, if_pos rfl]
  . intro v hv
    rw [toPassband_setReceiver, if_neg hv]

theorem agreesAt_filterEdgesChanged_iff (hs : ∀ id, s.AgreesAt id) (e : FilterEdges)
    : (∀ v, (s.filterEdgesChanged id e).AgreesAt v)
        ↔
      ((s.vfo id).mode ≠ modeFmn →
        s.FiltersIn id ((s.receiver id).setEdges (s.vfo id).mode
          s.config.cwKeyerSidetoneFrequency e).toPassband) := by
  dsimp only [filterEdgesChanged]
  split
  next hkept =>
    apply iff_of_true hs
    intro hmode h
    exact absurd hkept (not_or.mpr ⟨not_not.mpr h, hmode⟩)
  next hchanged =>
    have hchanged := not_or.mp hchanged
    have hmode : (s.vfo id).mode ≠ modeFmn := hchanged.2
    have hrunning (rx : ReceiverState) (v : Fin 2) : (s.setReceiver id rx).Running v ↔ s.Running v :=
      Iff.rfl
    rw [forall_prop_of_true hmode, forall_agreesAt_iff hs (hrunning _)]
    . apply agreesAt_refilter_iff (hs id) (hrunning _ id)
      intro _
      rw [hearing_setReceiver, Function.update_self]
    . rw [hearing_setReceiver, Function.update_of_ne (other_ne id)]

theorem agreesAt_deviationChanged_iff (hs : ∀ id, s.AgreesAt id) (deviation : Int)
    : (∀ v, (s.deviationChanged id deviation).AgreesAt v)
        ↔
      s.FiltersIn id ({ s.vfo id with deviation := deviation }.passband s.config) := by
  have hset : (s.setVfo id { s.vfo id with deviation := deviation }).hearing = s.hearing :=
    s.hearing_setVfo_same id rfl
  have hvfo : (s.setVfo id { s.vfo id with deviation := deviation }).vfo id
      = { s.vfo id with deviation := deviation } := by
    rw [toTuningState_setVfo, TuningState.vfo_setVfo, Function.update_self]
  have hearing : (s.deviationChanged id deviation).hearing
      = if s.Running id then
          Function.update s.hearing id
            ((s.hearing id).refilter ({ s.vfo id with deviation := deviation }.passband s.config))
        else s.hearing := by
    dsimp only [deviationChanged]
    rw [hearing_txSetFilter]
    split
    next h =>
      have h : s.Running id := h
      rw [if_pos h, rxSetFilter, hearing_setReceiver, hset, VfoState.toPassband_setFilter, hvfo]
      rfl
    next h =>
      have h : ¬ s.Running id := h
      rw [if_neg h, hset]
  have hrunning (v : Fin 2) : (s.deviationChanged id deviation).Running v ↔ s.Running v := by
    dsimp only [deviationChanged]
    rw [toTuningState_txSetFilter]
    split <;> exact Iff.rfl
  rw [forall_agreesAt_iff hs hrunning]
  . apply agreesAt_refilter_iff (hs id) (hrunning id)
    intro h
    rw [hearing, if_pos h, Function.update_self]
  . rw [hearing]
    split
    . rw [Function.update_of_ne (other_ne id)]
    . rfl

-- each running receiver is tuned to where its VFO is, and with CTUN it receives the whole filter
def OffsetFollows (s : RadioState) : Prop :=
  ∀ id, s.Running id →
    let v := s.vfo id
    let rx := s.receiver id
    let half := (s.config.sampleRate id).tdiv 2
    v.offset = (if v.ctun ≠ 0 then v.ctunFrequency - v.frequency else 0)
        + (if v.ritEnabled ≠ 0 then v.rit else 0)
      ∧ (v.ctun ≠ 0 → v.frequency - half ≤ v.ctunFrequency + rx.filterLow
        ∧ v.ctunFrequency + rx.filterHigh ≤ v.frequency + half)

theorem offsetFollows_iff : s.OffsetFollows ↔ ∀ id, s.AgreesAt id := by
  constructor
  . intro h id hid
    exact ⟨(h id hid).1, (h id hid).2⟩
  . intro h id hid
    exact ⟨(h id hid).offset, (h id hid).window⟩

/--
What has to hold before an operation: the filter that it selects, and the frequency that it tunes to, leave
the filter in the window; CAT does not change what RIT adds; and the server switches CTUN off with RIT off.
-/
def KeepsOffset (s : RadioState) : OffsetOperation → Prop
  | .frequency (.tune id c) => ∀ f ∈ s.tuneTarget id c, s.TunesIn id f (s.tuneFilter id c)
  | .frequency (.setFrequency id f) => s.DialsIn id ((s.vfo id).setDial f)
  | .frequency (.request (.ctun id state)) => s.CtunIn id state
  | .frequency (.request (.mode id m)) =>
    s.FiltersIn id ((s.inMode (s.vfo id) m).passband s.config)
  | .frequency (.request (.bandstack id b)) => s.EntersIn id (s.entryAt id b) ∧ s.SettlesIn (1 - id)
  | .frequency (.request (.band id b)) => s.BandIn id b
  | .frequency (.request (.filter id f)) =>
    ∀ v, Refiltered id v f →
      s.FiltersIn v ((Function.update s.vfo id { s.vfo id with filter := f } v).passband s.config)
  | .frequency (.request (.recallMemory index)) =>
    (s.setSatMode (s.mem index).satMode).SlotIn (s.mem index)
  | .frequency (.request .aToB) =>
    s.SettlesIn 0 ∧ s.LoadsIn 1 (s.vfo 0) s.profile ((s.vfo 0).mode ≠ (s.vfo 1).mode)
  | .frequency (.request .bToA) =>
    s.LoadsIn 0 (s.vfo 1) s.profile ((s.vfo 1).mode ≠ (s.vfo 0).mode) ∧ s.SettlesIn 1
  | .frequency (.request .swap) =>
    s.LoadsIn 0 (s.vfo 1) s.profile ((s.vfo 1).mode ≠ (s.vfo 0).mode)
      ∧ s.LoadsIn 1 (s.vfo 0) s.swappedProfile ((s.vfo 1).mode ≠ (s.vfo 0).mode)
  | .ritValue _ _ => True
  | .ritOnoff _ _ => True
  | .catRit c => s.Running 0 → ((s.vfo 0).ritCommand c).ritPart = (s.vfo 0).ritPart
  | .cmdCtun id b2 => s.CmdCtunIn id b2
  | .filterVar m f e =>
    ∀ v, s.Affected m f v → s.FiltersIn v ((s.vfo v).passband (s.withFilterVar m f e).config)
  | .var1Edges e =>
    ∀ v, s.FiltersIn v ((Function.update s.vfo 0 { s.vfo 0 with filter := filterVar1 } v).passband
      (s.setVar1Edges e).config)
  | .filterEdges id e =>
    (s.vfo id).mode ≠ modeFmn →
      s.FiltersIn id ((s.receiver id).setEdges (s.vfo id).mode
        s.config.cwKeyerSidetoneFrequency e).toPassband
  | .deviation id deviation =>
    s.FiltersIn id ({ s.vfo id with deviation := deviation }.passband s.config)

section

variable {s} {s' : RadioState} (hs : ∀ id, s.AgreesAt id)
  (hreceivers : s.config.receivers ≤ 2)
include hs hreceivers

theorem agreesAt_request_iff (r : Request) (hs' : perform s r = some s')
    : (∀ v, s'.AgreesAt v) ↔ s.KeepsOffset (.frequency (.request r)) := by
  cases r with
  | ctun id state =>
    have heq : _ = s' := Option.some.inj hs'
    rw [← heq]
    exact s.agreesAt_vfoIdCtunUpdate_iff id hs state
  | mode id m =>
    have heq : _ = s' := Option.some.inj hs'
    rw [← heq]
    exact s.agreesAt_vfoIdModeChanged_iff id hs m
  | bandstack id b =>
    have heq : _ = s' := Option.some.inj hs'
    rw [← heq]
    exact s.agreesAt_vfoIdBandstackChanged_iff id b hreceivers
  | band id b =>
    have heq : _ = s' := Option.some.inj hs'
    rw [← heq]
    exact s.agreesAt_vfoIdBandChanged_iff id b hs hreceivers
  | filter id f =>
    have heq : _ = s' := Option.some.inj hs'
    rw [← heq]
    exact s.agreesAt_vfoIdFilterChanged_iff id hs f
  | recallMemory index =>
    obtain ⟨b, -, -, heq⟩ := s.exists_recallSlot hs'
    rw [heq]
    exact s.agreesAt_recallSlot_iff _ b hreceivers
  | aToB =>
    have heq : _ = s' := Option.some.inj hs'
    rw [← heq]
    exact s.agreesAt_vfoAToB_iff hreceivers
  | bToA =>
    have heq : _ = s' := Option.some.inj hs'
    rw [← heq]
    exact s.agreesAt_vfoBToA_iff hreceivers
  | swap =>
    have heq : _ = s' := Option.some.inj hs'
    rw [← heq]
    exact s.agreesAt_vfoASwapB_iff hreceivers

-- one operation
theorem agreesAt_offsetOperate_iff (op : OffsetOperation) (hs' : s.offsetOperate op = some s')
    : (∀ v, s'.AgreesAt v) ↔ s.KeepsOffset op := by
  cases op with
  | frequency op =>
    cases op with
    | tune id c =>
      have heq : _ = s' := Option.some.inj hs'
      rw [← heq]
      exact s.agreesAt_tune_iff id hs c
    | setFrequency id f =>
      have heq : _ = s' := Option.some.inj hs'
      rw [← heq]
      exact s.agreesAt_vfoIdSetFrequency_iff id hs hreceivers f
    | request r => exact agreesAt_request_iff hs hreceivers r hs'
  | ritValue id value =>
    have heq : _ = s' := Option.some.inj hs'
    rw [← heq]
    exact iff_of_true (agreesAt_rit hs rfl rfl rfl) trivial
  | ritOnoff id enable =>
    have heq : _ = s' := Option.some.inj hs'
    rw [← heq]
    exact iff_of_true (agreesAt_rit hs rfl rfl rfl) trivial
  | catRit c =>
    have heq : _ = s' := Option.some.inj hs'
    rw [← heq]
    exact s.agreesAt_catRit_iff hs c
  | cmdCtun id b2 =>
    have heq : _ = s' := Option.some.inj hs'
    rw [← heq]
    exact s.agreesAt_cmdCtun_iff id hs b2
  | filterVar m f e =>
    have heq : _ = s' := Option.some.inj hs'
    rw [← heq]
    exact s.agreesAt_filterVarChanged_iff hs m f e
  | var1Edges e =>
    have heq : _ = s' := Option.some.inj hs'
    rw [← heq]
    exact s.agreesAt_applyVar1Edges_iff hs e
  | filterEdges id e =>
    have heq : _ = s' := Option.some.inj hs'
    rw [← heq]
    exact s.agreesAt_filterEdgesChanged_iff id hs e
  | deviation id deviation =>
    have heq : _ = s' := Option.some.inj hs'
    rw [← heq]
    exact s.agreesAt_deviationChanged_iff id hs deviation

end

section

variable {s} {s' : RadioState}

theorem config_request (r : Request) (hs' : perform s r = some s') : s'.config = s.config := by
  cases r with
  | ctun id state =>
    have heq : _ = s' := Option.some.inj hs'
    rw [← heq, (s.onlyVfo_vfoIdCtunUpdate id state).config]
  | mode id m =>
    have heq : _ = s' := Option.some.inj hs'
    rw [← heq, (s.onlyVfo_of_setVfo id (s.toTuningState_vfoIdModeChanged id m)).config]
  | bandstack id b =>
    have heq : _ = s' := Option.some.inj hs'
    rw [← heq, vfoIdBandstackChanged, (onlyVfo_vfoVfosChanged _).config, config_enterBandstack]
  | band id b =>
    have heq : _ = s' := Option.some.inj hs'
    rw [← heq]
    unfold vfoIdBandChanged
    split
    . rfl
    . rw [(onlyVfo_vfoVfosChanged _).config, config_enterBand]
  | filter id f =>
    have heq : _ = s' := Option.some.inj hs'
    rw [← heq, (s.onlyVfo_of_setVfo id (s.toTuningState_vfoIdFilterChanged id f)).config]
  | recallMemory index =>
    obtain ⟨b, -, -, heq⟩ := s.exists_recallSlot hs'
    have hctcss (t : RadioState) (enabled ctcss : Int) : (t.setCtcss enabled ctcss).config = t.config :=
      rfl
    rw [heq, recallSlot, (onlyVfo_vfoVfosChanged _).config, hctcss, config_recallAny]
    rfl
  | aToB =>
    have heq : _ = s' := Option.some.inj hs'
    rw [← heq, vfoAToB, (onlyVfo_vfoVfosChanged _).config, config_loadProfileIf]
    rfl
  | bToA =>
    have heq : _ = s' := Option.some.inj hs'
    rw [← heq, vfoBToA, (onlyVfo_vfoVfosChanged _).config, config_loadProfileIf]
    rfl
  | swap =>
    have heq : _ = s' := Option.some.inj hs'
    rw [← heq, vfoASwapB, (onlyVfo_vfoVfosChanged _).config, config_loadProfileIf,
      config_loadProfileIf]
    rfl

theorem config_rxFrequencyChangedIfRunning
    : (s.rxFrequencyChangedIfRunning id).config = s.config :=
  (OnlyVfo.rxFrequencyChangedIfRunning id (OnlyVfo.refl s.toTuningState)).config

-- only the filters change, and never the number of receivers
theorem receivers_offsetOperate (op : OffsetOperation) (hs' : s.offsetOperate op = some s')
    : s'.config.receivers = s.config.receivers := by
  cases op with
  | frequency op =>
    cases op with
    | tune id c =>
      have heq : _ = s' := Option.some.inj hs'
      rw [← heq, (s.onlyVfo_tune id c).config]
    | setFrequency id f =>
      have heq : _ = s' := Option.some.inj hs'
      rw [← heq, (s.onlyVfo_vfoIdSetFrequency id f).config]
    | request r => rw [config_request r hs']
  | ritValue id value =>
    have heq : _ = s' := Option.some.inj hs'
    rw [← heq, vfoIdRitValue, config_rxFrequencyChangedIfRunning]
    rfl
  | ritOnoff id enable =>
    have heq : _ = s' := Option.some.inj hs'
    rw [← heq, vfoIdRitOnoff, config_rxFrequencyChangedIfRunning]
    rfl
  | catRit c =>
    have heq : _ = s' := Option.some.inj hs'
    rw [← heq]
    rfl
  | cmdCtun id b2 =>
    have heq : _ = s' := Option.some.inj hs'
    rw [← heq]
    rfl
  | filterVar m f e =>
    have heq : ((s.withFilterVar m f e).filterChangedIfUsed m f 0).filterChangedIfUsed m f 1 = s' :=
      Option.some.inj hs'
    rw [← heq, toTuningState_filterChangedIfUsed, toTuningState_filterChangedIfUsed, withFilterVar]
    split <;> rfl
  | var1Edges e =>
    have heq : _ = s' := Option.some.inj hs'
    rw [← heq, applyVar1Edges, toTuningState_vfoIdFilterChanged]
    rfl
  | filterEdges id e =>
    have heq : _ = s' := Option.some.inj hs'
    rw [← heq]
    dsimp only [filterEdgesChanged]
    split <;> rfl
  | deviation id deviation =>
    have heq : _ = s' := Option.some.inj hs'
    rw [← heq]
    dsimp only [deviationChanged]
    rw [toTuningState_txSetFilter]
    split <;> rfl

end

-- a run that has come to a state is in one that follows
def NextOffset (o : Option RadioState) : Prop :=
  ∀ s, o = some s → s.config.receivers ≤ 2 ∧ s.OffsetFollows

-- an operation that leads to a state keeps what `KeepsOffset` asks for
def NextKeepsOffset (o : Option RadioState) (op : OffsetOperation) : Prop :=
  ∀ s s', o = some s → s.offsetOperate op = some s' → s.KeepsOffset op

theorem nextOffset_offsetNext_iff {o : Option RadioState} (h : NextOffset o) (op : OffsetOperation)
    : NextOffset (offsetNext o op) ↔ NextKeepsOffset o op := by
  cases o with
  | none =>
    apply iff_of_true
    . intro s' hs'
      contradiction
    . intro s s' hs
      contradiction
  | some s =>
    have ⟨hreceivers, hs⟩ := h s rfl
    have hagrees := s.offsetFollows_iff.mp hs
    unfold NextOffset NextKeepsOffset
    rw [offsetNext, Option.bind_some]
    constructor
    . intro hnext s₁ s' hs₁ hs'
      rw [← Option.some.inj hs₁] at hs' ⊢
      rw [← agreesAt_offsetOperate_iff hagrees hreceivers op hs', ← offsetFollows_iff]
      exact (hnext s' hs').2
    . intro hkeeps s' hs'
      refine ⟨?_, ?_⟩
      . rwa [receivers_offsetOperate op hs']
      . rw [offsetFollows_iff, agreesAt_offsetOperate_iff hagrees hreceivers op hs']
        exact hkeeps s s' rfl hs'

def FewReceivers (o : Option RadioState) : Prop :=
  ∀ s, o = some s → s.config.receivers ≤ 2

theorem fewReceivers_exec {o : Option RadioState} (h : FewReceivers o) (ops : List OffsetOperation)
    : FewReceivers (Run.exec offsetNext o ops) := by
  have hstep (o : Option RadioState) (op : OffsetOperation) (ho : FewReceivers o) (_ : True)
      : FewReceivers (offsetNext o op) := by
    intro s' hs'
    cases o with
    | none => contradiction
    | some s =>
      rw [receivers_offsetOperate op hs']
      exact ho s rfl
  exact Run.exec_invariant (I := FewReceivers) (P := fun _ _ => True) hstep h (Run.along_true o ops)

-- Whatever is operated, in whatever order: the receivers follow if no step loses one.
theorem offsetFollows_exec_iff (hreceivers : s.config.receivers ≤ 2) (h : s.OffsetFollows)
    (ops : List OffsetOperation)
    : (∀ ops', ops' <+: ops → ∀ s', Run.exec offsetNext (some s) ops' = some s' → s'.OffsetFollows)
        ↔
      Run.Along offsetNext NextKeepsOffset (some s) ops := by
  have hs : NextOffset (some s) := by
    intro s' hs'
    rw [← Option.some.inj hs']
    exact ⟨hreceivers, h⟩
  rw [← Run.forall_prefix_iff_along (I := NextOffset)
    (fun _ op h => nextOffset_offsetNext_iff h op) hs ops]
  apply forall_congr'
  intro ops'
  apply forall_congr'
  intro _
  apply forall_congr'
  intro s'
  apply forall_congr'
  intro hs'
  have hfew : FewReceivers (some s) := fun s' hs' => (hs s' hs').1
  exact (and_iff_right (fewReceivers_exec hfew ops' s' hs')).symm

theorem offsetFollows_initialState : initialState.OffsetFollows := by
  intro id _
  refine ⟨rfl, ?_⟩
  intro hctun
  contradiction

-- RIT is set on the panel and read out over CAT, and then VFO A is tuned.
theorem offsetFollows_exec_initialState
    : let ops := [.ritValue 0 120, .catRit (.enable 1), .frequency (.tune 0 (.step 3))]
      (∀ ops', ops' <+: ops → ∀ s', Run.exec offsetNext (some initialState) ops' = some s' →
          s'.OffsetFollows)
        ↔
      Run.Along offsetNext NextKeepsOffset (some initialState) ops :=
  initialState.offsetFollows_exec_iff (by decide) offsetFollows_initialState _

-- RIT of VFO A is 120 Hz, and CAT clears it with `RC;`.
theorem not_offsetFollows_offsetOperate
    : ¬ ∀ (s : RadioState) (op : OffsetOperation) (s' : RadioState),
        s.config.receivers ≤ 2 → s.OffsetFollows → s.offsetOperate op = some s' →
          s'.OffsetFollows := by
  intro h
  have hrit : (initialState.vfoIdRitValue 0 120).OffsetFollows := by
    rw [offsetFollows_iff]
    exact agreesAt_rit (initialState.offsetFollows_iff.mp offsetFollows_initialState) rfl rfl rfl
  have hclear := h (initialState.vfoIdRitValue 0 120) (.catRit .clear) _ (by decide) hrit rfl 0
    (by decide)
  have hoffset : (((initialState.vfoIdRitValue 0 120).catRit .clear).vfo 0).offset ≠ 0 := by
    decide +kernel
  exact hoffset hclear.1

end RadioState
