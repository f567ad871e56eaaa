import Pihpsdr.Rigctl.Lemmas.FilterCommands
import Pihpsdr.Vfo.Lemmas.Untouched

/-!
The filter `Var1` of VFO A with new edges: what the receivers have after it. The second receiver may
use the same filter.
-/

theorem ReceiverState.setFilter_setFilter (rx : ReceiverState) (config config' : RadioConfig)
    {v v' : VfoState} (hmode : v'.mode = v.mode)
    : (rx.setFilter config v).setFilter config' v' = rx.setFilter config' v' := by
  unfold setFilter
  dsimp only
  rw [hmode]
  split_ifs <;> rfl

namespace RadioState

-- the second receiver already has the edges that it gets if `Var1` of VFO A has the edges `e`
def SecondKeeps (s : RadioState) (e : FilterEdges) : Prop :=
  s.Running 1 → (s.receiver 1).setFilter (s.setVar1Edges e).config (s.vfo 1) = s.receiver 1

-- what the commands for the edges of a filter do
def switchToVar1 (s : RadioState) (e : FilterEdges) : RadioState :=
  s.useFilterVar1.applyVar1Edges e

variable (s : RadioState) (e : FilterEdges)

theorem receiver_rxFilterChangedIfRunning (id : Fin 2)
    : (s.rxFilterChangedIfRunning id).receiver
        =
      if s.Running id then
        Function.update s.receiver id ((s.receiver id).setFilter s.config (s.vfo id))
      else
        s.receiver := by
  unfold rxFilterChangedIfRunning
  split_ifs
  . apply receiver_rxFilterChanged
  . rfl

@[simp]
theorem receiver_storeFilter (id : Fin 2) (f : Int) : (s.storeFilter id f).receiver = s.receiver := by
  dsimp only [storeFilter]
  split <;> rfl

-- both receivers that run get the edges of their filters
theorem receiver_vfoIdFilterChanged (id : Fin 2)
    : (s.vfoIdFilterChanged 0 filterVar1).receiver id
        =
      if s.Running id then
        (s.receiver id).setFilter s.config ((s.vfoIdFilterChanged 0 filterVar1).vfo id)
      else
        s.receiver id := by
  rw [toTuningState_vfoIdFilterChanged]
  dsimp only [vfoIdFilterChanged]
  rw [if_pos (.inl rfl), receiver_rxFilterChangedIfRunning, receiver_rxFilterChangedIfRunning,
    toTuningState_rxFilterChangedIfRunning, toTuningState_storeFilter, toTuningState_setVfo,
    receiver_storeFilter, receiver_setVfo]
  revert id
  rw [Fin.forall_fin_two]
  constructor
  all_goals
    by_cases hone : s.Running 1
    all_goals
      by_cases hzero : s.Running 0
      all_goals simp [hone, hzero]

-- nothing is left of the edges that the first switch to `Var1` gives
theorem setFilter_useFilterVar1 (id : Fin 2) (config : RadioConfig) {v : VfoState}
    (hmode : v.mode = (s.vfo id).mode)
    : (s.useFilterVar1.receiver id).setFilter config v = (s.receiver id).setFilter config v := by
  unfold useFilterVar1
  split_ifs
  . have hmode' : v.mode = ((s.vfoIdFilterChanged 0 filterVar1).vfo id).mode := by
      rw [hmode, toTuningState_vfoIdFilterChanged, TuningState.vfo_setVfo]
      by_cases hid : id = 0
      . subst hid
        rw [Function.update_self]
      . rw [Function.update_of_ne hid]
    rw [receiver_vfoIdFilterChanged]
    split_ifs
    . rw [ReceiverState.setFilter_setFilter _ _ _ hmode']
    . rfl
  . rfl

theorem receiver_useFilterVar1 {id : Fin 2} (h : ¬ s.Running id)
    : s.useFilterVar1.receiver id = s.receiver id := by
  unfold useFilterVar1
  split_ifs
  . rw [receiver_vfoIdFilterChanged, if_neg h]
  . rfl

theorem config_setVar1Edges_useFilterVar1
    : (s.useFilterVar1.setVar1Edges e).config = (s.setVar1Edges e).config := by
  simp [setVar1Edges, setFilterEdges]

theorem vfo_switchToVar1
    : (s.switchToVar1 e).vfo = Function.update s.vfo 0 { s.vfo 0 with filter := filterVar1 } := by
  simp [switchToVar1, applyVar1Edges, setVar1Edges, setFilterEdges]

theorem mode_switchToVar1 : ((s.switchToVar1 e).vfo 0).mode = (s.vfo 0).mode := by
  rw [vfo_switchToVar1, Function.update_self]

theorem receiver_switchToVar1 (id : Fin 2)
    : (s.switchToVar1 e).receiver id
        =
      if s.Running id then
        (s.receiver id).setFilter (s.setVar1Edges e).config ((s.switchToVar1 e).vfo id)
      else
        s.receiver id := by
  have hmode : ((s.switchToVar1 e).vfo id).mode = (s.vfo id).mode := by
    rw [vfo_switchToVar1]
    by_cases hid : id = 0
    . subst hid
      rw [Function.update_self]
    . rw [Function.update_of_ne hid]
  have hrunning : (s.useFilterVar1.setVar1Edges e).Running id ↔ s.Running id := by
    rw [TuningState.Running, config_setVar1Edges_useFilterVar1]
    rfl
  have hfilter := receiver_vfoIdFilterChanged (s.useFilterVar1.setVar1Edges e) id
  rw [config_setVar1Edges_useFilterVar1] at hfilter
  rw [switchToVar1] at hmode ⊢
  rw [applyVar1Edges] at hmode ⊢
  rw [hfilter, ← setFilter_useFilterVar1 s id _ hmode]
  by_cases hid : s.Running id
  . rw [if_pos hid, if_pos (hrunning.mpr hid)]
    rfl
  . rw [if_neg hid, if_neg (fun h => hid (hrunning.mp h))]
    exact receiver_useFilterVar1 s hid

theorem untouched_iff_of_second {s' : RadioState} (hvfo : s'.vfo 1 = s.vfo 1)
    (hreceiver : s'.receiver 1
      = if s.Running 1 then (s.receiver 1).setFilter (s.setVar1Edges e).config (s.vfo 1)
        else s.receiver 1)
    : s.Untouched 1 s' ↔ s.SecondKeeps e := by
  constructor
  . intro h hrunning
    rw [← h.receiver, hreceiver, if_pos hrunning, ReceiverState.setFilter_setFilter _ _ _ rfl]
  . intro h
    refine ⟨hvfo, ?_⟩
    rw [hreceiver]
    split_ifs with hrunning
    . exact h hrunning
    . rfl

theorem untouched_switchToVar1_iff : s.Untouched 1 (s.switchToVar1 e) ↔ s.SecondKeeps e := by
  have hvfo : (s.switchToVar1 e).vfo 1 = s.vfo 1 := by
    rw [vfo_switchToVar1, Function.update_of_ne (by decide)]
  apply untouched_iff_of_second s e hvfo
  rw [receiver_switchToVar1, hvfo]

theorem var1Edges_switchToVar1 : (s.switchToVar1 e).var1Edges = e := by
  rw [switchToVar1, var1Edges_applyVar1Edges]

theorem setVar1Edges_self : s.setVar1Edges s.var1Edges = s := by
  simp [setVar1Edges, var1Edges, setFilterEdges]

-- the edges that the commands give to `Var1`
def shEdges (s : RadioState) (i : Int) : FilterEdges :=
  if IsUpper (s.vfo 0).mode then { s.var1Edges with high := waterMark shMarks i }
  else if IsLower (s.vfo 0).mode then { s.var1Edges with low := -waterMark shMarks i }
  else s.var1Edges

def slEdges (s : RadioState) (i : Int) : FilterEdges :=
  if IsLower (s.vfo 0).mode then { s.var1Edges with high := -waterMark slMarks i }
  else if IsUpper (s.vfo 0).mode then { s.var1Edges with low := waterMark slMarks i }
  else s.var1Edges

theorem switchToVar1_self
    : s.switchToVar1 s.var1Edges = s.useFilterVar1.vfoIdFilterChanged 0 filterVar1 := by
  rw [switchToVar1, applyVar1Edges, ← var1Edges_useFilterVar1, setVar1Edges_self]

theorem shSet_eq (i : Int) : s.shSet i = s.switchToVar1 (s.shEdges i) := by
  dsimp only [shSet, shEdges]
  rw [mode_useFilterVar1, var1Edges_useFilterVar1]
  split_ifs
  . rfl
  . rfl
  . exact s.switchToVar1_self.symm

theorem slSet_eq (i : Int) : s.slSet i = s.switchToVar1 (s.slEdges i) := by
  dsimp only [slSet, slEdges]
  rw [mode_useFilterVar1, var1Edges_useFilterVar1]
  split_ifs
  . rfl
  . rfl
  . exact s.switchToVar1_self.symm

theorem clampEdge_eq {x : Int} (hlow : -9999 ≤ x) (hhigh : x ≤ 9999) : clampEdge x = x := by
  unfold clampEdge
  omega

theorem zzfhSet_eq {x : Int} (hlow : -9999 ≤ x) (hhigh : x ≤ 9999)
    : s.zzfhSet x = s.switchToVar1 { s.var1Edges with high := x } := by
  dsimp only [zzfhSet]
  rw [var1Edges_useFilterVar1, clampEdge_eq hlow hhigh]
  rfl

theorem zzflSet_eq {x : Int} (hlow : -9999 ≤ x) (hhigh : x ≤ 9999)
    : s.zzflSet x = s.switchToVar1 { s.var1Edges with low := x } := by
  dsimp only [zzflSet]
  rw [var1Edges_useFilterVar1, clampEdge_eq hlow hhigh]
  rfl

theorem fwSet_of_cw {x : Int} (hcw : IsCw (s.vfo 0).mode)
    : s.fwSet x = s.switchToVar1 ⟨x.tdiv 2, x.tdiv 2⟩ := by
  dsimp only [fwSet]
  rw [mode_useFilterVar1, if_pos hcw, applyVar1Edges_setVar1Edges]
  rfl

theorem fwSet_of_am {x : Int} (ham : IsAm (s.vfo 0).mode)
    : s.fwSet x = s.switchToVar1 (if x = 0 then ⟨-4000, 4000⟩ else ⟨-8000, 8000⟩) := by
  have hcw : ¬ IsCw (s.vfo 0).mode := by
    unfold IsCw IsAm modeCwl modeCwu modeAm modeSam at *
    omega
  have hfmn : (s.vfo 0).mode ≠ modeFmn := by
    unfold IsAm modeFmn modeAm modeSam at *
    omega
  dsimp only [fwSet]
  rw [mode_useFilterVar1, if_neg hcw, if_neg hfmn, if_pos ham, applyVar1Edges_setVar1Edges]
  rfl

section Fmn

variable (x : Int)

-- in FMN the width is kept as a deviation
def fmnEdges (x : Int) : FilterEdges :=
  if x = 0 then ⟨-5500, 5500⟩ else ⟨-8000, 8000⟩

def fmnDeviation (x : Int) : Int :=
  if x = 0 then 2500 else 5000

def beforeFmnFilter (s : RadioState) (x : Int) : RadioState :=
  (((s.setVar1Edges (fmnEdges x)).setVfo 0 { s.vfo 0 with deviation := fmnDeviation x }).rxSetFilter
    0).txSetFilter

theorem fwSetFmn_eq : s.fwSetFmn x = (s.beforeFmnFilter x).vfoIdFilterChanged 0 filterVar1 := by
  dsimp only [fwSetFmn, beforeFmnFilter, fmnEdges, fmnDeviation]
  split_ifs <;> rfl

theorem toTuningState_beforeFmnFilter
    : (s.beforeFmnFilter x).toTuningState
        =
      (s.setVar1Edges (fmnEdges x)).toTuningState.setVfo 0
        { s.vfo 0 with deviation := fmnDeviation x } := by
  rw [beforeFmnFilter, toTuningState_txSetFilter]
  rfl

theorem receiver_beforeFmnFilter : (s.beforeFmnFilter x).receiver 1 = s.receiver 1 := by
  rw [beforeFmnFilter, receiver_txSetFilter, rxSetFilter, receiver_setReceiver,
    Function.update_of_ne (by decide)]
  rfl

theorem vfo_fwSetFmn
    : (s.fwSetFmn x).vfo
        =
      Function.update s.vfo 0
        { s.vfo 0 with deviation := fmnDeviation x, filter := filterVar1 } := by
  rw [fwSetFmn_eq, toTuningState_vfoIdFilterChanged, toTuningState_beforeFmnFilter]
  simp [setVar1Edges, setFilterEdges]

theorem fwSet_of_fmn (hfmn : (s.vfo 0).mode = modeFmn)
    : s.fwSet x = s.useFilterVar1.fwSetFmn x := by
  have hcw : ¬ IsCw (s.vfo 0).mode := by
    rw [hfmn]
    decide
  dsimp only [fwSet]
  rw [mode_useFilterVar1, if_neg hcw, if_pos hfmn, fwSetFmn_setVar1Edges]

theorem untouched_fwSetFmn_iff
    : s.Untouched 1 (s.useFilterVar1.fwSetFmn x) ↔ s.SecondKeeps (fmnEdges x) := by
  have hvfo : (s.useFilterVar1.fwSetFmn x).vfo 1 = s.vfo 1 := by
    rw [vfo_fwSetFmn, Function.update_of_ne (by decide), toTuningState_useFilterVar1,
      TuningState.vfo_setVfo, Function.update_of_ne (by decide)]
  have hconfig : (s.useFilterVar1.beforeFmnFilter x).config = (s.setVar1Edges (fmnEdges x)).config := by
    rw [toTuningState_beforeFmnFilter, TuningState.config_setVfo, config_setVar1Edges_useFilterVar1]
  have hrunning : (s.useFilterVar1.beforeFmnFilter x).Running 1 ↔ s.Running 1 := by
    rw [TuningState.Running, hconfig]
    rfl
  apply untouched_iff_of_second s _ hvfo
  rw [fwSetFmn_eq] at hvfo ⊢
  rw [receiver_vfoIdFilterChanged, hvfo, hconfig, receiver_beforeFmnFilter]
  by_cases hone : s.Running 1
  . rw [if_pos hone, if_pos (hrunning.mpr hone), setFilter_useFilterVar1 s 1 _ rfl]
  . rw [if_neg hone, if_neg (fun h => hone (hrunning.mp h)), receiver_useFilterVar1 s hone]

end Fmn

end RadioState
