import Pihpsdr.Lib.Run
import Pihpsdr.Radio.Startup
import Pihpsdr.Rigctl.Impl.FilterCommands
import Pihpsdr.Vfo.Lemmas.Change

/-!
The order of the edges, `low` not above `high`. The changes of `filter.c` keep it whatever the
increment is. The CAT commands store one edge without a look at the other one, and keep the order
exactly if the new edge does not pass the other.
-/

namespace FilterEdges

variable (e : FilterEdges) (mode sidetone increment : Int)

theorem ordered_highChanged : (e.highChanged mode sidetone increment).Ordered := by
  unfold highChanged Ordered
  split_ifs
  all_goals
    dsimp only
    omega

theorem ordered_lowChanged : (e.lowChanged mode sidetone increment).Ordered := by
  unfold lowChanged Ordered
  split_ifs
  all_goals
    dsimp only
    omega

theorem ordered_collapse : e.collapse.Ordered := by
  unfold collapse Ordered
  split
  . exact Int.le_refl _
  . omega

theorem ordered_widthChanged : (e.widthChanged mode increment).Ordered := by
  unfold widthChanged
  split_ifs
  . exact Int.min_le_right _ _
  . exact Int.min_le_right _ _
  . exact Int.le_max_right _ _
  . exact Int.le_max_right _ _
  . apply ordered_collapse
  . apply ordered_collapse

-- a shift keeps the width, and with it the order
theorem ordered_shiftChanged {e : FilterEdges} (h : e.Ordered)
    : (e.shiftChanged mode increment).Ordered := by
  have hwid : 0 ≤ (e.high - e.low).tdiv 2 := by
    rw [Ordered] at h
    apply Int.tdiv_nonneg
    . omega
    . decide
  unfold shiftChanged Ordered
  dsimp only
  omega

end FilterEdges

theorem ReceiverState.ordered_setEdges (rx : ReceiverState) (mode sidetone : Int) {e : FilterEdges}
    (h : e.Ordered)
    : (rx.setEdges mode sidetone e).edges.Ordered := by
  unfold FilterEdges.Ordered at *
  unfold ReceiverState.setEdges ReceiverState.edges
  split_ifs
  all_goals
    dsimp only
    omega

theorem ReceiverState.ordered_setFilter (rx : ReceiverState) {config : RadioConfig} {v : VfoState}
    (h : (config.filters v.mode v.filter).Ordered) (hdev : -3000 ≤ v.deviation)
    : (rx.setFilter config v).edges.Ordered := by
  unfold FilterEdges.Ordered at *
  unfold ReceiverState.setFilter ReceiverState.edges
  split_ifs
  all_goals
    dsimp only
    omega

namespace RadioState

variable {s : RadioState}

/--
All that the edges of the receivers can follow from is in order. This is more than the claim of
`EdgesOrdered`, by what no operation changes for the worse.
-/
structure SoundEdges (s : RadioState) : Prop where
  filter : ∀ mode f, (s.config.filters mode f).Ordered
  deviation : ∀ id, -3000 ≤ (s.vfo id).deviation
  receiver : ∀ id, (s.receiver id).edges.Ordered

-- the edges of the variable filters and of the receivers
structure EdgesOrdered (s : RadioState) : Prop where
  filter : ∀ mode f, IsVariable f → (s.config.filters mode f).Ordered
  receiver : ∀ id, (s.receiver id).edges.Ordered

-- the fixed filters, and the deviation that determines the edges in FMN
structure FixedOrdered (s : RadioState) : Prop where
  filter : ∀ mode f, ¬ IsVariable f → (s.config.filters mode f).Ordered
  deviation : ∀ id, -3000 ≤ (s.vfo id).deviation

theorem soundEdges_iff : s.SoundEdges ↔ s.FixedOrdered ∧ s.EdgesOrdered := by
  constructor
  . intro h
    exact ⟨⟨fun mode f _ => h.filter mode f, h.deviation⟩,
      ⟨fun mode f _ => h.filter mode f, h.receiver⟩⟩
  . intro ⟨hfixed, hedges⟩
    refine ⟨?_, hfixed.deviation, hedges.receiver⟩
    intro mode f
    by_cases hf : IsVariable f
    . exact hedges.filter mode f hf
    . exact hfixed.filter mode f hf

@[simp]
theorem filters_setFilterEdges (mode f : Int) (e : FilterEdges) (mode' f' : Int)
    : (s.setFilterEdges mode f e).config.filters mode' f'
        =
      if mode' = mode ∧ f' = f then e else s.config.filters mode' f' := by
  dsimp only [setFilterEdges]
  by_cases hmode : mode' = mode
  . subst hmode
    rw [Function.update_self, Function.update_apply]
    simp
  . rw [Function.update_of_ne hmode]
    simp [hmode]

section SoundEdges

variable (h : s.SoundEdges)
include h

theorem SoundEdges.setReceiver (id : Fin 2) {rx : ReceiverState} (hrx : rx.edges.Ordered)
    : (s.setReceiver id rx).SoundEdges := by
  refine ⟨h.filter, h.deviation, ?_⟩
  intro id'
  rw [receiver_setReceiver]
  by_cases hid : id' = id
  . subst hid
    rw [Function.update_self]
    exact hrx
  . rw [Function.update_of_ne hid]
    exact h.receiver id'

theorem SoundEdges.changeEdges (id : Fin 2) {change : Int → Int → FilterEdges → FilterEdges}
    (hchange : ∀ mode sidetone e, e.Ordered → (change mode sidetone e).Ordered)
    : (s.changeEdges id change).SoundEdges := by
  dsimp only [RadioState.changeEdges, filterEdgesChanged]
  split
  . exact h
  . apply h.setReceiver
    apply ReceiverState.ordered_setEdges
    apply hchange
    exact h.receiver id

theorem SoundEdges.rxSetFilter (id : Fin 2) : (s.rxSetFilter id).SoundEdges := by
  apply h.setReceiver
  apply ReceiverState.ordered_setFilter
  . apply h.filter
  . apply h.deviation

theorem SoundEdges.txSetFilter : s.txSetFilter.SoundEdges := by
  refine ⟨?_, ?_, ?_⟩
  . rw [toTuningState_txSetFilter]
    exact h.filter
  . rw [toTuningState_txSetFilter]
    exact h.deviation
  . rw [receiver_txSetFilter]
    exact h.receiver

theorem SoundEdges.rxFilterChanged (id : Fin 2) : (s.rxFilterChanged id).SoundEdges := by
  cases s.rxFilterChanged_eq id with
  | inl heq =>
    rw [heq]
    exact h.rxSetFilter id
  | inr heq =>
    rw [heq]
    exact (h.rxSetFilter id).txSetFilter

theorem SoundEdges.rxFilterChangedIfRunning (id : Fin 2)
    : (s.rxFilterChangedIfRunning id).SoundEdges := by
  unfold RadioState.rxFilterChangedIfRunning
  split
  . exact h.rxFilterChanged id
  . exact h

theorem SoundEdges.setVfo (id : Fin 2) {v : VfoState} (hv : -3000 ≤ v.deviation)
    : (s.setVfo id v).SoundEdges := by
  refine ⟨h.filter, ?_, h.receiver⟩
  intro id'
  rw [toTuningState_setVfo, TuningState.vfo_setVfo]
  by_cases hid : id' = id
  . subst hid
    rw [Function.update_self]
    exact hv
  . rw [Function.update_of_ne hid]
    exact h.deviation id'

theorem SoundEdges.vfoIdFilterChanged (id : Fin 2) (f : Int)
    : (s.vfoIdFilterChanged id f).SoundEdges := by
  have hvfo := h.setVfo (v := { s.vfo id with filter := f }) id (h.deviation id)
  have hstore : ((s.setVfo id { s.vfo id with filter := f }).storeFilter id f).SoundEdges := by
    dsimp only [storeFilter]
    split
    . exact ⟨hvfo.filter, hvfo.deviation, hvfo.receiver⟩
    . exact hvfo
  dsimp only [RadioState.vfoIdFilterChanged]
  split
  . exact (hstore.rxFilterChangedIfRunning 0).rxFilterChangedIfRunning 1
  . exact hstore.rxFilterChangedIfRunning id

theorem SoundEdges.useFilterVar1 : s.useFilterVar1.SoundEdges := by
  unfold RadioState.useFilterVar1
  split
  . exact h.vfoIdFilterChanged 0 filterVar1
  . exact h

theorem SoundEdges.setVar1Edges {e : FilterEdges} (he : e.Ordered)
    : (s.setVar1Edges e).SoundEdges := by
  refine ⟨?_, h.deviation, h.receiver⟩
  intro mode f
  rw [RadioState.setVar1Edges, filters_setFilterEdges]
  split
  . exact he
  . exact h.filter mode f

theorem SoundEdges.applyVar1Edges {e : FilterEdges} (he : e.Ordered)
    : (s.applyVar1Edges e).SoundEdges :=
  (h.setVar1Edges he).vfoIdFilterChanged 0 filterVar1

end SoundEdges

@[simp]
theorem toTuningState_useFilterVar1
    : s.useFilterVar1.toTuningState
        =
      s.toTuningState.setVfo 0 { s.vfo 0 with filter := filterVar1 } := by
  unfold useFilterVar1
  split
  next => apply toTuningState_vfoIdFilterChanged
  next h =>
    have hfilter := not_not.mp h
    rw [← hfilter]
    exact (s.toTuningState.setVfo_self 0).symm

theorem mode_useFilterVar1 : (s.useFilterVar1.vfo 0).mode = (s.vfo 0).mode := by
  simp

theorem var1Edges_useFilterVar1 : s.useFilterVar1.var1Edges = s.var1Edges := by
  simp [var1Edges]

@[simp]
theorem var1Edges_setVar1Edges (e : FilterEdges) : (s.setVar1Edges e).var1Edges = e := by
  rw [var1Edges, setVar1Edges, filters_setFilterEdges]
  exact if_pos ⟨rfl, rfl⟩

@[simp]
theorem var1Edges_vfoIdFilterChanged (f : Int)
    : (s.vfoIdFilterChanged 0 f).var1Edges = s.var1Edges := by
  simp [var1Edges]

@[simp]
theorem var1Edges_applyVar1Edges (e : FilterEdges) : (s.applyVar1Edges e).var1Edges = e := by
  rw [applyVar1Edges, var1Edges_vfoIdFilterChanged, var1Edges_setVar1Edges]

theorem setVar1Edges_setVar1Edges (e e' : FilterEdges)
    : (s.setVar1Edges e).setVar1Edges e' = s.setVar1Edges e' := by
  simp [setVar1Edges, setFilterEdges]

theorem applyVar1Edges_setVar1Edges (e e' : FilterEdges)
    : (s.setVar1Edges e).applyVar1Edges e' = s.applyVar1Edges e' := by
  rw [applyVar1Edges, setVar1Edges_setVar1Edges, applyVar1Edges]

theorem fwSetFmn_setVar1Edges (e : FilterEdges) (fw : Int)
    : (s.setVar1Edges e).fwSetFmn fw = s.fwSetFmn fw := by
  dsimp only [fwSetFmn]
  rw [setVar1Edges_setVar1Edges]

-- the edge that a CAT command stores does not pass the other one
def KeepsOrder (s : RadioState) : EdgeOp → Prop
  | .high _ _ | .low _ _ | .width _ _ | .shift _ _ => True
  | .fw x =>
    let mode := (s.vfo 0).mode
    ¬ IsCw mode → mode ≠ modeFmn → ¬ IsAm mode → x ≤ s.var1Edges.high
  | .sh i =>
    (IsUpper (s.vfo 0).mode → s.var1Edges.low ≤ waterMark shMarks i)
      ∧ (IsLower (s.vfo 0).mode → -waterMark shMarks i ≤ s.var1Edges.high)
  | .sl i =>
    (IsLower (s.vfo 0).mode → s.var1Edges.low ≤ -waterMark slMarks i)
      ∧ (IsUpper (s.vfo 0).mode → waterMark slMarks i ≤ s.var1Edges.high)
  | .zzfh x => s.var1Edges.low ≤ clampEdge x
  | .zzfl x => clampEdge x ≤ s.var1Edges.high

section SoundEdges

variable (h : s.SoundEdges)
include h

theorem SoundEdges.fwSetFmn (fw : Int) : (s.fwSetFmn fw).SoundEdges := by
  dsimp only [RadioState.fwSetFmn]
  apply SoundEdges.vfoIdFilterChanged
  apply SoundEdges.txSetFilter
  apply SoundEdges.rxSetFilter
  split_ifs
  . apply SoundEdges.setVfo
    . exact h.setVar1Edges (by decide)
    . dsimp only
      decide
  . apply SoundEdges.setVfo
    . exact h.setVar1Edges (by decide)
    . dsimp only
      decide

theorem SoundEdges.fwSet {x : Int} (hx : s.KeepsOrder (.fw x)) : (s.fwSet x).SoundEdges := by
  have hvar1 := h.useFilterVar1
  dsimp only [RadioState.fwSet]
  rw [mode_useFilterVar1, applyVar1Edges_setVar1Edges, applyVar1Edges_setVar1Edges,
    fwSetFmn_setVar1Edges]
  split_ifs with hcw hfmn ham hfw
  . exact hvar1.applyVar1Edges (Int.le_refl _)
  . exact hvar1.fwSetFmn x
  . exact hvar1.applyVar1Edges (by decide)
  . exact hvar1.applyVar1Edges (by decide)
  . apply hvar1.setVar1Edges
    rw [var1Edges_useFilterVar1]
    exact hx hcw hfmn ham

theorem SoundEdges.shSet {i : Int} (hi : s.KeepsOrder (.sh i)) : (s.shSet i).SoundEdges := by
  have hvar1 := h.useFilterVar1
  dsimp only [RadioState.shSet]
  rw [mode_useFilterVar1, var1Edges_useFilterVar1]
  split_ifs with hupper hlower
  . exact hvar1.applyVar1Edges (hi.1 hupper)
  . exact hvar1.applyVar1Edges (hi.2 hlower)
  . exact hvar1.vfoIdFilterChanged 0 filterVar1

theorem SoundEdges.slSet {i : Int} (hi : s.KeepsOrder (.sl i)) : (s.slSet i).SoundEdges := by
  have hvar1 := h.useFilterVar1
  dsimp only [RadioState.slSet]
  rw [mode_useFilterVar1, var1Edges_useFilterVar1]
  split_ifs with hlower hupper
  . exact hvar1.applyVar1Edges (hi.1 hlower)
  . exact hvar1.applyVar1Edges (hi.2 hupper)
  . exact hvar1.vfoIdFilterChanged 0 filterVar1

theorem SoundEdges.zzfhSet {x : Int} (hx : s.KeepsOrder (.zzfh x)) : (s.zzfhSet x).SoundEdges := by
  dsimp only [RadioState.zzfhSet]
  rw [var1Edges_useFilterVar1]
  exact h.useFilterVar1.applyVar1Edges hx

theorem SoundEdges.zzflSet {x : Int} (hx : s.KeepsOrder (.zzfl x)) : (s.zzflSet x).SoundEdges := by
  dsimp only [RadioState.zzflSet]
  rw [var1Edges_useFilterVar1]
  exact h.useFilterVar1.applyVar1Edges hx

theorem SoundEdges.edgeStep {op : EdgeOp} (hop : s.KeepsOrder op) : (s.edgeStep op).SoundEdges := by
  cases op with
  | high id increment =>
    exact h.changeEdges id fun _ _ _ _ => FilterEdges.ordered_highChanged ..
  | low id increment =>
    exact h.changeEdges id fun _ _ _ _ => FilterEdges.ordered_lowChanged ..
  | width id increment =>
    exact h.changeEdges id fun _ _ _ _ => FilterEdges.ordered_widthChanged ..
  | shift id increment =>
    exact h.changeEdges id fun _ _ _ he => FilterEdges.ordered_shiftChanged _ _ he
  | fw x => exact h.fwSet hop
  | sh i => exact h.shSet hop
  | sl i => exact h.slSet hop
  | zzfh x => exact h.zzfhSet hop
  | zzfl x => exact h.zzflSet hop

end SoundEdges

theorem var1Edges_fwSet {x : Int} (hcw : ¬ IsCw (s.vfo 0).mode) (hfmn : (s.vfo 0).mode ≠ modeFmn)
    (ham : ¬ IsAm (s.vfo 0).mode)
    : (s.fwSet x).var1Edges = { s.var1Edges with low := x } := by
  dsimp only [fwSet]
  rw [mode_useFilterVar1, if_neg hcw, if_neg hfmn, if_neg ham, var1Edges_setVar1Edges,
    var1Edges_useFilterVar1]

theorem EdgesOrdered.var1Edges (h : s.EdgesOrdered) : s.var1Edges.Ordered :=
  h.filter _ _ (.inl rfl)

theorem not_isLower_of_isUpper {mode : Int} (h : IsUpper mode) : ¬ IsLower mode := by
  unfold IsUpper IsLower modeUsb modeDigu modeLsb modeDigl at *
  omega

-- after a CAT command the filter `Var1` shows whether its edges have crossed
theorem keepsOrder_of_edgeStep (op : EdgeOp) (h : (s.edgeStep op).EdgesOrdered)
    : s.KeepsOrder op := by
  have hvar1 := h.var1Edges
  cases op with
  | high id increment => trivial
  | low id increment => trivial
  | width id increment => trivial
  | shift id increment => trivial
  | fw x =>
    intro hcw hfmn ham
    rw [edgeStep, var1Edges_fwSet hcw hfmn ham] at hvar1
    exact hvar1
  | sh i =>
    dsimp only [edgeStep, shSet] at hvar1
    rw [mode_useFilterVar1, var1Edges_useFilterVar1] at hvar1
    constructor
    . intro hupper
      rw [if_pos hupper, var1Edges_applyVar1Edges] at hvar1
      exact hvar1
    . intro hlower
      rw [if_neg (fun hupper => not_isLower_of_isUpper hupper hlower), if_pos hlower,
        var1Edges_applyVar1Edges] at hvar1
      exact hvar1
  | sl i =>
    dsimp only [edgeStep, slSet] at hvar1
    rw [mode_useFilterVar1, var1Edges_useFilterVar1] at hvar1
    constructor
    . intro hlower
      rw [if_pos hlower, var1Edges_applyVar1Edges] at hvar1
      exact hvar1
    . intro hupper
      rw [if_neg (not_isLower_of_isUpper hupper), if_pos hupper,
        var1Edges_applyVar1Edges] at hvar1
      exact hvar1
  | zzfh x =>
    dsimp only [edgeStep, zzfhSet] at hvar1
    rw [var1Edges_useFilterVar1, var1Edges_applyVar1Edges] at hvar1
    exact hvar1
  | zzfl x =>
    dsimp only [edgeStep, zzflSet] at hvar1
    rw [var1Edges_useFilterVar1, var1Edges_applyVar1Edges] at hvar1
    exact hvar1

-- the radio at its start, with the filters of the source
def filterStart : RadioState :=
  { initialState with config := { initialConfig with filters := filterTable } }

theorem soundEdges_filterStart : filterStart.SoundEdges where
  filter := ordered_filterTable
  deviation := by decide
  receiver := by decide

-- a run of operations from edges in order
theorem edgesOrdered_iff_keepsOrder (s : RadioState) (hfixed : s.FixedOrdered)
    (hedges : s.EdgesOrdered) (ops : List EdgeOp)
    : (∀ ops', ops' <+: ops → (Run.exec edgeStep s ops').EdgesOrdered)
        ↔
      Run.Along edgeStep KeepsOrder s ops := by
  apply Run.forall_prefix_iff_along_of (I := SoundEdges) (J := EdgesOrdered)
  . intro s op hs hop
    exact hs.edgeStep hop
  . intro s op _ hop
    exact keepsOrder_of_edgeStep op hop
  . intro s hs
    exact (soundEdges_iff.mp hs).2
  . exact soundEdges_iff.mpr ⟨hfixed, hedges⟩

theorem edgesOrdered_iff_keepsOrder_start
    : (∀ ops', ops' <+: [.zzfh 300, .shift 0 40, .fw 500] →
        (Run.exec edgeStep filterStart ops').EdgesOrdered)
        ↔
      Run.Along edgeStep KeepsOrder filterStart [.zzfh 300, .shift 0 40, .fw 500] :=
  have hsound := soundEdges_iff.mp soundEdges_filterStart
  edgesOrdered_iff_keepsOrder filterStart hsound.1 hsound.2 _

-- `ZZFH-0200;` in CWU, where the filter `Var1` reaches from -125 Hz to 125 Hz
theorem edges_crossed_by_zzfh
    : filterStart.FixedOrdered ∧ filterStart.EdgesOrdered
        ∧ ¬ (Run.exec edgeStep filterStart [.zzfh (-200)]).EdgesOrdered := by
  have hsound := soundEdges_iff.mp soundEdges_filterStart
  refine ⟨hsound.1, hsound.2, ?_⟩
  intro h
  have hle : filterStart.var1Edges.low ≤ clampEdge (-200) :=
    keepsOrder_of_edgeStep (.zzfh (-200)) h
  exact absurd hle (by decide)

end RadioState
