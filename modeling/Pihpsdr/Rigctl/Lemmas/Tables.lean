import Pihpsdr.Rigctl.Lemmas.Command
import Pihpsdr.Rigctl.Impl.Parse
import Pihpsdr.Vfo.Lemmas.Tables

/-!
The functions behind the CAT commands use the tables inside of their bounds only, as long as what
they set exists.
-/

namespace RadioState

variable {o : TableSurroundings} {s t : RadioState}

theorem Alike.setVar1Edges (h : Alike o s t) {e e' : FilterEdges} (heq : e' = e)
    : Alike o (s.setVar1Edges e) (t.setVar1Edges e') := by
  obtain ⟨hs, rfl⟩ := h
  refine hs.alike.of_same rfl (fun _ => rfl) (fun _ => rfl) (fun tx htx => ⟨tx, htx, rfl⟩) rfl rfl ?_
  have hvar1 : Table.Has 12 filterVar1 := by decide
  have hfilters := Table.update_within₂ (hs.vfoInRange 0).mode hvar1 s.config.filters o.filters e
  rw [heq]
  unfold RadioState.setVar1Edges setFilterEdges RadioState.within
  dsimp only
  rw [hfilters]

theorem var1Edges_within (h : s.InRange) : (s.within o).var1Edges = s.var1Edges :=
  Table.within₂_of_has (h.vfoInRange 0).mode (by decide) _ _

theorem Alike.useFilterVar1 (h : Alike o s t) : Alike o s.useFilterVar1 t.useFilterVar1 :=
  h.applyIf (fun s => (s.vfo 0).filter ≠ filterVar1) (·.vfoIdFilterChanged 0 filterVar1)
    (fun _ => Iff.rfl) (·.vfoIdFilterChanged 0 (by decide))

theorem Alike.applyVar1Edges (h : Alike o s t) {e e' : FilterEdges} (heq : e' = e)
    : Alike o (s.applyVar1Edges e) (t.applyVar1Edges e') :=
  (h.setVar1Edges heq).vfoIdFilterChanged 0 (by decide)

theorem Alike.zzfhSet (h : Alike o s t) (x : Int) : Alike o (s.zzfhSet x) (t.zzfhSet x) := by
  have huse := h.useFilterVar1
  apply huse.applyVar1Edges
  rw [huse.eq, var1Edges_within huse.inRange]

theorem Alike.zzflSet (h : Alike o s t) (x : Int) : Alike o (s.zzflSet x) (t.zzflSet x) := by
  have huse := h.useFilterVar1
  apply huse.applyVar1Edges
  rw [huse.eq, var1Edges_within huse.inRange]

theorem Alike.shSet (h : Alike o s t) (i : Int) : Alike o (s.shSet i) (t.shSet i) := by
  have huse := h.useFilterVar1
  have hedges : t.useFilterVar1.var1Edges = s.useFilterVar1.var1Edges := by
    rw [huse.eq, var1Edges_within huse.inRange]
  have hmode : (t.useFilterVar1.vfo 0).mode = (s.useFilterVar1.vfo 0).mode := by
    rw [huse.eq]
    rfl
  dsimp only [RadioState.shSet]
  rw [hedges, hmode]
  apply Alike.ite Iff.rfl
  . exact huse.applyVar1Edges rfl
  . apply Alike.ite Iff.rfl
    . exact huse.applyVar1Edges rfl
    . exact huse.vfoIdFilterChanged 0 (by decide)

theorem Alike.slSet (h : Alike o s t) (i : Int) : Alike o (s.slSet i) (t.slSet i) := by
  have huse := h.useFilterVar1
  have hedges : t.useFilterVar1.var1Edges = s.useFilterVar1.var1Edges := by
    rw [huse.eq, var1Edges_within huse.inRange]
  have hmode : (t.useFilterVar1.vfo 0).mode = (s.useFilterVar1.vfo 0).mode := by
    rw [huse.eq]
    rfl
  dsimp only [RadioState.slSet]
  rw [hedges, hmode]
  apply Alike.ite Iff.rfl
  . exact huse.applyVar1Edges rfl
  . apply Alike.ite Iff.rfl
    . exact huse.applyVar1Edges rfl
    . exact huse.vfoIdFilterChanged 0 (by decide)

theorem Alike.setFmnEdges (h : Alike o s t) (e : FilterEdges) (deviation : Int)
    : Alike o
        ((((s.setVar1Edges e).setVfo 0 { s.vfo 0 with deviation := deviation }).rxSetFilter 0).txSetFilter)
        ((((t.setVar1Edges e).setVfo 0 { t.vfo 0 with deviation := deviation }).rxSetFilter 0).txSetFilter) := by
  have hs := h.inRange
  have hedges := h.setVar1Edges (rfl : e = e)
  apply Alike.txSetFilter
  apply Alike.rxSetFilter
  apply hedges.setVfo_of_eq
  . exact { hs.vfoInRange 0 with }
  . rfl
  . rfl
  . rw [h.eq]
    rfl

theorem Alike.fwSetFmn (h : Alike o s t) (fw : Int) : Alike o (s.fwSetFmn fw) (t.fwSetFmn fw) := by
  unfold RadioState.fwSetFmn
  split
  . exact (h.setFmnEdges _ _).vfoIdFilterChanged 0 (by decide)

theorem Alike.fwSet (h : Alike o s t) (fw : Int) : Alike o (s.fwSet fw) (t.fwSet fw) := by
  have huse := h.useFilterVar1
  have hedges : t.useFilterVar1.var1Edges = s.useFilterVar1.var1Edges := by
    rw [huse.eq, var1Edges_within huse.inRange]
  have hmode : (t.useFilterVar1.vfo 0).mode = (s.useFilterVar1.vfo 0).mode := by
    rw [huse.eq]
    rfl
  dsimp only [RadioState.fwSet]
  rw [hedges, hmode]
  have hset := huse.setVar1Edges
    (rfl : { s.useFilterVar1.var1Edges with low := fw } = { s.useFilterVar1.var1Edges with low := fw })
  apply Alike.ite Iff.rfl
  . exact hset.applyVar1Edges rfl
  . apply Alike.ite Iff.rfl
    . exact hset.fwSetFmn fw
    . apply Alike.ite Iff.rfl
      . exact hset.applyVar1Edges rfl
      . exact hset

theorem Alike.vfoIdSetStepFromIndex (h : Alike o s t) (id : Fin 2) (index : Int)
    : Alike o (s.vfoIdSetStepFromIndex id index) (t.vfoIdSetStepFromIndex id index) := by
  obtain ⟨hs, rfl⟩ := h
  have hv := hs.vfoInRange id
  have hset : Alike o (s.setVfo id { s.vfo id with step := vfoGetStepFromIndex index })
      ((s.within o).setVfo id { (s.within o).vfo id with step := vfoGetStepFromIndex index }) :=
    hs.alike.setVfo_of_eq { hv with } rfl rfl rfl
  have hmode := (hset.inRange.vfoInRange id).mode
  apply Alike.ite Iff.rfl _ hset
  apply hset.storeProfile hmode
  . exact { hset.inRange.profileInRange _ hmode with }
  . rw [hset.eq, vfo_within, profile_within hmode]

theorem Alike.rxSetAgc (h : Alike o s t) (id : Fin 2) : Alike o (s.rxSetAgc id) (t.rxSetAgc id) := by
  obtain ⟨hs, rfl⟩ := h
  have hmode := (hs.vfoInRange id).mode
  apply Alike.ite Iff.rfl _ hs.alike
  apply hs.alike.storeProfile hmode
  . exact ⟨(hs.profileInRange _ hmode).filter, hs.agc id⟩
  . rw [vfo_within, profile_within hmode]
    rfl

theorem Alike.setAgc (h : Alike o s t) (id : Fin 2) {agc : Int} (hagc : AgcExists agc)
    : Alike o (s.setAgc id agc) (t.setAgc id agc) := by
  obtain ⟨hs, rfl⟩ := h
  apply Alike.rxSetAgc
  exact hs.alike.setReceiver id hagc rfl

theorem Alike.vfoIdSetFrequency (h : Alike o s t) (id : Fin 2) (f : Int)
    : Alike o (s.vfoIdSetFrequency id f) (t.vfoIdSetFrequency id f) := by
  have hband := h.vfoIdAdjustBand id f
  dsimp only [RadioState.vfoIdSetFrequency]
  generalize s.vfoIdAdjustBand id f = s' at *
  generalize t.vfoIdAdjustBand id f = t' at *
  obtain ⟨hs, rfl⟩ := hband
  have hv := hs.vfoInRange id
  apply Alike.ite Iff.rfl
  . exact hs.alike.rxSetFrequency id f
  . apply Alike.ite Iff.rfl
    . exact hs.alike.setVfo_of_eq { hv with } rfl rfl rfl
    . exact hs.alike.setVfo_of_eq { hv with } rfl rfl rfl

theorem Alike.vfoXitOnoff (h : Alike o s t) (enable : Int)
    : Alike o (s.vfoXitOnoff enable) (t.vfoXitOnoff enable) := by
  obtain ⟨hs, rfl⟩ := h
  exact hs.alike.setVfo_of_eq { hs.vfoInRange s.txVfo with } rfl rfl rfl

end RadioState
