import Pihpsdr.Lib.Run
import Pihpsdr.Radio.Startup
import Pihpsdr.Vfo.Impl.Persist
import Pihpsdr.Vfo.Lemmas.Change

/-!
The indices into the band stacks, of the VFOs and of the stacks themselves. Only a change of the
region makes a stack smaller, and it resets the index of the stack but not those of the VFOs.
-/

def BandstackState.Contains (stack : BandstackState) (i : Int) : Prop :=
  0 ≤ i ∧ i < stack.entries

instance (stack : BandstackState) (i : Int) : Decidable (stack.Contains i) := by
  unfold BandstackState.Contains
  infer_instance

/--
No index points past its band stack.
-/
structure TuningState.IndicesValid (t : TuningState) : Prop where
  vfo : ∀ id, (t.bands (t.vfo id).band).bandstack.Contains (t.vfo id).bandstack
  current : ∀ b, (t.bands b).bandstack.Contains (t.bands b).bandstack.currentEntry

namespace TuningState.IndicesValid

variable {t : TuningState}

theorem setVfo (h : t.IndicesValid) (id : Fin 2) {v : VfoState}
    (hv : (t.bands v.band).bandstack.Contains v.bandstack)
    : (t.setVfo id v).IndicesValid := by
  constructor
  . intro id'
    rw [vfo_setVfo, bands_setVfo]
    by_cases hid : id' = id
    . rw [hid, Function.update_self]
      exact hv
    . rw [Function.update_of_ne hid]
      apply h.vfo
  . intro b
    apply h.current

-- a stack of the same size
theorem setBandstack (h : t.IndicesValid) (b : BandIndex) {stack : BandstackState}
    (hentries : stack.entries = (t.bands b).bandstack.entries)
    (hcurrent : stack.Contains stack.currentEntry)
    : (t.setBandstack b stack).IndicesValid := by
  constructor
  . intro id
    rw [vfo_setBandstack]
    have hvfo := h.vfo id
    by_cases hb : (t.vfo id).band = b
    . rw [hb] at hvfo ⊢
      rw [bandstack_setBandstack_self]
      unfold BandstackState.Contains at hvfo ⊢
      rwa [hentries]
    . rw [bandstack_setBandstack_of_ne t hb]
      exact hvfo
  . intro b'
    by_cases hb : b' = b
    . rw [hb, bandstack_setBandstack_self]
      exact hcurrent
    . rw [bandstack_setBandstack_of_ne t hb]
      apply h.current

theorem adjustBand (h : t.IndicesValid) {v : VfoState}
    (hv : (t.bands v.band).bandstack.Contains v.bandstack) (f : Int)
    : (t.bands (v.adjustBand t.config t.bands f).band).bandstack.Contains
        (v.adjustBand t.config t.bands f).bandstack := by
  dsimp only [VfoState.adjustBand]
  split
  . exact hv
  . apply h.current

theorem enter (h : t.IndicesValid) {v : VfoState}
    (hv : (t.bands v.band).bandstack.Contains v.bandstack) (entry : BandstackEntry)
    : (t.bands (v.enter t.config t.bands entry).band).bandstack.Contains
        (v.enter t.config t.bands entry).bandstack := by
  apply h.adjustBand
  exact hv

end TuningState.IndicesValid

namespace RadioState

variable {s : RadioState}

theorem indicesValid_vfoVfosChanged_iff
    : s.vfoVfosChanged.IndicesValid ↔ s.IndicesValid := by
  have hvfo (id : Fin 2)
      : (s.vfoVfosChanged.vfo id).band = (s.vfo id).band
        ∧ (s.vfoVfosChanged.vfo id).bandstack = (s.vfo id).bandstack := by
    simp [settled]
  have hbands : s.vfoVfosChanged.bands = s.bands := by
    simp
  constructor
  . rintro ⟨hindex, hcurrent⟩
    constructor
    . intro id
      rw [← (hvfo id).1, ← (hvfo id).2, ← hbands]
      apply hindex
    . rwa [hbands] at hcurrent
  . rintro ⟨hindex, hcurrent⟩
    constructor
    . intro id
      rw [(hvfo id).1, (hvfo id).2, hbands]
      apply hindex
    . rwa [hbands]

theorem contains_nextBandstack (h : s.IndicesValid) (id : Fin 2) {b : BandIndex}
    {stack : BandstackState} (hstack : stack.Contains stack.currentEntry)
    (hentries : stack.entries = (s.bands b).bandstack.entries)
    : stack.Contains (nextBandstack (s.vfo id) b stack) := by
  have hvfo := h.vfo id
  unfold nextBandstack
  unfold BandstackState.Contains at *
  split
  next hb =>
    rw [← hb] at hvfo
    split
    . omega
    . omega
  next => exact hstack

theorem contains_stackBefore (h : s.IndicesValid) (id : Fin 2) (b : BandIndex)
    : (s.stackBefore id b).Contains (nextBandstack (s.vfo id) b (s.stackBefore id b)) := by
  apply contains_nextBandstack h
  . have hvfo := h.vfo 0
    have hcurrent := h.current b
    unfold stackBefore
    split
    next hsaved =>
      rw [hsaved.2]
      exact hvfo
    next => exact hcurrent
  . apply entries_stackBefore

theorem contains_bandVfo (h : s.IndicesValid) (id : Fin 2) (b : BandIndex)
    : ((s.steppedFor id b).bands b).bandstack.Contains (s.bandVfo id b).bandstack := by
  have hentries : ((s.steppedFor id b).bands b).bandstack.entries
      = (s.stackBefore id b).entries := by
    dsimp only [steppedFor]
    split
    . simp
    . rw [bandstack_savedFor]
  have hnext := contains_stackBefore h id b
  unfold BandstackState.Contains at *
  rwa [hentries]

-- VFO A: the request becomes the index of the stack, whatever its entry says
theorem indicesValid_enterBandstack_zero_iff (h : s.IndicesValid) (b : Int)
    : (s.enterBandstack 0 b).IndicesValid
        ↔
      (s.bands (s.vfo 0).band).bandstack.Contains b := by
  have hcontains (stack : BandstackState)
      (hentries : stack.entries = (s.bands (s.vfo 0).band).bandstack.entries)
      : stack.Contains b ↔ (s.bands (s.vfo 0).band).bandstack.Contains b := by
    unfold BandstackState.Contains
    rw [hentries]
  have hentries := s.entries_stackBefore 0 (s.vfo 0).band
  rw [toTuningState_enterBandstack]
  simp only [if_true]
  constructor
  . intro hvalid
    have hcurrent := hvalid.current (s.vfo 0).band
    rw [TuningState.bands_setVfo, TuningState.bandstack_setBandstack_self] at hcurrent
    exact (hcontains _ hentries).mp hcurrent
  . intro hb
    have hstack : (s.toTuningState.setBandstack (s.vfo 0).band
        { s.stackBefore 0 (s.vfo 0).band with currentEntry := b }).IndicesValid := by
      apply TuningState.IndicesValid.setBandstack h
      . exact hentries
      . exact (hcontains _ hentries).mpr hb
    have hvfo : ((s.toTuningState.setBandstack (s.vfo 0).band
        { s.stackBefore 0 (s.vfo 0).band with currentEntry := b }).bands
          (s.vfo 0).band).bandstack.Contains b := by
      rw [TuningState.bandstack_setBandstack_self]
      exact (hcontains _ hentries).mpr hb
    have henter := hstack.enter (v := { s.vfo 0 with bandstack := b }) hvfo
      ((s.stackBefore 0 (s.vfo 0).band).entry b)
    apply hstack.setVfo
    split
    . exact henter
    . exact henter

-- VFO B: the index is looked up again where the entry lies in another band
theorem indicesValid_enterBandstack_of_ne_iff (h : s.IndicesValid) {id : Fin 2} (hid : id ≠ 0)
    (b : Int)
    : (s.enterBandstack id b).IndicesValid
        ↔
      (s.bands (s.vfo id).band).bandstack.Contains b
        ∨ adjustedBand s.config s.bands (s.vfo id).band
            ((s.vfo id).loadEntry (s.entryAt id b)).dial ≠ (s.vfo id).band := by
  have hvalid_iff (v : VfoState)
      : (s.toTuningState.setVfo id v).IndicesValid
        ↔ (s.bands v.band).bandstack.Contains v.bandstack := by
    constructor
    . intro hvalid
      have hvfo := hvalid.vfo id
      rwa [TuningState.vfo_setVfo, Function.update_self] at hvfo
    . apply h.setVfo
  have hprofile (v : VfoState) (c : Prop) [Decidable c] (profile : RxtxProfile)
      : (s.bands (if c then v.loadProfile profile else v).band).bandstack.Contains
          (if c then v.loadProfile profile else v).bandstack
        ↔ (s.bands v.band).bandstack.Contains v.bandstack := by
    split <;> rfl
  rw [toTuningState_enterBandstack]
  simp only [if_neg hid]
  rw [hvalid_iff, hprofile]
  dsimp only [VfoState.enter, VfoState.adjustBand]
  split
  next hband =>
    have hband : adjustedBand s.config s.bands (s.vfo id).band
        ((s.vfo id).loadEntry (s.entryAt id b)).dial = (s.vfo id).band :=
      hband.symm
    simp only [hband, ne_eq, not_true_eq_false, or_false]
    rfl
  next hband =>
    apply iff_of_true
    . apply h.current
    . right
      exact Ne.symm hband

theorem indicesValid_vfoIdBandstackChanged_iff (h : s.IndicesValid) (id : Fin 2) (b : Int)
    : (s.vfoIdBandstackChanged id b).IndicesValid
        ↔
      (s.bands (s.vfo id).band).bandstack.Contains b
        ∨ (id ≠ 0
          ∧ adjustedBand s.config s.bands (s.vfo id).band
              ((s.vfo id).loadEntry (s.entryAt id b)).dial ≠ (s.vfo id).band) := by
  rw [vfoIdBandstackChanged, indicesValid_vfoVfosChanged_iff]
  by_cases hid : id = 0
  . subst hid
    simp only [ne_eq, not_true_eq_false, false_and, or_false]
    apply indicesValid_enterBandstack_zero_iff h
  . simp only [ne_eq, hid, not_false_eq_true, true_and]
    apply indicesValid_enterBandstack_of_ne_iff h hid

theorem indicesValid_bandstackPlus (h : s.IndicesValid) : s.bandstackPlus.IndicesValid := by
  have hvfo := h.vfo s.config.activeReceiver
  dsimp only [bandstackPlus, vfoBandstackChanged]
  rw [indicesValid_vfoIdBandstackChanged_iff h]
  left
  unfold BandstackState.Contains at *
  split <;> omega

theorem indicesValid_bandstackMinus (h : s.IndicesValid) : s.bandstackMinus.IndicesValid := by
  have hvfo := h.vfo s.config.activeReceiver
  dsimp only [bandstackMinus, vfoBandstackChanged]
  rw [indicesValid_vfoIdBandstackChanged_iff h]
  left
  unfold BandstackState.Contains at *
  split <;> omega

theorem indicesValid_initialState : initialState.IndicesValid := by
  constructor
  . decide
  . decide

end RadioState
