import Pihpsdr.Rigctl.Lemmas.Params
import Pihpsdr.Rigctl.Lemmas.Var1

/-!
A parameter is read as it has been set, and the other VFO and the other receiver do not change: for
which values and in which states this holds.
-/

namespace RadioState

variable {id id' : Fin 2} {s t : RadioState}

theorem Untouched.vfoIdSetFrequency (h : Untouched id s t) (hid : id ≠ id') (f : Int)
    : Untouched id s (t.vfoIdSetFrequency id' f) := by
  have hband := h.vfoIdAdjustBand hid f
  apply Untouched.ite
  . exact hband.rxSetFrequency hid f
  . exact (hband.setVfo hid _).ite (hband.setVfo hid _)

theorem Untouched.setAgc (h : Untouched id s t) (hid : id ≠ id') (agc : Int)
    : Untouched id s (t.setAgc id' agc) := by
  have hset := h.setReceiver hid { t.receiver id' with agc := agc }
  unfold RadioState.setAgc rxSetAgc
  apply Untouched.ite _ hset
  exact hset.of_same rfl rfl

variable (s)

theorem split_radioSetSplit (val : Int)
    : (s.radioSetSplit val).split = if s.transmitter.isSome then val else s.split := by
  unfold radioSetSplit
  split_ifs
  . rw [toTuningState_radioApplyBandSettings, toTuningState_radioTxVfoChanged]
  . rfl

theorem ctun_rxSetFrequency (id : Fin 2) (f : Int)
    : ((s.rxSetFrequency id f).vfo id).ctun = (s.vfo id).ctun := by
  dsimp only [rxSetFrequency]
  rw [toTuningState_rxFrequencyChanged, TuningState.vfo_setVfo, Function.update_self,
    toTuningState_setVfo, TuningState.vfo_setVfo, Function.update_self]
  dsimp only [VfoState.frequencyChanged, VfoState.setDial]
  split_ifs <;> rfl

theorem ctun_vfoIdAdjustBand (id : Fin 2) (f : Int)
    : ((s.vfoIdAdjustBand id f).vfo id).ctun = (s.vfo id).ctun := by
  rw [toTuningState_vfoIdAdjustBand, TuningState.vfo_setVfo, Function.update_self,
    VfoState.adjustBand_eq]

-- the band and the frequency that follow do not change CTUN
theorem ctun_settled (id : Fin 2) (v : VfoState) (f : Int)
    : let t := (s.setVfo id v).vfoIdAdjustBand id f
      ((if t.Running id then t.rxSetFrequency id f else t).vfo id).ctun = v.ctun := by
  dsimp only
  split_ifs
  . rw [ctun_rxSetFrequency, ctun_vfoIdAdjustBand, toTuningState_setVfo, TuningState.vfo_setVfo,
      Function.update_self]
  . rw [ctun_vfoIdAdjustBand, toTuningState_setVfo, TuningState.vfo_setVfo, Function.update_self]

theorem ctun_vfoIdCtunUpdate (id : Fin 2) (state : Int)
    : ((s.vfoIdCtunUpdate id state).vfo id).ctun = state := by
  unfold vfoIdCtunUpdate
  by_cases hsame : (s.vfo id).ctun = state
  . rw [if_pos hsame, hsame]
  . rw [if_neg hsame]
    by_cases hstate : state ≠ 0
    . rw [if_pos hstate]
      apply ctun_settled
    . rw [if_neg hstate]
      apply ctun_settled

end RadioState

namespace Rigctl

open RadioState

-- `FW` is read in CW as twice the lower edge, and in FMN as a flag
def FwFaithful (x : Int) (s : RadioState) : Prop :=
  let mode := (s.vfo 0).mode
  (IsCw mode ∧ 2 ∣ x ∧ s.SecondKeeps ⟨x.tdiv 2, x.tdiv 2⟩)
    ∨ (mode = modeFmn ∧ x ≤ 1 ∧ s.SecondKeeps (fmnEdges x))

def ShFaithful (x : Int) (s : RadioState) : Prop :=
  let mode := (s.vfo 0).mode
  (IsUpper mode ∨ IsLower mode) ∧ s.SecondKeeps (s.shEdges x)

-- in the modes that `SL` does not know it reads the edge that `Var1` has
def SlFaithful (x : Int) (s : RadioState) : Prop :=
  let mode := (s.vfo 0).mode
  (IsUpper mode ∨ IsLower mode ∨ waterIndex slMarks s.var1Edges.low = x)
    ∧ s.SecondKeeps (s.slEdges x)

-- the edges of a receiver are read, with the sidetone in CW and from the deviation in FMN
def EdgeFaithful (x edge : Int) (e : FilterEdges) (s : RadioState) : Prop :=
  let mode := (s.vfo 0).mode
  (IsCw mode → s.config.cwKeyerSidetoneFrequency = 0) ∧ (mode = modeFmn → edge = x) ∧ s.SecondKeeps e

-- the values and the states for which a parameter is read as it has been set
def CatParam.Faithful (x : Int) (s : Rig) : CatParam → Prop
  | fa | fb | gt | ks | md | rt | sd | zzcn | zzco | zzfa | zzfb | zzma | zzmd => True
  | zzmb | zzme => False
  | fr => s.radio.config.activeReceiver.val = x
  | ft => s.hasTransmitter ∨ s.radio.split = x
  | fw => FwFaithful x s.radio
  | sa => x ≠ 1000001
  | sh => ShFaithful x s.radio
  | sl => SlFaithful x s.radio
  | xt => s.hasTransmitter
  | zzfh =>
    EdgeFaithful x (3000 + (s.radio.vfo 0).deviation) { s.radio.var1Edges with high := x } s.radio
  | zzfl =>
    EdgeFaithful x (-(3000 + (s.radio.vfo 0).deviation)) { s.radio.var1Edges with low := x } s.radio

variable {s : Rig} {x : Int}

theorem keepsOthers_of_radio {named : Option (Fin 2)} {r : RadioState}
    (h : ∀ id : Fin 2, named ≠ some id → s.radio.Untouched id r)
    : KeepsOthers named s { s with radio := r } :=
  fun id hid => ⟨h id hid, rfl⟩

-- the commands for VFO A
theorem keepsOthers_first_iff {r : RadioState}
    : KeepsOthers (some 0) s { s with radio := r } ↔ s.radio.Untouched 1 r := by
  constructor
  . intro h
    exact (h 1 (by decide)).1
  . intro h
    apply keepsOthers_of_radio
    rw [Fin.forall_fin_two]
    exact ⟨fun hne => absurd rfl hne, fun _ => h⟩

theorem keepsOthers_same {named : Option (Fin 2)} {s' : Rig} (hradio : s'.radio = s.radio)
    (hrx : s'.rx = s.rx)
    : KeepsOthers named s s' := by
  intro id _
  rw [hradio, hrx]
  exact ⟨Untouched.refl id s.radio, rfl⟩

theorem keepsOthers_own {id' : Fin 2} {r : RadioState}
    (h : ∀ id : Fin 2, id ≠ id' → s.radio.Untouched id r)
    : KeepsOthers (some id') s { s with radio := r } := by
  apply keepsOthers_of_radio
  intro id hid
  apply h
  intro heq
  exact hid (congrArg some heq.symm)

theorem filterOfVfoA_switchToVar1 (r : RadioState) (e : FilterEdges)
    : filterOfVfoA (r.switchToVar1 e) = e := by
  have hvar1 := r.var1Edges_switchToVar1 e
  unfold var1Edges at hvar1
  unfold filterOfVfoA
  have hfilter : ((r.switchToVar1 e).vfo 0).filter = filterVar1 := by
    rw [vfo_switchToVar1, Function.update_self]
  rw [hfilter, hvar1]

section Filter

variable (r : RadioState)

theorem fwValue_of_none {r : RadioState} (hcw : ¬ IsCw (r.vfo 0).mode) (ham : ¬ IsAm (r.vfo 0).mode)
    (hfmn : (r.vfo 0).mode ≠ modeFmn)
    : CatParam.fwValue r = none := by
  unfold CatParam.fwValue
  rw [if_neg hcw, if_neg ham, if_neg hfmn]

theorem not_isCw_of_fmn {mode : Int} (h : mode = modeFmn) : ¬ IsCw mode := by
  subst h
  decide

theorem not_isAm_of_fmn {mode : Int} (h : mode = modeFmn) : ¬ IsAm mode := by
  subst h
  decide

theorem not_isCw_of_isAm {mode : Int} (h : IsAm mode) : ¬ IsCw mode := by
  unfold IsAm IsCw modeAm modeSam modeCwl modeCwu at *
  omega

-- half of the width and twice the edge
theorem fwValue_of_cw {x : Int} (hcw : IsCw (r.vfo 0).mode)
    : CatParam.fwValue (r.fwSet x) = some x ↔ 2 ∣ x := by
  have hmode := r.mode_switchToVar1 ⟨x.tdiv 2, x.tdiv 2⟩
  rw [r.fwSet_of_cw hcw, CatParam.fwValue, hmode, if_pos hcw, filterOfVfoA_switchToVar1,
    Option.some_inj]
  exact ⟨fun h => Dvd.intro_left _ h, Int.tdiv_mul_cancel⟩

-- the comparison is the wrong way round
theorem fwValue_of_am {x : Int} (ham : IsAm (r.vfo 0).mode)
    : CatParam.fwValue (r.fwSet x) ≠ some x := by
  have hmode := r.mode_switchToVar1 (if x = 0 then ⟨-4000, 4000⟩ else ⟨-8000, 8000⟩)
  rw [r.fwSet_of_am ham, CatParam.fwValue, hmode, if_neg (not_isCw_of_isAm ham), if_pos ham,
    filterOfVfoA_switchToVar1, Ne, Option.some_inj]
  by_cases hx : x = 0
  . subst hx
    decide
  . rw [if_neg hx]
    intro h
    exact hx h.symm

theorem fwValue_of_fmn {x : Int} (hx : 0 ≤ x) (hfmn : (r.vfo 0).mode = modeFmn)
    : CatParam.fwValue (r.fwSet x) = some x ↔ x ≤ 1 := by
  have hvfo : ((r.fwSet x).vfo 0).mode = modeFmn
      ∧ ((r.fwSet x).vfo 0).deviation = fmnDeviation x := by
    rw [r.fwSet_of_fmn x hfmn, vfo_fwSetFmn, Function.update_self]
    dsimp only
    rw [mode_useFilterVar1]
    exact ⟨hfmn, rfl⟩
  unfold CatParam.fwValue
  rw [if_neg (not_isCw_of_fmn hvfo.1), if_neg (not_isAm_of_fmn hvfo.1), if_pos hvfo.1, hvfo.2,
    Option.some_inj]
  unfold fmnDeviation
  split_ifs
  all_goals omega

theorem mode_fwSet_of_other {x : Int} (hcw : ¬ IsCw (r.vfo 0).mode) (ham : ¬ IsAm (r.vfo 0).mode)
    (hfmn : (r.vfo 0).mode ≠ modeFmn)
    : ((r.fwSet x).vfo 0).mode = (r.vfo 0).mode := by
  dsimp only [RadioState.fwSet]
  rw [mode_useFilterVar1, if_neg hcw, if_neg hfmn, if_neg ham]
  exact mode_useFilterVar1

theorem fw_iff {x : Int} (hx : 0 ≤ x)
    : CatParam.fwValue (r.fwSet x) = some x ∧ r.Untouched 1 (r.fwSet x) ↔ FwFaithful x r := by
  dsimp only [FwFaithful]
  by_cases hcw : IsCw (r.vfo 0).mode
  . have hfmn : (r.vfo 0).mode ≠ modeFmn := fun h => not_isCw_of_fmn h hcw
    have hkeeps := r.untouched_switchToVar1_iff ⟨x.tdiv 2, x.tdiv 2⟩
    rw [← r.fwSet_of_cw hcw] at hkeeps
    rw [fwValue_of_cw r hcw, hkeeps]
    simp [hcw, hfmn]
  . by_cases hfmn : (r.vfo 0).mode = modeFmn
    . have hkeeps := r.untouched_fwSetFmn_iff x
      rw [← r.fwSet_of_fmn x hfmn] at hkeeps
      rw [fwValue_of_fmn r hx hfmn, hkeeps]
      simp [hfmn, not_isCw_of_fmn]
    . have hnot : CatParam.fwValue (r.fwSet x) ≠ some x := by
        by_cases ham : IsAm (r.vfo 0).mode
        . exact fwValue_of_am r ham
        . have hmode := mode_fwSet_of_other (x := x) r hcw ham hfmn
          rw [← hmode] at hcw ham hfmn
          rw [fwValue_of_none hcw ham hfmn]
          simp
      simp [hnot, hcw, hfmn]

theorem waterIndex_waterMark {marks : List Int} (hmarks : marks = shMarks ∨ marks = slMarks) {i : Int}
    (hi : 0 ≤ i ∧ i ≤ 11)
    : waterIndex marks (waterMark marks i) = i ∧ waterIndex marks |-waterMark marks i| = i := by
  have hall : ∀ marks ∈ [shMarks, slMarks], ∀ n ∈ List.range 12,
      waterIndex marks (waterMark marks (n : Nat)) = (n : Nat)
        ∧ waterIndex marks |-waterMark marks (n : Nat)| = (n : Nat) := by
    decide
  have ⟨n, hn⟩ := Int.eq_ofNat_of_zero_le hi.1
  subst hn
  exact hall marks (by simpa using hmarks) n (List.mem_range.mpr (by omega))

theorem shValue_shSet {x : Int} (hx : 0 ≤ x ∧ x ≤ 11)
    : CatParam.shValue (r.shSet x) = some x ↔ IsUpper (r.vfo 0).mode ∨ IsLower (r.vfo 0).mode := by
  have hmark := waterIndex_waterMark (.inl rfl) hx
  rw [r.shSet_eq, CatParam.shValue, mode_switchToVar1, filterOfVfoA_switchToVar1, shEdges]
  by_cases hupper : IsUpper (r.vfo 0).mode
  . have hlower := not_isLower_of_isUpper hupper
    simp [hupper, hlower, hmark.1]
  . by_cases hlower : IsLower (r.vfo 0).mode
    . rw [if_pos hlower, if_neg hupper, if_pos hlower, hmark.2]
      simp [hlower]
    . simp [hupper, hlower]

theorem slValue_slSet {x : Int} (hx : 0 ≤ x ∧ x ≤ 11)
    : CatParam.slValue (r.slSet x) = x
        ↔ IsUpper (r.vfo 0).mode ∨ IsLower (r.vfo 0).mode ∨ waterIndex slMarks r.var1Edges.low = x := by
  have hmark := waterIndex_waterMark (.inr rfl) hx
  rw [r.slSet_eq, CatParam.slValue, mode_switchToVar1, filterOfVfoA_switchToVar1, slEdges]
  by_cases hupper : IsUpper (r.vfo 0).mode
  . have hlower := not_isLower_of_isUpper hupper
    simp [hupper, hlower, hmark.1]
  . by_cases hlower : IsLower (r.vfo 0).mode
    . rw [if_pos hlower, if_pos hlower, hmark.2]
      simp [hlower]
    . simp [hupper, hlower]

theorem filterHigh_setFilter_iff (rx : ReceiverState) {config : RadioConfig} {v : VfoState} {x : Int}
    (h : (config.filters v.mode v.filter).high = x)
    : (rx.setFilter config v).filterHigh = x
        ↔ (IsCw v.mode → config.cwKeyerSidetoneFrequency = 0)
          ∧ (v.mode = modeFmn → 3000 + v.deviation = x) := by
  unfold ReceiverState.setFilter IsCw
  split_ifs with hcwl hcwu hfmn
  . dsimp only
    rw [h, hcwl]
    simp [modeCwl, modeFmn]
  . dsimp only
    rw [h, hcwu]
    simp [modeCwu, modeFmn]
  . simp [hfmn, modeFmn, modeCwl, modeCwu]
  . simp [hcwl, hcwu, hfmn, h]

theorem filterLow_setFilter_iff (rx : ReceiverState) {config : RadioConfig} {v : VfoState} {x : Int}
    (h : (config.filters v.mode v.filter).low = x)
    : (rx.setFilter config v).filterLow = x
        ↔ (IsCw v.mode → config.cwKeyerSidetoneFrequency = 0)
          ∧ (v.mode = modeFmn → -(3000 + v.deviation) = x) := by
  unfold ReceiverState.setFilter IsCw
  split_ifs with hcwl hcwu hfmn
  . dsimp only
    rw [h, hcwl]
    simp [modeCwl, modeFmn]
  . dsimp only
    rw [h, hcwu]
    simp [modeCwu, modeFmn]
  . simp [hfmn, modeFmn, modeCwl, modeCwu]
  . simp [hcwl, hcwu, hfmn, h]

theorem receiver_switchToVar1_zero (hrunning : r.Running 0) (e : FilterEdges)
    : (r.switchToVar1 e).receiver 0
        =
      (r.receiver 0).setFilter (r.setVar1Edges e).config { r.vfo 0 with filter := filterVar1 } := by
  rw [receiver_switchToVar1, if_pos hrunning, vfo_switchToVar1, Function.update_self]

theorem zzfh_iff (hrunning : r.Running 0) {x : Int} (hx : -9999 ≤ x ∧ x ≤ 9999)
    : ((r.zzfhSet x).receiver 0).filterHigh = x ∧ r.Untouched 1 (r.zzfhSet x)
        ↔ EdgeFaithful x (3000 + (r.vfo 0).deviation) { r.var1Edges with high := x } r := by
  have hedges := r.var1Edges_setVar1Edges { r.var1Edges with high := x }
  have hhigh := congrArg FilterEdges.high hedges
  rw [r.zzfhSet_eq hx.1 hx.2, untouched_switchToVar1_iff, receiver_switchToVar1_zero r hrunning,
    filterHigh_setFilter_iff _ hhigh]
  exact and_assoc

theorem zzfl_iff (hrunning : r.Running 0) {x : Int} (hx : -9999 ≤ x ∧ x ≤ 9999)
    : ((r.zzflSet x).receiver 0).filterLow = x ∧ r.Untouched 1 (r.zzflSet x)
        ↔ EdgeFaithful x (-(3000 + (r.vfo 0).deviation)) { r.var1Edges with low := x } r := by
  have hedges := r.var1Edges_setVar1Edges { r.var1Edges with low := x }
  have hlow := congrArg FilterEdges.low hedges
  rw [r.zzflSet_eq hx.1 hx.2, untouched_switchToVar1_iff, receiver_switchToVar1_zero r hrunning,
    filterLow_setFilter_iff _ hlow]
  exact and_assoc

end Filter

namespace CatParam

-- what is read after a parameter has been set, and what else has changed
def Law (p : CatParam) (x : Int) (s : Rig) : Prop :=
  p.get (p.set x s) = some x ∧ KeepsOthers (p.names s) s (p.set x s)

theorem law_of_own {p : CatParam} (id : Fin 2) {r : RadioState} (hset : p.set x s = { s with radio := r })
    (hnames : p.names s = some id) (hget : p.get { s with radio := r } = some x)
    (hothers : ∀ id' : Fin 2, id' ≠ id → s.radio.Untouched id' r)
    : p.Law x s := by
  rw [Law, hset, hnames]
  exact ⟨hget, keepsOthers_own hothers⟩

theorem law_of_same {p : CatParam} (hget : p.get (p.set x s) = some x)
    (hradio : (p.set x s).radio = s.radio) (hrx : (p.set x s).rx = s.rx)
    : p.Law x s :=
  ⟨hget, keepsOthers_same hradio hrx⟩

theorem not_law {p : CatParam} (hget : p.get (p.set x s) ≠ some x) : ¬ p.Law x s :=
  fun h => hget h.1

theorem law_frequency {p : CatParam} (v : Fin 2)
    (hset : p.set x s = { s with radio := s.radio.vfoIdSetFrequency v x }) (hnames : p.names s = some v)
    (hget : ∀ s : Rig, p.get s = some (s.radio.vfo v).dial)
    : p.Law x s := by
  apply law_of_own v hset hnames
  . rw [hget, dial_vfoIdSetFrequency]
  . intro id hid
    exact (Untouched.refl id s.radio).vfoIdSetFrequency hid x

theorem law_ctun {p : CatParam} (v : Fin 2)
    (hset : p.set x s = { s with radio := s.radio.vfoIdCtunUpdate v x }) (hnames : p.names s = some v)
    (hget : ∀ s : Rig, p.get s = some (s.radio.vfo v).ctun)
    : p.Law x s := by
  apply law_of_own v hset hnames
  . rw [hget, ctun_vfoIdCtunUpdate]
  . intro id hid
    exact (Untouched.refl id s.radio).vfoIdCtunUpdate hid x

theorem law_mode {p : CatParam} (m : Int)
    (hset : p.set x s = { s with radio := s.radio.vfoIdModeChanged 0 m }) (hnames : p.names s = some 0)
    (hget : ∀ s : Rig, (s.radio.vfo 0).mode = m → p.get s = some x)
    : p.Law x s := by
  apply law_of_own 0 hset hnames
  . exact hget _ (s.radio.mode_vfoIdModeChanged 0 m)
  . intro id hid
    exact (Untouched.refl id s.radio).vfoIdModeChanged hid m

theorem law_gt (hx : gt.Admissible x) : gt.Law x s := by
  apply law_of_own 0 rfl rfl
  . have hcases : x.tdiv 5 * 5 = x := by
      have hall : ∀ x ∈ ([0, 5, 10, 15, 20] : List Int), x.tdiv 5 * 5 = x := by decide
      exact hall x hx
    dsimp only [get]
    rw [agc_setAgc, hcases]
  . intro id hid
    exact (Untouched.refl id s.radio).setAgc hid (x.tdiv 5)

theorem law_md (hx : md.Admissible x) : md.Law x s := by
  apply law_mode (wdspmode x) rfl rfl
  intro s hmode
  have hall : ∀ x ∈ ([1, 2, 3, 4, 5, 6, 7, 9] : List Int), ts2000Mode (wdspmode x) = x := by decide
  dsimp only [get]
  rw [hmode, hall x hx]

theorem law_rt : rt.Law x s := by
  apply law_of_own 0 rfl rfl
  . dsimp only [get]
    rw [toTuningState_setVfo, TuningState.vfo_setVfo, Function.update_self]
  . intro id hid
    exact (Untouched.refl id s.radio).setVfo hid _

theorem law_zzma : zzma.Law x s := by
  constructor
  . dsimp only [get, set, Rig.setRx]
    rw [Function.update_self]
  . intro id hid
    have hne : (id.val : Int) ≠ 0 := by
      intro hzero
      apply hid
      have hval : id = 0 := by exact_mod_cast hzero
      rw [hval]
      rfl
    refine ⟨Untouched.refl id s.radio, ?_⟩
    dsimp only [set, Rig.setRx]
    rw [Function.update_of_ne hne]

theorem law_sa (hx : sa.Admissible x) : sa.Law x s ↔ x ≠ 1000001 := by
  have hothers : KeepsOthers (sa.names s) s (sa.set x s) :=
    keepsOthers_of_radio fun id _ => (Untouched.refl id s.radio).of_same rfl rfl
  have hdigits : satDigits (modeOfDigits x) = x ↔ x ≠ 1000001 := by
    have hall : ∀ x ∈ ([0, 1000100, 1000010, 1000001] : List Int),
        satDigits (modeOfDigits x) = x ↔ x ≠ 1000001 := by decide
    exact hall x hx
  rw [← hdigits, Law, and_iff_left hothers]
  exact Option.some_inj

-- the active receiver changes later
theorem law_fr : fr.Law x s ↔ s.radio.config.activeReceiver.val = x := by
  have hradio : (fr.set x s).radio = s.radio := by
    dsimp only [set]
    split_ifs <;> rfl
  have hrx : (fr.set x s).rx = s.rx := by
    dsimp only [set]
    split_ifs <;> rfl
  rw [Law, and_iff_left (keepsOthers_same hradio hrx), get, hradio]
  exact Option.some_inj

theorem law_ft : ft.Law x s ↔ s.hasTransmitter ∨ s.radio.split = x := by
  have hothers : KeepsOthers (ft.names s) s (ft.set x s) :=
    keepsOthers_of_radio fun id _ => (Untouched.refl id s.radio).radioSetSplit x
  have hsplit := s.radio.split_radioSetSplit x
  rw [Law, and_iff_left hothers]
  dsimp only [get, set]
  rw [hsplit, Rig.hasTransmitter, Option.some_inj]
  split_ifs with htx
  . simp [htx]
  . simp [htx]

theorem law_xt (hx : xt.Admissible x) : xt.Law x s ↔ s.hasTransmitter := by
  constructor
  . intro h
    by_contra htx
    have hget := h.1
    rw [set, if_neg htx, get, if_neg htx] at hget
    cases hget
  . intro htx
    have hset : xt.set x s = { s with radio := s.radio.vfoXitOnoff x } := if_pos htx
    apply law_of_own s.radio.txVfo hset rfl
    . have hbit : (if x ≠ 0 then 1 else 0) = x := by
        have hrange : 0 ≤ x ∧ x ≤ 1 := hx
        split_ifs
        all_goals omega
      have hxit : ((s.radio.vfoXitOnoff x).vfo (s.radio.vfoXitOnoff x).txVfo).xitEnabled = x := by
        have htxVfo : (s.radio.vfoXitOnoff x).txVfo = s.radio.txVfo := rfl
        rw [htxVfo, vfoXitOnoff, toTuningState_setVfo, TuningState.vfo_setVfo, Function.update_self]
        exact hbit
      have hget : xt.get { s with radio := s.radio.vfoXitOnoff x }
          = some ((s.radio.vfoXitOnoff x).vfo (s.radio.vfoXitOnoff x).txVfo).xitEnabled := if_pos htx
      rw [hget, hxit]
    . intro id hid
      exact (Untouched.refl id s.radio).setVfo hid _

theorem law_iff_faithful (p : CatParam) (hx : p.Admissible x) (hs : 0 < s.radio.config.receivers)
    : p.Law x s ↔ p.Faithful x s := by
  have hzero : s.radio.Running 0 := hs
  cases p with
  | fa | zzfa => exact iff_true_intro (law_frequency 0 rfl rfl fun _ => rfl)
  | fb | zzfb => exact iff_true_intro (law_frequency 1 rfl rfl fun _ => rfl)
  | fr => exact law_fr
  | ft => exact law_ft
  | fw =>
    rw [Faithful, ← fw_iff s.radio hx.1, ← keepsOthers_first_iff]
    rfl
  | gt => exact iff_true_intro (law_gt hx)
  | ks => exact iff_true_intro (law_of_same rfl rfl rfl)
  | md => exact iff_true_intro (law_md hx)
  | rt => exact iff_true_intro law_rt
  | sa => exact law_sa hx
  | sd =>
    have hmin : min x 1000 = x := min_eq_left hx.2
    exact iff_true_intro (law_of_same (congrArg some hmin) rfl rfl)
  | sh =>
    rw [Faithful, ShFaithful, ← shValue_shSet s.radio hx, ← untouched_switchToVar1_iff, ← shSet_eq,
      ← keepsOthers_first_iff]
    rfl
  | sl =>
    rw [Faithful, SlFaithful, ← slValue_slSet s.radio hx, ← untouched_switchToVar1_iff, ← slSet_eq,
      ← keepsOthers_first_iff, ← Option.some_inj]
    rfl
  | xt => exact law_xt hx
  | zzcn => exact iff_true_intro (law_ctun 0 rfl rfl fun _ => rfl)
  | zzco => exact iff_true_intro (law_ctun 1 rfl rfl fun _ => rfl)
  | zzfh =>
    rw [Faithful, ← zzfh_iff s.radio hzero hx, ← keepsOthers_first_iff, ← Option.some_inj]
    rfl
  | zzfl =>
    rw [Faithful, ← zzfl_iff s.radio hzero hx, ← keepsOthers_first_iff, ← Option.some_inj]
    rfl
  | zzma => exact iff_true_intro law_zzma
  | zzmd => exact iff_true_intro (law_mode x rfl rfl fun _ hmode => congrArg some hmode)
  | zzmb | zzme => exact iff_false_intro (not_law (by rw [get]; simp))

end CatParam

theorem roundTrip_iff_faithful (lib : CLibrary) {p : CatParam} {x : Int} (hx : p.Admissible x) (s : Rig)
    (hs : 0 < s.radio.config.receivers) {set read : CommandBuffer}
    (hset : set.Holds (commandText (p.setBody x))) (hread : read.Holds (commandText p.readBody))
    : RoundTrip lib p x s set read ↔ p.Faithful x s := by
  rw [roundTrip_iff_get hx hset hread]
  exact p.law_iff_faithful hx hs

def setCommand (p : CatParam) (x : Int) : CommandBuffer :=
  CommandBuffer.ofText (commandText (p.setBody x)) fun _ => 0

def readCommand (p : CatParam) : CommandBuffer :=
  CommandBuffer.ofText (commandText p.readBody) fun _ => 0

theorem holds_setCommand {p : CatParam} (hx : p.Admissible x)
    : (setCommand p x).Holds (commandText (p.setBody x)) := by
  apply holds_ofText
  have hlen := length_setBody hx
  have hshort : p.name.length + p.width < 16 := by
    cases p <;> decide
  simp only [commandText, List.length_append, hlen, List.length_singleton, maxDataSize]
  omega

theorem holds_readCommand (p : CatParam) : (readCommand p).Holds (commandText p.readBody) := by
  apply holds_ofText
  cases p <;> decide

theorem roundTrip_fa
    : RoundTrip zeroLibrary .fa 14074000 startRig (setCommand .fa 14074000) (readCommand .fa) :=
  have hx : CatParam.fa.Admissible 14074000 := ⟨by decide, by decide⟩
  (roundTrip_iff_faithful zeroLibrary hx startRig (by decide) (holds_setCommand hx)
    (holds_readCommand .fa)).mpr trivial

-- `ZZME01;` sets the mode of VFO A, and `ZZME;` has the reply of `ZZMD;`
theorem not_roundTrip_zzme
    : CatParam.zzme.Admissible 1
        ∧ ¬ RoundTrip zeroLibrary .zzme 1 startRig (setCommand .zzme 1) (readCommand .zzme) := by
  have hx : CatParam.zzme.Admissible 1 := ⟨by decide, by decide⟩
  refine ⟨hx, ?_⟩
  intro h
  have hread := (roundTrip_iff_get hx (holds_setCommand hx) (holds_readCommand .zzme) startRig).mp h
  cases hread.1

end Rigctl
