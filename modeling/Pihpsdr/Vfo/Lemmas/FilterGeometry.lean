import Mathlib.Tactic.LinearCombination
import Mathlib.Tactic.Tauto
import Pihpsdr.Radio.Startup
import Pihpsdr.Vfo.Impl.FilterEdges

/-!
The geometry of the changes in `filter.c`: what a shift, a change of the width and a change of one edge
do to the pair of the edges. In the CW modes the edges of the receiver include the sidetone, which is
added again each time they are applied.
-/

namespace FilterEdges

def move (e : FilterEdges) (d : Int) : FilterEdges :=
  ⟨e.low + d, e.high + d⟩

theorem move_move (e : FilterEdges) (d d' : Int) : (e.move d).move d' = e.move (d + d') := by
  unfold move
  dsimp only
  rw [Int.add_assoc, Int.add_assoc]

@[simp]
theorem move_zero (e : FilterEdges) : e.move 0 = e := by
  unfold move
  rw [Int.add_zero, Int.add_zero]

-- what is added to the edges when they are applied
def cwOffset (mode sidetone : Int) : Int :=
  if mode = modeCwu then sidetone else if mode = modeCwl then -sidetone else 0

-- CW and the modes with two side bands
def TwoSided (mode : Int) : Prop :=
  mode ≠ modeLsb ∧ mode ≠ modeDigl ∧ mode ≠ modeUsb ∧ mode ≠ modeDigu

-- the modes in which `low` is the edge of the high audio frequencies
def Reversed (mode : Int) : Prop :=
  mode = modeLsb ∨ mode = modeDigl ∨ mode = modeCwl

instance (mode : Int) : Decidable (Reversed mode) :=
  inferInstanceAs (Decidable (_ ∨ _))

-- half of the change of the width in these modes
def widthScale (mode : Int) : Int :=
  if mode = modeCwl ∨ mode = modeCwu then 5 else 50

def shiftBy (mode increment : Int) : Int :=
  increment * (shiftScale mode).1 * (shiftScale mode).2.2

theorem shiftBy_add (mode a b : Int) : shiftBy mode (a + b) = shiftBy mode a + shiftBy mode b := by
  unfold shiftBy
  rw [Int.add_mul, Int.add_mul]

theorem two_dvd_add_of_even {e : FilterEdges} (h : 2 ∣ e.high - e.low) : 2 ∣ e.high + e.low := by
  omega

-- the width is halved, and an odd width loses the rest
theorem width_shiftChanged (e : FilterEdges) (mode increment : Int)
    : (e.shiftChanged mode increment).high - (e.shiftChanged mode increment).low
        = 2 * (e.high - e.low).tdiv 2 := by
  unfold shiftChanged
  dsimp only
  omega

theorem shiftChanged_of_even {e : FilterEdges} (h : 2 ∣ e.high - e.low) (mode increment : Int)
    : e.shiftChanged mode increment = e.move (shiftBy mode increment) := by
  have hwid := Int.tdiv_mul_cancel h
  have hmid := Int.tdiv_mul_cancel (two_dvd_add_of_even h)
  have hlow : (e.high + e.low).tdiv 2 - (e.high - e.low).tdiv 2 = e.low := by omega
  have hhigh : (e.high + e.low).tdiv 2 + (e.high - e.low).tdiv 2 = e.high := by omega
  unfold shiftChanged shiftBy move
  dsimp only
  congr 1
  . linear_combination hlow
  . linear_combination hhigh

variable {e : FilterEdges} {mode : Int}

theorem widthChanged_of_twoSided (hmode : TwoSided mode) (increment : Int)
    : e.widthChanged mode increment
        = collapse ⟨e.low - increment * widthScale mode, e.high + increment * widthScale mode⟩ := by
  obtain ⟨hlsb, hdigl, husb, hdigu⟩ := hmode
  unfold widthChanged widthScale
  split_ifs
  all_goals first | rfl | omega

theorem highChanged_keeps (sidetone increment : Int)
    : if Reversed mode then (e.highChanged mode sidetone increment).high = e.high
      else (e.highChanged mode sidetone increment).low = e.low := by
  by_cases hrev : Reversed mode
  . rw [if_pos hrev]
    unfold highChanged
    split_ifs
    all_goals first | rfl | (unfold Reversed at hrev; tauto)
  . rw [if_neg hrev]
    unfold highChanged
    split_ifs
    all_goals first | rfl | (unfold Reversed at hrev; tauto)

theorem lowChanged_keeps (sidetone increment : Int)
    : if Reversed mode then (e.lowChanged mode sidetone increment).low = e.low
      else (e.lowChanged mode sidetone increment).high = e.high := by
  by_cases hrev : Reversed mode
  . rw [if_pos hrev]
    unfold lowChanged
    split_ifs
    all_goals first | rfl | (unfold Reversed at hrev; tauto)
  . rw [if_neg hrev]
    unfold lowChanged
    split_ifs
    all_goals first | rfl | (unfold Reversed at hrev; tauto)

end FilterEdges

theorem ReceiverState.edges_setEdges (rx : ReceiverState) (mode sidetone : Int) (e : FilterEdges)
    : (rx.setEdges mode sidetone e).edges = e.move (FilterEdges.cwOffset mode sidetone) := by
  unfold setEdges edges FilterEdges.cwOffset FilterEdges.move
  split_ifs
  . rfl
  . rfl
  . rw [Int.add_zero, Int.add_zero]

-- the edges are all that is set
theorem ReceiverState.setEdges_setEdges (rx : ReceiverState) (mode sidetone : Int)
    (e e' : FilterEdges)
    : (rx.setEdges mode sidetone e).setEdges mode sidetone e' = rx.setEdges mode sidetone e' := by
  unfold setEdges
  split_ifs
  all_goals rfl

namespace RadioState

-- the edges of a receiver
def edges (s : RadioState) (id : Fin 2) : FilterEdges :=
  (s.receiver id).edges

def cwOffset (s : RadioState) (id : Fin 2) : Int :=
  FilterEdges.cwOffset (s.vfo id).mode s.config.cwKeyerSidetoneFrequency

/--
A shift keeps the width and is additive, a change of the width keeps the middle in CW and in the modes
with two side bands as long as the edges do not meet, and a change of one edge leaves the other.
-/
structure ObeysGeometry (s : RadioState) (id : Fin 2) (a b : Int) : Prop where
  shift : ∃ d, (s.filterShiftChanged id a).edges id = (s.edges id).move d
  shiftAdd : (s.filterShiftChanged id a).filterShiftChanged id b = s.filterShiftChanged id (a + b)
  width : FilterEdges.TwoSided (s.vfo id).mode →
    (s.edges id).low - a * FilterEdges.widthScale (s.vfo id).mode
        ≤ (s.edges id).high + a * FilterEdges.widthScale (s.vfo id).mode →
    ((s.filterWidthChanged id a).edges id).low + ((s.filterWidthChanged id a).edges id).high
      = (s.edges id).low + (s.edges id).high
  high : if FilterEdges.Reversed (s.vfo id).mode then
      ((s.filterHighChanged id a).edges id).high = (s.edges id).high
    else
      ((s.filterHighChanged id a).edges id).low = (s.edges id).low
  low : if FilterEdges.Reversed (s.vfo id).mode then
      ((s.filterLowChanged id a).edges id).low = (s.edges id).low
    else
      ((s.filterLowChanged id a).edges id).high = (s.edges id).high

section ChangeEdges

variable {s : RadioState} {id : Fin 2}
variable (hrunning : s.Running id) (hmode : (s.vfo id).mode ≠ modeFmn)
include hrunning hmode

theorem changeEdges_eq (change : Int → Int → FilterEdges → FilterEdges)
    : s.changeEdges id change
        = s.setReceiver id ((s.receiver id).setEdges (s.vfo id).mode
            s.config.cwKeyerSidetoneFrequency
            (change (s.vfo id).mode s.config.cwKeyerSidetoneFrequency (s.edges id))) := by
  have hnot : ¬ (¬ s.Running id ∨ (s.vfo id).mode = modeFmn) := by
    rw [not_or, not_not]
    exact ⟨hrunning, hmode⟩
  unfold changeEdges filterEdgesChanged
  dsimp only
  rw [if_neg hnot, if_neg hnot]
  rfl

theorem edges_changeEdges (change : Int → Int → FilterEdges → FilterEdges)
    : (s.changeEdges id change).edges id
        = (change (s.vfo id).mode s.config.cwKeyerSidetoneFrequency (s.edges id)).move
            (s.cwOffset id) := by
  rw [changeEdges_eq hrunning hmode]
  have hreceiver := Function.update_self id ((s.receiver id).setEdges (s.vfo id).mode
    s.config.cwKeyerSidetoneFrequency
    (change (s.vfo id).mode s.config.cwKeyerSidetoneFrequency (s.edges id))) s.receiver
  exact (congrArg ReceiverState.edges hreceiver).trans (ReceiverState.edges_setEdges ..)

theorem shift_shift_eq (a b : Int)
    : (s.filterShiftChanged id a).filterShiftChanged id b
        = s.setReceiver id ((s.receiver id).setEdges (s.vfo id).mode
            s.config.cwKeyerSidetoneFrequency
            (((s.filterShiftChanged id a).edges id).shiftChanged (s.vfo id).mode b)) := by
  have hfirst : s.filterShiftChanged id a = _ := changeEdges_eq hrunning hmode _
  rw [hfirst]
  have hsecond := @changeEdges_eq (s.setReceiver id ((s.receiver id).setEdges (s.vfo id).mode
    s.config.cwKeyerSidetoneFrequency ((s.edges id).shiftChanged (s.vfo id).mode a))) id
    hrunning hmode fun mode _ e => e.shiftChanged mode b
  refine hsecond.trans ?_
  unfold setReceiver
  dsimp only
  rw [Function.update_idem, Function.update_self, ReceiverState.setEdges_setEdges]

theorem edges_shift_shift (a b : Int)
    : ((s.filterShiftChanged id a).filterShiftChanged id b).edges id
        = (((s.filterShiftChanged id a).edges id).shiftChanged (s.vfo id).mode b).move
            (s.cwOffset id) := by
  rw [shift_shift_eq hrunning hmode]
  unfold edges setReceiver
  dsimp only
  rw [Function.update_self, ReceiverState.edges_setEdges]
  rfl

-- A shift keeps the width exactly if it is even.
theorem even_of_shift {a d : Int}
    (h : (s.filterShiftChanged id a).edges id = (s.edges id).move d)
    : 2 ∣ (s.edges id).high - (s.edges id).low := by
  have hwidth := (s.edges id).width_shiftChanged (s.vfo id).mode a
  unfold filterShiftChanged at h
  rw [edges_changeEdges hrunning hmode] at h
  have hlow := congrArg FilterEdges.low h
  have hhigh := congrArg FilterEdges.high h
  unfold FilterEdges.move at hlow hhigh
  dsimp only at hlow hhigh
  omega

theorem edges_filterShiftChanged {a : Int} (h : 2 ∣ (s.edges id).high - (s.edges id).low)
    : (s.filterShiftChanged id a).edges id
        = (s.edges id).move (FilterEdges.shiftBy (s.vfo id).mode a + s.cwOffset id) := by
  unfold filterShiftChanged
  rw [edges_changeEdges hrunning hmode, FilterEdges.shiftChanged_of_even h, FilterEdges.move_move]

-- The sidetone is added at each shift, and two of them should be one.
theorem cwOffset_of_shiftAdd {a b : Int} (heven : 2 ∣ (s.edges id).high - (s.edges id).low)
    (h : (s.filterShiftChanged id a).filterShiftChanged id b = s.filterShiftChanged id (a + b))
    : s.cwOffset id = 0 := by
  have hedges := congrArg (fun s : RadioState => (s.edges id).low) h
  rw [edges_shift_shift hrunning hmode, edges_filterShiftChanged hrunning hmode heven,
    edges_filterShiftChanged hrunning hmode heven, FilterEdges.shiftBy_add,
    FilterEdges.shiftChanged_of_even] at hedges
  . unfold FilterEdges.move at hedges
    dsimp only at hedges
    omega
  . unfold FilterEdges.move
    dsimp only
    omega

section Exact

variable (heven : 2 ∣ (s.edges id).high - (s.edges id).low) (hoffset : s.cwOffset id = 0)
include heven hoffset

omit heven in
theorem edges_changeEdges_of_offset (change : Int → Int → FilterEdges → FilterEdges)
    : (s.changeEdges id change).edges id
        = change (s.vfo id).mode s.config.cwKeyerSidetoneFrequency (s.edges id) := by
  rw [edges_changeEdges hrunning hmode, hoffset, FilterEdges.move_zero]

theorem shiftAdd_of_exact (a b : Int)
    : (s.filterShiftChanged id a).filterShiftChanged id b = s.filterShiftChanged id (a + b) := by
  have hsame : ((s.filterShiftChanged id a).edges id).shiftChanged (s.vfo id).mode b
      = (s.edges id).shiftChanged (s.vfo id).mode (a + b) := by
    rw [edges_filterShiftChanged hrunning hmode heven, hoffset, Int.add_zero,
      FilterEdges.shiftChanged_of_even, FilterEdges.shiftChanged_of_even heven,
      FilterEdges.move_move, FilterEdges.shiftBy_add]
    unfold FilterEdges.move
    dsimp only
    omega
  rw [shift_shift_eq hrunning hmode, hsame]
  unfold filterShiftChanged
  rw [changeEdges_eq hrunning hmode]

omit heven in
theorem middle_of_exact (a : Int) (hsided : FilterEdges.TwoSided (s.vfo id).mode)
    (hopen : (s.edges id).low - a * FilterEdges.widthScale (s.vfo id).mode
      ≤ (s.edges id).high + a * FilterEdges.widthScale (s.vfo id).mode)
    : ((s.filterWidthChanged id a).edges id).low + ((s.filterWidthChanged id a).edges id).high
        = (s.edges id).low + (s.edges id).high := by
  unfold filterWidthChanged
  rw [edges_changeEdges_of_offset hrunning hmode hoffset, FilterEdges.widthChanged_of_twoSided hsided,
    FilterEdges.collapse, if_neg (by dsimp only; omega)]
  dsimp only
  omega

end Exact

/-- The width is even, and in the CW modes the sidetone frequency is zero. -/
def ExactEdges (s : RadioState) (id : Fin 2) : Prop :=
  2 ∣ (s.edges id).high - (s.edges id).low
    ∧ ((s.vfo id).mode = modeCwl ∨ (s.vfo id).mode = modeCwu →
      s.config.cwKeyerSidetoneFrequency = 0)

omit hrunning hmode in
theorem cwOffset_eq_zero_iff
    : s.cwOffset id = 0
        ↔ ((s.vfo id).mode = modeCwl ∨ (s.vfo id).mode = modeCwu →
          s.config.cwKeyerSidetoneFrequency = 0) := by
  have hne : modeCwl ≠ modeCwu := by decide
  unfold cwOffset FilterEdges.cwOffset
  split_ifs
  . tauto
  . rw [Int.neg_eq_zero]
    tauto
  . tauto

-- Whether the edges are in order does not matter.
theorem obeysGeometry_iff (a b : Int)
    : s.ObeysGeometry id a b ↔ s.ExactEdges id := by
  unfold ExactEdges
  rw [← cwOffset_eq_zero_iff]
  constructor
  . intro h
    obtain ⟨d, hshift⟩ := h.shift
    have heven := even_of_shift hrunning hmode hshift
    exact ⟨heven, cwOffset_of_shiftAdd hrunning hmode heven h.shiftAdd⟩
  . intro ⟨heven, hoffset⟩
    refine ⟨⟨_, edges_filterShiftChanged hrunning hmode heven⟩,
      shiftAdd_of_exact hrunning hmode heven hoffset a b,
      middle_of_exact hrunning hmode hoffset a, ?_, ?_⟩
    . unfold filterHighChanged
      rw [edges_changeEdges_of_offset hrunning hmode hoffset]
      apply FilterEdges.highChanged_keeps
    . unfold filterLowChanged
      rw [edges_changeEdges_of_offset hrunning hmode hoffset]
      apply FilterEdges.lowChanged_keeps

end ChangeEdges

-- a receiver in USB, with the edges 150 and 2850
def usbState : RadioState :=
  { initialState with
    vfo := fun _ => { initialVfo with mode := modeUsb }
    receiver := fun _ => { initialReceiver with filterLow := 150, filterHigh := 2850 } }

theorem obeysGeometry_iff_usbState
    : usbState.ObeysGeometry 0 3 (-5) ↔ usbState.ExactEdges 0 :=
  obeysGeometry_iff (by decide) (by decide) 3 (-5)

-- In CWU with a sidetone of 600 Hz, a shift by nothing moves the filter by 600 Hz.
theorem not_obeysGeometry : ¬ initialState.ObeysGeometry 0 0 0 := by
  intro h
  have hshift := congrArg (fun s : RadioState => (s.receiver 0).filterLow) h.shiftAdd
  revert hshift
  decide

end RadioState
