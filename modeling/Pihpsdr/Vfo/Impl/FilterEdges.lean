import Pihpsdr.Radio.State
import Pihpsdr.Vfo.Impl.Change

/-!
The table of the filters in `filter.c`, with the modes in the order of `mode.h`. Each mode has ten
fixed filters and the two variable ones.
-/

-- the filters of DSB, AM, SAM, SPEC and DRM
def filterTwoSided : List FilterEdges :=
  [⟨-8000, 8000⟩, ⟨-6000, 6000⟩, ⟨-5000, 5000⟩, ⟨-4000, 4000⟩, ⟨-3300, 3300⟩, ⟨-2600, 2600⟩,
    ⟨-2000, 2000⟩, ⟨-1550, 1550⟩, ⟨-1450, 1450⟩, ⟨-1200, 1200⟩, ⟨-3300, 3300⟩, ⟨-3300, 3300⟩]

-- the filters of CWL and CWU, around a signal at zero frequency
def filterCw : List FilterEdges :=
  [⟨-500, 500⟩, ⟨-400, 400⟩, ⟨-375, 375⟩, ⟨-300, 300⟩, ⟨-250, 250⟩, ⟨-200, 200⟩, ⟨-125, 125⟩,
    ⟨-50, 50⟩, ⟨-25, 25⟩, ⟨-13, 13⟩, ⟨-125, 125⟩, ⟨-125, 125⟩]

def filterLsb : List FilterEdges :=
  [⟨-5150, -150⟩, ⟨-4550, -150⟩, ⟨-3950, -150⟩, ⟨-3450, -150⟩, ⟨-3050, -150⟩, ⟨-2850, -150⟩,
    ⟨-2550, -150⟩, ⟨-2250, -150⟩, ⟨-1950, -150⟩, ⟨-1150, -150⟩, ⟨-2850, -150⟩, ⟨-2850, -150⟩]

def filterUsb : List FilterEdges :=
  [⟨150, 5150⟩, ⟨150, 4550⟩, ⟨150, 3950⟩, ⟨150, 3450⟩, ⟨150, 3050⟩, ⟨150, 2850⟩, ⟨150, 2550⟩,
    ⟨150, 2250⟩, ⟨150, 1950⟩, ⟨150, 1150⟩, ⟨150, 2850⟩, ⟨150, 2850⟩]

def filterDigl : List FilterEdges :=
  [⟨-5000, 0⟩, ⟨-4000, 0⟩, ⟨-3000, 0⟩, ⟨-2750, -250⟩, ⟨-2500, -500⟩, ⟨-2250, -750⟩, ⟨-2000, -1000⟩,
    ⟨-1875, -1125⟩, ⟨-1750, -1250⟩, ⟨-1625, -1375⟩, ⟨-3000, 0⟩, ⟨-3000, 0⟩]

def filterDigu : List FilterEdges :=
  [⟨0, 5000⟩, ⟨0, 4000⟩, ⟨0, 3000⟩, ⟨250, 2750⟩, ⟨500, 2500⟩, ⟨750, 2250⟩, ⟨1000, 2000⟩,
    ⟨1125, 1875⟩, ⟨1250, 1750⟩, ⟨1375, 1625⟩, ⟨0, 3000⟩, ⟨0, 3000⟩]

-- the filters of FMN are not used, its edges follow from the deviation
def filterFmn : List FilterEdges :=
  List.replicate 12 ⟨0, 0⟩

def filterModes : List (List FilterEdges) :=
  [filterLsb, filterUsb, filterTwoSided, filterCw, filterCw, filterFmn, filterTwoSided, filterDigu,
    filterTwoSided, filterDigl, filterTwoSided, filterTwoSided]

-- the table before any change of its variable filters
def filterTable (mode f : Int) : FilterEdges :=
  (filterModes.getD mode.toNat []).getD f.toNat ⟨0, 0⟩

-- a filter whose edges an operation can change
def IsVariable (f : Int) : Prop :=
  f = filterVar1 ∨ f = filterVar2

instance (f : Int) : Decidable (IsVariable f) :=
  inferInstanceAs (Decidable (_ ∨ _))

def FilterEdges.Ordered (e : FilterEdges) : Prop :=
  e.low ≤ e.high

instance (e : FilterEdges) : Decidable e.Ordered :=
  inferInstanceAs (Decidable (_ ≤ _))

theorem ordered_filterTable (mode f : Int) : (filterTable mode f).Ordered := by
  have hrow : ∀ row ∈ filterModes, ∀ e ∈ row, e.Ordered := by decide
  have hzero : FilterEdges.Ordered ⟨0, 0⟩ := by decide
  rw [filterTable, List.getD_eq_getElem?_getD, List.getD_eq_getElem?_getD]
  cases hmode : filterModes[mode.toNat]? with
  | none => exact hzero
  | some row =>
    rw [Option.getD_some]
    cases hf : row[f.toNat]? with
    | none => exact hzero
    | some e => exact hrow row (List.mem_of_getElem? hmode) e (List.mem_of_getElem? hf)

/-!
The changes of the filter edges of a running receiver in `filter.c`. They do not change the filters
themselves. `high` and `low` refer to the audio, so that the edges of LSB and DIGL are exchanged.
-/

namespace FilterEdges

def highChanged (e : FilterEdges) (mode sidetone increment : Int) : FilterEdges :=
  if mode = modeLsb ∨ mode = modeDigl then
    { e with low := min (min (e.low - increment * 25) 0) e.high }
  else if mode = modeCwl then
    { e with low := min (min (e.low - increment * 5) (-sidetone)) e.high }
  else if mode = modeCwu then
    { e with high := max (max (e.high + increment * 5) sidetone) e.low }
  else if mode = modeUsb ∨ mode = modeDigu then
    { e with high := max (max (e.high + increment * 25) 0) e.low }
  else
    { e with high := max (max (e.high + increment * 50) 0) e.low }

def lowChanged (e : FilterEdges) (mode sidetone increment : Int) : FilterEdges :=
  if mode = modeLsb ∨ mode = modeDigl then
    { e with high := max (min (e.high - increment * 25) 0) e.low }
  else if mode = modeCwl then
    { e with high := max (max (e.high - increment * 5) (-sidetone)) e.low }
  else if mode = modeCwu then
    { e with low := min (min (e.low + increment * 5) sidetone) e.high }
  else if mode = modeUsb ∨ mode = modeDigu then
    { e with low := min (max (e.low + increment * 25) 0) e.high }
  else
    { e with low := min (min (e.low + increment * 50) 0) e.high }

-- edges that have crossed meet in the middle
def collapse (e : FilterEdges) : FilterEdges :=
  if e.low > e.high then
    ⟨(e.low + e.high).tdiv 2, (e.low + e.high).tdiv 2⟩
  else
    e

def widthChanged (e : FilterEdges) (mode increment : Int) : FilterEdges :=
  if mode = modeDigl ∧ e.high < -500 then
    let high := e.high + increment * 12
    ⟨min (e.low - increment * 13) high, high⟩
  else if mode = modeDigl ∨ mode = modeLsb then
    { e with low := min (e.low - increment * 25) e.high }
  else if mode = modeDigu ∧ e.low > 500 then
    let low := e.low - increment * 12
    ⟨low, max (e.high + increment * 13) low⟩
  else if mode = modeDigu ∨ mode = modeUsb then
    { e with high := max (e.high + increment * 25) e.low }
  else if mode = modeCwl ∨ mode = modeCwu then
    collapse ⟨e.low - increment * 5, e.high + increment * 5⟩
  else
    collapse ⟨e.low - increment * 50, e.high + increment * 50⟩

-- the factor, the reference and the sign of a shift
def shiftScale (mode : Int) : Int × Int × Int :=
  if mode = modeLsb ∨ mode = modeDigl then (25, -1500, -1)
  else if mode = modeUsb ∨ mode = modeDigu then (25, 1500, 1)
  else if mode = modeCwl then (5, 0, -1)
  else if mode = modeCwu then (5, 0, 1)
  else (50, 0, 1)

def shiftChanged (e : FilterEdges) (mode increment : Int) : FilterEdges :=
  let (fac, ref, sgn) := shiftScale mode
  let mid := (e.high + e.low).tdiv 2
  let wid := e.high - e.low
  let shft := mid - ref + increment * fac * sgn
  ⟨ref + shft - wid.tdiv 2, ref + shft + wid.tdiv 2⟩

end FilterEdges

-- the edges of a receiver are the ones of a filter, shifted by the sidetone in the CW modes
def ReceiverState.setEdges (rx : ReceiverState) (mode sidetone : Int) (e : FilterEdges)
    : ReceiverState :=
  if mode = modeCwu then
    { rx with filterLow := e.low + sidetone, filterHigh := e.high + sidetone }
  else if mode = modeCwl then
    { rx with filterLow := e.low - sidetone, filterHigh := e.high - sidetone }
  else
    { rx with filterLow := e.low, filterHigh := e.high }

def ReceiverState.edges (rx : ReceiverState) : FilterEdges :=
  ⟨rx.filterLow, rx.filterHigh⟩

namespace RadioState

def filterEdgesChanged (s : RadioState) (id : Fin 2) (e : FilterEdges) : RadioState :=
  let mode := (s.vfo id).mode
  if ¬ s.Running id ∨ mode = modeFmn then
    s
  else
    s.setReceiver id ((s.receiver id).setEdges mode s.config.cwKeyerSidetoneFrequency e)

-- what the functions below have in common: the edges of the running receiver give the new ones
def changeEdges (s : RadioState) (id : Fin 2) (change : Int → Int → FilterEdges → FilterEdges)
    : RadioState :=
  let mode := (s.vfo id).mode
  if ¬ s.Running id ∨ mode = modeFmn then
    s
  else
    s.filterEdgesChanged id
      (change mode s.config.cwKeyerSidetoneFrequency (s.receiver id).edges)

def filterHighChanged (s : RadioState) (id : Fin 2) (increment : Int) : RadioState :=
  s.changeEdges id fun mode sidetone e => e.highChanged mode sidetone increment

def filterLowChanged (s : RadioState) (id : Fin 2) (increment : Int) : RadioState :=
  s.changeEdges id fun mode sidetone e => e.lowChanged mode sidetone increment

def filterWidthChanged (s : RadioState) (id : Fin 2) (increment : Int) : RadioState :=
  s.changeEdges id fun mode _ e => e.widthChanged mode increment

def filterShiftChanged (s : RadioState) (id : Fin 2) (increment : Int) : RadioState :=
  s.changeEdges id fun mode _ e => e.shiftChanged mode increment

end RadioState
