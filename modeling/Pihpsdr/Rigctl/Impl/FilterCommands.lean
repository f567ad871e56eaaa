import Pihpsdr.Vfo.Impl.FilterEdges

/-!
The CAT commands that set the edges of the filter `Var1`: `FW`, `SH`, `SL`, `ZZFH` and `ZZFL`, after
their argument has been read. All of them work on VFO A.
-/

-- the commands `SH` and `SL` know these modes only
def IsUpper (mode : Int) : Prop :=
  mode = modeUsb ∨ mode = modeDigu

def IsLower (mode : Int) : Prop :=
  mode = modeLsb ∨ mode = modeDigl

def IsCw (mode : Int) : Prop :=
  mode = modeCwl ∨ mode = modeCwu

def IsAm (mode : Int) : Prop :=
  mode = modeAm ∨ mode = modeSam

instance (mode : Int) : Decidable (IsUpper mode) :=
  inferInstanceAs (Decidable (_ ∨ _))

instance (mode : Int) : Decidable (IsLower mode) :=
  inferInstanceAs (Decidable (_ ∨ _))

instance (mode : Int) : Decidable (IsCw mode) :=
  inferInstanceAs (Decidable (_ ∨ _))

instance (mode : Int) : Decidable (IsAm mode) :=
  inferInstanceAs (Decidable (_ ∨ _))

-- the high water marks of `SH` and the low water marks of `SL`
def shMarks : List Int :=
  [1400, 1600, 1800, 2000, 2200, 2400, 2600, 2800, 3000, 3400, 4000, 5000]

def slMarks : List Int :=
  [10, 50, 100, 200, 300, 400, 500, 600, 700, 800, 900, 1000]

def waterMark (marks : List Int) (i : Int) : Int :=
  if i < 0 then 100 else marks.getD i.toNat 100

namespace RadioState

def setFilterEdges (s : RadioState) (mode f : Int) (e : FilterEdges) : RadioState :=
  { s with
    config := { s.config with
      filters := Function.update s.config.filters mode
        (Function.update (s.config.filters mode) f e) } }

def useFilterVar1 (s : RadioState) : RadioState :=
  if (s.vfo 0).filter ≠ filterVar1 then s.vfoIdFilterChanged 0 filterVar1 else s

def var1Edges (s : RadioState) : FilterEdges :=
  s.config.filters (s.vfo 0).mode filterVar1

def setVar1Edges (s : RadioState) (e : FilterEdges) : RadioState :=
  s.setFilterEdges (s.vfo 0).mode filterVar1 e

-- the end of the commands: new edges, and the receivers take them over
def applyVar1Edges (s : RadioState) (e : FilterEdges) : RadioState :=
  (s.setVar1Edges e).vfoIdFilterChanged 0 filterVar1

def clampEdge (x : Int) : Int :=
  max (-9999) (min 9999 x)

def zzfhSet (s : RadioState) (x : Int) : RadioState :=
  let s := s.useFilterVar1
  s.applyVar1Edges { s.var1Edges with high := clampEdge x }

def zzflSet (s : RadioState) (x : Int) : RadioState :=
  let s := s.useFilterVar1
  s.applyVar1Edges { s.var1Edges with low := clampEdge x }

-- in other modes the filter is applied as it is, and the command answers with an error
def shSet (s : RadioState) (i : Int) : RadioState :=
  let s := s.useFilterVar1
  let fh := waterMark shMarks i
  if IsUpper (s.vfo 0).mode then
    s.applyVar1Edges { s.var1Edges with high := fh }
  else if IsLower (s.vfo 0).mode then
    s.applyVar1Edges { s.var1Edges with low := -fh }
  else
    s.vfoIdFilterChanged 0 filterVar1

def slSet (s : RadioState) (i : Int) : RadioState :=
  let s := s.useFilterVar1
  let fl := waterMark slMarks i
  if IsLower (s.vfo 0).mode then
    s.applyVar1Edges { s.var1Edges with high := -fl }
  else if IsUpper (s.vfo 0).mode then
    s.applyVar1Edges { s.var1Edges with low := fl }
  else
    s.vfoIdFilterChanged 0 filterVar1

-- in FMN the width stands for a deviation
def fwSetFmn (s : RadioState) (fw : Int) : RadioState :=
  let (e, deviation) : FilterEdges × Int :=
    if fw = 0 then (⟨-5500, 5500⟩, 2500) else (⟨-8000, 8000⟩, 5000)
  let s := s.setVar1Edges e
  let s := s.setVfo 0 { s.vfo 0 with deviation := deviation }
  (s.rxSetFilter 0).txSetFilter.vfoIdFilterChanged 0 filterVar1

def fwSet (s : RadioState) (fw : Int) : RadioState :=
  let s := s.useFilterVar1
  let mode := (s.vfo 0).mode
  -- also the modes that the command does not know have a new edge after this
  let s := s.setVar1Edges { s.var1Edges with low := fw }
  if IsCw mode then
    s.applyVar1Edges ⟨fw.tdiv 2, fw.tdiv 2⟩
  else if mode = modeFmn then
    s.fwSetFmn fw
  else if IsAm mode then
    s.applyVar1Edges (if fw = 0 then ⟨-4000, 4000⟩ else ⟨-8000, 8000⟩)
  else
    s

end RadioState

-- an operation that changes filter edges, with its receiver and its increment or argument
inductive EdgeOp where
  | high (id : Fin 2) (increment : Int)
  | low (id : Fin 2) (increment : Int)
  | width (id : Fin 2) (increment : Int)
  | shift (id : Fin 2) (increment : Int)
  | fw (x : Int)
  | sh (i : Int)
  | sl (i : Int)
  | zzfh (x : Int)
  | zzfl (x : Int)
  deriving DecidableEq

namespace RadioState

def edgeStep (s : RadioState) : EdgeOp → RadioState
  | .high id increment => s.filterHighChanged id increment
  | .low id increment => s.filterLowChanged id increment
  | .width id increment => s.filterWidthChanged id increment
  | .shift id increment => s.filterShiftChanged id increment
  | .fw x => s.fwSet x
  | .sh i => s.shSet i
  | .sl i => s.slSet i
  | .zzfh x => s.zzfhSet x
  | .zzfl x => s.zzflSet x

end RadioState
