import Pihpsdr.Rigctl.Impl.FilterCommands
import Pihpsdr.Vfo.Impl.Persist

/-!
The operations that a receiver has to follow: all of `FrequencyOperation`, RIT, the edges of the
filters, and the handlers of the server that do not call the function of the radio.
-/

open ClientServer

-- the commands `RC`, `RD`, `RT` and `RU`, after their argument has been read
inductive RitCommand where
  | clear
  | decrement
  | setNegative (x : Int)
  | enable (x : Int)
  | increment
  | set (x : Int)

namespace VfoState

def ritCommand (v : VfoState) : RitCommand → VfoState
  | .clear => { v with rit := 0 }
  | .decrement => { v with rit := v.rit - if IsCw v.mode then 10 else 50 }
  | .setNegative x => { v with rit := -x }
  | .enable x => { v with ritEnabled := x }
  | .increment => { v with rit := v.rit + if IsCw v.mode then 10 else 50 }
  | .set x => { v with rit := x }

end VfoState

namespace RadioState

def vfoIdRitValue (s : RadioState) (id : Fin 2) (value : Int) : RadioState :=
  let value := max (-9999) (min 9999 value)
  (s.setVfo id { s.vfo id with rit := value, ritEnabled := if value ≠ 0 then 1 else 0 })
    |>.rxFrequencyChangedIfRunning id

def vfoIdRitOnoff (s : RadioState) (id : Fin 2) (enable : Int) : RadioState :=
  (s.setVfo id { s.vfo id with ritEnabled := if enable ≠ 0 then 1 else 0 })
    |>.rxFrequencyChangedIfRunning id

-- CAT writes to VFO A and tells no receiver
def catRit (s : RadioState) (c : RitCommand) : RadioState :=
  s.setVfo 0 ((s.vfo 0).ritCommand c)

-- the receiver of the VFO uses the filter `f` of the mode `m`
def UsesFilter (s : RadioState) (v : Fin 2) (m f : Int) : Prop :=
  s.Running v ∧ (s.vfo v).mode = m ∧ (s.vfo v).filter = f

instance (s : RadioState) (v : Fin 2) (m f : Int) : Decidable (s.UsesFilter v m f) := by
  unfold UsesFilter
  infer_instance

def filterChangedIfUsed (s : RadioState) (m f : Int) (v : Fin 2) : RadioState :=
  if s.UsesFilter v m f then s.vfoIdFilterChanged v f else s

-- the filter menu, and `CMD_FILTER_VAR` on the server
def filterVarChanged (s : RadioState) (m f : Int) (e : FilterEdges) : RadioState :=
  let s := if f = filterVar1 ∨ f = filterVar2 then s.setFilterEdges m f e else s
  (s.filterChangedIfUsed m f 0).filterChangedIfUsed m f 1

-- the filter menu, and `CMD_DEVIATION` on the server
def deviationChanged (s : RadioState) (id : Fin 2) (deviation : Int) : RadioState :=
  let s := s.setVfo id { s.vfo id with deviation := deviation }
  let s := if s.Running id then s.rxSetFilter id else s
  s.txSetFilter

end RadioState

inductive OffsetOperation where
  | frequency (op : FrequencyOperation)
  | ritValue (id : Fin 2) (value : Int)
  | ritOnoff (id : Fin 2) (enable : Int)
  | catRit (c : RitCommand)
  -- the handler of `CMD_CTUN` on the server
  | cmdCtun (id : Fin 2) (b2 : BitVec 8)
  | filterVar (m f : Int) (e : FilterEdges)
  -- the end of the CAT commands `FW`, `SH`, `SL`, `ZZFH` and `ZZFL`
  | var1Edges (e : FilterEdges)
  -- the functions of `filter.c`
  | filterEdges (id : Fin 2) (e : FilterEdges)
  | deviation (id : Fin 2) (deviation : Int)

namespace RadioState

def offsetOperate (s : RadioState) : OffsetOperation → Option RadioState
  | .frequency op => s.operate op
  | .ritValue id value => some (s.vfoIdRitValue id value)
  | .ritOnoff id enable => some (s.vfoIdRitOnoff id enable)
  | .catRit c => some (s.catRit c)
  | .cmdCtun id b2 => some (Remote.cmdCtun s id b2)
  | .filterVar m f e => some (s.filterVarChanged m f e)
  | .var1Edges e => some (s.applyVar1Edges e)
  | .filterEdges id e => some (s.filterEdgesChanged id e)
  | .deviation id deviation => some (s.deviationChanged id deviation)

def offsetNext (s : Option RadioState) (op : OffsetOperation) : Option RadioState :=
  s.bind fun s => s.offsetOperate op

end RadioState

section

/-!
All that sets a term of the frequencies in the packets to the radio: the operations above, XIT, the
satellite modes, and changed transverter bands (`vfo_xvtr_changed`).
-/

namespace RadioState

def vfoIdXitValue (s : RadioState) (id : Fin 2) (value : Int) : RadioState :=
  let value := max (-9999) (min 9999 value)
  s.setVfo id { s.vfo id with xit := value, xitEnabled := if value ≠ 0 then 1 else 0 }

def vfoIdXitOnoff (s : RadioState) (id : Fin 2) (enable : Int) : RadioState :=
  s.setVfo id { s.vfo id with xitEnabled := if enable ≠ 0 then 1 else 0 }

-- the frequency leaves the range of the radio above the local oscillator
def LeavesRange (config : RadioConfig) (lo f : Int) : Prop :=
  (f : ℚ) > lo + config.frequencyMax ∨ (f : ℚ) < lo + config.frequencyMin

instance (config : RadioConfig) (lo f : Int) : Decidable (LeavesRange config lo f) := by
  unfold LeavesRange
  infer_instance

-- the middle of this range, as an integer
def middleFrequency (config : RadioConfig) (lo : Int) : Int :=
  let f : ℚ := lo + (config.frequencyMin + config.frequencyMax) / 2
  f.num.tdiv f.den

-- what `vfo_xvtr_changed` does with one VFO
def xvtrChanged (s : RadioState) (id : Fin 2) : RadioState :=
  let v := s.vfo id
  if v.band.val ≥ numBands then
    let band := s.bands v.band
    let lo := band.frequencyLo + band.errorLo
    if LeavesRange s.config lo v.frequency then
      let f := middleFrequency s.config lo
      let s := (s.setVfo id { v with lo := lo, frequency := f, ctun := 0 }).vfoIdAdjustBand id f
      if id = 0 ∨ s.config.receivers = 2 then s.rxSetFrequency id f else s
    else
      s.setVfo id { v with lo := lo }
  else
    s

def vfoXvtrChanged (s : RadioState) : RadioState :=
  (s.xvtrChanged 0).xvtrChanged 1

-- the transverter bands come from the menu, or from a client
def setXvtrs (s : RadioState) (xvtrs : BandIndex → BandState) : RadioState :=
  { s with bands := fun b => if b.val ≥ numBands then xvtrs b else s.bands b }

inductive TermOperation where
  | receive (op : OffsetOperation)
  | xitValue (id : Fin 2) (value : Int)
  | xitOnoff (id : Fin 2) (enable : Int)
  | satMode (mode : Int)
  | split (val : Int)
  | xvtrs (xvtrs : BandIndex → BandState)

def termOperate (s : RadioState) : TermOperation → Option RadioState
  | .receive op => s.offsetOperate op
  | .xitValue id value => some (s.vfoIdXitValue id value)
  | .xitOnoff id enable => some (s.vfoIdXitOnoff id enable)
  | .satMode mode => some { s with satMode := mode }
  | .split val => some (s.radioSetSplit val)
  | .xvtrs xvtrs => some (s.setXvtrs xvtrs).vfoXvtrChanged

def termNext (s : Option RadioState) (op : TermOperation) : Option RadioState :=
  s.bind fun s => s.termOperate op

end RadioState

end
