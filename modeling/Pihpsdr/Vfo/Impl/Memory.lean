import Pihpsdr.Properties.Impl.Property
import Pihpsdr.Vfo.Impl.Change

/-!
The memory slots of `store.c`: `store_memory_slot`, `recall_memory_slot` with the call for the duplex
mode that it leaves to the main loop, and the slots in the properties file.
-/

open ClientServer (Mem numMemories)
open Text Properties

-- what is saved of a slot
inductive MemField where
  | satMode
  | frequency
  | ctunFrequency
  | ctun
  | mode
  | filter
  | deviation
  | bd
  | altFrequency
  | altCtunFrequency
  | altCtun
  | altMode
  | altFilter
  | altDeviation
  | altBd
  | ctcssEnabled
  | ctcss
  deriving DecidableEq

namespace MemField

def key : MemField → String
  | satMode => "sat_mode"
  | frequency => "freqA"
  | ctunFrequency => "freqC"
  | ctun => "ctun"
  | mode => "mode"
  | filter => "filter"
  | deviation => "deviation"
  | bd => "band"
  | altFrequency => "altfreqA"
  | altCtunFrequency => "altfreqC"
  | altCtun => "altctun"
  | altMode => "altmode"
  | altFilter => "altfilter"
  | altDeviation => "altdeviation"
  | altBd => "altband"
  | ctcssEnabled => "ctcss_enabled"
  | ctcss => "ctcss"

def value (slot : Mem) : MemField → Int
  | satMode => slot.satMode
  | frequency => slot.frequency
  | ctunFrequency => slot.ctunFrequency
  | ctun => slot.ctun
  | mode => slot.mode
  | filter => slot.filter
  | deviation => slot.deviation
  | bd => slot.bd
  | altFrequency => slot.altFrequency
  | altCtunFrequency => slot.altCtunFrequency
  | altCtun => slot.altCtun
  | altMode => slot.altMode
  | altFilter => slot.altFilter
  | altDeviation => slot.altDeviation
  | altBd => slot.altBd
  | ctcssEnabled => slot.ctcssEnabled
  | ctcss => slot.ctcss

-- the frequencies have the type `long long`, all others `int`
def bits : MemField → Nat
  | frequency | ctunFrequency | altFrequency | altCtunFrequency => 64
  | _ => 32

def default : MemField → Int
  | satMode => satModeNone
  | frequency | ctunFrequency | altFrequency | altCtunFrequency => 28010000
  | ctun | altCtun => 0
  | mode | altMode => modeCwu
  | filter | altFilter => 5
  | deviation | altDeviation => 2500
  | bd | altBd => 11
  | ctcssEnabled | ctcss => 0

end MemField

-- the properties in the order of `mem_save_state`
def savedMemFields : List MemField :=
  [.satMode, .frequency, .ctunFrequency, .ctun, .mode, .filter, .deviation, .bd, .altFrequency,
    .altCtunFrequency, .altCtun, .altMode, .altFilter, .altDeviation, .altBd, .ctcssEnabled, .ctcss]

-- the name `mem.%d.key`
def memName (index : Fin numMemories) (key : String) : List Int :=
  propName [codes "mem", Decimal.digits index.val, codes key]

def savedMem (mem : Fin numMemories → Mem) : List (List Int × List Int) :=
  (List.finRange numMemories).flatMap fun index =>
    savedMemFields.map fun f => (memName index f.key, intText (f.value (mem index)))

def memSaveState (mem : Fin numMemories → Mem) (props : Properties) : Properties :=
  setAll props (savedMem mem)

-- `atoll`, assigned to a field of its type
def memValue (props : Properties) (index : Fin numMemories) (f : MemField) : Int :=
  match getInt props (memName index f.key) with
  | none => f.default
  | some x => (BitVec.ofInt f.bits x).toInt

-- split and duplex are not in the file
def memRestoreState (mem : Fin numMemories → Mem) (props : Properties) : Fin numMemories → Mem :=
  fun index =>
    { mem index with
      satMode := memValue props index .satMode
      frequency := memValue props index .frequency
      ctunFrequency := memValue props index .ctunFrequency
      ctun := memValue props index .ctun
      mode := memValue props index .mode
      filter := memValue props index .filter
      deviation := memValue props index .deviation
      bd := memValue props index .bd
      altFrequency := memValue props index .altFrequency
      altCtunFrequency := memValue props index .altCtunFrequency
      altCtun := memValue props index .altCtun
      altMode := memValue props index .altMode
      altFilter := memValue props index .altFilter
      altDeviation := memValue props index .altDeviation
      altBd := memValue props index .altBd
      ctcssEnabled := memValue props index .ctcssEnabled
      ctcss := memValue props index .ctcss }

-- the array `mem` of a program that has been started
def startMem : Fin numMemories → Mem :=
  fun _ =>
    { satMode := 0, split := 0, duplex := 0, frequency := 0, ctunFrequency := 0, ctun := 0, mode := 0
      filter := 0, deviation := 0, bd := 0, altFrequency := 0, altCtunFrequency := 0, altCtun := 0
      altMode := 0, altFilter := 0, altDeviation := 0, altBd := 0, ctcssEnabled := 0, ctcss := 0 }

/--
The radio with the duplex mode; `duplexCalls` are the calls of `ext_radio_set_duplex` that wait in the main
loop.
-/
structure MemoryRadio extends RadioState where
  duplex : Int
  transmitting : Bool
  duplexCalls : List Int

namespace MemoryRadio

def storeVfo (slot : Mem) (v : VfoState) : Mem :=
  { slot with
    frequency := v.frequency
    ctunFrequency := v.ctunFrequency
    ctun := v.ctun
    mode := v.mode
    filter := v.filter
    deviation := v.deviation
    bd := v.band.val }

def storeAltVfo (slot : Mem) (v : VfoState) : Mem :=
  { slot with
    altFrequency := v.frequency
    altCtunFrequency := v.ctunFrequency
    altCtun := v.ctun
    altMode := v.mode
    altFilter := v.filter
    altDeviation := v.deviation
    altBd := v.band.val }

def storedSlot (s : MemoryRadio) (slot : Mem) : Mem :=
  let slot := { slot with satMode := s.satMode, split := s.split, duplex := s.duplex }
  let slot :=
    if s.satMode = satModeNone then
      storeVfo slot (s.vfo s.config.activeReceiver)
    else
      storeAltVfo (storeVfo slot (s.vfo 0)) (s.vfo 1)
  match s.transmitter with
  | none => slot
  | some tx => { slot with ctcssEnabled := tx.ctcssEnabled, ctcss := tx.ctcss }

def storeMemorySlot (s : MemoryRadio) (index : Fin numMemories) : MemoryRadio :=
  { s with mem := Function.update s.mem index (s.storedSlot (s.mem index)) }

def recallMemorySlot (s : MemoryRadio) (index : Fin numMemories) : Option MemoryRadio := do
  let slot := s.mem index
  let r ← s.toRadioState.recallMemorySlot index
  let calls :=
    if slot.satMode ≠ satModeNone ∧ ¬ s.transmitting then s.duplexCalls ++ [slot.duplex]
    else s.duplexCalls
  some { s with toRadioState := r, duplexCalls := calls }

def radioSetDuplex (s : MemoryRadio) (state : Int) : MemoryRadio :=
  if s.transmitter.isNone ∨ state = s.duplex then s else { s with duplex := state }

-- the main loop makes the calls that wait
def runCalls (s : MemoryRadio) : MemoryRadio :=
  { s.duplexCalls.foldl radioSetDuplex s with duplexCalls := [] }

-- the radio `r` starts with the slots of `s`; `props` has been saved before them
def restart (s r : MemoryRadio) (props : Properties) : MemoryRadio :=
  { r with mem := memRestoreState startMem (loadProperties (saveProperties (memSaveState s.mem props))) }

end MemoryRadio
