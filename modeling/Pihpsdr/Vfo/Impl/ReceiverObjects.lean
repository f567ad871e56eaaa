import Pihpsdr.Rigctl.Impl.Rig

/-!
The array `receiver[]` with the receivers of the user and the two that PureSignal uses for its feedback,
and the functions that take any of them and access the VFO with the number of the receiver.
-/

-- the part of the structure `_receiver` that these functions use for all receivers
structure RxObject where
  id : Nat
  sampleRate : Int
  zoom : Int
  pan : Int

/--
The state for the functions on receivers. The sample rates are those of the receivers, not those in the
configuration.
-/
structure RxBoard where
  radio : RadioState
  -- `RECEIVERS`
  total : Nat
  -- `receiver[8]`, with null pointers
  object : Fin 8 → Option RxObject
  diversityEnabled : Bool

namespace RxBoard

def receivers (s : RxBoard) : Nat :=
  s.radio.config.receivers

def protocol (s : RxBoard) : Protocol :=
  s.radio.config.protocol

-- `PS_RX_FEEDBACK`
def psRxFeedback (s : RxBoard) : Nat :=
  s.total + 1

-- `none` is an access outside of the array, or through a null pointer
def object? (s : RxBoard) (i : Nat) : Option RxObject :=
  if h : i < 8 then s.object ⟨i, h⟩ else none

def setObject (s : RxBoard) (i : Nat) (rx : RxObject) : RxBoard :=
  { s with object := fun j => if j.val = i then some rx else s.object j }

-- the index of `vfo[]`, with `MAX_VFOS` elements
def vfo? (id : Nat) : Option (Fin 2) :=
  if h : id < 2 then some ⟨id, h⟩ else none

-- the radio with the sample rates of its receivers
def view (s : RxBoard) : RadioState :=
  { s.radio with
    config.sampleRate := fun v =>
      match s.object? v.val with
      | some rx => rx.sampleRate
      | none => s.radio.config.sampleRate v }

def vfoIdCtunUpdate (s : RxBoard) (id : Nat) (state : Int) : Option RxBoard := do
  let v ← vfo? id
  some { s with radio := s.view.vfoIdCtunUpdate v state }

-- the frequency of the VFO to the centre of the screen
def adjustedPan (rx : RxObject) (v : VfoState) : Int :=
  if v.ctun ≠ 0 ∧ rx.zoom ≠ 1 then
    let offset := (v.ctunFrequency - v.frequency) + rx.sampleRate.tdiv 2
    let z : ℚ := (offset * rx.zoom / rx.sampleRate - 1 / 2) / (rx.zoom - 1)
    truncate (200 * z + 1 / 2) - 100
  else
    0

def rxAdjustPan (s : RxBoard) (i : Nat) : Option RxBoard := do
  let rx ← s.object? i
  let v ← vfo? rx.id
  some (s.setObject i { rx with pan := adjustedPan rx (s.radio.vfo v) })

def rxUpdateZoom (s : RxBoard) (i : Nat) : Option RxBoard :=
  s.rxAdjustPan i

-- what follows the new rate in the source is for WDSP only
def rxChangeSampleRate (s : RxBoard) (i : Nat) (rate : Int) : Option RxBoard := do
  let rx ← s.object? i
  let s ←
    if rx.sampleRate > rate then do
      let s ← s.vfoIdCtunUpdate rx.id 0
      s.rxAdjustPan i
    else
      some s
  let rx ← s.object? i
  some (s.setObject i { rx with sampleRate := rate })

-- the receivers of the user, from the first one on
def rxChangeSampleRates (s : RxBoard) (rate : Int) : Nat → Option RxBoard
  | 0 => some s
  | n + 1 => do
    let s ← s.rxChangeSampleRates rate n
    s.rxChangeSampleRate n rate

def radioChangeSampleRate (s : RxBoard) (rate : Int) : Option RxBoard := do
  match s.protocol with
  | .original =>
    let rx ← s.object? 0
    if rx.sampleRate ≠ rate then
      let s ← s.rxChangeSampleRates rate s.receivers
      s.rxChangeSampleRate s.psRxFeedback rate
    else
      some s
  | .soapysdr =>
    let rx ← s.object? 0
    if rx.sampleRate ≠ rate then
      s.rxChangeSampleRates rate s.receivers
    else
      some s
  | .new => some s

-- the menu of a receiver, and the command of a client
def changeSampleRate (s : RxBoard) (id : Nat) (rate : Int) : Option RxBoard :=
  if id < s.receivers then
    if s.protocol = .new then s.rxChangeSampleRate id rate else s.radioChangeSampleRate rate
  else
    some s

def activated (s : RxBoard) (id : Fin 2) : RadioState :=
  { s.radio with config.activeReceiver := id }

def rxSetActive (s : RxBoard) (id : Fin 2) : Option RxBoard := do
  let _ ← s.object? id
  some { s with radio := (s.activated id).radioTxVfoChanged.radioApplyBandSettings false 0 }

def setReceivers (s : RxBoard) (r : Nat) : RxBoard :=
  { s with radio := { s.radio with config.receivers := r } }

-- with the original protocol the second receiver has the rate of the first one
def switchReceivers (s : RxBoard) : Nat → Option RxBoard
  | 1 => do
    let _ ← s.object? 1
    some (s.setReceivers 1)
  | 2 => do
    let rx1 ← s.object? 1
    let s := s.setReceivers 2
    let rx0 ← s.object? 0
    if s.protocol = .original ∧ rx1.sampleRate ≠ rx0.sampleRate then
      s.rxChangeSampleRate 1 rx0.sampleRate
    else
      some s
  | _ => some s

def radioChangeReceivers (s : RxBoard) (r : Nat) : Option RxBoard :=
  if s.receivers = r then
    some s
  else do
    let s ← s.switchReceivers r
    s.rxSetActive 0

-- the other receiver follows while the receivers are combined
def changeZoom (s : RxBoard) (i : Nat) (value : Int) : Option RxBoard := do
  let rx ← s.object? i
  (s.setObject i { rx with zoom := value }).rxUpdateZoom i

def radioSetZoom (s : RxBoard) (id : Nat) (value : Int) : Option RxBoard :=
  if id ≥ s.receivers then
    some s
  else do
    let value := max (min value 32) 1
    let s ← s.changeZoom id value
    if s.diversityEnabled ∧ s.receivers > 1 then s.changeZoom (1 - id) value else some s

def changePan (s : RxBoard) (i : Nat) (value : Int) : Option RxBoard := do
  let rx ← s.object? i
  some (s.setObject i { rx with pan := value })

def radioSetPan (s : RxBoard) (id : Nat) (value : Int) : Option RxBoard :=
  if id ≥ s.receivers then
    some s
  else do
    let value := min (max value (-100)) 100
    let s ← s.changePan id value
    if s.diversityEnabled ∧ s.receivers > 1 then s.changePan (1 - id) value else some s

def alignSampleRates (s : RxBoard) : Option RxBoard :=
  if s.protocol = .new ∧ s.receivers = 2 ∧ s.diversityEnabled then do
    let rx ← s.object? 0
    s.rxChangeSampleRate 1 rx.sampleRate
  else
    some s

-- the first receiver becomes active, and the second one gets its zoom and pan
def alignDisplays (s : RxBoard) : Option RxBoard :=
  if s.diversityEnabled ∧ s.radio.config.activeReceiver ≠ 0 then do
    let s ← s.rxSetActive 0
    let rx ← s.object? 0
    let s ← s.radioSetZoom 1 rx.zoom
    let rx ← s.object? 0
    s.radioSetPan 1 rx.pan
  else
    some s

def radioSetDiversity (s : RxBoard) (state : Bool) : Option RxBoard := do
  let s ← { s with diversityEnabled := state }.alignSampleRates
  s.alignDisplays

inductive Operation where
  | changeSampleRate (id : Nat) (rate : Int)
  | changeReceivers (r : Nat)
  | setZoom (id : Nat) (value : Int)
  | setPan (id : Nat) (value : Int)
  | setDiversity (state : Bool)
  | ctunUpdate (id : Fin 2) (state : Int)
  -- everything else that tunes the VFOs
  | tune (id : Fin 2) (c : RadioState.TuneCommand)
  | setFrequency (id : Fin 2) (f : Int)

def perform (s : RxBoard) : Operation → Option RxBoard
  | .changeSampleRate id rate => s.changeSampleRate id rate
  | .changeReceivers r => s.radioChangeReceivers r
  | .setZoom id value => s.radioSetZoom id value
  | .setPan id value => s.radioSetPan id value
  | .setDiversity state => s.radioSetDiversity state
  | .ctunUpdate id state => s.vfoIdCtunUpdate id state
  | .tune id c => some { s with radio := s.view.tune id c }
  | .setFrequency id f => some { s with radio := s.view.vfoIdSetFrequency id f }

-- after an access outside of an array nothing is known
def performNext (s : Option RxBoard) (op : Operation) : Option RxBoard :=
  s.bind fun s => s.perform op

end RxBoard
