import Pihpsdr.Lib.Indices
import Mathlib.Logic.Function.Basic
import Mathlib.Data.BitVec

/-!
The encoders, switches and push-buttons of a GPIO controller (`gpio.c`): what the edges on the lines do, with
the debouncing of the variant for version 1 of `libgpiod`, and the thread that reports the ticks; the switches
that are read through the I2C bus (`i2c.c`).
-/

namespace Gpio

def dirNone : BitVec 8 :=
  0x00

def dirCw : BitVec 8 :=
  0x10

def dirCcw : BitVec 8 :=
  0x20

-- the states of a full cycle

def rStart : BitVec 8 :=
  0x00

def rCwFinal : BitVec 8 :=
  0x01

def rCwBegin : BitVec 8 :=
  0x02

def rCwNext : BitVec 8 :=
  0x03

def rCcwBegin : BitVec 8 :=
  0x04

def rCcwFinal : BitVec 8 :=
  0x05

def rCcwNext : BitVec 8 :=
  0x06

-- the states of a half cycle

def rStart1 : BitVec 8 :=
  0x07

def rStart0 : BitVec 8 :=
  0x08

def rCwBeg1 : BitVec 8 :=
  0x09

def rCwBeg0 : BitVec 8 :=
  0x0A

def rCcwBeg1 : BitVec 8 :=
  0x0B

def rCcwBeg0 : BitVec 8 :=
  0x0C

-- The columns are the levels AB = 00, 10, 01, 11.
def encoderStateTable : Vector (Vector (BitVec 8) 4) 13 :=
  #v[#v[rStart, rCwBegin, rCcwBegin, rStart],
    #v[rCwNext, rStart, rCwFinal, rStart ||| dirCw],
    #v[rCwNext, rCwBegin, rStart, rStart],
    #v[rCwNext, rCwBegin, rCwFinal, rStart],
    #v[rCcwNext, rStart, rCcwBegin, rStart],
    #v[rCcwNext, rCcwFinal, rStart, rStart ||| dirCcw],
    #v[rCcwNext, rCcwFinal, rCcwBegin, rStart],
    #v[rStart0, rCwBeg1, rCcwBeg1, rStart1],
    #v[rStart0, rCcwBeg0, rCwBeg0, rStart1],
    #v[rStart0 ||| dirCw, rCwBeg1, rCwBeg0, rStart1],
    #v[rStart0, rCwBeg1, rCwBeg0, rStart1 ||| dirCw],
    #v[rStart0 ||| dirCcw, rCcwBeg0, rCcwBeg1, rStart1],
    #v[rStart0, rCcwBeg0, rCcwBeg1, rStart1 ||| dirCcw]]

-- a state, with the tick that was made when it was entered
structure EncoderState where
  word : BitVec 8
  lt : (word &&& 0x0F).toNat < 13
  deriving DecidableEq

theorem encoderStateTable_lt (row : Fin 13) (column : Fin 4)
    : (((encoderStateTable.get row).get column) &&& 0x0F).toNat < 13 := by
  revert row column
  decide

def EncoderState.row (q : EncoderState) : Fin 13 :=
  ⟨(q.word &&& 0x0F).toNat, q.lt⟩

def EncoderState.next (q : EncoderState) (pinstate : Fin 4) : EncoderState where
  word := (encoderStateTable.get q.row).get pinstate
  lt := encoderStateTable_lt q.row pinstate

-- what a new state adds to the position
def EncoderState.tick (q : EncoderState) : Int :=
  if q.word &&& 0x30 = dirCw then
    1
  else if q.word &&& 0x30 = dirCcw then
    -1
  else
    0

def pinstate (a b : Bool) : Fin 4 :=
  ⟨(b.toNat <<< 1) ||| a.toNat, by cases a <;> cases b <;> decide⟩

structure SingleEncoder where
  enabled : Bool
  aValue : Bool
  bValue : Bool
  pos : Int
  function : Int
  state : EncoderState

def SingleEncoder.processEncoderA (enc : SingleEncoder) (val : Bool) : SingleEncoder :=
  let state := enc.state.next (pinstate val enc.bValue)
  { enc with aValue := val, state := state, pos := enc.pos + state.tick }

def SingleEncoder.processEncoderB (enc : SingleEncoder) (val : Bool) : SingleEncoder :=
  let state := enc.state.next (pinstate enc.aValue val)
  { enc with bValue := val, state := state, pos := enc.pos + state.tick }

-- `debounce` is the time up to which edges are ignored
structure Switch where
  function : Int
  debounce : BitVec 32

inductive Side where
  | bottom
  | top
  deriving DecidableEq

structure Encoder where
  bottom : SingleEncoder
  top : SingleEncoder
  button : Switch

def Encoder.single (e : Encoder) : Side → SingleEncoder
  | .bottom => e.bottom
  | .top => e.top

def Encoder.setSingle (e : Encoder) (side : Side) (enc : SingleEncoder) : Encoder :=
  match side with
  | .bottom => { e with bottom := enc }
  | .top => { e with top := enc }

-- `action` and `num` of an entry of `LineList`
inductive OffsetAction where
  | noAction
  | topEncA (num : Fin 5)
  | topEncB (num : Fin 5)
  | botEncA (num : Fin 5)
  | botEncB (num : Fin 5)
  | encSwitch (num : Fin 5)
  | switch (num : Fin 16)
  | i2cIrq
  | special (action : Int)

inductive ActionMode where
  | pressed
  | released
  | relative
  deriving DecidableEq

inductive Effect where
  | scheduleAction (action : Int) (mode : ActionMode) (val : Int)
  | i2cInterrupt
  deriving DecidableEq

def pressedOr (value : Bool) : ActionMode :=
  if value then .pressed else .released

-- `millis`, at a time in milliseconds
def millis (epochMilli now : Nat) : BitVec 32 :=
  BitVec.ofNat 32 (now - epochMilli)

def Switch.processEdge (s : Switch) (t : BitVec 32) : Switch :=
  if s.debounce < t then { s with debounce := t + 50 } else s

-- what is scheduled for the edge
def Switch.scheduled (s : Switch) (value : Bool) (t : BitVec 32) : Option ActionMode :=
  if s.debounce < t then some (pressedOr value) else none

/--
Where `rotary_encoder_thread` is: about to look at the position of an encoder, or to take it, once that was found
not to be zero.
-/
structure RotaryThread where
  num : Fin 5
  side : Side
  taking : Bool

-- the next encoder; after the last one the thread sleeps and starts again
def RotaryThread.advance (r : RotaryThread) : RotaryThread :=
  match r.side with
  | .bottom => ⟨r.num, .top, false⟩
  | .top => ⟨r.num + 1, .bottom, false⟩

def speedUp (val : Int) : Int :=
  if val > 20 then
    Int.tdiv (val * val + 138 * val - 776) 117
  else if val < -20 then
    -Int.tdiv (val * val - 138 * val - 776) 117
  else
    val

structure Controller where
  epochMilli : Nat
  lineList : Fin 32 → OffsetAction
  encoders : Fin 5 → Encoder
  switches : Fin 16 → Switch
  thread : RotaryThread

namespace Controller

variable (c : Controller)

def single (num : Fin 5) (side : Side) : SingleEncoder :=
  (c.encoders num).single side

def setSingle (num : Fin 5) (side : Side) (enc : SingleEncoder) : Controller :=
  { c with
    encoders := Function.update c.encoders num ((c.encoders num).setSingle side enc) }

def setButton (num : Fin 5) (button : Switch) : Controller :=
  { c with encoders := Function.update c.encoders num { c.encoders num with button := button } }

def setSwitch (num : Fin 16) (switch : Switch) : Controller :=
  { c with switches := Function.update c.switches num switch }

def processEdge (offset : Fin 32) (value : Bool) (now : Nat) : Controller :=
  match c.lineList offset with
  | .botEncA num => c.setSingle num .bottom ((c.single num .bottom).processEncoderA value)
  | .botEncB num => c.setSingle num .bottom ((c.single num .bottom).processEncoderB value)
  | .topEncA num => c.setSingle num .top ((c.single num .top).processEncoderA value)
  | .topEncB num => c.setSingle num .top ((c.single num .top).processEncoderB value)
  | .encSwitch num =>
    c.setButton num ((c.encoders num).button.processEdge (millis c.epochMilli now))
  | .switch num => c.setSwitch num ((c.switches num).processEdge (millis c.epochMilli now))
  | .i2cIrq | .special _ | .noAction => c

def edgeEffects (offset : Fin 32) (value : Bool) (now : Nat) : List Effect :=
  match c.lineList offset with
  | .encSwitch num =>
    let button := (c.encoders num).button
    ((button.scheduled value (millis c.epochMilli now)).map
      (.scheduleAction button.function · 0)).toList
  | .switch num =>
    let switch := c.switches num
    ((switch.scheduled value (millis c.epochMilli now)).map
      (.scheduleAction switch.function · 0)).toList
  | .i2cIrq => if value then [.i2cInterrupt] else []
  | .special action => [.scheduleAction action (pressedOr value) 0]
  | _ => []

-- one access of the thread to the encoders
def poll : Controller :=
  let enc := c.single c.thread.num c.thread.side
  if c.thread.taking then
    { c.setSingle c.thread.num c.thread.side { enc with pos := 0 } with
      thread := c.thread.advance }
  else if enc.enabled ∧ enc.pos ≠ 0 then
    { c with thread := { c.thread with taking := true } }
  else
    { c with thread := c.thread.advance }

-- the ticks that the thread takes from an encoder
def taken (num : Fin 5) (side : Side) : Int :=
  if c.thread.taking ∧ c.thread.num = num ∧ c.thread.side = side then
    (c.single num side).pos
  else
    0

def pollEffects : List Effect :=
  if c.thread.taking then
    let enc := c.single c.thread.num c.thread.side
    [.scheduleAction enc.function .relative (speedUp enc.pos)]
  else
    []

end Controller

inductive Event where
  | edge (offset : Fin 32) (value : Bool) (now : Nat)
  | poll

def Controller.step (c : Controller) : Event → Controller
  | .edge offset value now => c.processEdge offset value now
  | .poll => c.poll

def Controller.effects (c : Controller) : Event → List Effect
  | .edge offset value now => c.edgeEffects offset value now
  | .poll => c.pollEffects

-- SW_2 to SW_6, SW_14, SW_15, SW_13 down to SW_9, SW_7, SW_8, SW_16 and SW_17
def i2cSw (i : Fin 16) : BitVec 32 :=
  #v[0x8000#32, 0x4000#32, 0x2000#32, 0x1000#32, 0x0008#32, 0x0800#32, 0x0400#32, 0x0080#32,
    0x0040#32, 0x0020#32, 0x0010#32, 0x0001#32, 0x0004#32, 0x0002#32, 0x0200#32, 0x0100#32].get i

-- `data` is what `i2c_smbus_read_word_data` returns, negative for an error.
def readWordData (data : BitVec 32) : BitVec 32 :=
  data &&& 0xFFFF

-- the loop over the switches, from one of them on
def scheduleSwitches (functions : Fin 16 → Int) (ints : BitVec 32)
    : BitVec 32 → List (Fin 16) → List Effect
  | _, [] => []
  | flags, i :: is =>
    if flags = 0 then
      []
    else if i2cSw i &&& flags ≠ 0 then
      .scheduleAction (functions i) (pressedOr (ints &&& i2cSw i ≠ 0)) 0
        :: scheduleSwitches functions ints (flags &&& ~~~i2cSw i) is
    else
      scheduleSwitches functions ints flags is

/--
`i2c_interrupt`, for the results of its reads in their order: what has been scheduled when they are used up, and
whether the loop has ended then.
-/
def i2cInterrupt (functions : Fin 16 → Int) : List (BitVec 32) → List Effect × Bool
  | [] => ([], false)
  | [flags] => ([], readWordData flags = 0)
  | flags :: ints :: reads =>
    if readWordData flags = 0 then
      ([], true)
    else
      let rest := i2cInterrupt functions reads
      (scheduleSwitches functions (readWordData ints) (readWordData flags) (List.finRange 16)
        ++ rest.1, rest.2)

-- `encoders_controller1`, with `pos` and `state` as they are there
def controller1Encoder (function : Int) (buttonFunction : Int) : Encoder where
  bottom := ⟨true, true, true, 0, function, ⟨rStart, by decide⟩⟩
  top := ⟨false, false, false, 0, 0, ⟨rStart, by decide⟩⟩
  button := ⟨buttonFunction, 0⟩

-- Controller 1 as `gpio_set_defaults` and `gpio_init` leave it; the actions are numbers of `enum ACTION`.
def controller1 (epochMilli : Nat) : Controller where
  epochMilli := epochMilli
  lineList offset :=
    match offset with
    | 20 => .botEncA 0
    | 26 => .botEncB 0
    | 25 => .encSwitch 0
    | 16 => .botEncA 1
    | 19 => .botEncB 1
    | 8 => .encSwitch 1
    | 4 => .botEncA 2
    | 21 => .botEncB 2
    | 7 => .encSwitch 2
    | 18 => .botEncA 3
    | 17 => .botEncB 3
    | 27 => .switch 0
    | 13 => .switch 1
    | 12 => .switch 2
    | 6 => .switch 3
    | 5 => .switch 4
    | 24 => .switch 5
    | 23 => .switch 6
    | 22 => .switch 7
    | 9 => .special 49
    | 11 => .special 50
    | 10 => .special 52
    | 14 => .special 53
    | _ => .noAction
  encoders num :=
    match num with
    | 0 => controller1Encoder 4 41
    | 1 => controller1Encoder 8 42
    | 2 => controller1Encoder 187 92
    | 3 => controller1Encoder 190 0
    | 4 =>
      { controller1Encoder 0 0 with
        bottom := ⟨false, true, false, 1, 0, ⟨rStart, by decide⟩⟩ }
  switches num :=
    if num < 7 then
      ⟨176 + num.val, 0⟩
    else if num = 7 then
      ⟨76, 0⟩
    else
      ⟨0, 0⟩
  thread := ⟨0, .bottom, false⟩

end Gpio
