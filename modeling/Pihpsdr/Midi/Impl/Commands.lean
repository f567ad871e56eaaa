import Pihpsdr.Properties.Impl.Property
import Pihpsdr.Midi.Impl.Parser

/-!
The table of the actions, `ActionTable` of `actions.c`: the text that stands for an action in the properties file,
and the types of control that it can be assigned to.
-/

namespace Midi

open Text Properties

-- `enum ACTIONtype`, whose values are combined by a bitwise or
abbrev ActionType :=
  BitVec 4

def atNone : ActionType :=
  0

def atBtn : ActionType :=
  1

def atKnb : ActionType :=
  2

def atEnc : ActionType :=
  4

def atSld : ActionType :=
  8

abbrev ActionId :=
  BitVec 32

def noAction : ActionId :=
  0

-- `button_str` and `type` of each action; the actions are numbered in this order
def actionTable : List (String × ActionType) :=
  [("NONE", atNone), ("A<>B", atBtn), ("A<B", atBtn), ("A>B", atBtn),
    ("AFGAIN", (atKnb ||| atEnc ||| atSld)), ("AFGAIN1", (atKnb ||| atEnc)),
    ("AFGAIN2", (atKnb ||| atEnc)), ("AGCT", atBtn), ("AGCGain", (atKnb ||| atEnc ||| atSld)),
    ("AGCGain1", (atKnb ||| atEnc)), ("AGCGain2", (atKnb ||| atEnc)), ("AGC", atBtn),
    ("ANF", atBtn), ("ATTEN", (atKnb ||| atEnc ||| atSld)), ("10", atBtn), ("12", atBtn),
    ("1240", atBtn), ("136", atBtn), ("144", atBtn), ("15", atBtn), ("160", atBtn), ("17", atBtn),
    ("20", atBtn), ("220", atBtn), ("2300", atBtn), ("30", atBtn), ("3400", atBtn), ("40", atBtn),
    ("430", atBtn), ("6", atBtn), ("60", atBtn), ("70", atBtn), ("80", atBtn), ("902", atBtn),
    ("AIR", atBtn), ("GEN", atBtn), ("BND-", atBtn), ("BND+", atBtn), ("WWV", atBtn),
    ("BSTK-", atBtn), ("BSTK+", atBtn), ("BAND", atBtn), ("BSTK", atBtn), ("CAPTUR", atBtn),
    ("COMP", atBtn), ("COMPVAL", (atKnb ||| atEnc ||| atSld)), ("CTUN", atBtn), ("CW-APF", atBtn),
    ("CWFREQ", (atKnb ||| atEnc)), ("CWL", atBtn), ("CWR", atBtn),
    ("CWSPD", (atKnb ||| atEnc ||| atSld)), ("CWKy", atBtn), ("CWKyPTT", atBtn),
    ("CWKySpd", atKnb), ("CWTxt1", atBtn), ("CWTxt2", atBtn), ("CWTxt3", atBtn), ("CWTxt4", atBtn),
    ("CWTxt5", atBtn), ("DIVT", atBtn), ("DIVG", atEnc), ("DIVGC", atEnc), ("DIVGF", atEnc),
    ("DIVP", atEnc), ("DIVPC", atEnc), ("DIVPF", atEnc), ("DIV", atBtn), ("DUP", atBtn),
    ("FL-", atBtn), ("FL+", atBtn), ("FCUTL", atEnc), ("FCUTH", atEnc), ("FCUTDEF", atBtn),
    ("FILT", atBtn), ("FREQ", atBtn), ("FUNC", atBtn), ("FUNC-", atBtn), ("ICON", atBtn),
    ("IFSHFT", atEnc), ("IFSHFT1", atEnc), ("IFSHFT2", atEnc), ("IFWIDTH", atEnc),
    ("IFWIDTH1", atEnc), ("IFWIDTH2", atEnc), ("LIGAIN", (atKnb ||| atEnc ||| atSld)),
    ("LOCKM", atBtn), ("MAIN", atBtn), ("MEM", atBtn), ("MICGAIN", (atKnb ||| atEnc ||| atSld)),
    ("MD-", atBtn), ("MD+", atBtn), ("MODE", atBtn), ("MOX", atBtn), ("MULTI", atEnc),
    ("MULTISEL", atEnc), ("MULTIBTN", atBtn), ("MUTE", atBtn), ("MUTE1", atBtn), ("MUTE2", atBtn),
    ("NB", atBtn), ("Notch1C", atEnc), ("Notch2C", atEnc), ("Notch3C", atEnc), ("Notch1W", atEnc),
    ("Notch2W", atEnc), ("Notch3W", atEnc), ("Notch1E", atBtn), ("Notch2E", atBtn),
    ("Notch3E", atBtn), ("NR", atBtn), ("NOISE", atBtn), ("0", atBtn), ("1", atBtn), ("2", atBtn),
    ("3", atBtn), ("4", atBtn), ("5", atBtn), ("6", atBtn), ("7", atBtn), ("8", atBtn),
    ("9", atBtn), ("BS", atBtn), ("CL", atBtn), ("DEC", atBtn), ("KHZ", atBtn), ("MHZ", atBtn),
    ("EN", atBtn), ("PAN", (atKnb ||| atEnc ||| atSld)), ("PAN-", atBtn), ("PAN+", atBtn),
    ("PANH", (atKnb ||| atEnc)), ("PANL", (atKnb ||| atEnc ||| atSld)),
    ("PANS", (atKnb ||| atEnc)), ("PRE", atBtn), ("PST", atBtn), ("PS", atBtn), ("PTT", atBtn),
    ("RADIO", atBtn), ("RCL0", atBtn), ("RCL1", atBtn), ("RCL2", atBtn), ("RCL3", atBtn),
    ("RCL4", atBtn), ("RCL5", atBtn), ("RCL6", atBtn), ("RCL7", atBtn), ("RCL8", atBtn),
    ("RCL9", atBtn), ("REPLAY", atBtn), ("RFGAIN", (atKnb ||| atEnc ||| atSld)),
    ("RFGAIN1", (atKnb ||| atEnc)), ("RFGAIN2", (atKnb ||| atEnc)), ("RIT", atEnc),
    ("RITCL", atBtn), ("RITT", atBtn), ("RIT-", atBtn), ("RIT+", atBtn), ("RIT1", atEnc),
    ("RIT2", atEnc), ("RITST", atBtn), ("RITXIT", atEnc), ("RITXTCYC", atBtn), ("RITXTCLR", atBtn),
    ("RSAT", atBtn), ("RX", atBtn), ("RX1", atBtn), ("RX2", atBtn), ("SAT", atBtn),
    ("SDWN", atBtn), ("SNB", atBtn), ("SPLIT", atBtn), ("SQUELCH", (atKnb ||| atEnc ||| atSld)),
    ("SQUELCH1", (atKnb ||| atEnc)), ("SQUELCH2", (atKnb ||| atEnc)), ("SWAPRX", atBtn),
    ("TBAR1", atBtn), ("TBAR2", atBtn), ("TBAR3", atBtn), ("TBAR4", atBtn), ("TBAR5", atBtn),
    ("TBAR6", atBtn), ("TBAR7", atBtn), ("TUNE", atBtn), ("TUNDRV", (atKnb ||| atEnc)),
    ("TUNF", atBtn), ("TUNM", atBtn), ("TXDRV", (atKnb ||| atEnc ||| atSld)), ("2TONE", atBtn),
    ("TX", atBtn), ("VFO", atEnc), ("STEP-", atBtn), ("STEP+", atBtn), ("VFOA", atEnc),
    ("VFOB", atEnc), ("VFOM", atBtn), ("VOX", atBtn), ("VOXLEV", (atKnb ||| atEnc ||| atSld)),
    ("WFALLH", atEnc), ("WFALLL", atEnc), ("XIT", atEnc), ("XITCL", atBtn), ("XITT", atBtn),
    ("XIT-", atBtn), ("XIT+", atBtn), ("ZOOM", (atKnb ||| atEnc ||| atSld)), ("ZOOM-", atBtn),
    ("ZOOM+", atBtn)]
def actions : Nat :=
  actionTable.length

def action2String (id : ActionId) : List Int :=
  if id.toInt < 0 ∨ id.toInt ≥ actions then
    codes "NONE"
  else
    snprintf128 (codes (actionTable[id.toNat]?.elim "" Prod.fst))

-- the first action with this text
def string2Action (str : List Int) : ActionId :=
  match actionTable.findIdx? fun a => decide (str = codes a.1) with
  | some i => BitVec.ofNat 32 i
  | none => noAction

def actionType (id : ActionId) : ActionType :=
  actionTable[id.toNat]?.elim atNone Prod.snd

def actionType2String (type : ActionType) : List Int :=
  if type = atBtn then codes "Button"
  else if type = atKnb then codes "Slider"
  else if type = atEnc then codes "Encoder"
  else codes "None"

def string2ActionType (str : List Int) : ActionType :=
  if str = codes "Button" then atBtn
  else if str = codes "Slider" then atKnb
  else if str = codes "Encoder" then atEnc
  else atNone

end Midi

/-!
The lists of MIDI commands of `midi2.c`: how they are built, what an event does, and how they are kept in the
properties file.
-/

namespace Midi

open Text Properties

-- the ranges of controller values for an encoder, by their bounds
inductive EncoderParam where
  | vfl1
  | vfl2
  | fl1
  | fl2
  | lft1
  | lft2
  | rgt1
  | rgt2
  | fr1
  | fr2
  | vfr1
  | vfr2
  deriving DecidableEq

namespace EncoderParam

def all : List EncoderParam :=
  [vfl1, vfl2, fl1, fl2, lft1, lft2, rgt1, rgt2, fr1, fr2, vfr1, vfr2]

def name : EncoderParam → String
  | vfl1 => "vfl1"
  | vfl2 => "vfl2"
  | fl1 => "fl1"
  | fl2 => "fl2"
  | lft1 => "lft1"
  | lft2 => "lft2"
  | rgt1 => "rgt1"
  | rgt2 => "rgt2"
  | fr1 => "fr1"
  | fr2 => "fr2"
  | vfr1 => "vfr1"
  | vfr2 => "vfr2"

def default : EncoderParam → BitVec 32
  | lft1 => 0
  | lft2 => 63
  | rgt1 => 65
  | rgt2 => 127
  | _ => -1

end EncoderParam

-- `struct desc`; the channel -1 stands for any channel
structure Desc where
  channel : BitVec 32
  event : MidiEventKind
  type : ActionType
  params : EncoderParam → BitVec 32
  action : ActionId

-- the list with the number 128 is for the pitch bend
abbrev MidiCommandsTable :=
  Fin 129 → List Desc

-- the arguments of `DoTheMidi`
structure MidiCall where
  action : ActionId
  type : ActionType
  val : Int
  deriving DecidableEq

namespace Desc

def addTo (desc : Desc) (l : List Desc) : List Desc :=
  if l = [] then [desc]
  else if desc.channel.toInt ≥ 0 then desc :: l
  else l ++ [desc]

def within (desc : Desc) (lo hi : EncoderParam) (val : Int) : Prop :=
  val ≥ (desc.params lo).toInt ∧ val ≤ (desc.params hi).toInt

instance (desc : Desc) (lo hi : EncoderParam) (val : Int) : Decidable (desc.within lo hi val) :=
  inferInstanceAs (Decidable (_ ∧ _))

-- translate value to direction and speed
def direction (desc : Desc) (val : Int) : Int :=
  let new := 0
  let new := if desc.within .vfl1 .vfl2 val then -16 else new
  let new := if desc.within .fl1 .fl2 val then -4 else new
  let new := if desc.within .lft1 .lft2 val then -1 else new
  let new := if desc.within .rgt1 .rgt2 val then 1 else new
  let new := if desc.within .fr1 .fr2 val then 4 else new
  if desc.within .vfr1 .vfr2 val then 16 else new

def act (desc : Desc) (val : Int) : Option MidiCall :=
  match desc.event with
  | .none => none
  | .note => some ⟨desc.action, desc.type, val⟩
  | .ctrl =>
    if desc.type = atKnb then
      some ⟨desc.action, desc.type, val⟩
    else if desc.type = atEnc then
      let new := desc.direction val
      if new ≠ 0 then some ⟨desc.action, desc.type, new⟩ else none
    else
      none
  | .pitch => if desc.type = atKnb then some ⟨desc.action, desc.type, val⟩ else none

def handles (desc : Desc) (event : MidiEventKind) (channel : Int) : Bool :=
  (desc.channel.toInt = channel || desc.channel.toInt = -1) && desc.event = event

end Desc

namespace MidiCommandsTable

def empty : MidiCommandsTable :=
  fun _ => []

def midiAddCommand (table : MidiCommandsTable) (note : Int) (desc : Desc) : MidiCommandsTable :=
  if h : note < 0 ∨ note > 128 then
    table
  else
    let i : Fin 129 := ⟨note.toNat, by omega⟩
    Function.update table i (desc.addTo (table i))

-- the list that `NewMidiEvent` looks at; note 0 of the last channel is a heart beat
def listOf (table : MidiCommandsTable) (event : MidiEventKind) (channel note : Int)
    : Option (List Desc) :=
  if event = .note ∧ channel = 15 ∧ note = 0 then
    none
  else if event = .pitch then
    some (table 128)
  else if h : note < 0 ∨ note > 127 then
    none
  else
    some (table ⟨note.toNat, by omega⟩)

def newMidiEvent (table : MidiCommandsTable) (event : MidiEventKind) (channel note val : Int)
    : Option MidiCall :=
  match table.listOf event channel note with
  | none => none
  | some l =>
    match l.find? fun desc => desc.handles event channel with
    | none => none
    | some desc => desc.act val

end MidiCommandsTable

-- a `struct desc` in the memory, with its pointer to the next one
structure DescNode where
  desc : Desc
  next : Option Nat

-- the memory of the descriptors, and the pointers in `MidiCommandsTable`
structure MidiMemory where
  node : Nat → DescNode
  head : Fin 129 → Option Nat

namespace MidiMemory

def setNext (m : MidiMemory) (p : Nat) (next : Option Nat) : MidiMemory :=
  { m with node := Function.update m.node p { m.node p with next } }

def setHead (m : MidiMemory) (i : Fin 129) (p : Nat) : MidiMemory :=
  { m with head := Function.update m.head i (some p) }

-- while (loop->next != NULL) { loop = loop->next; }
def tail (m : MidiMemory) : Nat → Nat → Option Nat
  | 0, _ => none
  | fuel + 1, loop =>
    match (m.node loop).next with
    | none => some loop
    | some next => m.tail fuel next

def midiAddCommand (m : MidiMemory) (fuel : Nat) (note : Int) (desc : Option Nat) : Option MidiMemory :=
  match desc with
  | none => some m
  | some p =>
    if h : note < 0 ∨ note > 128 then
      some m
    else
      let i : Fin 129 := ⟨note.toNat, by omega⟩
      let m := m.setNext p none
      match m.head i with
      | none => some (m.setHead i p)
      | some first =>
        if (m.node p).desc.channel.toInt ≥ 0 then
          some ((m.setNext p (some first)).setHead i p)
        else
          (m.tail fuel first).map fun loop => m.setNext loop (some p)

-- the list that `NewMidiEvent` looks at, by its number
def indexOf (event : MidiEventKind) (channel note : Int) : Option (Fin 129) :=
  if event = .note ∧ channel = 15 ∧ note = 0 then
    none
  else if event = .pitch then
    some 128
  else if h : note < 0 ∨ note > 127 then
    none
  else
    some ⟨note.toNat, by omega⟩

-- the outer `none` is for running out of fuel, the inner one for the end of the list
def search (m : MidiMemory) (event : MidiEventKind) (channel : Int) : Nat → Option Nat → Option (Option Nat)
  | 0, _ => none
  | _ + 1, none => some none
  | fuel + 1, some p =>
    if (m.node p).desc.handles event channel then
      some (some p)
    else
      m.search event channel fuel (m.node p).next

def newMidiEvent (m : MidiMemory) (fuel : Nat) (event : MidiEventKind) (channel note val : Int)
    : Option (Option MidiCall) :=
  match indexOf event channel note with
  | none => some none
  | some i =>
    (m.search event channel fuel (m.head i)).map fun found =>
      found.bind fun p => (m.node p).desc.act val

end MidiMemory

def midiEvent2String : MidiEventKind → List Int
  | .none => codes "NONE"
  | .note => codes "NOTE"
  | .ctrl => codes "CTRL"
  | .pitch => codes "PITCH"

def string2MidiEvent (str : List Int) : MidiEventKind :=
  if str = codes "NOTE" then .note
  else if str = codes "CTRL" then .ctrl
  else if str = codes "PITCH" then .pitch
  else .none

inductive MidiField where
  | event
  | type
  | action
  | param (p : EncoderParam)
  deriving DecidableEq

def MidiField.name : MidiField → String
  | event => "event"
  | type => "type"
  | action => "action"
  | param p => p.name

def indexed (name : String) (index : List Int) : List Int :=
  codes name ++ 91 :: (index ++ [93])

def entriesName (i : Fin 129) : List Int :=
  propName [indexed "midi" (Decimal.digits i), codes "entries"]

def channelName (i : Fin 129) (entry : Nat) : List Int :=
  propName [indexed "midi" (Decimal.digits i), indexed "entry" (Decimal.digits entry), codes "channel"]

def fieldName (i : Fin 129) (entry : Nat) (channel : BitVec 32) (f : MidiField) : List Int :=
  propName [indexed "midi" (Decimal.digits i), indexed "entry" (Decimal.digits entry),
    indexed "channel" (Decimal.format false 0 channel.toInt), codes f.name]

def ignoreName : List Int :=
  propName [codes "midiIgnoreCtrlPairs"]

-- the parameters are stored for encoders only
def Desc.saved (cmd : Desc) : List (MidiField × List Int) :=
  [(.event, midiEvent2String cmd.event), (.type, actionType2String cmd.type),
    (.action, action2String cmd.action)]
    ++ if cmd.type = atEnc then
        EncoderParam.all.map fun p => (.param p, intText (cmd.params p).toInt)
      else
        []

-- what is stored for the list of one note
def savedList (i : Fin 129) (l : List Desc) : List (List Int × List Int) :=
  (l.zipIdx.flatMap fun p =>
      (channelName i p.2, intText p.1.channel.toInt) ::
        p.1.saved.map fun q => (fieldName i p.2 p.1.channel q.1, q.2))
    ++ [(entriesName i, intText l.length)]

-- the names of the active devices are stored beside that
def midiSaveState (props : Properties) (ignore : BitVec 32) (table : MidiCommandsTable) : Properties :=
  setAll props
    ((ignoreName, intText ignore.toInt) ::
      (List.finRange 129).flatMap fun i => savedList i (table i))

-- the mapping of the types is fixed but for controllers
def restoredType (event : MidiEventKind) (action : ActionId) (str : List Int) : ActionType :=
  match event with
  | .none => atNone
  | .note => atBtn
  | .pitch => atKnb
  | .ctrl =>
    let type := if actionType action &&& atEnc = 0 then atKnb else atEnc
    if string2ActionType str = atKnb then atKnb else type

def getInt32 (props : Properties) (name : List Int) (default : BitVec 32) : BitVec 32 :=
  match getInt props name with
  | some x => BitVec.ofInt 32 x
  | none => default

-- the text stays if there is no such property
def getText (props : Properties) (name : List Int) : List Int :=
  match getProperty props name with
  | some value => snprintf128 value
  | none => codes "None"

def restoreEntry (props : Properties) (i : Fin 129) (entry : Nat) : Option Desc :=
  let channel := getInt32 props (channelName i entry) (-1)
  if channel.toInt < 0 then
    none
  else
    let name := fieldName i entry channel
    let event := string2MidiEvent (getText props (name .event))
    let action := (getProperty props (name .action)).elim noAction string2Action
    if event = .none ∨ action.toInt < 0 ∨ action.toInt ≥ actions then
      none
    else
      let type := restoredType event action (getText props (name .type))
      let params := fun p =>
        if type = atEnc then getInt32 props (name (.param p)) p.default else p.default
      some { channel, event, type, params, action }

def restoreList (props : Properties) (table : MidiCommandsTable) (i : Fin 129) : MidiCommandsTable :=
  let entries := getInt32 props (entriesName i) (-1)
  (List.range entries.toInt.toNat).foldl
    (fun table entry => (restoreEntry props i entry).elim table (table.midiAddCommand (i.val : Int)))
    table

def midiRestoreState (props : Properties) (ignore : BitVec 32) : BitVec 32 × MidiCommandsTable :=
  (getInt32 props ignoreName ignore,
    (List.finRange 129).foldl (restoreList props) MidiCommandsTable.empty)

end Midi
