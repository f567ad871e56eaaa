import Mathlib.Logic.Function.Basic
import Pihpsdr.Lib.Decimal
import Pihpsdr.Lib.Run
import Pihpsdr.Tci.Impl.Client
import Pihpsdr.Transmit.Impl.Switch

/-!
The TCI server of `tci.c`: the callback of libwebsockets with its reasons, the commands that put the radio
into transmit, and what they leave with the main loop. A callback, a command and a timer that fires are one
step each, in any order.
-/

namespace Tci

open Transmit (RxTx TxEnv SwitchCall)

-- a text is the list of its character codes
def tciInt (s : List Int) : Int :=
  (BitVec.ofInt 32 (Decimal.clamp 64 (Decimal.parse s))).toInt

def lower (c : Int) : Int :=
  if 65 ≤ c ∧ c ≤ 90 then c + 32 else c

-- `g_ascii_strcasecmp`
def sameText (s : List Int) (t : String) : Bool :=
  s.map lower = t.toList.map fun c => lower c.toNat

def tciBool (s : List Int) : Bool :=
  s.head? = some 49 || sameText s "true"

-- a command with its arguments; the others neither key the radio nor end the session
inductive TciCmd where
  | trx (argv : List (List Int))
  | tune (argv : List (List Int))
  | stop
  | other
  deriving DecidableEq

inductive Payload where
  | text (cmd : TciCmd)
  | ping
  | close
  deriving DecidableEq

-- what waits in the main loop to be run when it is idle; `session` is the one that the payload is from
inductive Idle where
  | payload (slot : Slot) (session : Nat) (load : Payload)
  | setMoxOff
  deriving DecidableEq

-- a source of the main loop with a delay
structure Timer where
  id : Nat
  slot : Slot
  delay : Nat
  deriving DecidableEq

-- an open connection; its user data is the slot it was given, if one was free
structure Conn where
  wsi : Nat
  slot : Option Slot
  session : Nat
  deriving DecidableEq

/--
`others` counts the other clients of `cat_control`, `nextSource` is the next number of a source. Of the
history, `keyedBy` is the session that has put the radio into transmit, until MOX goes, and `acceptedAt` the
value of `nextSource` when the last `trx:0,true` was accepted.
-/
structure Server where
  clients : Slot → Client
  conns : List Conn
  tciRunning : Bool
  tciTransmitterOwned : Bool
  catControl : Nat
  others : Nat
  radio : RxTx
  idles : List Idle
  clearMoxTimers : List Timer
  reporters : List Timer
  nextSource : Nat
  nextSession : Nat
  keyedBy : Option Nat
  acceptedAt : Nat

inductive Event where
  | established (wsi : Nat)
  | receive (wsi : Nat) (cmd : TciCmd)
  | receiveBinary (wsi len : Nat) (first final txAudio : Bool)
  -- `rc` is the result of `lws_write`
  | writeable (wsi : Nat) (rc : Int)
  | closed (wsi : Nat)
  | idle (env : TxEnv)
  | clearMox (env : TxEnv) (id : Nat)
  | reporter (id : Nat)
  -- what the commands and the reporter send, and what else they set
  | queueFrame (slot : Slot) (type : OpCode) (checkRunning : Bool)
  | queueBinaryFrame (slot : Slot) (len : Nat)
  | reports (slot : Slot) (reports : Reports)
  | rxAudio (slot : Slot) (receiver : Fin tciRxAudioMaxReceivers) (enabled : Bool)
  -- another client of `cat_control` connects or goes
  | other (connects : Bool)
  -- MOX, VOX and TUNE are switched elsewhere
  | switch (env : TxEnv) (call : SwitchCall)
  | launch
  | shutdown

namespace Server

def modify (s : Server) (c : Slot) (f : Client → Client) : Server :=
  { s with clients := Function.update s.clients c (f (s.clients c)) }

def setRadio (s : Server) (radio : RxTx) : Server :=
  { s with radio, keyedBy := if radio.mox = 0 then none else s.keyedBy }

-- `g_source_remove` for a pending `tci_clearmox_timer`
def removeClearMox (s : Server) (c : Slot) : Server :=
  let id := (s.clients c).tciClearmoxTimer
  if id ≠ 0 then
    let s := { s with clearMoxTimers := s.clearMoxTimers.filter fun t => t.id ≠ id }
    s.modify c fun client => { client with tciClearmoxTimer := 0 }
  else
    s

-- if no client owns the transmitter and this one wants to transmit, make it the owner
def takeOwner (s : Server) (c : Slot) (state : Bool) : Server :=
  if ¬s.tciTransmitterOwned ∧ state then
    let s := { s with tciTransmitterOwned := true }
    s.modify c fun client => { client with txOwner := true }
  else
    s

def dropOwner (s : Server) (c : Slot) : Server :=
  let s := { s with tciTransmitterOwned := false }
  s.modify c fun client => { client with txOwner := false }

-- `trx:0,true` of the owner, as `session` has sent it
def keyOn (env : TxEnv) (s : Server) (c : Slot) (session : Nat) (sourceTci : Bool) : Server :=
  let s :=
    if sourceTci then
      (s.removeClearMox c).modify c fun client =>
        { client with txAudioEnabled := true, txAudioRxCount := 0 }
    else
      s
  let s := s.modify c fun client => { client with lastTrx := true }
  let s := s.setRadio (s.radio.radioSetMox env 1)
  { s with
    keyedBy :=
      if s.radio.hasTransmitter ∧ env.transmitAllowed ∧ ¬env.txInhibit then some session else s.keyedBy
    acceptedAt := s.nextSource }

-- `trx:0,false` of the owner
def keyOff (s : Server) (c : Slot) : Server :=
  let delay := if (s.clients c).txAudioEnabled then 50 else 0
  let id := s.nextSource
  let timer : Timer := ⟨id, c, delay⟩
  let s := { s with clearMoxTimers := s.clearMoxTimers ++ [timer], nextSource := id + 1 }
  s.modify c fun client => { client with tciClearmoxTimer := id }

-- the first argument is the number of the receiver, which has to be zero
def otherReceiver (argv : List (List Int)) : Bool :=
  argv.head?.any fun arg => tciInt arg ≠ 0

def tciCmdTrx (env : TxEnv) (s : Server) (c : Slot) (session : Nat) (argv : List (List Int)) : Server :=
  if otherReceiver argv then
    s
  else
    match argv[1]? with
    | none => s
    | some arg =>
      let sourceTci := argv[2]?.any fun arg => sameText arg "tci"
      let s := s.takeOwner c (tciBool arg)
      if (s.clients c).txOwner then
        if tciBool arg then s.keyOn env c session sourceTci else s.keyOff c
      else
        s

def tciCmdTune (env : TxEnv) (s : Server) (c : Slot) (argv : List (List Int)) : Server :=
  if otherReceiver argv then
    s
  else
    match argv[1]? with
    | none => s
    | some arg =>
      let s := s.takeOwner c (tciBool arg)
      if (s.clients c).txOwner then
        s.setRadio (s.radio.radioSetTune env (if tciBool arg then 1 else 0))
      else
        s

def tciCmdStop (env : TxEnv) (s : Server) (c : Slot) : Server :=
  let s := s.modify c fun client =>
    { client with
      running := false
      reports := { client.reports with rxsensor := false, txsensor := false } }
  if (s.clients c).txOwner then
    let s := (s.dropOwner c).removeClearMox c
    if (s.clients c).lastTrx then
      (s.setRadio (s.radio.radioSetMox env 0)).modify c fun client =>
        { client with lastTrx := false }
    else
      s
  else
    s

-- what becomes of a client that is gone, before its connection is closed
def leave (s : Server) (c : Slot) : Server :=
  let s := s.modify c fun client => { client with running := false }
  if (s.clients c).txOwner then s.dropOwner c else s

def tciProcessWsPayload (env : TxEnv) (s : Server) (c : Slot) (session : Nat) : Payload → Server
  | .text (.trx argv) => s.tciCmdTrx env c session argv
  | .text (.tune argv) => s.tciCmdTune env c argv
  | .text .stop => s.tciCmdStop env c
  | .text .other => s
  | .ping => s.modify c fun client => client.tciQueueFrame .pong false
  | .close => s.leave c

-- the main loop runs its idle callbacks in the order in which they were added
def runIdle (env : TxEnv) (s : Server) : Server :=
  match s.idles with
  | [] => s
  | .payload c session load :: idles =>
    let s := { s with idles }
    s.tciProcessWsPayload env c session load
  | .setMoxOff :: idles =>
    let s := { s with idles }
    s.setRadio (s.radio.radioSetMox env 0)

def tciRadioClearMox (env : TxEnv) (s : Server) (id : Nat) : Server :=
  match s.clearMoxTimers.find? (fun t => t.id = id) with
  | none => s
  | some t =>
    let s := { s with clearMoxTimers := s.clearMoxTimers.filter fun t => t.id ≠ id }
    let s := s.modify t.slot fun client =>
      { client with txAudioEnabled := false, lastTrx := false, tciClearmoxTimer := 0 }
    s.setRadio (s.radio.radioSetMox env 0)

-- a source that is removed when the client is found not running
def tciReporter (s : Server) (id : Nat) : Server :=
  match s.reporters.find? (fun t => t.id = id) with
  | none => s
  | some t =>
    if (s.clients t.slot).running then
      s.modify t.slot fun client =>
        if client.reports.count + 1 ≥ 30 then
          { client with reports := { client.reports with count := 0 } }.tciQueueFrame .ping false
        else
          { client with reports := { client.reports with count := client.reports.count + 1 } }
    else
      let s := { s with reporters := s.reporters.filter fun t => t.id ≠ id }
      s.modify t.slot fun client => { client with tciTimer := 0 }

def slot? (s : Server) (wsi : Nat) : Option Slot :=
  (s.conns.find? fun conn => conn.wsi = wsi).bind fun conn => conn.slot

def isOpen (s : Server) (wsi : Nat) : Bool :=
  s.conns.any fun conn => conn.wsi = wsi

-- the first slot whose client is not running
def freeSlot? (s : Server) : Option Slot :=
  (List.finRange tciMaxClients).find? fun c => ¬(s.clients c).running

def established (s : Server) (wsi : Nat) : Server :=
  let session := s.nextSession
  match s.freeSlot? with
  | none => { s with conns := ⟨wsi, none, session⟩ :: s.conns, nextSession := session + 1 }
  | some c =>
    let id := s.nextSource
    let timer : Timer := ⟨id, c, 500⟩
    let s :=
      { s with
        conns := ⟨wsi, some c, session⟩ :: s.conns
        catControl := s.catControl + 1
        reporters := s.reporters ++ [timer]
        nextSource := id + 1
        nextSession := session + 1 }
    s.modify c fun client =>
      { client.tciInitClient session with
        wsi := some wsi
        lwsTxQueue := some []
        tciTimer := id }

-- the slot of a connection if its client is running
def runningSlot? (s : Server) (wsi : Nat) : Option Slot :=
  (s.slot? wsi).filter fun c => (s.clients c).running

def receive (s : Server) (wsi : Nat) (cmd : TciCmd) : Server :=
  match s.runningSlot? wsi with
  | none => s
  | some c => { s with idles := s.idles ++ [.payload c (s.clients c).session (.text cmd)] }

def receiveBinary (s : Server) (wsi len : Nat) (first final txAudio : Bool) : Server :=
  match s.runningSlot? wsi with
  | none => s
  | some c => s.modify c fun client => client.tciHandleBinaryLws len first final txAudio

-- the connection is closed when this fails
def tciLwsWriteQueued (s : Server) (c : Slot) (rc : Int) : Server :=
  match (s.clients c).popQueue with
  | none => s
  | some (type, client) =>
    let s := s.modify c fun _ => { client with idleQueued := client.idleQueued - 1 }
    if type = .close ∨ client.wsi.isNone then
      s
    else if rc < 0 then
      s.leave c
    else
      s

def writeable (s : Server) (wsi : Nat) (rc : Int) : Server :=
  match s.runningSlot? wsi with
  | none => s
  | some c =>
    if (s.clients c).wsi.isNone then
      s
    else
      (s.modify c fun client => { client with initialSent := true }).tciLwsWriteQueued c rc

-- if the last `trx` of this client was to transmit, the radio is to receive
def releaseOwner (s : Server) (c : Slot) : Server :=
  if (s.clients c).txOwner then
    let s := s.removeClearMox c
    let s :=
      if (s.clients c).lastTrx then
        let s := { s with idles := s.idles ++ [Idle.setMoxOff] }
        s.modify c fun client => { client with lastTrx := false }
      else
        s
    s.dropOwner c
  else
    s

-- the clean-up of a client whose connection is gone
def cleanUp (s : Server) (c : Slot) : Server :=
  let s := (s.modify c fun client => { client with running := false }).releaseOwner c
  let timer := (s.clients c).tciTimer
  let s :=
    { s with
      reporters := s.reporters.filter fun t => t.id ≠ timer
      catControl := s.catControl - 1 }
  s.modify c fun client =>
    { client.tciLwsFreeQueue with wsi := none, tciTimer := 0, binaryRxLen := 0, binaryRxSize := 0 }

def closed (s : Server) (wsi : Nat) : Server :=
  let s :=
    match s.runningSlot? wsi with
    | none => s
    | some c => s.cleanUp c
  { s with conns := s.conns.filter fun conn => conn.wsi ≠ wsi }

-- the library has closed all connections before the server is launched again
def launch (s : Server) : Server :=
  if s.conns = [] then { s with clients := fun _ => Client.zero, tciRunning := true } else s

-- `stop;` for each connection; the library closes them
def shutdown (s : Server) : Server :=
  if s.tciRunning then
    { s with
      tciRunning := false
      clients := fun c =>
        if (s.clients c).wsi.isSome then (s.clients c).tciQueueFrame .text false
        else s.clients c }
  else
    s

def step (s : Server) : Event → Server
  | .established wsi => if s.isOpen wsi then s else s.established wsi
  | .receive wsi cmd => s.receive wsi cmd
  | .receiveBinary wsi len first final txAudio => s.receiveBinary wsi len first final txAudio
  | .writeable wsi rc => s.writeable wsi rc
  | .closed wsi => s.closed wsi
  | .idle env => s.runIdle env
  | .clearMox env id => s.tciRadioClearMox env id
  | .reporter id => s.tciReporter id
  | .queueFrame c type checkRunning => s.modify c fun client => client.tciQueueFrame type checkRunning
  | .queueBinaryFrame c len => s.modify c fun client => client.tciQueueBinaryFrame len
  | .reports c reports => s.modify c fun client => { client with reports }
  | .rxAudio c receiver enabled =>
    s.modify c fun client =>
      { client with rxAudioEnabled := Function.update client.rxAudioEnabled receiver enabled }
  | .other true => { s with others := s.others + 1, catControl := s.catControl + 1 }
  | .other false =>
    if s.others = 0 then s else { s with others := s.others - 1, catControl := s.catControl - 1 }
  | .switch env call => s.setRadio (s.radio.call (env, call))
  | .launch => s.launch
  | .shutdown => s.shutdown

def run (s : Server) (es : List Event) : Server :=
  Run.exec step s es

def start (radio : RxTx) (others : Nat) : Server where
  clients _ := Client.zero
  conns := []
  tciRunning := false
  tciTransmitterOwned := false
  catControl := others
  others
  radio
  idles := []
  clearMoxTimers := []
  reporters := []
  nextSource := 1
  nextSession := 1
  keyedBy := none
  acceptedAt := 0

end Server

end Tci
