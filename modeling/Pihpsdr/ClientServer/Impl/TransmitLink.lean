import Pihpsdr.Transmit.Impl.Switch
import Pihpsdr.ClientServer.Impl.Wire
import Pihpsdr.Lib.Run

/-!
A radio and its remote client while they are connected: what either side sends of MOX, VOX, TUNE and
of the two-tone test, the two streams between them and the calls that wait in the two main loops. The
oldest message or call is the first of its list.
-/

namespace ClientServer

open Transmit

-- the byte `b1` of a header that is written from an integer, and the integer that is read from it
def headerByte (state : CInt) : BitVec 8 :=
  state.setWidth 8

def fromHeader (b1 : BitVec 8) : CInt :=
  b1.setWidth 32

inductive TxMessage where
  | cmdMox (b1 : BitVec 8)
  | cmdVox (b1 : BitVec 8)
  | cmdTune (b1 : BitVec 8)
  | cmdToggleTune
  | cmdTwotone (b1 : BitVec 8)
  deriving DecidableEq

def sendMox (state : CInt) : TxMessage :=
  .cmdMox (headerByte state)

def sendVox (state : CInt) : TxMessage :=
  .cmdVox (headerByte state)

def sendTune (state : CInt) : TxMessage :=
  .cmdTune (headerByte state)

def sendTwotone (state : CInt) : TxMessage :=
  .cmdTwotone (headerByte state)

-- the functions that the user, a controller or a timer calls, on the client as on the server
inductive TxCall where
  | radioSetMox (state : CInt)
  | radioSetVox (state : CInt)
  | radioSetTune (state : CInt)
  | radioToggleTune
  | radioSetTwotone (state : CInt)
  deriving DecidableEq

-- on a client each of them only sends
def TxCall.request : TxCall → TxMessage
  | .radioSetMox state => sendMox state
  | .radioSetVox state => sendVox state
  | .radioSetTune state => sendTune state
  | .radioToggleTune => .cmdToggleTune
  | .radioSetTwotone state => sendTwotone state

/--
The flags of the client, and the arguments of its calls of `rxtx` so far, the last one first: there
`rxtx` shows the transmitter in place of the receivers or the receivers again.
-/
structure ClientTx where
  hasTransmitter : Bool
  mox : CInt
  vox : CInt
  tune : CInt
  twotone : CInt
  switches : List CInt
  deriving DecidableEq

namespace ClientTx

def rxtx (s : ClientTx) (state : CInt) : ClientTx :=
  if s.hasTransmitter then { s with switches := state :: s.switches } else s

def radioIsTransmitting (s : ClientTx) : CInt :=
  if s.hasTransmitter then s.mox ||| s.vox ||| s.tune else 0

def radioClientSetVox (s : ClientTx) (state : CInt) : ClientTx :=
  if s.hasTransmitter then
    let s := if state ≠ s.radioIsTransmitting then s.rxtx state else s
    { s with mox := 0, tune := 0, vox := state }
  else
    s

def radioClientSetMox (s : ClientTx) (state : CInt) : ClientTx :=
  if s.hasTransmitter then
    let s := if state ≠ s.radioIsTransmitting then s.rxtx state else s
    { s with mox := state, tune := 0, vox := 0 }
  else
    s

def radioClientSetTwotone (s : ClientTx) (state : CInt) : ClientTx :=
  if s.hasTransmitter then { s with twotone := state } else s

def radioClientSetTune (s : ClientTx) (state : CInt) : ClientTx :=
  if s.hasTransmitter then
    if state ≠ s.tune then
      let s := if s.vox ≠ 0 ∨ s.mox ≠ 0 then { s.rxtx 0 with vox := 0, mox := 0 } else s
      { s.rxtx state with tune := state }
    else
      s
  else
    s

end ClientTx

-- a call that `client_thread` leaves with the main loop of the client, and the byte it is made with
inductive ClientCall where
  | setMox (b1 : BitVec 8)
  | setVox (b1 : BitVec 8)
  | setTune (b1 : BitVec 8)
  | setTwotone (b1 : BitVec 8)
  deriving DecidableEq

def ClientTx.call (s : ClientTx) : ClientCall → ClientTx
  | .setMox b1 => s.radioClientSetMox (fromHeader b1)
  | .setVox b1 => s.radioClientSetVox (fromHeader b1)
  | .setTune b1 => s.radioClientSetTune (fromHeader b1)
  | .setTwotone b1 => s.radioClientSetTwotone (fromHeader b1)

def TxMessage.clientCalls : TxMessage → List ClientCall
  | .cmdMox b1 => [.setMox b1]
  | .cmdVox b1 => [.setVox b1]
  | .cmdTune b1 => [.setTune b1]
  -- a type that the client does not expect
  | .cmdToggleTune => []
  | .cmdTwotone b1 => [.setTwotone b1, .setMox b1]

-- what waits in the main loop of the server: a command of the client or a call of its own
inductive ServerCallback where
  | serverCommand (message : TxMessage)
  | call (c : SwitchCall)
  deriving DecidableEq

structure TransmitLink where
  server : RxTx
  env : TxEnv
  twotone : CInt
  serverIdle : List ServerCallback
  toServer : List TxMessage
  toClient : List TxMessage
  clientIdle : List ClientCall
  client : ClientTx
  deriving DecidableEq

inductive LinkEvent where
  -- of the client
  | request (c : TxCall)
  | deliverToClient
  | runClientIdle
  -- of the server
  | deliverToServer
  | runServerIdle
  | unsolicited (c : TxCall)
  | addServerIdle (c : SwitchCall)
  | setEnv (env : TxEnv)
  deriving DecidableEq

namespace TransmitLink

def send (l : TransmitLink) (message : TxMessage) : TransmitLink :=
  { l with toClient := l.toClient ++ [message] }

-- `radio_set_mox` reports the state it is asked for, before it looks whether it may change to it
def radioSetMox (l : TransmitLink) (state : CInt) : TransmitLink :=
  let l := l.send (sendMox state)
  { l with server := l.server.radioSetMox l.env state }

def radioSetVox (l : TransmitLink) (state : CInt) : TransmitLink :=
  if ¬ l.server.hasTransmitter then
    l
  else if l.server.mox ≠ 0 ∨ l.server.tune ≠ 0 then
    l
  else if state ≠ 0 ∧ l.env.txInhibit then
    l
  else if l.server.vox ≠ state then
    let l := l.send (sendVox state)
    { l with server := { l.server.rxtx state with vox := state } }
  else
    l

def radioSetTune (l : TransmitLink) (state : CInt) : TransmitLink :=
  { l with server := l.server.radioSetTune l.env state }

def radioToggleTune (l : TransmitLink) : TransmitLink :=
  { l with server := l.server.radioToggleTune l.env }

def radioSetTwotone (l : TransmitLink) (state : CInt) : TransmitLink :=
  if state = l.twotone then
    l
  else
    { l with twotone := state, serverIdle := l.serverIdle ++ [.call (.setMox state)] }

def serverCommand (l : TransmitLink) : TxMessage → TransmitLink
  | .cmdMox b1 => l.radioSetMox (fromHeader b1)
  | .cmdVox b1 => l.radioSetVox (fromHeader b1)
  | .cmdTune b1 =>
    if l.server.hasTransmitter then
      let l := l.radioSetTune (fromHeader b1)
      if l.server.tune ≠ fromHeader b1 then l.send (sendTune l.server.tune) else l
    else
      l
  | .cmdToggleTune =>
    if l.server.hasTransmitter then
      let l := l.radioToggleTune
      l.send (sendTune l.server.tune)
    else
      l
  | .cmdTwotone b1 =>
    if l.server.hasTransmitter then
      let l := l.radioSetTwotone (fromHeader b1)
      l.send (sendTwotone l.twotone)
    else
      l

def switchCall (l : TransmitLink) : SwitchCall → TransmitLink
  | .setMox state => l.radioSetMox state
  | .setVox state => l.radioSetVox state
  | .setTune state => l.radioSetTune state
  | .toggleTune => l.radioToggleTune

def serverCallback (l : TransmitLink) : ServerCallback → TransmitLink
  | .serverCommand message => l.serverCommand message
  | .call c => l.switchCall c

def txCall (l : TransmitLink) : TxCall → TransmitLink
  | .radioSetMox state => l.radioSetMox state
  | .radioSetVox state => l.radioSetVox state
  | .radioSetTune state => l.radioSetTune state
  | .radioToggleTune => l.radioToggleTune
  | .radioSetTwotone state => l.radioSetTwotone state

def step (l : TransmitLink) : LinkEvent → TransmitLink
  | .request c => { l with toServer := l.toServer ++ [c.request] }
  | .deliverToClient =>
    match l.toClient with
    | [] => l
    | m :: rest => { l with toClient := rest, clientIdle := l.clientIdle ++ m.clientCalls }
  | .runClientIdle =>
    match l.clientIdle with
    | [] => l
    | c :: rest => { l with clientIdle := rest, client := l.client.call c }
  | .deliverToServer =>
    match l.toServer with
    | [] => l
    | m :: rest =>
      { l with toServer := rest, serverIdle := l.serverIdle ++ [.serverCommand m] }
  | .runServerIdle =>
    match l.serverIdle with
    | [] => l
    | c :: rest => { l with serverIdle := rest }.serverCallback c
  | .unsolicited c => l.txCall c
  | .addServerIdle c => { l with serverIdle := l.serverIdle ++ [.call c] }
  | .setEnv env => { l with env := env }

/--
The server after the given calls, when a client has just connected: the client has been started to
receive, and the server is going to switch MOX off.
-/
def connected (hasTransmitter duplex : Bool) (receivers : Nat) (calls : List (TxEnv × SwitchCall))
    (env : TxEnv) (twotone : CInt) (waiting : List SwitchCall)
    : TransmitLink where
  server := calls.foldl RxTx.call (RxTx.receiving hasTransmitter duplex receivers)
  env := env
  twotone := twotone
  serverIdle := waiting.map .call ++ [.call (.setMox 0)]
  toServer := []
  toClient := []
  clientIdle := []
  client := ⟨hasTransmitter, 0, 0, 0, 0, []⟩

-- no message and no call is on its way
structure AtRest (l : TransmitLink) : Prop where
  serverIdle : l.serverIdle = []
  toServer : l.toServer = []
  toClient : l.toClient = []
  clientIdle : l.clientIdle = []

/--
The client has the flags of the server, and its last transition was to show the transmitter exactly
if the server transmits.
-/
structure Agrees (l : TransmitLink) : Prop where
  mox : l.client.mox = l.server.mox
  vox : l.client.vox = l.server.vox
  tune : l.client.tune = l.server.tune
  shown : l.client.switches.headD 0 ≠ 0 ↔ l.server.radioIsTransmitting ≠ 0

end TransmitLink

end ClientServer

/-!
The drive of the transmitter on client and server: `radio_set_drive` and the message `CMD_DRIVE` of the
client, and the packets `INFO_DISPLAY` of the server, which tell that its drive is zero.
-/

namespace ClientServer

-- the maximum for the digital modes, if the transmitter is in one of them
def limitedDrive (limit : Option ℚ) (value : ℚ) : ℚ :=
  match limit with
  | none => value
  | some driveDigiMax => if value > driveDigiMax then driveDigiMax else value

-- the drive that the server gets from a client with the drive `value`
def carriedDrive (limit : Option ℚ) (value : ℚ) : ℚ :=
  limitedDrive limit (fromDouble (toDouble value))

/--
Client and server with the messages `CMD_DRIVE` in their order and the flags `txzero` of the packets
`INFO_DISPLAY` that are on their way. `last` is the drive that the user has set last.
-/
structure DriveLink where
  limit : Option ℚ
  clientDrive : ℚ
  serverDrive : ℚ
  commands : List (BitVec 64)
  displays : List Bool
  last : ℚ

namespace DriveLink

-- `radio_set_drive` on the client
def clientSetDrive (s : DriveLink) (value : ℚ) : DriveLink :=
  let value := limitedDrive s.limit value
  { s with clientDrive := value, commands := s.commands ++ [toDouble value] }

def userSetDrive (s : DriveLink) (value : ℚ) : DriveLink :=
  { s.clientSetDrive value with last := limitedDrive s.limit value }

-- the server processes the next message
def cmdDrive (s : DriveLink) : DriveLink :=
  match s.commands with
  | [] => s
  | dbl :: commands =>
    { s with serverDrive := limitedDrive s.limit (fromDouble dbl), commands := commands }

def sendPeriodicData (s : DriveLink) : DriveLink :=
  { s with displays := s.displays ++ [decide (s.serverDrive < 1 / 2)] }

-- the constant 0.4 is a double
def clientInfoDisplay (s : DriveLink) (txzero : Bool) : DriveLink :=
  if txzero ∧ s.clientDrive > double (2 / 5) then s.clientSetDrive 0 else s

inductive Event where
  | set (value : ℚ)
  | command
  | sample
  | display (i : Nat)
  | lose (i : Nat)

-- the packets arrive in any order
def step (s : DriveLink) : Event → DriveLink
  | .set value => s.userSetDrive value
  | .command => s.cmdDrive
  | .sample => s.sendPeriodicData
  | .display i =>
    match s.displays[i]? with
    | none => s
    | some txzero => { s with displays := s.displays.eraseIdx i }.clientInfoDisplay txzero
  | .lose i => { s with displays := s.displays.eraseIdx i }

-- nothing is on its way, and both sides have the drive that the user has set
structure Settled (s : DriveLink) : Prop where
  commands : s.commands = []
  displays : s.displays = []
  clientDrive : s.clientDrive = s.last
  serverDrive : s.serverDrive = carriedDrive s.limit s.last

-- no packet from a time when the drive of the server was zero arrives after another drive has been set
def NotStale (s : DriveLink) : Event → Prop
  | .display i => s.displays[i]? = some true → s.clientDrive ≤ double (2 / 5)
  | _ => True

-- the server processes all messages, and the packets that are left are lost
def finish (s : DriveLink) : List Event :=
  List.replicate s.commands.length .command ++ List.replicate s.displays.length (.lose 0)

end DriveLink

end ClientServer
