import Mathlib.Data.List.Basic
import Pihpsdr.Lib.BlockRing

/-!
A client of the TCI server, as an element of `tciclient`: the fields of its session, the queue of frames that
wait for its connection to become writable, and the buffer for binary data that comes in chunks.
-/

namespace Tci

def tciMaxClients : Nat :=
  8

def tciRxAudioMaxReceivers : Nat :=
  2

def tciBinaryReassemblyMax : Nat :=
  65536

def tciStreamHeaderSize : Nat :=
  64

abbrev Slot :=
  Fin tciMaxClients

def Slot.first : Slot :=
  ⟨0, Nat.zero_lt_succ _⟩

inductive OpCode where
  | text
  | bin
  | close
  | ping
  | pong
  deriving DecidableEq

-- what has been reported to a client last, and what it wants to be reported
structure Reports where
  lastFa : Int
  lastFb : Int
  lastFx : Int
  lastMa : Int
  lastMb : Int
  lastSplit : Int
  lastMox : Int
  count : Nat
  rxsensor : Bool
  txsensor : Bool
  deriving DecidableEq

def Reports.none : Reports where
  lastFa := -1
  lastFb := -1
  lastFx := -1
  lastMa := -1
  lastMb := -1
  lastSplit := -1
  lastMox := -1
  count := 0
  rxsensor := false
  txsensor := false

/--
The timers are numbers of sources of the main loop, `wsi` is the connection. `session` is a number of its own
for each connection that was given the slot.
-/
structure Client where
  running : Bool
  txOwner : Bool
  tciTimer : Nat
  tciClearmoxTimer : Nat
  reports : Reports
  idleQueued : Nat
  lastTrx : Bool
  wsi : Option Nat
  lwsTxQueue : Option (List OpCode)
  initialSent : Bool
  rxAudioEnabled : Fin tciRxAudioMaxReceivers → Bool
  txAudioEnabled : Bool
  txAudioRxCount : Nat
  binaryRxLen : Nat
  binaryRxSize : Nat
  session : Nat

namespace Client

-- after `memset`
def zero : Client where
  running := false
  txOwner := false
  tciTimer := 0
  tciClearmoxTimer := 0
  reports := ⟨0, 0, 0, 0, 0, 0, 0, 0, false, false⟩
  idleQueued := 0
  lastTrx := false
  wsi := none
  lwsTxQueue := none
  initialSent := false
  rxAudioEnabled _ := false
  txAudioEnabled := false
  txAudioRxCount := 0
  binaryRxLen := 0
  binaryRxSize := 0
  session := 0

-- `tci_clearmox_timer` is not among the fields that are set
def tciInitClient (client : Client) (session : Nat) : Client :=
  { client with
    running := true
    txOwner := false
    tciTimer := 0
    reports := Reports.none
    idleQueued := 0
    lastTrx := false
    wsi := none
    lwsTxQueue := none
    initialSent := false
    txAudioEnabled := false
    txAudioRxCount := 0
    binaryRxLen := 0
    binaryRxSize := 0
    rxAudioEnabled := fun _ => false
    session }

-- the frame is in the queue if there is a connection
def tciQueueFrame (client : Client) (type : OpCode) (checkRunning : Bool) : Client :=
  if checkRunning ∧ ¬client.running then
    client
  else if type = .text ∧ client.idleQueued ≥ 100 then
    client
  else if client.wsi.isSome then
    { client with
      idleQueued := client.idleQueued + 1
      lwsTxQueue := some (client.lwsTxQueue.getD [] ++ [type]) }
  else
    client

def tciQueueBinaryFrame (client : Client) (len : Nat) : Client :=
  if len = 0 ∨ ¬client.running then
    client
  else if client.idleQueued ≥ 100 ∨ client.wsi.isNone then
    client
  else
    { client with
      idleQueued := client.idleQueued + 1
      lwsTxQueue := some (client.lwsTxQueue.getD [] ++ [.bin]) }

def tciLwsFreeQueue (client : Client) : Client :=
  { client with lwsTxQueue := none, idleQueued := 0 }

-- the frame that is to be written next
def popQueue (client : Client) : Option (OpCode × Client) :=
  match client.lwsTxQueue with
  | some (type :: queue) => some (type, { client with lwsTxQueue := some queue })
  | _ => none

def tciHandleBinary (client : Client) (txAudio : Bool) (len : Nat) : Client :=
  if len < tciStreamHeaderSize then
    client
  else if txAudio ∧ client.txAudioEnabled then
    { client with txAudioRxCount := client.txAudioRxCount + 1 }
  else
    client

-- the buffer grows in steps of 8192 bytes from 8256 on
def binarySize (client : Client) (needed : Nat) : Nat :=
  if needed > client.binaryRxSize then
    let size := if client.binaryRxSize = 0 then 8256 else client.binaryRxSize
    size + (needed - size + 8191) / 8192 * 8192
  else
    client.binaryRxSize

-- `final` stands for the last chunk of the last fragment, `txAudio` for the type in the stream header
def tciHandleBinaryLws (client : Client) (len : Nat) (first final txAudio : Bool) : Client :=
  if len = 0 then
    client
  else
    let client := if first then { client with binaryRxLen := 0 } else client
    let needed := client.binaryRxLen + len
    if needed > tciBinaryReassemblyMax then
      { client with binaryRxLen := 0 }
    else
      let client := { client with binaryRxSize := client.binarySize needed, binaryRxLen := needed }
      if final then
        { client.tciHandleBinary txAudio needed with binaryRxLen := 0 }
      else
        client

end Client

end Tci

/-!
Binary data of a client, which libwebsockets delivers in chunks: `tci_handle_binary_lws` puts them together in
`binary_rx_buf` and passes the whole to `tci_handle_binary`.
-/

namespace Tci

abbrev Byte :=
  BitVec 8

/--
One chunk. `first` is `lws_is_first_fragment`, `final` is `lws_is_final_fragment` and `remaining` is
`lws_remaining_packet_payload`.
-/
structure Fragment where
  data : List Byte
  first : Bool
  final : Bool
  remaining : Nat
  deriving DecidableEq

-- the last chunk of a message
def Fragment.ends (f : Fragment) : Bool :=
  f.final && f.remaining = 0

structure BinaryRx where
  buf : Nat → Byte
  len : Nat
  size : Nat

namespace BinaryRx

def newSize (size needed : Nat) : Nat :=
  if size < needed then newSize (size + 8192) needed else size
termination_by needed - size
decreasing_by omega

-- `g_realloc`
def grow (rx : BinaryRx) (needed : Nat) : BinaryRx :=
  let size := rx.size
  { rx with
    size := if needed > size then newSize (if size ≠ 0 then size else 8256) needed else size }

-- what is passed to `tci_handle_binary` is the second component
def tciHandleBinaryLws (rx : BinaryRx) (f : Fragment) : BinaryRx × Option (List Byte) :=
  if f.data.length = 0 then
    (rx, none)
  else
    let rx := if f.first then { rx with len := 0 } else rx
    let needed := rx.len + f.data.length
    if needed > tciBinaryReassemblyMax then
      ({ rx with len := 0 }, none)
    else
      let rx := rx.grow needed
      let rx := { rx with buf := writeCells rx.buf rx.len f.data, len := needed }
      if ¬f.final ∨ f.remaining ≠ 0 then
        (rx, none)
      else
        ({ rx with len := 0 }, some (readCells rx.buf 0 rx.len))

end BinaryRx

/--
The chunks one after the other. `current` are the chunks of the message that has not ended yet.
-/
structure Reassembly where
  rx : BinaryRx
  current : List Fragment

namespace Reassembly

def delivers (s : Reassembly) (f : Fragment) : Option (List Byte) :=
  (s.rx.tciHandleBinaryLws f).2

def step (s : Reassembly) (f : Fragment) : Reassembly where
  rx := (s.rx.tciHandleBinaryLws f).1
  current := if f.ends then [] else s.current ++ [f]

-- the client is new; what the buffer holds is not determined
def start (buf : Nat → Byte) : Reassembly where
  rx := ⟨buf, 0, 0⟩
  current := []

end Reassembly

end Tci
