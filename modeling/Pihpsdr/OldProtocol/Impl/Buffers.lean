import Pihpsdr.Lib.Indices
import Mathlib.Data.List.FinRange
import Mathlib.Logic.Function.Basic
import Pihpsdr.Lib.Ring
import Pihpsdr.OldProtocol.Impl.OzyByte

/-!
The buffers for the packets from the radio: their pools in `buffer.c`, the rings that the receive
threads `metis_receive_thread` and `ozy_ep6_rx_thread` fill, and their consumer
`process_ozy_input_buffer_thread`. Both paths do the same with different sizes.

A buffer is the number of its allocation. A turn of a thread ends where it depends on what the other
thread does. The semaphore of the rings only delays the consumer, which looks at the ring itself.
-/

namespace OldProtocol

inductive BufferPath where
  | metis
  | ozy
  deriving DecidableEq

namespace BufferPath

-- `METISRINGBUFLEN` and `OZYRINGBUFLEN`
def ringLength : BufferPath → Nat
  | .metis => 512
  | .ozy => 256

-- the number of buffers that are allocated at once
def increment : BufferPath → Nat
  | .metis => 64
  | .ozy => 32

-- the number of packets to be skipped after an overflow
def skipped : BufferPath → Nat
  | .metis => 256
  | .ozy => 128

end BufferPath

structure BufferPool where
  lists : Fin 8 → List Nat
  num : Nat
  cnt : Fin 8
  free : Nat → Bool

namespace BufferPool

def setFree (p : BufferPool) (b : Nat) (v : Bool) : BufferPool :=
  { p with free := Function.update p.free b v }

-- each new buffer is put at the head of its list
def grow (p : BufferPool) (n : Nat) : BufferPool :=
  let added := List.range' p.num n
  { p with
    lists := Function.update p.lists p.cnt (added.reverse ++ p.lists p.cnt)
    num := p.num + n
    free := fun b => b ∈ added ∨ p.free b }

def empty : BufferPool :=
  ⟨fun _ => [], 0, Fin.last 7, fun _ => false⟩

-- `old_protocol_init` gets a buffer from each list and marks it free
def prealloc (n : Nat) : BufferPool :=
  (List.finRange 8).foldl (fun p c => { p with cnt := c }.grow n) empty

end BufferPool

-- the receive thread, with the rest of its list while it looks for a free buffer
inductive ReceiveThread where
  | idle
  | searching (rest : List Nat)
  | reading (b : Nat)

-- the consumer, which moves its index after it has freed the buffer
inductive ProcessThread where
  | idle
  | processing (b : Nat)
  | freed

structure BufferSystem where
  pool : BufferPool
  ringbuf : Nat → Nat
  inptr : Nat
  outptr : Nat
  skipCount : Int
  receiver : ReceiveThread
  consumer : ProcessThread

namespace BufferSystem

variable (path : BufferPath)

def start : BufferSystem where
  pool := .prealloc path.increment
  ringbuf _ := 0
  inptr := 0
  outptr := 0
  skipCount := 0
  receiver := .idle
  consumer := .idle

-- after an overflow the buffer is not marked free
def queueBuffer (y : BufferSystem) (b : Nat) : BufferSystem :=
  if y.skipCount < 0 then
    { y with pool := y.pool.setFree b true, skipCount := y.skipCount + 1 }
  else
    let nptr := Ring.next path.ringLength y.inptr
    if nptr ≠ y.outptr then
      { y with ringbuf := fun i => if i = y.inptr then b else y.ringbuf i, inptr := nptr }
    else
      { y with skipCount := -path.skipped }

-- the next access to the list in `get_metisbuffer` or `get_ozybuffer`
def search (y : BufferSystem) : List Nat → BufferSystem
  | [] =>
    let pool := y.pool.grow path.increment
    let b := (pool.lists pool.cnt).headD 0
    { y with pool := pool.setFree b false, receiver := .reading b }
  | b :: rest =>
    if y.pool.free b then
      { y with pool := y.pool.setFree b false, receiver := .reading b }
    else
      { y with receiver := .searching rest }

-- a turn of the receive thread; `ok` says whether the packet is to be queued
def receive (y : BufferSystem) (ok : Bool) : BufferSystem :=
  match y.receiver with
  | .idle =>
    let cnt := y.pool.cnt + 1
    { y with pool := { y.pool with cnt := cnt }, receiver := .searching (y.pool.lists cnt) }
  | .searching rest => y.search path rest
  | .reading b =>
    let y := { y with receiver := .idle }
    if ok then y.queueBuffer path b else { y with pool := y.pool.setFree b true }

def process (y : BufferSystem) : BufferSystem :=
  match y.consumer with
  | .idle => if y.inptr ≠ y.outptr then { y with consumer := .processing (y.ringbuf y.outptr) } else y
  | .processing b => { y with pool := y.pool.setFree b true, consumer := .freed }
  | .freed => { y with outptr := Ring.next path.ringLength y.outptr, consumer := .idle }

end BufferSystem

inductive BufferEvent where
  | receive (ok : Bool)
  | process
  deriving DecidableEq

def BufferSystem.step (path : BufferPath) (y : BufferSystem) : BufferEvent → BufferSystem
  | .receive ok => y.receive path ok
  | .process => y.process path

end OldProtocol

/-!
`metis_read`, which reads one packet from the radio, by TCP or by UDP, and the turn of
`metis_receive_thread` that calls it.

A TCP connection is what the radio sends before it closes it, and how the calls of `recvfrom` go.
When all these calls are made, the rest comes at once. After the last byte, a call returns 0.
-/

namespace OldProtocol

inductive TcpCall where
  | timeout
  | error
  -- `n + 1` bytes are there
  | chunk (n : Nat)
  deriving DecidableEq

structure TcpStream where
  data : List Byte
  calls : List TcpCall

inductive TcpResult where
  | again
  | failed
  | received (bytes : List Byte)

namespace TcpStream

def recvfrom (s : TcpStream) (size : Nat) : TcpResult × TcpStream :=
  match s.calls with
  | [] => (.received (s.data.take size), ⟨s.data.drop size, []⟩)
  | .timeout :: calls => (.again, ⟨s.data, calls⟩)
  | .error :: calls => (.failed, ⟨s.data, calls⟩)
  | .chunk n :: calls =>
    let size := min (n + 1) size
    (.received (s.data.take size), ⟨s.data.drop size, calls⟩)

-- what the calls deliver before one of them fails
def inTime : List TcpCall → Nat → Bool
  | _, 0 => true
  | [], _ + 1 => true
  | .timeout :: calls, left + 1 => inTime calls (left + 1)
  | .error :: _, _ + 1 => false
  | .chunk n :: calls, left + 1 => inTime calls (left - n)

/-- That many bytes arrive before an error and before the connection is closed. -/
def Delivers (s : TcpStream) (bytes : Nat) : Prop :=
  bytes ≤ s.data.length ∧ inTime s.calls bytes = true

instance (s : TcpStream) (bytes : Nat) : Decidable (s.Delivers bytes) :=
  inferInstanceAs (Decidable (_ ∧ _))

/--
The loop of `metis_read` over TCP with at most `passes` passes: `ret` and the bytes in the buffer
at its end.
-/
def readLoop : Nat → TcpStream → Int → List Byte → Nat → Option (Int × List Byte)
  | 0, _, _, _, _ => none
  | passes + 1, s, ret, buffer, left =>
    if left > 0 then
      match s.recvfrom left with
      | (.again, s) => readLoop passes s (-1) buffer left
      | (.failed, _) => some (-1, buffer)
      | (.received bytes, s) =>
        readLoop passes s bytes.length (buffer ++ bytes) (left - bytes.length)
    else
      some (ret, buffer)

end TcpStream

-- a UDP socket has a datagram or reports an error; the TCP socket is closed for a restart
inductive MetisSocket where
  | tcp (s : TcpStream)
  | udp (datagram : Option (List Byte))
  | closed

-- `last_seq_num` and `sequence_errors`
structure MetisSequence where
  last : BitVec 32
  errors : Nat

def metisBufferSize : Nat :=
  1032

-- the first bytes of a packet from the radio, with the end point of the receiver samples
def iqHeader (buffer : List Byte) : Bool :=
  buffer[0]? == some 0xEF && buffer[1]? == some 0xFE && buffer[3]? == some 6

def metisSequence (buffer : List Byte) : BitVec 32 :=
  buffer.getD 4 0 ++ buffer.getD 5 0 ++ buffer.getD 6 0 ++ buffer.getD 7 0

def MetisSequence.check (q : MetisSequence) (sequence : BitVec 32) : MetisSequence where
  last := sequence
  errors := if sequence ≠ 0 ∧ sequence ≠ q.last + 1 then q.errors + 1 else q.errors

structure MetisRead where
  ret : Int
  buffer : List Byte
  sequence : MetisSequence

-- `ret` and `bytes_read` before the header is checked, and the buffer
def metisBytes (passes : Nat) (socket : MetisSocket) (len : Nat)
    : Option (Int × Int × List Byte) :=
  match socket with
  | .tcp s =>
    match s.readLoop passes (-1) [] len with
    | none => none
    | some (ret, buffer) => some (ret, if ret < 0 then ret else buffer.length, buffer)
  | .udp (some datagram) =>
    let buffer := datagram.take len
    some (-1, buffer.length, buffer)
  | .udp none => some (-1, -1, [])
  | .closed => some (-1, 0, [])

-- `none` if the loop has not ended after `passes` passes
def metisRead (passes : Nat) (socket : MetisSocket) (len : Nat) (q : MetisSequence)
    : Option MetisRead :=
  match metisBytes passes socket len with
  | none => none
  | some (ret, bytesRead, buffer) =>
    if bytesRead = metisBufferSize ∧ iqHeader buffer = true then
      some ⟨0, buffer, q.check (metisSequence buffer)⟩
    else
      some ⟨ret, buffer, q⟩

/-- The packet that is read into the buffer, if a complete one is. -/
def MetisSocket.Reads (socket : MetisSocket) (packet : List Byte) : Prop :=
  match socket with
  | .tcp s => s.Delivers metisBufferSize ∧ packet = s.data.take metisBufferSize
  | .udp (some datagram) =>
    metisBufferSize ≤ datagram.length ∧ packet = datagram.take metisBufferSize
  | .udp none => False
  | .closed => False

/-- The buffer that a turn of `metis_receive_thread` queues, if `metis_read` returns. -/
def metisReceive (passes : Nat) (socket : MetisSocket) (q : MetisSequence)
    : Option (List Byte) :=
  match metisRead passes socket metisBufferSize q with
  | none => none
  | some r => if 0 ≤ r.ret then some r.buffer else none

end OldProtocol
