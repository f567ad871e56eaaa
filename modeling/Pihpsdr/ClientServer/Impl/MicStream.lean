import Pihpsdr.Lib.BlockRing
import Pihpsdr.Lib.Ring
import Pihpsdr.ClientServer.Impl.Framing

/-!
TX audio on the server: the thread `udp_thread`, which takes datagrams and stores their samples in
the microphone ring buffer, and `remote_get_mic_sample`, which takes the samples out of it.
-/

namespace ClientServer

def micRingBufferSize : Nat :=
  8192

def micRingLow : Nat :=
  2400

def micPacketSize : Nat :=
  headerSize + 4000

def txAudioSize : Nat :=
  headerSize + 2 * 512

def micSample (x : Int) : ℚ :=
  double (x * double (3051 / 10 ^ 8))

-- the outcome of `recvfrom`; a timeout is the error `EAGAIN`
inductive RecvFrom where
  | datagram (bytes : List Byte)
  | timeout
  | error

def field16At (buffer : Nat → Byte) (i : Nat) : BitVec 16 :=
  field16 (readCells buffer i 2)

def packetType (buffer : Nat → Byte) : Option DataType :=
  DataType.ofCode (htons (field16At buffer 4)).toNat

-- the field `s1` of the header: bytes of a compressed packet, samples of the other kind
def packetNum (buffer : Nat → Byte) : Int :=
  from16 (field16At buffer 8)

def txAudioSample (buffer : Nat → Byte) (i : Nat) : ℚ :=
  micSample (from16 (field16At buffer (headerSize + 2 * i)))

/--
The two threads at work on the ring buffer. The memory at `buffer` keeps what the last calls of
`recvfrom` left there, `samples` are those that the loop over the samples of a packet has still to
store, and `taken` those that were handed out. Of the packet that was received last, `received` is
the number of its bytes and `payloadRead` the number of bytes after the header that were read.
-/
structure MicStream (σ : Type) where
  running : Bool
  buffer : Nat → Byte
  decoder : σ
  samples : List ℚ
  micRingBuffer : Nat → ℚ
  micRingInpt : Nat
  micRingOutpt : Nat
  isEmpty : Bool
  taken : List ℚ
  received : Nat
  payloadRead : Nat

namespace MicStream

section

-- the Opus decoder, and whether the audio is compressed
variable {σ : Type} (decode : σ → List Byte → σ × List Int) (audioCompression : Bool)

def initial (buffer : Nat → Byte) (decoder : σ) (micRingBuffer : Nat → ℚ) : MicStream σ where
  running := true
  buffer := buffer
  decoder := decoder
  samples := []
  micRingBuffer := micRingBuffer
  micRingInpt := 0
  micRingOutpt := 0
  isEmpty := true
  taken := []
  received := 0
  payloadRead := 0

-- the decoder refuses a negative length and reads as many bytes as it is told otherwise
def txAudioOpus (s : MicStream σ) : MicStream σ :=
  if packetNum s.buffer < 0 then
    s
  else
    let num := (packetNum s.buffer).toNat
    let (decoder, pcm) := decode s.decoder (readCells s.buffer headerSize num)
    { s with decoder := decoder, samples := pcm.map micSample, payloadRead := num }

-- the number of samples is converted to `unsigned int`
def txAudio (s : MicStream σ) : MicStream σ :=
  let num := (BitVec.ofInt 32 (packetNum s.buffer)).toNat
  { s with
    samples := (List.range num).map (txAudioSample s.buffer)
    payloadRead := 2 * num }

-- what follows `recvfrom`; the result -1 of a timeout is a large number without a sign
def process (s : MicStream σ) (bytesRead : Int) : MicStream σ :=
  if (BitVec.ofInt 32 bytesRead).toNat < headerSize then
    s
  else if packetType s.buffer = some .infoTxaudioOpus then
    if audioCompression then s.txAudioOpus decode else s
  else if packetType s.buffer = some .infoTxaudio ∧ bytesRead = txAudioSize then
    s.txAudio
  else
    s

def recvfrom (s : MicStream σ) : RecvFrom → MicStream σ
  | .datagram bytes =>
    let bytes := bytes.take micPacketSize
    { s with
      buffer := writeCells s.buffer 0 bytes
      received := bytes.length
      payloadRead := 0 }.process decode audioCompression bytes.length
  | .timeout => { s with received := 0, payloadRead := 0 }.process decode audioCompression (-1)
  | .error => { s with running := false }

-- one pass of the loop over the samples of a packet
def store (s : MicStream σ) : MicStream σ :=
  match s.samples with
  | [] => s
  | sample :: samples =>
    let newpt := Ring.next micRingBufferSize s.micRingInpt
    if newpt ≠ s.micRingOutpt then
      { s with
        samples := samples
        micRingBuffer := fun i => if i = s.micRingInpt then sample else s.micRingBuffer i
        micRingInpt := newpt }
    else
      { s with samples := samples }

def remoteGetMicSample (s : MicStream σ) : MicStream σ :=
  let numsamples := Ring.fill micRingBufferSize s.micRingInpt s.micRingOutpt
  let isEmpty := s.isEmpty || numsamples = 0
  if isEmpty ∧ numsamples < micRingLow then
    { s with isEmpty := isEmpty, taken := s.taken ++ [0] }
  else
    { s with
      isEmpty := false
      micRingOutpt := Ring.next micRingBufferSize s.micRingOutpt
      taken := s.taken ++ [s.micRingBuffer s.micRingOutpt] }

def Waiting (s : MicStream σ) : Prop :=
  s.running = true ∧ s.samples = []

instance (s : MicStream σ) : Decidable s.Waiting := by
  unfold Waiting
  infer_instance

end

inductive Event where
  | recvfrom (outcome : RecvFrom)
  | store
  | remoteGetMicSample

def step {σ : Type} (decode : σ → List Byte → σ × List Int) (audioCompression : Bool)
    (s : MicStream σ) : Event → MicStream σ
  | .recvfrom outcome => if s.Waiting then s.recvfrom decode audioCompression outcome else s
  | .store => s.store
  | .remoteGetMicSample => s.remoteGetMicSample

end MicStream

/--
What the stream is for: a queue of the samples of the valid packets, each of them decoded once from
its own bytes, and a source of samples that is silent until the queue has been filled again.
-/
structure MicQueue (σ : Type) where
  running : Bool
  decoder : σ
  samples : List ℚ
  queue : List ℚ
  isEmpty : Bool
  taken : List ℚ

namespace MicQueue

section

variable {σ : Type} (decode : σ → List Byte → σ × List Int) (audioCompression : Bool)

def initial (decoder : σ) : MicQueue σ where
  running := true
  decoder := decoder
  samples := []
  queue := []
  isEmpty := true
  taken := []

-- the memory that holds the bytes of a packet and nothing else
def packet (bytes : List Byte) : Nat → Byte :=
  writeCells (fun _ => 0) 0 bytes

-- a packet of compressed audio has the bytes that its header promises
def ValidOpus (bytes : List Byte) : Prop :=
  headerSize ≤ bytes.length ∧ packetType (packet bytes) = some .infoTxaudioOpus
    ∧ 0 ≤ packetNum (packet bytes) ∧ headerSize + packetNum (packet bytes) ≤ bytes.length

-- a packet of samples has as many as its header promises
def ValidPcm (bytes : List Byte) : Prop :=
  bytes.length = txAudioSize ∧ packetType (packet bytes) = some .infoTxaudio
    ∧ 0 ≤ packetNum (packet bytes)
    ∧ headerSize + 2 * packetNum (packet bytes) ≤ bytes.length

instance (bytes : List Byte) : Decidable (ValidOpus bytes) := by
  unfold ValidOpus
  infer_instance

instance (bytes : List Byte) : Decidable (ValidPcm bytes) := by
  unfold ValidPcm
  infer_instance

def receive (s : MicQueue σ) : RecvFrom → MicQueue σ
  | .datagram bytes =>
    let bytes := bytes.take micPacketSize
    let num := (packetNum (packet bytes)).toNat
    if ValidOpus bytes ∧ audioCompression then
      let (decoder, pcm) := decode s.decoder ((bytes.drop headerSize).take num)
      { s with decoder := decoder, samples := pcm.map micSample }
    else if ValidPcm bytes then
      { s with samples := (List.range num).map (txAudioSample (packet bytes)) }
    else
      s
  | .timeout => s
  | .error => { s with running := false }

def store (s : MicQueue σ) : MicQueue σ :=
  match s.samples with
  | [] => s
  | sample :: samples =>
    if s.queue.length + 1 < micRingBufferSize then
      { s with samples := samples, queue := s.queue ++ [sample] }
    else
      { s with samples := samples }

def take (s : MicQueue σ) : MicQueue σ :=
  let isEmpty := s.isEmpty || s.queue.length = 0
  if isEmpty ∧ s.queue.length < micRingLow then
    { s with isEmpty := isEmpty, taken := s.taken ++ [0] }
  else
    { s with
      isEmpty := false
      queue := s.queue.tail
      taken := s.taken ++ s.queue.head?.toList }

def Waiting (s : MicQueue σ) : Prop :=
  s.running = true ∧ s.samples = []

instance (s : MicQueue σ) : Decidable s.Waiting := by
  unfold Waiting
  infer_instance

end

def step {σ : Type} (decode : σ → List Byte → σ × List Int) (audioCompression : Bool)
    (s : MicQueue σ) : MicStream.Event → MicQueue σ
  | .recvfrom outcome => if s.Waiting then s.receive decode audioCompression outcome else s
  | .store => s.store
  | .remoteGetMicSample => s.take

end MicQueue

namespace MicStream

variable {σ : Type}

/-- The stream does what the queue does. -/
structure Refines (s : MicStream σ) (q : MicQueue σ) : Prop where
  running : s.running = q.running
  decoder : s.decoder = q.decoder
  samples : s.samples = q.samples
  ring : Ring.Holds micRingBufferSize s.micRingBuffer s.micRingInpt s.micRingOutpt q.queue
  isEmpty : s.isEmpty = q.isEmpty
  taken : s.taken = q.taken

-- no read beyond the bytes that were received
def WithinPacket (s : MicStream σ) : Prop :=
  s.payloadRead = 0 ∨ headerSize + s.payloadRead ≤ s.received

/--
A packet that the thread reads has the bytes that its header promises, and at a timeout the last
packet in the buffer was not one that is decoded again.
-/
def Clean (audioCompression : Bool) (s : MicStream σ) : Event → Prop
  | .recvfrom (.datagram bytes) =>
    let bytes := bytes.take micPacketSize
    let buffer := writeCells s.buffer 0 bytes
    s.Waiting → headerSize ≤ bytes.length →
      (packetType buffer = some .infoTxaudioOpus → audioCompression = true →
          headerSize + packetNum buffer ≤ bytes.length)
        ∧ (packetType buffer = some .infoTxaudio → bytes.length = txAudioSize →
            0 ≤ packetNum buffer ∧ packetNum buffer ≤ 512)
  | .recvfrom .timeout =>
    s.Waiting → ¬ (packetType s.buffer = some .infoTxaudioOpus ∧ audioCompression = true)
  | _ => True

end MicStream

end ClientServer
