import Pihpsdr.Lib.Ring
import Pihpsdr.Tci.Impl.Server

/-!
RX audio for the clients, `tci_audio.c` and `tci_queue_rx_audio_frame` of `tci.c`: for each receiver one thread puts
samples into a ring buffer, and the thread of libwebsockets takes frames out of it for one client after the other.
-/

namespace Tci

def tciRxAudioRingFrames : Nat :=
  32768

def tciRxAudioFrameFrames : Nat :=
  512

-- `sizeof (TCI_STREAM)`
def sizeofTciStream : Nat :=
  tciStreamHeaderSize + 4 * 8192

abbrev Receiver :=
  Fin tciRxAudioMaxReceivers

-- a sample has a left and a right part, as they are after the conversion to `float`
structure TciRxAudioRing (α : Type) where
  samples : Nat → α × α
  inpt : Nat
  outpt : Nat

-- the fields of the header that are not zero, and the samples
structure RxFrame (α : Type) where
  receiver : Nat
  sampleRate : Nat
  format : Nat
  length : Nat
  type : Nat
  channels : Nat
  audio : List (α × α)

namespace TciRxAudioRing

variable {α : Type}

def available (ring : TciRxAudioRing α) : Nat :=
  Ring.fill tciRxAudioRingFrames ring.inpt ring.outpt

-- the loop over `frames` samples, with the value of `newpt` after it
def read (ring : TciRxAudioRing α) (newpt : Nat) : Nat → List (α × α) × Nat
  | 0 => ([], newpt)
  | frames + 1 =>
    let (xs, newpt') := ring.read (Ring.next tciRxAudioRingFrames newpt) frames
    (ring.samples newpt :: xs, newpt')

-- all that was put into the ring and not taken out
def contents (ring : TciRxAudioRing α) : List (α × α) :=
  (ring.read ring.outpt ring.available).1

def put (ring : TciRxAudioRing α) (x : α × α) : TciRxAudioRing α :=
  { ring with
    samples := fun i => if i = ring.inpt then x else ring.samples i
    inpt := Ring.next tciRxAudioRingFrames ring.inpt }

def frameLen (frames : Nat) : Nat :=
  tciStreamHeaderSize + 2 * frames * 4

-- the number of samples in the next frame, 0 if there is none
def frames (ring : TciRxAudioRing α) (frameSize : Nat) : Nat :=
  let frames := min ring.available tciRxAudioFrameFrames
  if frameLen frames > frameSize then 0 else frames

def tciAudioGetFrame (ring : TciRxAudioRing α) (receiverId : Receiver) (frames : Nat)
    : RxFrame α × TciRxAudioRing α :=
  let (audio, newpt) := ring.read ring.outpt frames
  ({ receiver := receiverId
     sampleRate := 48000
     format := 3
     length := 2 * frames
     type := 1
     channels := 2
     audio },
    { ring with outpt := newpt })

end TciRxAudioRing

-- the result of `tci_queue_binary_frame`
def Client.takesBinary (client : Client) (len : Nat) : Bool :=
  ¬(len = 0 ∨ ¬client.running) ∧ ¬(client.idleQueued ≥ 100 ∨ client.wsi.isNone)

open TciRxAudioRing

/--
The server and the two rings. `wakeups` counts the calls of `tci_audio_wakeup`, `storing` is a sample for which
room was found, `reading` the client, the receiver and the number of samples of the frame that is being taken. `got`
are the samples in the frames that were queued for a client, and `due` those of the receiver, since it asked for
them.
-/
structure RxAudio (α : Type) where
  server : Server
  rings : Receiver → TciRxAudioRing α
  wakeupCount : Int
  wakeups : Nat
  storing : Receiver → Option (α × α)
  reading : Option (Slot × Receiver × Nat)
  got : Slot → Receiver → List (α × α)
  due : Slot → Receiver → List (α × α)
  overflowed : Receiver → Bool

inductive RxAudioEvent (α : Type) where
  | server (event : Event)
  -- `tci_audio_rx_sample` up to the test for room
  | look (id : Int) (x : α × α)
  -- the rest of it
  | store (i : Receiver)
  -- `tci_queue_rx_audio_frame` until it knows the number of samples
  | count (c : Slot) (i : Receiver)
  -- the rest of it
  | queue

namespace RxAudio

variable {α : Type}

def subscribed (s : RxAudio α) (c : Slot) (i : Receiver) : Bool :=
  (s.server.clients c).running && (s.server.clients c).rxAudioEnabled i

-- what was in the ring when a client asks for the samples is due to it, too
def serve (s : RxAudio α) (server : Server) : RxAudio α :=
  let asks := fun c i => !s.subscribed c i && (server.clients c).running
    && (server.clients c).rxAudioEnabled i
  { s with
    server
    got := fun c i => if asks c i then [] else s.got c i
    due := fun c i => if asks c i then (s.rings i).contents else s.due c i }

def produced (s : RxAudio α) (i : Receiver) (x : α × α) : RxAudio α :=
  let wakeup := s.wakeupCount - 1 ≤ 0
  { s with
    wakeupCount := if wakeup then (tciRxAudioFrameFrames : Int) else s.wakeupCount - 1
    wakeups := if wakeup then s.wakeups + 1 else s.wakeups
    due := fun c j => if j = i ∧ s.subscribed c i then s.due c j ++ [x] else s.due c j }

def look (s : RxAudio α) (id : Int) (x : α × α) : RxAudio α :=
  if h : id < 0 ∨ id ≥ tciRxAudioMaxReceivers then
    s
  else
    let i : Receiver := ⟨id.toNat, by omega⟩
    let ring := s.rings i
    if s.storing i ≠ none then
      s
    else if Ring.next tciRxAudioRingFrames ring.inpt ≠ ring.outpt then
      { s with storing := Function.update s.storing i (some x) }
    else
      { s with overflowed := Function.update s.overflowed i true }.produced i x

def store (s : RxAudio α) (i : Receiver) : RxAudio α :=
  match s.storing i with
  | none => s
  | some x =>
    { s with
      rings := Function.update s.rings i ((s.rings i).put x)
      storing := Function.update s.storing i none }.produced i x

def count (s : RxAudio α) (c : Slot) (i : Receiver) : RxAudio α :=
  if s.reading = none ∧ s.subscribed c i then
    let frames := (s.rings i).frames sizeofTciStream
    if frames ≤ 0 then s else { s with reading := some (c, i, frames) }
  else
    s

def queue (s : RxAudio α) : RxAudio α :=
  match s.reading with
  | none => s
  | some (c, i, frames) =>
    let (frame, ring) := (s.rings i).tciAudioGetFrame i frames
    let len := frameLen frames
    let taken := (s.server.clients c).takesBinary len
    { s with
      rings := Function.update s.rings i ring
      server := s.server.modify c fun client => client.tciQueueBinaryFrame len
      reading := none
      got := fun c' j =>
        if c' = c ∧ j = i ∧ taken then s.got c' j ++ frame.audio else s.got c' j }

def step (s : RxAudio α) : RxAudioEvent α → RxAudio α
  | .server event => s.serve (s.server.step event)
  | .look id x => s.look id x
  | .store i => s.store i
  | .count c i => s.count c i
  | .queue => s.queue

-- what the memory holds at first is not determined
def start (server : Server) (samples : Receiver → Nat → α × α) : RxAudio α where
  server
  rings i := ⟨samples i, 0, 0⟩
  wakeupCount := tciRxAudioFrameFrames
  wakeups := 0
  storing _ := none
  reading := none
  got _ _ := []
  due _ _ := []
  overflowed _ := false

end RxAudio

end Tci
