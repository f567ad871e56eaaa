import Pihpsdr.Lib.Ring
import Pihpsdr.Lib.Run

/-!
The samples of a sound card's microphone in `audio.c`: `tx_audio_thread`, which reads blocks from the device and
puts their samples into a ring, and `audio_get_next_mic_sample`, which takes them out. Either of them makes one
access to the ring or its indices in a step. The frames of the device are of type `β`, the samples of type `α`.
-/

namespace Transmit

def micRingLen : Nat :=
  8192

def inpBufferSize : Nat :=
  256

variable {α β : Type}

-- a result of `snd_pcm_readi`: the frames that have been read, or an error
inductive Readi (β : Type) where
  | frames (l : List β) (hlen : l.length ≤ inpBufferSize)
  | error (code : Nat)

def Readi.rc : Readi β → Int
  | frames l _ => l.length
  | error code => -(code + 1)

-- where `tx_audio_thread` is, with the number of the sample in the block
inductive MicThread where
  | reading
  | checking (i : Nat)
  | storing (i : Nat)
  | publishing (i : Nat)
  | exited
  deriving DecidableEq

-- where `audio_get_next_mic_sample` is
inductive MicReader (α : Type) where
  | idle
  | taking
  | taken (sample : α)

/--
`handle` is whether the device is open. `captured` are the frames that the device has delivered, `kept` those of
them that have had their turn in the loop, each with whether there was space for it, and `put` all samples that
have been put into the ring. `heard` are the results of `audio_get_next_mic_sample`, which are silence if there
is no sample.
-/
structure MicAudio (α β : Type) where
  handle : Bool
  ring : Nat → α
  inpt : Nat
  outpt : Nat
  buffer : Nat → β
  rc : Int
  thread : MicThread
  reader : MicReader α
  captured : List β
  kept : List (β × Bool)
  put : List α
  heard : List (Option α)

inductive MicEvent (β : Type) where
  | readi (result : Readi β)
  | thread
  | getNextMicSample
  | close

namespace MicAudio

-- neither the ring nor the buffer is initialised
def start (ring : Nat → α) (buffer : Nat → β) : MicAudio α β where
  handle := true
  ring := ring
  inpt := 0
  outpt := 0
  buffer := buffer
  rc := 0
  thread := .reading
  reader := .idle
  captured := []
  kept := []
  put := []
  heard := []

def readi (s : MicAudio α β) (result : Readi β) : MicAudio α β :=
  match s.thread with
  | .reading =>
    if s.handle then
      let s := { s with rc := result.rc, thread := .checking 0 }
      match result with
      | .frames l _ =>
        { s with
          buffer := fun i => (l[i]?).getD (s.buffer i)
          captured := s.captured ++ l }
      | .error _ => s
    else
      { s with thread := .exited }
  | _ => s

def next (i : Nat) : MicThread :=
  if i + 1 < inpBufferSize then .checking (i + 1) else .reading

-- the sample `i` of the block has had its turn; only the first `rc` of them have been read
def turn (s : MicAudio α β) (i : Nat) (space : Bool) : MicAudio α β :=
  { s with
    thread := next i
    kept := if (i : Int) < s.rc then s.kept ++ [(s.buffer i, space)] else s.kept }

variable (sample : β → α)

def stepThread (s : MicAudio α β) : MicAudio α β :=
  match s.thread with
  | .checking i =>
    if Ring.next micRingLen s.inpt ≠ s.outpt then
      { s with thread := .storing i }
    else
      s.turn i false
  | .storing i =>
    { s with
      ring := fun k => if k = s.inpt then sample (s.buffer i) else s.ring k
      thread := .publishing i }
  | .publishing i =>
    { s.turn i true with
      inpt := Ring.next micRingLen s.inpt
      put := s.put ++ [sample (s.buffer i)] }
  | _ => s

def getNextMicSample (s : MicAudio α β) : MicAudio α β :=
  match s.reader with
  | .idle =>
    if s.handle = false ∨ s.inpt = s.outpt then
      { s with heard := s.heard ++ [none] }
    else
      { s with reader := .taking }
  | .taking => { s with reader := .taken (s.ring s.outpt) }
  | .taken x =>
    { s with
      outpt := Ring.next micRingLen s.outpt
      reader := .idle
      heard := s.heard ++ [some x] }

def step (s : MicAudio α β) : MicEvent β → MicAudio α β
  | .readi result => s.readi result
  | .thread => s.stepThread sample
  | .getNextMicSample => s.getNextMicSample
  | .close => { s with handle := false }

end MicAudio

end Transmit
