import Pihpsdr.Lib.Ring

/-!
TX audio from a client, `tci_audio.c`: the thread of libwebsockets puts the samples of a frame into a ring buffer
and drains it, the transmitter takes one sample after the other by `tci_get_next_mic_sample`.
-/

namespace Tci

def sizeofTciStreamHeader : Nat :=
  64

def tciTxAudioRingFrames : Nat :=
  65536

def tciTxAudioFrameFrames : Nat :=
  512

def tciStreamTxAudio : BitVec 32 :=
  2

def tciTxPrebufferFrames : Nat :=
  4096

-- `length` is the number of floats in `audio`, which has the samples of both channels in turn
structure TciStream (α : Type) where
  type : BitVec 32
  length : BitVec 32
  audio : Nat → α

-- the left samples of a frame of `len` bytes, none of a frame that is refused
def TciStream.left {α : Type} (stream : TciStream α) (len : Nat) : List α :=
  if len < sizeofTciStreamHeader then
    []
  else if stream.type ≠ tciStreamTxAudio then
    []
  else
    let sampleCount := stream.length.toNat
    if sampleCount < 2 then
      []
    else if len < sizeofTciStreamHeader + 4 * sampleCount then
      []
    else
      (List.range (sampleCount / 2)).map (fun i => stream.audio (2 * i))

structure TciTxAudioRing (α : Type) where
  samples : Nat → α
  inpt : Nat
  outpt : Nat
  cache : Nat → α
  cacheLen : Nat
  cachePos : Nat

namespace TciTxAudioRing

variable {α : Type}

def tciAudioTxReset (ring : TciTxAudioRing α) : TciTxAudioRing α :=
  { ring with inpt := 0, outpt := 0, cacheLen := 0 }

-- the loop over the samples of a frame, which ends when the ring is full
def put (ring : TciTxAudioRing α) : List α → TciTxAudioRing α
  | [] => ring
  | x :: xs =>
    let newpt := Ring.next tciTxAudioRingFrames ring.inpt
    if newpt = ring.outpt then
      ring
    else
      put
        { ring with
          samples := fun i => if i = ring.inpt then x else ring.samples i
          inpt := newpt }
        xs

def tciAudioHandleTxFrame (ring : TciTxAudioRing α) (stream : TciStream α) (len : Nat)
    : TciTxAudioRing α :=
  ring.put (stream.left len)

def available (ring : TciTxAudioRing α) : Nat :=
  Ring.fill tciTxAudioRingFrames ring.inpt ring.outpt

-- the loop that fills the cache, with room for as many more samples
def copy (ring : TciTxAudioRing α) (newpt : Nat) : Nat → TciTxAudioRing α
  | 0 => { ring with outpt := newpt }
  | room + 1 =>
    if newpt = ring.inpt then
      { ring with outpt := newpt }
    else
      copy
        { ring with
          cache := fun i => if i = ring.cacheLen then ring.samples newpt else ring.cache i
          cacheLen := ring.cacheLen + 1 }
        (Ring.next tciTxAudioRingFrames newpt) room

-- what `tci_get_next_mic_sample` does under the mutex; `none` is the silence that `sample` starts with
def refill (ring : TciTxAudioRing α) (prebuffering : Bool)
    : TciTxAudioRing α × Bool × Option α :=
  let ring := { ring with cachePos := 0, cacheLen := 0 }
  let prebuffering :=
    if ring.available ≤ 0 then true
    else if ring.available ≥ tciTxPrebufferFrames then false
    else prebuffering
  if !prebuffering then
    let ring := ring.copy ring.outpt tciTxAudioFrameFrames
    if ring.cachePos < ring.cacheLen then
      ({ ring with cachePos := ring.cachePos + 1 }, prebuffering, some (ring.cache ring.cachePos))
    else
      (ring, prebuffering, none)
  else
    (ring, prebuffering, none)

end TciTxAudioRing

-- where `tci_get_next_mic_sample` is
inductive MicCall where
  | idle
  -- it has found a sample in the cache
  | cached
  -- it has found none, and goes for the mutex
  | locking
  deriving DecidableEq

/--
The ring buffer and the transmitter. `received` are the left samples of all frames and `returned` what the
transmitter got so far. `gathered` counts the samples received since the last reset or underrun, and `early` tells
whether the transmitter got a sample before enough of them were there.
-/
structure TxAudio (α : Type) where
  ring : TciTxAudioRing α
  prebuffering : Bool
  chronoCounter : Int
  chronoFrames : Nat
  call : MicCall
  received : List α
  returned : List (Option α)
  gathered : Nat
  early : Bool

inductive TxAudioEvent (α : Type) where
  | frame (stream : TciStream α) (len : Nat)
  | reset
  -- a call of `tci_get_next_mic_sample` up to the look at the cache
  | look
  -- the rest of this call
  | take

namespace TxAudio

variable {α : Type}

-- the threshold after which samples are due
def Quiet (s : TxAudio α) : Prop :=
  s.gathered < tciTxPrebufferFrames

instance (s : TxAudio α) : Decidable s.Quiet :=
  inferInstanceAs (Decidable (_ < _))

def frame (s : TxAudio α) (stream : TciStream α) (len : Nat) : TxAudio α :=
  { s with
    ring := s.ring.tciAudioHandleTxFrame stream len
    received := s.received ++ stream.left len
    gathered := s.gathered + (stream.left len).length }

def reset (s : TxAudio α) : TxAudio α :=
  { s with ring := s.ring.tciAudioTxReset, gathered := 0 }

def look (s : TxAudio α) : TxAudio α :=
  match s.call with
  | .idle =>
    let chrono := s.chronoCounter - 1 ≤ 0
    { s with
      chronoCounter := if chrono then (tciTxAudioFrameFrames : Int) else s.chronoCounter - 1
      chronoFrames := if chrono then s.chronoFrames + 1 else s.chronoFrames
      call := if s.ring.cachePos < s.ring.cacheLen then .cached else .locking }
  | _ => s

def give (s : TxAudio α) (sample : Option α) : TxAudio α :=
  { s with
    call := .idle
    returned := s.returned ++ [sample]
    early := s.early || (sample.isSome && s.Quiet) }

def take (s : TxAudio α) : TxAudio α :=
  match s.call with
  | .idle => s
  | .cached =>
    let sample := s.ring.cache s.ring.cachePos
    { s with ring := { s.ring with cachePos := s.ring.cachePos + 1 } }.give (some sample)
  | .locking =>
    let (ring, prebuffering, sample) := s.ring.refill s.prebuffering
    { s with ring, prebuffering, gathered := if s.ring.available = 0 then 0 else s.gathered }.give
      sample

def step (s : TxAudio α) : TxAudioEvent α → TxAudio α
  | .frame stream len => s.frame stream len
  | .reset => s.reset
  | .look => s.look
  | .take => s.take

-- what the memory holds at first is not determined
def start (samples cache : Nat → α) : TxAudio α where
  ring := ⟨samples, 0, 0, cache, 0, 0⟩
  prebuffering := true
  chronoCounter := 1
  chronoFrames := 0
  call := .idle
  received := []
  returned := []
  gathered := 0
  early := false

end TxAudio

end Tci
