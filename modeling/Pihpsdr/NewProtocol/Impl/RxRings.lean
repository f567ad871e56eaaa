import Pihpsdr.Lib.Ring
import Mathlib.Data.Rat.Defs
import Pihpsdr.NewProtocol.Impl.Ddc
import Pihpsdr.OldProtocol.Impl.OzyByte

/-!
The rings of `new_protocol.c` for the packets that come from the radio: one for the high-priority
packets, one for the microphone packets and one for the packets of each DDC. Their producers are the
functions `saturn_post_*`, each ring has a consumer thread of its own, which is started once and
never ends, and `new_protocol_menu_start` resets them.

A packet is in a buffer of a pool (`buffer.c`), buffers are numbers here. A post, a turn of a
consumer, stopping and starting the protocol are one step each.
-/

namespace NewProtocol

def maxDdc : Nat := 4

inductive RingId where
  | highPriority
  | mic
  | iq (ddc : Fin maxDdc)
  deriving DecidableEq

-- `HPRIORINGBUFLEN`, `MICRINGBUFLEN` and `RXIQRINGBUFLEN`
def RingId.length : RingId → Nat
  | .highPriority => 64
  | .mic => 64
  | .iq _ => 512

-- A ring and its semaphore. There is no counter of packets to be skipped for high priority.
structure P2Ring where
  slots : Nat → Option Nat
  inptr : Nat
  outptr : Nat
  sem : Nat
  count : Int

namespace P2Ring

def init : P2Ring := ⟨fun _ => none, 0, 0, 0, 0⟩

def full (N : Nat) (r : P2Ring) : Bool := Ring.next N r.inptr == r.outptr

def put (N b : Nat) (r : P2Ring) : P2Ring :=
  { r with
    slots := fun i => if i = r.inptr then some b else r.slots i
    inptr := Ring.next N r.inptr
    sem := r.sem + 1 }

def take (N : Nat) (r : P2Ring) : P2Ring :=
  { r with outptr := Ring.next N r.outptr, sem := r.sem - 1 }

end P2Ring

structure P2System where
  ring : RingId → P2Ring
  free : Nat → Bool
  running : Bool

inductive ConsumerTurn where
  -- the thread waits for its semaphore
  | blocked
  | nullPointer
  -- a buffer that is marked free is not processed
  | skipped (b : Nat)
  | processed (b : Nat)
  deriving DecidableEq

namespace P2System

def init : P2System := ⟨fun _ => .init, fun _ => true, false⟩

def setRing (id : RingId) (r : P2Ring) (y : P2System) : P2System :=
  { y with ring := fun i => if i = id then r else y.ring i }

def setFree (b : Nat) (v : Bool) (y : P2System) : P2System :=
  { y with free := fun i => if i = b then v else y.free i }

def saturnPostHighPriority (b : Nat) (y : P2System) : P2System :=
  let r := y.ring .highPriority
  if !y.running then
    y.setFree b true
  else if r.full 64 then
    -- overflow, further packets are not skipped
    y.setFree b true
  else
    y.setRing .highPriority (r.put 64 b)

-- what `saturn_post_micaudio` and `saturn_post_iq_data` do with their ring
def postOrSkip (id : RingId) (b : Nat) (y : P2System) : P2System :=
  let N := id.length
  let r := y.ring id
  if !y.running then
    y.setFree b true
  else if r.count < 0 then
    (y.setRing id { r with count := r.count + 1 }).setFree b true
  else if r.full N then
    -- overflow
    (y.setRing id { r with count := -(N / 4 : Nat) }).setFree b true
  else
    y.setRing id (r.put N b)

def saturnPostMicaudio (b : Nat) (y : P2System) : P2System := y.postOrSkip .mic b

def saturnPostIqData (ddc : Int) (b : Nat) (y : P2System) : P2System :=
  if h : ddc < 0 ∨ ddc ≥ maxDdc then
    y.setFree b true
  else
    y.postOrSkip (.iq ⟨ddc.toNat, by omega⟩) b

-- a turn of `high_priority_thread`, `mic_line_thread` or `iq_thread`
def consume (id : RingId) (y : P2System) : P2System × ConsumerTurn :=
  let r := y.ring id
  if r.sem = 0 then
    (y, .blocked)
  else
    let y := y.setRing id (r.take id.length)
    match r.slots r.outptr with
    | none => (y, .nullPointer)
    | some b => if y.free b then (y, .skipped b) else (y.setFree b true, .processed b)

-- `new_protocol_menu_stop`, or an error on sending
def stop (y : P2System) : P2System := { y with running := false }

-- The semaphores and `mic_count` are left as they are.
def resetRing : RingId → P2Ring → P2Ring
  | .highPriority, r => { r with inptr := 0, outptr := 0 }
  | .mic, r => { r with inptr := 0, outptr := 0 }
  | .iq _, r => { r with inptr := 0, outptr := 0, count := 0 }

def newProtocolMenuStart (y : P2System) : P2System where
  ring := fun id => resetRing id (y.ring id)
  free := fun _ => true
  running := true

-- A packet is received into a free buffer, which `get_p2buffer` marks used.
def receive (b : Nat) (post : P2System → P2System) (y : P2System) : P2System :=
  if y.free b then post (y.setFree b false) else y

end P2System

inductive P2Event where
  | highPriority (b : Nat)
  | mic (b : Nat)
  | iq (ddc : Int) (b : Nat)
  | consume (id : RingId)
  | stop
  | menuStart
  deriving DecidableEq

def P2System.step (y : P2System) : P2Event → P2System
  | .highPriority b => y.receive b (saturnPostHighPriority b)
  | .mic b => y.receive b (saturnPostMicaudio b)
  | .iq ddc b => y.receive b (saturnPostIqData ddc b)
  | .consume id => (y.consume id).1
  | .stop => y.stop
  | .menuStart => y.newProtocolMenuStart

end NewProtocol

/-!
The IQ packets of a DDC: how one gets into the buffer in `new_protocol_thread`, its decoders
`process_iq_data`, `process_div_iq_data` and `process_ps_iq_data`, and a turn of `iq_thread`.
-/

namespace NewProtocol

open OldProtocol (sampleHi sampleMid sampleLow)

-- I and Q, between -1 and 1
abbrev IqPair :=
  ℚ × ℚ

-- the calls that hand over samples; those for PureSignal are the feedback of TX and of RX
inductive IqCall where
  | rxAddIqSamples (id : Fin 2) (s : IqPair)
  | rxAddDivIqSamples (s₀ s₁ : IqPair)
  | txAddPsIqSamples (tx rx : IqPair)
  deriving DecidableEq

/-- What a decoder does: the bytes of the buffer that it reads, and its calls. -/
structure IqDecoding where
  reads : List Nat
  calls : List IqCall

def p2BufferSize : Nat :=
  1500

-- what `recvfrom` leaves of a datagram
def received (datagram : List (BitVec 8)) : List (BitVec 8) :=
  datagram.take p2BufferSize

-- the memory at the buffer and after it
def receive (old : Packet) (datagram : List (BitVec 8)) : Packet :=
  fun i => (received datagram).getD i (old i)

namespace IqData

def samplesPerFrame (buffer : Packet) : Nat :=
  (buffer 14).toNat <<< 8 + (buffer 15).toNat

def sampleDouble (buffer : Packet) (b : Nat) : ℚ :=
  (sampleLow (sampleMid (sampleHi (buffer b)) (buffer (b + 1))) (buffer (b + 2))).toInt
    * 1.1920928955078125E-7

def readPair (buffer : Packet) (b : Nat) : IqPair :=
  (sampleDouble buffer b, sampleDouble buffer (b + 3))

def header (d : IqDecoding) : IqDecoding :=
  { d with reads := 14 :: 15 :: d.reads }

-- the loop with `left` samples to go, from byte `b` on
def loop (buffer : Packet) (id : Fin 2) : Nat → Nat → IqDecoding
  | 0, _ => ⟨[], []⟩
  | left + 1, b =>
    let rest := loop buffer id left (b + 6)
    ⟨List.range' b 6 ++ rest.reads, .rxAddIqSamples id (readPair buffer b) :: rest.calls⟩

def processIqData (buffer : Packet) (id : Fin 2) : IqDecoding :=
  header (loop buffer id (samplesPerFrame buffer) 16)

section Pairs

variable (add : IqPair → IqPair → List IqCall) (buffer : Packet)

def pairPass (b : Nat) (rest : IqDecoding) : IqDecoding where
  reads := List.range' b 12 ++ rest.reads
  calls := add (readPair buffer b) (readPair buffer (b + 6)) ++ rest.calls

-- `i` is counted up by two
def pairLoop : Nat → Nat → IqDecoding
  | 0, _ => ⟨[], []⟩
  | 1, b => pairPass add buffer b ⟨[], []⟩
  | left + 2, b => pairPass add buffer b (pairLoop left (b + 12))

end Pairs

def divCalls (s : DdcSettings) (s₀ s₁ : IqPair) : List IqCall :=
  .rxAddDivIqSamples s₀ s₁
    :: if s.receivers > 1 ∧ (s.receiver 0).sampleRate = (s.receiver 1).sampleRate then
        [.rxAddIqSamples 1 s₁]
      else
        []

def psCalls (s₀ s₁ : IqPair) : List IqCall :=
  [.txAddPsIqSamples s₁ s₀]

def processDivIqData (s : DdcSettings) (buffer : Packet) : IqDecoding :=
  header (pairLoop (divCalls s) buffer (samplesPerFrame buffer) 16)

def processPsIqData (buffer : Packet) : IqDecoding :=
  header (pairLoop psCalls buffer (samplesPerFrame buffer) 16)

def decode (s : DdcSettings) (buffer : Packet) : RxAction → IqDecoding
  | .skip => ⟨[], []⟩
  | .rx1 => processIqData buffer 0
  | .rx2 => processIqData buffer 1
  | .ps => processPsIqData buffer
  | .div => processDivIqData s buffer

end IqData

-- `ddc_sequence` of a DDC and `sequence_errors`
structure DdcSequence where
  expected : BitVec 32
  errors : Nat

-- a turn of the thread with a buffer that is not free
def iqThread (s : DdcSettings) (action : RxAction) (q : DdcSequence) (buffer : Packet)
    : DdcSequence × IqDecoding :=
  let sequence := buffer.word 0
  (⟨sequence + 1, if q.expected ≠ sequence then q.errors + 1 else q.errors⟩,
    IqData.decode s buffer action)

-- the turns with the packets of a ring, each of them in a buffer with what was in it before
def iqThreadAll (s : DdcSettings) (action : RxAction)
    : DdcSequence → List (Packet × List (BitVec 8)) → DdcSequence × List IqCall
  | q, [] => (q, [])
  | q, (old, datagram) :: rest =>
    let (q, d) := iqThread s action q (receive old datagram)
    let (q, calls) := iqThreadAll s action q rest
    (q, d.calls ++ calls)

end NewProtocol
