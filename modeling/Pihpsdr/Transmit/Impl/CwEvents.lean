import Pihpsdr.Lib.Ring
import Pihpsdr.Lib.Run

/-!
The ring of CW events of `transmitter.c`: `tx_queue_cw_event`, which any of the CW sources calls, and
`next_cw_sidetone_sample`, which takes the events out of the ring while the radio transmits in CW. One
sample of the consumer is one step, while a call of the producer is three: it reads the fill level,
then stores the event if there is room, then moves the write index.
-/

namespace Transmit

def cwRingSize : Nat :=
  1024

-- an element of `cw_ring_state` and `cw_ring_wait`; all callers pass a byte for the state
structure CwEvent where
  down : BitVec 8
  wait : Int
  deriving DecidableEq

def CwEvent.keyUp (e : CwEvent) : CwEvent :=
  { e with down := 0 }

inductive CwCall where
  | idle
  | called (e : CwEvent) (newpt : Nat)
  | stored (newpt : Nat)
  deriving DecidableEq

/--
The ring, the key and the time since the last event. `calls` lists the events that were to be queued,
each with the fill level that the producer has found, `accepted` those that are or have been in the
ring, and `executed` those taken out of it, each with the number of its sample. `downFor` counts the
samples since the key is down.
-/
structure TxCw where
  ring : Nat → CwEvent
  inpt : Nat
  outpt : Nat
  keydown : BitVec 8
  delayTime : Nat
  call : CwCall
  calls : List (CwEvent × Nat)
  accepted : List CwEvent
  executed : List (CwEvent × Nat)
  samples : Nat
  downFor : Nat

inductive CwStep where
  | queue (down : BitVec 8) (wait : Int)
  | store
  | publish
  -- a sample of `tx_add_mic_sample`, while the radio transmits in CW and otherwise
  | sample
  | idleSample
  deriving DecidableEq

namespace TxCw

def fill (s : TxCw) : Nat :=
  Ring.fill cwRingSize s.inpt s.outpt

-- the beginning of `tx_queue_cw_event`
def queue (s : TxCw) (down : BitVec 8) (wait : Int) : TxCw :=
  match s.call with
  | .idle =>
    -- if the buffer is nearly full, all events are key-up
    let e : CwEvent := ⟨if s.fill + 16 > cwRingSize then 0 else down, wait⟩
    { s with
      call := .called e (Ring.next cwRingSize s.inpt)
      calls := s.calls ++ [(⟨down, wait⟩, s.fill)] }
  | _ => s

def store (s : TxCw) : TxCw :=
  match s.call with
  | .called e newpt =>
    if newpt ≠ s.outpt then
      { s with ring := fun i => if i = s.inpt then e else s.ring i, call := .stored newpt }
    else
      { s with call := .idle }
  | _ => s

def publish (s : TxCw) : TxCw :=
  match s.call with
  | .stored newpt =>
    { s with inpt := newpt, call := .idle, accepted := s.accepted ++ [s.ring s.inpt] }
  | _ => s

-- the time since the last event saturates
def tick (s : TxCw) : TxCw :=
  if s.delayTime < 999999 then { s with delayTime := s.delayTime + 1 } else s

-- the hardware protection
def protect (s : TxCw) : TxCw :=
  if s.keydown ≠ 0 ∧ s.delayTime > 960000 then { s with keydown := 0 } else s

def execute (s : TxCw) : TxCw :=
  if s.inpt ≠ s.outpt then
    if s.delayTime ≥ (s.ring s.outpt).wait then
      { s with
        delayTime := 0
        keydown := (s.ring s.outpt).down
        outpt := Ring.next cwRingSize s.outpt
        executed := s.executed ++ [(s.ring s.outpt, s.samples)] }
    else
      s
  else
    s

def nextCwSidetoneSample (s : TxCw) : TxCw :=
  s.protect.execute

def sample (s : TxCw) : TxCw :=
  let s := s.tick.nextCwSidetoneSample
  { s with samples := s.samples + 1, downFor := if s.keydown ≠ 0 then s.downFor + 1 else 0 }

def idleSample (s : TxCw) : TxCw :=
  let s := s.tick
  { s with keydown := 0, inpt := 0, outpt := 0, samples := s.samples + 1, downFor := 0 }

def step (s : TxCw) : CwStep → TxCw
  | .queue down wait => s.queue down wait
  | .store => s.store
  | .publish => s.publish
  | .sample => s.sample
  | .idleSample => s.idleSample

def txQueueCwEvent (s : TxCw) (down : BitVec 8) (wait : Int) : TxCw :=
  (s.queue down wait).store.publish

def start : TxCw where
  ring := fun _ => ⟨0, 0⟩
  inpt := 0
  outpt := 0
  keydown := 0
  delayTime := 0
  call := .idle
  calls := []
  accepted := []
  executed := []
  samples := 0
  downFor := 0

end TxCw

end Transmit

/-!
The keys that fill the ring of CW events: the keyer thread of `iambic.c`, which sends the elements of the
paddles and follows a straight key, and the external key of `schedule_action`. They measure the time that
the key is held.
-/

namespace Transmit

-- the speed is 1 to 100, the weight 0 to 100
structure KeyerSettings where
  speed : Nat
  weight : Nat
  speed_pos : 0 < speed
  weight_le : weight ≤ 100

namespace KeyerSettings

def dotSamples (k : KeyerSettings) : Nat :=
  57600 / k.speed

def dashSamples (k : KeyerSettings) : Nat :=
  3456 * k.weight / k.speed

end KeyerSettings

/--
`clock` is the monotonic clock in nanoseconds, `tdown` the time when the straight key went down and `last`
the time of the last event of the external key. `straight` is the state of the keyer thread between the
two.
-/
structure CwKeys where
  cw : TxCw
  clock : Nat
  tdown : Nat
  straight : Bool
  last : Nat

inductive CwKeyEvent where
  | elapse (ns : Nat)
  -- the states `CHECK` and `STRAIGHT` of the keyer thread
  | straightKey (kdash : Bool)
  | dot (k : KeyerSettings)
  | dash (k : KeyerSettings)
  -- `keyed` stands for `!cw_keyer_internal || MIDI_cw_is_active`
  | cwKeyerKeydown (pressed keyed : Bool)
  | sample

namespace CwKeys

-- the conversion of a time to `int`, whose value the language leaves open if it does not fit
variable (toInt : Nat → Int)

-- an element and the pause after it
def element (s : CwKeys) (samples pause : Nat) : CwKeys :=
  { s with
    cw := ((s.cw.txQueueCwEvent 1 0).txQueueCwEvent 0 samples).txQueueCwEvent 0 pause }

-- the time in samples that the straight key is down
def held (s : CwKeys) : Nat :=
  48 * (s.clock - s.tdown) / 1000000

-- the time in samples since the last event of the external key, rounded
def pause (s : CwKeys) : Nat :=
  (48 * (s.clock - s.last) + 500000) / 1000000

def straightKey (s : CwKeys) (kdash : Bool) : CwKeys :=
  if s.straight then
    if kdash then
      s
    else
      { s with cw := s.cw.txQueueCwEvent 0 (toInt s.held), straight := false }
  else if kdash then
    { s with cw := s.cw.txQueueCwEvent 1 0, tdown := s.clock, straight := true }
  else
    s

def cwKeyerKeydown (s : CwKeys) (pressed keyed : Bool) : CwKeys :=
  let wait := toInt s.pause
  let s := { s with last := s.clock }
  if pressed && keyed then
    -- after a pause, queue without delay
    let wait := if wait > 24000 then 0 else wait
    { s with cw := s.cw.txQueueCwEvent 1 wait }
  else
    { s with cw := s.cw.txQueueCwEvent 0 wait }

def step (s : CwKeys) : CwKeyEvent → CwKeys
  | .elapse ns => { s with clock := s.clock + ns }
  | .straightKey kdash => s.straightKey toInt kdash
  | .dot k => if s.straight then s else s.element k.dotSamples k.dotSamples
  | .dash k => if s.straight then s else s.element k.dashSamples k.dotSamples
  | .cwKeyerKeydown pressed keyed => s.cwKeyerKeydown toInt pressed keyed
  | .sample => { s with cw := s.cw.sample }

def start : CwKeys where
  cw := TxCw.start
  clock := 0
  tdown := 0
  straight := false
  last := 0

end CwKeys

end Transmit
