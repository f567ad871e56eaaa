import Pihpsdr.Radio.Band
import Mathlib.Algebra.Group.Nat.Defs
import Mathlib.Algebra.Group.Int.Defs

/-!
The channel numbers and the number of HPSDR receivers `old_protocol.c` uses. The settings they
depend on are `device`, `anan10E`, `receivers` (which is 1 or 2), `diversity_enabled` and
`transmitter->puresignal`.
-/

namespace OldProtocol

structure ReceiverSettings where
  device : Device
  anan10E : Bool
  receivers : Nat
  diversityEnabled : Bool
  puresignal : Bool
  receivers_eq : receivers = 1 ∨ receivers = 2
  deriving DecidableEq

theorem receivers_one : 1 = 1 ∨ 1 = 2 := by
  decide

def rxFeedbackChannel (device : Device) (anan10E : Bool) : Nat :=
  match device with
  | .metis | .hermesLite | .ozy | .hermes2 => 0
  | .hermes => if anan10E then 0 else 2
  | .g2e | .stemlab | .stemlabZ20 | .hermesLite2 => 2
  | .angelia | .orion | .orion2 => 3
  | _ => 0

def txFeedbackChannel (device : Device) (anan10E : Bool) : Nat :=
  match device with
  | .metis | .hermesLite | .ozy | .hermes2 => 1
  | .hermes => if anan10E then 1 else 3
  | .g2e | .stemlab | .stemlabZ20 | .hermesLite2 => 3
  | .angelia | .orion | .orion2 => 4
  | _ => 1

def howManyReceivers (c : ReceiverSettings) : Nat :=
  let ret := if c.diversityEnabled then 2 else c.receivers
  if c.device = .ozy then
    2
  else if c.puresignal then
    match c.device with
    | .metis | .hermesLite | .ozy | .hermes2 => 2
    | .hermes => if c.anan10E then 2 else 4
    | .g2e | .stemlab | .stemlabZ20 | .hermesLite2 => 4
    | .angelia | .orion | .orion2 => 5
    | _ => 2
  else
    ret

theorem howManyReceivers_mem (c : ReceiverSettings) : howManyReceivers c ∈ [1, 2, 4, 5] := by
  rcases c with ⟨device, anan10E, receivers, diversityEnabled, puresignal, hreceivers⟩
  unfold howManyReceivers
  cases puresignal with
  | true => cases device <;> cases anan10E <;> simp
  | false =>
    cases diversityEnabled with
    | true => simp
    | false =>
      dsimp only
      split
      . simp
      . cases hreceivers with
        | inl h => simp [h]
        | inr h => simp [h]

theorem howManyReceivers_pos (c : ReceiverSettings) : 1 ≤ howManyReceivers c := by
  have := howManyReceivers_mem c
  simp only [List.mem_cons, List.not_mem_nil, or_false] at this
  omega

theorem howManyReceivers_le (c : ReceiverSettings) : howManyReceivers c ≤ 5 := by
  have := howManyReceivers_mem c
  simp only [List.mem_cons, List.not_mem_nil, or_false] at this
  omega

-- Upon PureSignal, both feedback channels are among the receivers.
theorem txFeedbackChannel_lt (c : ReceiverSettings) (h : c.puresignal = true)
    : txFeedbackChannel c.device c.anan10E < howManyReceivers c := by
  unfold howManyReceivers txFeedbackChannel
  cases c.device <;> simp [h]
  cases c.anan10E <;> simp

theorem rxFeedbackChannel_lt_txFeedbackChannel (device : Device) (anan10E : Bool)
    : rxFeedbackChannel device anan10E < txFeedbackChannel device anan10E := by
  unfold rxFeedbackChannel txFeedbackChannel
  cases device <;> simp
  cases anan10E <;> simp

end OldProtocol

/-!
`process_ozy_byte` of `old_protocol.c`, the state machine that takes the frames of the radio apart
byte by byte.

The sample values are kept as integers: the floating-point values the program hands over are these
multiplied with a constant, which for the I and Q samples is the power of two 2⁻²³.
-/

namespace OldProtocol

abbrev Byte := BitVec 8

inductive OzyState where
  | sync0
  | sync1
  | sync2
  | control0
  | control1
  | control2
  | control3
  | control4
  | leftSampleHi
  | leftSampleMid
  | leftSampleLow
  | rightSampleHi
  | rightSampleMid
  | rightSampleLow
  | micSampleHi
  | micSampleLow
  | skip
  deriving DecidableEq, Repr

abbrev IqSample := Int × Int

-- what the state machine hands over to the rest of the program
inductive OzyOutput where
  -- `process_control_bytes`
  | control (controlIn : Vector Byte 5)
  -- `rx_add_iq_samples` for `receiver[rx]`
  | iq (rx : Nat) (sample : IqSample)
  -- `rx_add_div_iq_samples`
  | diversity (main aux : IqSample)
  -- `tx_add_ps_iq_samples`
  | puresignal (tx rx : IqSample)
  -- `tx_add_mic_sample`
  | mic (sample : Int)
  deriving DecidableEq

/--
What `process_ozy_byte` reads from the rest of the program when a byte is processed: the state of
the radio and the variables `st_*`, which are set at the beginning of an input buffer.
-/
structure OzyEnv where
  transmitting : Bool
  puresignal : Bool
  diversityEnabled : Bool
  duplex : Bool
  receivers : Nat
  micSampleDivisor : Int
  stNumHpsdrReceivers : Nat
  stRxfdbk : Nat
  stTxfdbk : Nat
  deriving DecidableEq

-- the variables that stay valid between the samples
structure OzySink where
  sampleRx : IqSample
  sampleTx : IqSample
  sampleMain : IqSample
  sampleAux : IqSample
  micSamples : Int
  deriving DecidableEq

structure OzyParser where
  state : OzyState
  controlIn : Vector Byte 5
  nreceiver : Int
  nsamples : Int
  iqSamples : Int
  leftSample : BitVec 32
  rightSample : BitVec 32
  nextMicSample : BitVec 16
  sink : OzySink
  deriving DecidableEq

namespace OzyParser

def init : OzyParser where
  state := .sync0
  controlIn := #v[0, 0, 0, 0, 0]
  nreceiver := 0
  nsamples := 0
  iqSamples := 0
  leftSample := 0
  rightSample := 0
  nextMicSample := 0
  sink := ⟨(0, 0), (0, 0), (0, 0), (0, 0), 0⟩

end OzyParser

def sync : Byte := 0x7F

-- `x++` for an `int`
def incr (x : Int) : Int := (x + 1).bmod (2 ^ 32)

-- `(int)((signed char)b << 16)`
def sampleHi (b : Byte) : BitVec 32 := b.signExtend 32 <<< 16

-- `|= (int)((((unsigned char)b) << 8) & 0xFF00)`
def sampleMid (x : BitVec 32) (b : Byte) : BitVec 32 := x ||| (b.zeroExtend 32 <<< 8)

-- `|= (int)((unsigned char)b & 0xFF)`
def sampleLow (x : BitVec 32) (b : Byte) : BitVec 32 := x ||| b.zeroExtend 32

-- transmitting with PureSignal: collect sample pairs and feed them to pscc
def deliverPuresignal (e : OzyEnv) (nreceiver : Int) (s : IqSample) (k : OzySink)
    : OzySink × List OzyOutput :=
  if e.transmitting && e.puresignal then
    let k :=
      if nreceiver = e.stRxfdbk then
        { k with sampleRx := s }
      else if nreceiver = e.stTxfdbk then
        { k with sampleTx := s }
      else
        k
    (k, if nreceiver + 1 = e.stNumHpsdrReceivers then [.puresignal k.sampleTx k.sampleRx] else [])
  else
    (k, [])

-- receiving with DIVERSITY: collect sample pairs and feed them to the mixer
def deliverDiversity (e : OzyEnv) (nreceiver : Int) (s : IqSample) (k : OzySink)
    : OzySink × List OzyOutput :=
  if !e.transmitting && e.diversityEnabled then
    if nreceiver = 0 then
      ({ k with sampleMain := s }, [])
    else if nreceiver = 1 then
      ({ k with sampleAux := s },
        .diversity k.sampleMain s :: if e.receivers > 1 then [.iq 1 s] else [])
    else
      (k, [])
  else
    (k, [])

-- RX without DIVERSITY: feed samples to RX1 and RX2
def deliverReceive (e : OzyEnv) (nreceiver : Int) (s : IqSample) : List OzyOutput :=
  if (!e.transmitting || e.duplex) && !e.diversityEnabled then
    if nreceiver = 0 then
      [.iq 0 s]
    else if nreceiver = 1 && e.receivers > 1 then
      [.iq 1 s]
    else
      []
  else
    []

-- what is done with a complete sample of a receiver
def deliverSample (e : OzyEnv) (nreceiver : Int) (s : IqSample) (k : OzySink)
    : OzySink × List OzyOutput :=
  let (k, ps) := deliverPuresignal e nreceiver s k
  let (k, div) := deliverDiversity e nreceiver s k
  (k, ps ++ div ++ deliverReceive e nreceiver s)

-- what is done with a complete mic sample, reducing the rate to 48000
def deliverMic (e : OzyEnv) (sample : Int) (k : OzySink) : OzySink × List OzyOutput :=
  let micSamples := incr k.micSamples
  if micSamples ≥ e.micSampleDivisor then
    ({ k with micSamples := 0 }, [.mic sample])
  else
    ({ k with micSamples }, [])

def processOzyByte (e : OzyEnv) (p : OzyParser) (b : Byte) : OzyParser × List OzyOutput :=
  match p.state with
  | .sync0 => (if b = sync then { p with state := .sync1 } else p, [])
  | .sync1 => ({ p with state := if b = sync then .sync2 else .sync0 }, [])
  | .sync2 => ({ p with state := if b = sync then .control0 else .sync0 }, [])
  | .control0 => ({ p with controlIn := p.controlIn.set 0 b, state := .control1 }, [])
  | .control1 => ({ p with controlIn := p.controlIn.set 1 b, state := .control2 }, [])
  | .control2 => ({ p with controlIn := p.controlIn.set 2 b, state := .control3 }, [])
  | .control3 => ({ p with controlIn := p.controlIn.set 3 b, state := .control4 }, [])
  | .control4 =>
    let controlIn := p.controlIn.set 4 b
    ({ p with
        controlIn
        nreceiver := 0
        iqSamples := ((512 - 8) / (e.stNumHpsdrReceivers * 6 + 2) : Nat)
        nsamples := 0
        state := .leftSampleHi },
      [.control controlIn])
  | .leftSampleHi => ({ p with leftSample := sampleHi b, state := .leftSampleMid }, [])
  | .leftSampleMid =>
    ({ p with leftSample := sampleMid p.leftSample b, state := .leftSampleLow }, [])
  | .leftSampleLow =>
    ({ p with leftSample := sampleLow p.leftSample b, state := .rightSampleHi }, [])
  | .rightSampleHi => ({ p with rightSample := sampleHi b, state := .rightSampleMid }, [])
  | .rightSampleMid =>
    ({ p with rightSample := sampleMid p.rightSample b, state := .rightSampleLow }, [])
  | .rightSampleLow =>
    let rightSample := sampleLow p.rightSample b
    let (sink, out) :=
      deliverSample e p.nreceiver (p.leftSample.toInt, rightSample.toInt) p.sink
    let nreceiver := incr p.nreceiver
    ({ p with
        rightSample
        sink
        nreceiver
        state := if nreceiver = e.stNumHpsdrReceivers then .micSampleHi else .leftSampleHi },
      out)
  | .micSampleHi =>
    ({ p with nextMicSample := b.zeroExtend 16 <<< 8, state := .micSampleLow }, [])
  | .micSampleLow =>
    let nextMicSample := p.nextMicSample ||| b.zeroExtend 16
    let (sink, out) := deliverMic e nextMicSample.toInt p.sink
    let nsamples := incr p.nsamples
    if nsamples = p.iqSamples then
      ({ p with nextMicSample, sink, nsamples, state := .sync0 }, out)
    else
      ({ p with nextMicSample, sink, nsamples, nreceiver := 0, state := .leftSampleHi }, out)
  | .skip => (p, [])

/--
The thread that processes the input buffers: its parser and the settings its variables `st_*`
were last computed from.
-/
structure OzyInput where
  parser : OzyParser
  settings : ReceiverSettings

inductive OzyInputEvent where
  -- the beginning of an input buffer
  | load (c : ReceiverSettings)
  | byte (e : OzyEnv) (b : Byte)

def OzyInputEvent.isByte : OzyInputEvent → Bool
  | .load _ => false
  | .byte _ _ => true

namespace OzyInput

def init (c : ReceiverSettings) : OzyInput := ⟨.init, c⟩

def env (y : OzyInput) (e : OzyEnv) : OzyEnv :=
  { e with
    stNumHpsdrReceivers := howManyReceivers y.settings
    stRxfdbk := rxFeedbackChannel y.settings.device y.settings.anan10E
    stTxfdbk := txFeedbackChannel y.settings.device y.settings.anan10E }

def step (y : OzyInput) : OzyInputEvent → OzyInput
  | .load c => { y with settings := c }
  | .byte e b => { y with parser := (processOzyByte (y.env e) y.parser b).1 }

end OzyInput

end OldProtocol
