import Pihpsdr.Simulator.Impl.Ep2
import Pihpsdr.OldProtocol.Lemmas.OzyFrame

/-!
`handler_ep6` of `hpsdrsim.c`, which sends the samples of the radio to the program. How the samples
are computed is left to the parameters: for each time there are the samples of both ADCs and that of
the DAC, whose channel is sent while transmitting.
-/

namespace Simulator

open OldProtocol

-- `TXDAC`
def txdac (anan10e : Bool) : Board → Nat
  | .atlas => 1
  | .hermes => if anan10e then 1 else 3
  | .hermes2 => 1
  | .angelia => 4
  | .orion => 4
  | .hermesLite => 1
  | .hermesLite2 => 1
  | .orion2 => 4
  | .g2e => 1
  | .c25 => 3

-- the samples of a time, as values of `int32_t`
structure SimSample where
  adc1 : IqSample
  adc2 : IqSample
  dac : IqSample
  deriving DecidableEq

-- what can be switched at the radio, and the readings of the power meters
structure SimInputs where
  ptt : Bool
  dash : Bool
  dot : Bool
  io1 : Bool
  io2 : Bool
  io3 : Bool
  io4 : Bool
  forwardPower : Int
  reversePower : Int
  deriving DecidableEq

-- a turn of the loop over the two blocks of a packet, with the samples from its beginning on
structure SimBlock where
  inputs : SimInputs
  samples : Nat → SimSample

-- The registers stay as they are while a packet is put together.
structure SimPacket where
  registers : Registers
  first : SimBlock
  second : SimBlock

structure Ep6 where
  headerOffset : Nat
  counter : BitVec 32
  deriving DecidableEq

def Ep6.init : Ep6 := ⟨0, 0⟩

def Registers.adcSample (r : Registers) (k : Nat) (s : SimSample) : IqSample :=
  -- the array has seven elements
  match if h : k < 7 then r.adcs.rxAdc ⟨k, h⟩ else 2 with
  | 0 => s.adc1
  | 1 => s.adc2
  | _ => (0, 0)

-- the sample for receiver `k`
def Registers.receiverSample (board : Board) (anan10e : Bool) (r : Registers) (k : Nat)
    (s : SimSample) : IqSample :=
  if r.ptt ≠ 0 ∧ k = txdac anan10e board then s.dac else r.adcSample k s

-- `(x >> 16) & 0xFF` and so on
def lowBytes (x : Int) : List Byte := sampleBytes (BitVec.ofInt 24 x)

def groupBytes (board : Board) (anan10e : Bool) (r : Registers) (s : SimSample) : List Byte :=
  (List.range r.general.receivers.toNat).flatMap (fun k =>
    let sample := r.receiverSample board anan10e k s
    lowBytes sample.1 ++ lowBytes sample.2) ++ [0, 0]

-- the number of samples in a block
def samplesPerBlock (r : Registers) : Nat :=
  if r.general.receivers > 0 then 504 / (r.general.receivers.toNat * 6 + 2) else 0

def highByte (x : Int) : Byte := BitVec.ofInt 8 (x >>> 8)

def lowByte (x : Int) : Byte := BitVec.ofInt 8 x

def headerByte0 (offset : Nat) (i : SimInputs) : Byte :=
  BitVec.ofNat 8 offset ||| flag i.ptt 1 ||| flag i.dash 2 ||| flag i.dot 4

-- C0 to C4
def controlBytes (board : Board) (r : Registers) (i : SimInputs) (offset : Nat) : Vector Byte 5 :=
  let c0 := headerByte0 offset i
  match offset with
  | 0 =>
    if board = .hermesLite2 then
      #v[c0, 0, 0, 0, 21]
    else
      #v[c0, flag i.io1 2 ||| flag i.io2 4 ||| flag i.io3 8 ||| flag i.io4 16, 33, 18, 21]
  | 8 =>
    if board = .hermesLite2 then
      #v[c0, 4, 0, highByte i.forwardPower, lowByte i.forwardPower]
    else
      #v[c0, 0, lowByte r.drive.txdrive, highByte i.forwardPower, lowByte i.forwardPower]
  | 16 => #v[c0, highByte i.reversePower, lowByte i.reversePower, 2, 0]
  | 24 => #v[c0, 4, 0, 4, 0]
  | _ => #v[c0, 66, 66, 66, 66]

def nextOffset (offset : Nat) : Nat :=
  match offset with
  | 0 => 8
  | 8 => 16
  | 16 => 24
  | 24 => 32
  | _ => 0

def blockBytes (board : Board) (anan10e : Bool) (offset : Nat) (r : Registers) (b : SimBlock)
    : List Byte :=
  let bytes := (List.range (samplesPerBlock r)).flatMap fun j =>
    groupBytes board anan10e r (b.samples j)
  [sync, sync, sync] ++ (controlBytes board r b.inputs offset).toList ++ bytes
    ++ List.replicate (504 - bytes.length) 0

/--
A turn of the loop.
-/
def Ep6.send (board : Board) (anan10e : Bool) (s : Ep6) (p : SimPacket) : Ep6 × List Byte :=
  let offset := nextOffset s.headerOffset
  ({ headerOffset := nextOffset offset, counter := s.counter + 1 },
    [0xEF, 0xFE, 0x01, 0x06] ++ sequenceBytes s.counter
      ++ blockBytes board anan10e s.headerOffset p.registers p.first
      ++ blockBytes board anan10e offset p.registers p.second)

def Ep6.sendAll (board : Board) (anan10e : Bool) : Ep6 → List SimPacket → List (List Byte)
  | _, [] => []
  | s, p :: ps =>
    let (s, packet) := s.send board anan10e p
    packet :: sendAll board anan10e s ps

end Simulator
