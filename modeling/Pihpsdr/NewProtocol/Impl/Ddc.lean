import Pihpsdr.Lib.Indices
import Pihpsdr.Lib.Packet
import Pihpsdr.Lib.Rounding
import Pihpsdr.Radio.Band

/-!
The use of the DDCs in `new_protocol.c`: the packets that program them, `update_action_table` and
the dispatch of their packets in `iq_thread`.
-/

namespace NewProtocol

-- the rates that the receive menu offers
def sampleRates : List Nat :=
  [48000, 96000, 192000, 384000, 768000, 1536000]

structure DdcReceiver where
  adc : Int
  sampleRate : Nat
  sampleRate_mem : sampleRate ∈ sampleRates

structure AdcBits where
  dither : BitVec 8
  random : BitVec 8

/--
What the functions read; `receiver` are the first two of them, `psFeedbackAdc` is the ADC of the
receiver `PS_RX_FEEDBACK`.
-/
structure DdcSettings where
  device : Device
  nAdc : Int
  adc : Fin 2 → AdcBits
  receivers : Nat
  receivers_eq : receivers = 1 ∨ receivers = 2
  receiver : Fin 2 → DdcReceiver
  psFeedbackAdc : Int
  duplex : Bool
  puresignal : Bool
  diversityEnabled : Bool
  transmitting : Bool
  hpsdrPtt : Bool
  vfo : Fin 2 → Vfo
  activeReceiver : Fin 2
  split : Bool
  frequencyCalibration : Int

theorem receivers_two : 2 = 1 ∨ 2 = 2 := by
  decide

-- DDC 0 to 3, no others are used
abbrev Ddc :=
  Fin 4

inductive RxAction where
  | skip
  | rx1
  | rx2
  | ps
  | div
  deriving DecidableEq

-- the consumers of IQ samples: the receivers, the feedback of PureSignal, the DIVERSITY mixer
inductive Consumer where
  | receiver (id : Fin 2)
  | pureSignal
  | diversity
  deriving DecidableEq

-- the switch in `iq_thread`
def RxAction.consumer : RxAction → Option Consumer
  | .skip => none
  | .rx1 => some (.receiver 0)
  | .rx2 => some (.receiver 1)
  | .ps => some .pureSignal
  | .div => some .diversity

-- ADC and sample rate of one DDC in the packet "receive specific"
def programDdc (p : Packet) (ddc : Ddc) (adc : Int) (kHz : Nat) : Packet :=
  ((p.set (17 + 6 * ddc.val) (BitVec.ofInt 8 adc)).set (18 + 6 * ddc.val)
    (BitVec.ofNat 8 (kHz / 256))).set (19 + 6 * ddc.val) (BitVec.ofNat 8 kHz)

def enableDdc (p : Packet) (ddc : Ddc) : Packet :=
  p.set 7 (p 7 ||| 1#8 <<< ddc.val)

namespace DdcSettings

variable (s : DdcSettings)

def xmit : Bool :=
  s.transmitting || s.hpsdrPtt

-- the devices that use DDC2 and DDC3 for their receivers
def newdev : Bool :=
  s.device = .newAngelia ∨ s.device = .newOrion ∨ s.device = .newOrion2 ∨ s.device = .newSaturn

def vfoGetTxVfo : Fin 2 :=
  if s.split then 1 - s.activeReceiver else s.activeReceiver

def flag : Nat :=
  (if s.duplex && s.xmit then 10000 else 0) + (if s.newdev then 1000 else 0)
    + (if s.xmit then 100 else 0) + (if s.puresignal && s.xmit then 10 else 0)
    + (if s.diversityEnabled && !s.xmit then 1 else 0)

-- the actions with those for one or two receivers, from the DDC `ddc` on
def receiverActions (rxcase : Ddc → RxAction) (ddc : Ddc) : Ddc → RxAction :=
  let rxcase := Function.update rxcase ddc .rx1
  if s.receivers > 1 then Function.update rxcase (ddc + 1) .rx2 else rxcase

-- the last case is one that is not handled
def updateActionTable : Ddc → RxAction :=
  let rxcase : Ddc → RxAction := fun _ => .skip
  let flag := s.flag
  if flag = 0 ∨ flag = 10100 then
    s.receiverActions rxcase 0
  else if flag = 1 ∨ flag = 1001 then
    Function.update rxcase 0 .div
  else if flag = 100 ∨ flag = 1100 then
    rxcase
  else if flag = 110 ∨ flag = 1110 ∨ flag = 10110 then
    Function.update rxcase 0 .ps
  else if flag = 11110 then
    s.receiverActions (Function.update rxcase 0 .ps) 2
  else if flag = 1000 ∨ flag = 11100 then
    s.receiverActions rxcase 2
  else
    rxcase

def ddcOf (i : Fin 2) : Ddc :=
  if s.newdev then 2 + i.castLE (by decide) else i.castLE (by decide)

-- the settings of receiver `i` in the packet "receive specific"
def programReceiver (p : Packet) (i : Fin 2) : Packet :=
  let ddc := s.ddcOf i
  let p := if !s.xmit && !s.diversityEnabled then enableDdc p ddc else p
  let p := if s.xmit && s.duplex then enableDdc p ddc else p
  let p := programDdc p ddc (s.receiver i).adc ((s.receiver i).sampleRate / 1000)
  p.set (22 + 6 * ddc.val) 24

def programReceivers (p : Packet) : Packet :=
  let p := s.programReceiver p 0
  if s.receivers > 1 then s.programReceiver p 1 else p

-- DDC1 is synchronised with DDC0; the size of its samples goes to byte 26, where that of DDC1 is at 28
def programPureSignal (p : Packet) : Packet :=
  let p := (programDdc p 0 s.psFeedbackAdc 192).set 22 24
  let p := (programDdc p 1 s.nAdc 192).set 26 24
  enableDdc (p.set 1363 2) 0

def programDiversity (p : Packet) : Packet :=
  let rate := (s.receiver 0).sampleRate / 1000
  let p := p.set 5 ((s.adc 0).dither ||| (s.adc 0).dither <<< 1)
  let p := p.set 6 ((s.adc 0).random ||| (s.adc 0).random <<< 1)
  let p := (programDdc p 0 0 rate).set 22 24
  let p := (programDdc p 1 1 rate).set 26 24
  (p.set 1363 2).set 7 1

def newProtocolReceiveSpecific (sequence : BitVec 32) : Packet :=
  let p := Packet.zeros.putWord 0 sequence
  let p := p.set 4 (BitVec.ofInt 8 s.nAdc)
  let p := p.set 5 ((s.adc 0).dither ||| (s.adc 1).dither <<< 1)
  let p := p.set 6 ((s.adc 0).random ||| (s.adc 1).random <<< 1)
  let p := s.programReceivers p
  let p := if s.puresignal && s.xmit then s.programPureSignal p else p
  if s.diversityEnabled && !s.xmit then s.programDiversity p else p

def calibratedFrequency (f : Int) : Int :=
  (f * (10000000 + s.frequencyCalibration)).tdiv 10000000

def ddcFrequency (id : Fin 2) : Int :=
  s.calibratedFrequency ((s.vfo id).frequency - (s.vfo id).lo)

def ducFrequency : Int :=
  let v := s.vfo s.vfoGetTxVfo
  s.calibratedFrequency (v.txFrequency - v.lo)

-- the frequencies in the packet "high priority"; `phase` is the word for a frequency
def newProtocolHighPriority (phase : Int → BitVec 32) : Packet :=
  let p :=
    if s.diversityEnabled && !s.xmit then
      (Packet.zeros.putWord 9 (phase (s.ddcFrequency 0))).putWord 13 (phase (s.ddcFrequency 0))
    else
      let p := Packet.zeros.putWord 9 (phase (s.ddcFrequency 0))
      let p := if s.receivers > 1 then p.putWord 13 (phase (s.ddcFrequency 1)) else p
      if s.newdev then (p.putWord 17 (p.word 9)).putWord 21 (p.word 13) else p
  let p := p.putWord 329 (phase s.ducFrequency)
  if s.xmit && s.puresignal then (p.putWord 9 (p.word 329)).putWord 13 (p.word 329) else p

-- the frequencies that are converted into words
def converted : List Int :=
  [s.ddcFrequency 0, s.ddcFrequency 1, s.ducFrequency]

end DdcSettings

-- the conversion from `double` is undefined outside of the range of `uint32_t`
def toUint32 (q : ℚ) : BitVec 32 :=
  BitVec.ofInt 32 (q.num.tdiv q.den)

-- the double for 4294967296/122880000
def phaseFactor : ℚ :=
  Rounding.round 53 (34952533333333333333333333333333 / 10 ^ 30)

def phaseWord (f : Int) : BitVec 32 :=
  toUint32 (Rounding.round 53 (Rounding.round 53 f * phaseFactor))

end NewProtocol
