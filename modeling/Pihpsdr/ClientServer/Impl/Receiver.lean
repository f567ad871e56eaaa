import Mathlib.Logic.Function.Basic
import Pihpsdr.ClientServer.Impl.Wire
import Pihpsdr.Lib.Indices

/-!
The ADCs of `adc.h` and their message: `send_adc_data` and the cases `INFO_ADC` of the client and
the server.
-/

namespace ClientServer

inductive AdcInt where
  | attenuation
  | random
  | dither
  | preamp
  | antenna
  | alexAttenuation
  | overload
  | filterBypass
  deriving DecidableEq

inductive AdcDouble where
  | gain
  | minGain
  | maxGain
  deriving DecidableEq

def AdcInt.wire : AdcInt → Wire
  | attenuation => .u16
  | _ => .u8

abbrev Adc :=
  Record AdcInt AdcDouble

structure AdcData extends Packet AdcInt.wire AdcDouble where
  adc : BitVec 8

def sendAdcData (stack : AdcData) (adc : Fin 3 → Adc) (i : Fin 3) : AdcData where
  toPacket := stack.toPacket.fill [.overload] (adc i)
  adc := to8 i

-- the fields of the message that the peer does not read
def AdcInt.unread : Peer → List AdcInt
  | .client => [overload]
  | .server => [overload, attenuation]

def AdcDouble.unread : Peer → List AdcDouble
  | .client => []
  | .server => [gain, minGain, maxGain]

-- both peers read the antenna a second time, with the decoder for two bytes
def AdcData.store (data : AdcData) (peer : Peer) (adc : Adc) : Adc :=
  let adc' := data.toPacket.store (AdcInt.unread peer) (AdcDouble.unread peer) adc
  { adc' with
    int := Function.update adc'.int .antenna (from16Byte (data.int .antenna)) }

-- the index is not checked, `none` is a write outside of the array
def infoAdc (peer : Peer) (adc : Fin 3 → Adc) (data : AdcData) : Option (Fin 3 → Adc) :=
  if h : data.adc.toNat < 3 then
    some (Function.update adc ⟨data.adc.toNat, h⟩ (data.store peer (adc ⟨data.adc.toNat, h⟩)))
  else
    none

end ClientServer

/-!
The noise related part of the structure `RECEIVER`: `send_noise` of the client and the case
`CMD_NOISE` of the server.
-/

namespace ClientServer

inductive NoiseInt where
  | nb
  | nr
  | anf
  | snb
  | nb2Mode
  | nrAgc
  | nr2GainMethod
  | nr2NpeMethod
  | nr2Post
  | nr2PostTaper
  | nr2PostNlevel
  | nr2PostFactor
  | nr2PostRate
  | nr4NoiseScalingType
  | anfTaps
  | anfDelay
  deriving DecidableEq

inductive NoiseDouble where
  | anfGain
  | anfLeakage
  | nbTau
  | nbHang
  | nbAdvtime
  | nbThresh
  | nr2TrainedThreshold
  | nr2TrainedT2
  | nr4ReductionAmount
  | nr4SmoothingFactor
  | nr4WhiteningFactor
  | nr4NoiseRescale
  | nr4PostThreshold
  deriving DecidableEq

def NoiseInt.wire : NoiseInt → Wire
  | anfTaps | anfDelay => .u16
  | _ => .u8

abbrev Noise :=
  Record NoiseInt NoiseDouble

structure NoiseCommand extends Packet NoiseInt.wire NoiseDouble where
  id : BitVec 8

def sendNoise (stack : NoiseCommand) (id : Fin 8) (rx : Noise) : NoiseCommand where
  toPacket := stack.toPacket.fill [] rx
  id := to8 id

-- the fields of the command that the server does not read
def NoiseInt.unread : List NoiseInt :=
  [anfTaps, anfDelay]

def NoiseDouble.unread : List NoiseDouble :=
  [anfGain, anfLeakage]

-- `receivers` of the eight pointers in the array `receiver` belong to running receivers
def cmdNoise (receivers : Fin 9) (receiver : Fin 8 → Noise) (command : NoiseCommand)
    : Fin 8 → Noise :=
  if h : command.id.toNat < receivers then
    let id : Fin 8 := ⟨command.id.toNat, by omega⟩
    Function.update receiver id
      (command.toPacket.store NoiseInt.unread NoiseDouble.unread (receiver id))
  else
    receiver

end ClientServer

/-!
The part of the structure `RECEIVER` that the message `RECEIVER_DATA` has, `send_rx_data` of the
server and the case `INFO_RECEIVER` of the client.
-/

namespace ClientServer

inductive RxInt where
  | fftSize
  | sampleRate
  | fps
  | filterLow
  | filterHigh
  | deviation
  | width
  | agcCustomAttack
  | agcCustomDecay
  | agcCustomHang
  | agcCustomSlope
  | anfTaps
  | anfDelay
  | id
  | adc
  | agc
  | nb
  | nb2Mode
  | nr
  | nrAgc
  | nr2GainMethod
  | nr2NpeMethod
  | nr2Post
  | nr2PostTaper
  | nr2PostNlevel
  | nr2PostFactor
  | nr2PostRate
  | nr4NoiseScalingType
  | anf
  | snb
  | displayDetectorMode
  | displayAverageMode
  | zoom
  | squelchEnable
  | binaural
  | eqEnable
  | smetermode
  | lowLatency
  | pan
  | nbpWindow
  | multiNotchEnable (i : Fin 3)
  | fmLimiter
  deriving DecidableEq

inductive RxDouble where
  | cA
  | cB
  | cAp
  | cBp
  | squelch
  | displayAverageTime
  | volume
  | agcGain
  | agcHang
  | agcThresh
  | agcHangThreshold
  | nr2TrainedThreshold
  | nr2TrainedT2
  | nbTau
  | nbHang
  | nbAdvtime
  | nbThresh
  | nr4ReductionAmount
  | nr4SmoothingFactor
  | nr4WhiteningFactor
  | nr4NoiseRescale
  | nr4PostThreshold
  | eqFreq (i : Fin 11)
  | eqGain (i : Fin 11)
  | multiNotchCenter (i : Fin 3)
  | multiNotchWidth (i : Fin 3)
  | notchMinWidth
  | anfGain
  | anfLeakage
  | fmLimiterGain
  deriving DecidableEq

def RxInt.wire : RxInt → Wire
  | fftSize | sampleRate => .u32
  | fps | filterLow | filterHigh | deviation | width | agcCustomAttack | agcCustomDecay
  | agcCustomHang | agcCustomSlope | anfTaps | anfDelay => .u16
  | _ => .u8

abbrev Receiver :=
  Record RxInt RxDouble

abbrev ReceiverData :=
  Packet RxInt.wire RxDouble

def originalProtocol : Int :=
  0

def sendRxData (stack : ReceiverData) (rx : Receiver) : ReceiverData :=
  stack.fill [.nbpWindow] rx

-- the fields of the message that the client does not read
def RxInt.unread : List RxInt :=
  [anfTaps, anfDelay, nbpWindow, fmLimiter]

def RxDouble.unread : List RxDouble :=
  [anfGain, anfLeakage, fmLimiterGain]

-- with the original protocol the second receiver takes the sample rate of the first one
def ReceiverData.store (data : ReceiverData) (protocol : Int) (rx0 rx : Receiver) : Receiver :=
  let rx' := Packet.store data RxInt.unread RxDouble.unread rx
  if protocol = originalProtocol ∧ from8 (data.int .id) = 1 then
    { rx' with int := Function.update rx'.int .sampleRate (rx0.int .sampleRate) }
  else
    rx'

-- the array of pointers to the receivers, `none` is the access to a receiver that does not exist
def infoReceiver (protocol : Int) (receiver : Fin 8 → Option Receiver) (data : ReceiverData)
    : Option (Fin 8 → Option Receiver) := do
  if h : (from8 (data.int .id)).toNat < 8 then
    let id : Fin 8 := ⟨(from8 (data.int .id)).toNat, h⟩
    let rx0 ← receiver 0
    let rx ← receiver id
    return Function.update receiver id (some (data.store protocol rx0 rx))
  else
    none

end ClientServer
