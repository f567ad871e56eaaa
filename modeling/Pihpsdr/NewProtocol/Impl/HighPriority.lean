import Pihpsdr.NewProtocol.Impl.Ddc
import Pihpsdr.Radio.State

/-!
The packets "high priority" and "transmit specific" of `new_protocol.c`, and the bits of the two ALEX
words of `alex.h`.
-/

namespace NewProtocol

def alexRxAntennaXvtr : BitVec 32 := 0x00000100#32
def alexRxAntennaExt1 : BitVec 32 := 0x00000200#32
def alexRxAntennaExt2 : BitVec 32 := 0x00000400#32
def alexRxAntennaBypass : BitVec 32 := 0x00000800#32

def alexTxAntenna1 : BitVec 32 := 0x01000000#32
def alexTxAntenna2 : BitVec 32 := 0x02000000#32
def alexTxAntenna3 : BitVec 32 := 0x04000000#32

def alexAttenuation0dB : BitVec 32 := 0x00000000#32
def alexAttenuation10dB : BitVec 32 := 0x00004000#32
def alexAttenuation20dB : BitVec 32 := 0x00002000#32
def alexAttenuation30dB : BitVec 32 := 0x00006000#32

def alex3020Lpf : BitVec 32 := 0x00100000#32
def alex6040Lpf : BitVec 32 := 0x00200000#32
def alex80Lpf : BitVec 32 := 0x00400000#32
def alex160Lpf : BitVec 32 := 0x00800000#32
def alex6BypassLpf : BitVec 32 := 0x20000000#32
def alex1210Lpf : BitVec 32 := 0x40000000#32
def alex1715Lpf : BitVec 32 := 0x80000000#32

def alex13MhzHpf : BitVec 32 := 0x00000002#32
def alex20MhzHpf : BitVec 32 := 0x00000004#32
def alex6mPreamp : BitVec 32 := 0x00000008#32
def alex95MhzHpf : BitVec 32 := 0x00000010#32
def alex65MhzHpf : BitVec 32 := 0x00000020#32
def alex15MhzHpf : BitVec 32 := 0x00000040#32
def alexBypassHpf : BitVec 32 := 0x00001000#32

def alexTxRelay : BitVec 32 := 0x08000000#32

def alexPsBit : BitVec 32 := 0x00040000#32

def alexAnan7000Rx2015Bpf : BitVec 32 := 0x00000002#32
def alexAnan7000Rx1210Bpf : BitVec 32 := 0x00000004#32
def alexAnan7000Rx6PreBpf : BitVec 32 := 0x00000008#32
def alexAnan7000Rx4030Bpf : BitVec 32 := 0x00000010#32
def alexAnan7000Rx8060Bpf : BitVec 32 := 0x00000020#32
def alexAnan7000Rx160Bpf : BitVec 32 := 0x00000040#32
def alexAnan7000RxBypassBpf : BitVec 32 := 0x00001000#32

def alex0Anan7000RxSelect : BitVec 32 := 0x00004000#32
def alex1Anan7000RxGndOnTx : BitVec 32 := 0x00000100#32

def anan7000XvtrOut : BitVec 8 := 0x01#8
def anan7000SpkrMute : BitVec 8 := 0x02#8

-- the fields of a structure `_adc` that the packets use
structure AdcSettings where
  antenna : Int
  filterBypass : Bool
  attenuation : Int
  alexAttenuation : Int

-- the fields of a band
structure TxBand where
  frequencyMin : Int
  frequencyMax : Int
  disablePa : Bool
  ocRx : BitVec 8
  ocTx : BitVec 8

inductive KeyerMode where
  | straight
  | modeA
  | modeB
  deriving DecidableEq

-- the settings of the keyer that are sent to the radio
structure KeyerSettings where
  internal : Bool
  keysReversed : Bool
  mode : KeyerMode
  sidetoneVolume : Int
  sidetoneFrequency : Int
  speed : Int
  weight : Int
  spacing : Bool
  breakin : Bool
  hangTime : Int
  pttDelay : Int
  rampWidth : Int

/--
What the packets need beyond the settings of the DDCs; `tuneTimeLeft` says that `tune_timeout` has not
passed, `lineInGain` is the gain of the line input in steps of 1.5 dB.
-/
structure RadioSettings extends DdcSettings where
  p2running : Bool
  adcs : Fin 3 → AdcSettings
  bands : Nat → TxBand
  tune : Bool
  twotone : Bool
  driveLevel : Int
  txAttenuation : Int
  txAntenna : Int
  catCwIsActive : Bool
  midiCwIsActive : Bool
  keyer : KeyerSettings
  txOutOfBandAllowed : Bool
  rigctlTcpRunning : Bool
  rigctlTcpPort : Int
  fullTune : Bool
  memoryTune : Bool
  tuneTimeLeft : Bool
  ocTune : BitVec 8
  muteSpkrAmp : Bool
  muteSpkrXmit : Bool
  haveAlexAtt : Bool
  filterBoard : FilterBoard
  paEnabled : Bool
  newPaBoard : Bool
  micLinein : Bool
  micBoost : Bool
  orionMicPttEnabled : Bool
  orionMicPttTip : Bool
  orionMicBiasEnabled : Bool
  g2MicInputXlr : Bool
  lineInGain : Int

-- a flag in a word
def bitIf {w : Nat} (set : Bool) (bits : BitVec w) : BitVec w :=
  if set then bits else 0

-- the low pass filter for a frequency
def lpfBits (f : Int) : BitVec 32 :=
  if f > 35600000 then alex6BypassLpf
  else if f > 24000000 then alex1210Lpf
  else if f > 16500000 then alex1715Lpf
  else if f > 8000000 then alex3020Lpf
  else if f > 5000000 then alex6040Lpf
  else if f > 2500000 then alex80Lpf
  else alex160Lpf

-- the high pass filter of older boards
def hpfBits (f : Int) : BitVec 32 :=
  if f < 1800000 then alexBypassHpf
  else if f < 6500000 then alex15MhzHpf
  else if f < 9500000 then alex65MhzHpf
  else if f < 13000000 then alex95MhzHpf
  else if f < 20000000 then alex13MhzHpf
  else if f < 50000000 then alex20MhzHpf
  else alex6mPreamp

-- the band pass filter of newer boards
def bpfBits (f : Int) : BitVec 32 :=
  if f < 1500000 then alexAnan7000RxBypassBpf
  else if f < 2100000 then alexAnan7000Rx160Bpf
  else if f < 5500000 then alexAnan7000Rx8060Bpf
  else if f < 11000000 then alexAnan7000Rx4030Bpf
  else if f < 22000000 then alexAnan7000Rx2015Bpf
  else if f < 35000000 then alexAnan7000Rx1210Bpf
  else alexAnan7000Rx6PreBpf

def antennaBits (antenna : Int) : BitVec 32 :=
  if antenna = 0 then alexTxAntenna1
  else if antenna = 1 then alexTxAntenna2
  else if antenna = 2 then alexTxAntenna3
  else 0

def Mode.isCw (m : Mode) : Bool :=
  m = .cwu ∨ m = .cwl

namespace RadioSettings

variable (s : RadioSettings)

def txMode : Mode :=
  (s.vfo s.vfoGetTxVfo).mode

def txBand : TxBand :=
  s.bands (s.vfo s.vfoGetTxVfo).band

def rxBand : TxBand :=
  s.bands (s.vfo s.activeReceiver).band

-- the other receiver, if there are two
def otherVfo : Fin 2 :=
  1 - s.activeReceiver

-- with CW from the radio, the radio switches to transmit by itself
def moxBit : Bool :=
  s.xmit && (!Mode.isCw s.txMode || s.tune || s.catCwIsActive || s.midiCwIsActive
    || !s.keyer.internal || s.twotone || s.hpsdrPtt)

-- the frequency for the detection of out-of-band operation
def txfreq : Int :=
  (s.vfo s.vfoGetTxVfo).txFrequency

def InBand : Prop :=
  s.txBand.frequencyMin ≤ s.txfreq ∧ s.txfreq ≤ s.txBand.frequencyMax

instance : Decidable s.InBand :=
  inferInstanceAs (Decidable (_ ∧ _))

def power : Int :=
  if s.InBand ∨ s.txOutOfBandAllowed then s.driveLevel else 0

-- band specific open collector outputs
def ocBits : BitVec 8 :=
  if s.xmit then
    s.txBand.ocTx <<< 1
      ||| bitIf (s.tune && (!(s.fullTune || s.memoryTune) || s.tuneTimeLeft)) (s.ocTune <<< 1)
  else
    s.rxBand.ocRx <<< 1

-- ORION2 and SATURN
def newFilters : Bool :=
  s.device = .newOrion2 ∨ s.device = .newSaturn

-- also G2E, the devices whose receivers do not use the filters of the transmitter
def bandPassFilters : Bool :=
  s.newFilters ∨ s.device = .newG2e

-- transverter relay and mute of the amplifier
def relayBits : BitVec 8 :=
  bitIf (s.newFilters && (s.adcs 0).antenna = 5) anan7000XvtrOut
    ||| bitIf (s.newFilters && (s.muteSpkrAmp
      || s.muteSpkrXmit && s.xmit && !Mode.isCw s.txMode && !s.tune)) anan7000SpkrMute

def alexAttenuationBits : BitVec 32 :=
  if s.haveAlexAtt ∧ s.filterBoard = .alex then
    if (s.adcs 0).alexAttenuation = 0 then alexAttenuation0dB
    else if (s.adcs 0).alexAttenuation = 1 then alexAttenuation10dB
    else if (s.adcs 0).alexAttenuation = 2 then alexAttenuation20dB
    else if (s.adcs 0).alexAttenuation = 3 then alexAttenuation30dB
    else 0
  else
    0

def localPaEnabled : Bool :=
  !s.txBand.disablePa && s.paEnabled

-- the active receiver determines the band pass filter of an ADC that both use
def bpfFreq (adc : Fin 3) : Int :=
  let f := 0
  let f :=
    if s.receivers > 1 ∧ (s.receiver s.otherVfo).adc = adc.val then s.ddcFrequency s.otherVfo else f
  let f :=
    if (s.receiver s.activeReceiver).adc = adc.val then s.ddcFrequency s.activeReceiver else f
  let f := if s.diversityEnabled then s.ddcFrequency 0 else f
  if (s.adcs adc).filterBypass then 0 else f

-- the smaller one of the frequencies at the first ADC
def hpfFreq : Int :=
  let f := 0
  let f := if (s.receiver 0).adc = 0 then s.ddcFrequency 0 else f
  let f :=
    if s.receivers > 1 ∧ (s.receiver 1).adc = 0 ∧ s.ddcFrequency 1 < s.ddcFrequency 0 then
      s.ddcFrequency 1
    else
      f
  let f := if s.xmit ∧ s.puresignal ∧ (s.adcs 2).antenna = 6 then 0 else f
  if (s.adcs 0).filterBypass then 0 else f

-- the larger one of them, if the signal passes the filters of the transmitter
def lpfFreq : Int :=
  if ¬ s.xmit ∧ ¬ s.bandPassFilters ∧ (s.adcs 0).antenna < 3 then
    let f := 40000000
    let f := if (s.receiver 0).adc = 0 then s.ddcFrequency 0 else f
    let f :=
      if s.receivers > 1 ∧ (s.receiver 1).adc = 0 ∧ s.ddcFrequency 1 > s.ddcFrequency 0 then
        s.ddcFrequency 1
      else
        f
    if (s.adcs 0).filterBypass then 40000000 else f
  else
    s.ducFrequency

def rxFilterBits0 : BitVec 32 :=
  if s.device = .newG2e then
    bpfBits (if (s.adcs 0).filterBypass then 0 else s.ddcFrequency s.activeReceiver)
  else if s.newFilters then
    bpfBits (s.bpfFreq 0)
  else
    hpfBits s.hpfFreq

-- the second ADC is grounded while transmitting
def rxFilterBits1 : BitVec 32 :=
  if s.newFilters then bpfBits (s.bpfFreq 1) ||| bitIf s.xmit alex1Anan7000RxGndOnTx else 0

-- the number that tells the combinations of antenna and board apart
def rxAntennaCase : Int :=
  let rxant := if s.xmit ∧ s.puresignal then (s.adcs 2).antenna else (s.adcs 0).antenna
  if s.bandPassFilters then rxant + 100
  else if s.newPaBoard then rxant + 1000
  else rxant

def rxAntennaBits : BitVec 32 :=
  let rxant := s.rxAntennaCase
  if rxant = 3 ∨ rxant = 6 ∨ rxant = 1006 then alexRxAntennaExt1 ||| alexRxAntennaBypass
  else if rxant = 4 then alexRxAntennaExt2 ||| alexRxAntennaBypass
  else if rxant = 5 then alexRxAntennaXvtr ||| alexRxAntennaBypass
  else if rxant = 104 ∨ rxant = 103 then alexRxAntennaExt1 ||| alex0Anan7000RxSelect
  else if rxant = 105 then alexRxAntennaXvtr ||| alex0Anan7000RxSelect
  else if rxant = 106 ∨ rxant = 107 then alexRxAntennaBypass
  else if rxant = 1003 then alexRxAntennaExt1
  else if rxant = 1004 then alexRxAntennaExt2
  else if rxant = 1005 then alexRxAntennaXvtr
  else if rxant = 7 ∨ rxant = 1007 then alexRxAntennaBypass
  else 0

-- an antenna that does not exist is replaced by the first one
def txant : Int :=
  if s.txAntenna < 0 ∨ s.txAntenna > 2 then 0 else s.txAntenna

def rxant : Int :=
  if (s.adcs 0).antenna > 2 ∨ s.xmit then s.txant else (s.adcs 0).antenna

def alex0 : BitVec 32 :=
  s.alexAttenuationBits ||| bitIf (s.localPaEnabled && s.xmit) alexTxRelay
    ||| bitIf (s.puresignal && s.xmit) alexPsBit ||| s.rxFilterBits0 ||| lpfBits s.lpfFreq
    ||| s.rxAntennaBits ||| antennaBits s.rxant

-- the state of the word while transmitting
def alex1 : BitVec 32 :=
  bitIf s.localPaEnabled alexTxRelay ||| bitIf s.puresignal alexPsBit ||| s.rxFilterBits1
    ||| lpfBits s.ducFrequency ||| antennaBits s.txant

-- ADC step attenuators in the packet "high priority"
def putAttenuators (p : Packet) : Packet :=
  let p := p.set 1443 (BitVec.ofInt 8 (s.adcs 0).attenuation)
  let p :=
    p.set 1442 (BitVec.ofInt 8
      (if s.diversityEnabled then (s.adcs 0).attenuation else (s.adcs 1).attenuation))
  let p := if s.xmit ∧ s.localPaEnabled then (p.set 1442 31).set 1443 31 else p
  if s.xmit ∧ s.puresignal then p.set 1442 (BitVec.ofInt 8 s.txAttenuation) else p

def highPriority (sequence : BitVec 32) (phase : Int → BitVec 32) : Packet :=
  let p := (s.toDdcSettings.newProtocolHighPriority phase).putWord 0 sequence
  let p := p.set 4 (bitIf s.p2running 1 ||| bitIf s.moxBit 2)
  let p := p.set 345 (BitVec.ofInt 8 s.power)
  let port := if s.rigctlTcpRunning then s.rigctlTcpPort else 0
  let p := (p.set 1398 (BitVec.ofInt 8 (port / 256))).set 1399 (BitVec.ofInt 8 port)
  let p := (p.set 1401 s.ocBits).set 1400 s.relayBits
  s.putAttenuators ((p.putWord 1432 s.alex0).putWord 1428 s.alex1)

def keyerBits : BitVec 8 :=
  if Mode.isCw s.txMode ∧ s.keyer.internal ∧ ¬ s.catCwIsActive ∧ ¬ s.midiCwIsActive then
    0x02 ||| bitIf s.keyer.keysReversed 0x04 ||| bitIf (s.keyer.mode = .modeA) 0x08
      ||| bitIf (s.keyer.mode = .modeB) 0x28 ||| bitIf (s.keyer.sidetoneVolume ≠ 0) 0x10
      ||| bitIf s.keyer.spacing 0x40 ||| bitIf s.keyer.breakin 0x80
  else
    0

-- the keyer of the radio can not do with longer delays
def rfDelay : BitVec 8 :=
  let rfdelay := BitVec.ofInt 8 s.keyer.pttDelay
  let rfmax := BitVec.ofInt 8 (Int.tdiv 900 s.keyer.speed)
  if rfdelay > rfmax then rfmax else rfdelay

def micBits : BitVec 8 :=
  bitIf s.micLinein 0x01 ||| bitIf s.micBoost 0x02 ||| bitIf (!s.orionMicPttEnabled) 0x04
    ||| bitIf s.orionMicPttTip 0x08 ||| bitIf s.orionMicBiasEnabled 0x10
    ||| bitIf s.g2MicInputXlr 0x20

-- ADC step attenuators in the packet "transmit specific"
def putTxAttenuators (p : Packet) : Packet :=
  let p := p.set 59 (BitVec.ofInt 8 (s.adcs 0).attenuation)
  let p :=
    p.set 58 (BitVec.ofInt 8
      (if s.diversityEnabled then (s.adcs 0).attenuation else (s.adcs 1).attenuation))
  let p := if s.localPaEnabled then (p.set 58 31).set 59 31 else p
  if s.puresignal then p.set 59 (BitVec.ofInt 8 s.txAttenuation) else p

def transmitSpecific (sequence : BitVec 32) : Packet :=
  let p := Packet.zeros.putWord 0 sequence
  let p := (p.set 4 1).set 5 s.keyerBits
  let p := p.set 6 (BitVec.ofInt 8 s.keyer.sidetoneVolume &&& 0x7F)
  let p := p.set 7 (BitVec.ofInt 8 (s.keyer.sidetoneFrequency / 256))
  let p := p.set 8 (BitVec.ofInt 8 s.keyer.sidetoneFrequency)
  let p := p.set 9 (BitVec.ofInt 8 s.keyer.speed)
  let p := p.set 10 (BitVec.ofInt 8 s.keyer.weight)
  let p := p.set 11 (BitVec.ofInt 8 (s.keyer.hangTime / 256))
  let p := p.set 12 (BitVec.ofInt 8 s.keyer.hangTime)
  let p := p.set 13 s.rfDelay
  let p := p.set 17 (BitVec.ofInt 8 s.keyer.rampWidth)
  let p := (p.set 50 s.micBits).set 51 (BitVec.ofInt 8 s.lineInGain)
  s.putTxAttenuators p

-- the rest of the packet "general" are the defaults
def general (sequence : BitVec 32) : Packet :=
  let p := Packet.zeros.putWord 0 sequence
  let p := (p.set 37 0x08).set 38 0x01
  let p := p.set 58 (bitIf s.localPaEnabled 0x01 ||| bitIf (s.filterBoard = .apollo) 0x02)
  if s.filterBoard = .alex then p.set 59 (if s.newFilters then 0x03 else 0x01) else p

end RadioSettings

end NewProtocol
