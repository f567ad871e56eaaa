import Pihpsdr.Radio.Band
import Pihpsdr.OldProtocol.Impl.OzyByte
import Pihpsdr.Lib.Indices
import Mathlib.Data.Int.Bitwise

/-!
`ozy_send_buffer` of `old_protocol.c`, which puts the command and control bytes C0 to C4 into the
header of a 512-byte buffer and sends it. Every second buffer carries the command with address 0,
the others the remaining ones in round-robin (`p1_command_loop`), among them those for the
frequencies of the receivers (`current_rx`) and those only the HermesLite-II knows.

The build option USBOZY is off, so nothing is sent to a device of type `ozy`. Where the program
computes with floating-point numbers, the settings contain the resulting integer.
-/

namespace OldProtocol

inductive FilterBoard where
  | noFilterBoard
  | alex
  | apollo
  | charly25
  | n2adr
  deriving DecidableEq, Repr

structure P1Band where
  ocRx : Byte
  ocTx : Byte
  frequencyMin : Int
  frequencyMax : Int
  disablePA : Bool
  deriving DecidableEq

structure P1Adc where
  antenna : Int
  attenuation : Int
  alexAttenuation : Int
  random : Bool
  dither : Bool
  preamp : Int
  filterBypass : Bool
  deriving DecidableEq

-- the structure `_transmitter`, except for the member `puresignal` of the receiver settings
structure P1Transmitter where
  tune : Bool
  twotone : Bool
  antenna : Int
  attenuation : Int
  driveLevel : Int
  deriving DecidableEq

structure P1Keyer where
  keysReversed : Bool
  speed : Int
  mode : Int
  weight : Int
  spacing : Int
  internal : Bool
  sidetoneVolume : Int
  pttDelay : Int
  hangTime : Int
  sidetoneFrequency : Int
  deriving DecidableEq

/--
What `ozy_send_buffer` reads from the rest of the program.
-/
structure P1Settings where
  rx : ReceiverSettings
  frequencyCalibration : Int
  -- `receiver[0]`, `receiver[1]` and the receiver for the PureSignal feedback
  sampleRate : Int
  receiver0Id : Fin 2
  receiver1Id : Fin 2
  receiver0Adc : Int
  receiver1Adc : Int
  feedbackAdc : Int
  activeReceiver : Fin 2
  split : Bool
  vfo : Fin 2 → Vfo
  band : Nat → P1Band
  transmitting : Bool
  transmitter : P1Transmitter
  keyer : P1Keyer
  midiCwIsActive : Bool
  catCwIsActive : Bool
  hpsdrPtt : Bool
  atlasPenelope : Bool
  atlasMicSource : Bool
  atlasClockSource128mhz : Bool
  atlasClockSource10mhz : Nat
  fullTune : Bool
  memoryTune : Bool
  -- `tune_timeout > now`
  tuneRunning : Bool
  ocTune : Byte
  filterBoard : FilterBoard
  haveAlexAtt : Bool
  havePreamp : Bool
  newPaBoard : Bool
  paEnabled : Bool
  txOutOfBandAllowed : Bool
  nAdc : Nat
  adc0 : P1Adc
  adc1 : P1Adc
  adc2 : P1Adc
  -- `adc[active_receiver->adc].gain + 12` as an `int`
  rxGain : Int
  micBoost : Bool
  micLinein : Bool
  orionMicPttEnabled : Bool
  orionMicBiasEnabled : Bool
  orionMicPttTip : Bool
  -- `(linein_gain + 34.0) * 0.6739 + 0.5` as an `int`
  lineinCode : Int
  hl2AudioCodec : Bool
  hl2IobPresent : Bool
  hl2Ah4Atu : Bool
  hl2Cl1Input : Int
  -- `0.5 + 15.47 * log(frequency / 18748.1)` of VFO-A and VFO-B as an `int`
  vfoACode : Int
  vfoBCode : Int

def band6 : Nat := 12

structure Payload where
  c1 : Byte
  c2 : Byte
  c3 : Byte
  c4 : Byte
  deriving DecidableEq

namespace Payload

def zero : Payload := ⟨0, 0, 0, 0⟩

def ofFrequency (f : Int) : Payload where
  c1 := BitVec.ofInt 8 (f >>> 24)
  c2 := BitVec.ofInt 8 (f >>> 16)
  c3 := BitVec.ofInt 8 (f >>> 8)
  c4 := BitVec.ofInt 8 f

end Payload

def flag (b : Bool) (x : Byte) : Byte := if b then x else 0

namespace P1Settings

variable (e : P1Settings)

def device : Device := e.rx.device

def numReceivers : Nat := howManyReceivers e.rx

def txVfo : Fin 2 := if e.split then 1 - e.activeReceiver else e.activeReceiver

def rxBand : P1Band := e.band (e.vfo e.activeReceiver).band

def txBand : P1Band := e.band (e.vfo e.txVfo).band

def txModeCw : Bool :=
  (e.vfo e.txVfo).mode == .cwu || (e.vfo e.txVfo).mode == .cwl

def paActive : Bool := e.paEnabled && !e.txBand.disablePA

def calibratedFrequency (f : Int) : Int :=
  (f * (10000000 + e.frequencyCalibration)).tdiv 10000000

def ducFrequency : Int :=
  e.calibratedFrequency ((e.vfo e.txVfo).txFrequency - (e.vfo e.txVfo).lo)

def ddcFrequency (id : Fin 2) : Int :=
  e.calibratedFrequency ((e.vfo id).frequency - (e.vfo id).lo)

-- `channel_freq`, where no channel (`-1` in the source) is the DUC
def channelFreq (chan : Option Nat) : Int :=
  let feedback := chan = some (rxFeedbackChannel e.rx.device e.rx.anan10E)
    ∨ chan = some (txFeedbackChannel e.rx.device e.rx.anan10E)
  if e.transmitting ∧ e.rx.puresignal ∧ feedback then
    e.ducFrequency
  else
    match chan with
    | some 0 => e.ddcFrequency e.receiver0Id
    | some 1 => e.ddcFrequency (if e.rx.diversityEnabled then e.receiver0Id else e.receiver1Id)
    | _ => e.ducFrequency

-- the condition for the MOX bit; with internal CW everything is done in the FPGA
def mox : Bool :=
  e.transmitting &&
    (!e.txModeCw || e.transmitter.tune || e.catCwIsActive || e.midiCwIsActive
      || !e.keyer.internal || e.transmitter.twotone || e.hpsdrPtt)

def atlasConfig : Byte :=
  0x40
    ||| flag e.atlasPenelope 0x20
    ||| flag e.atlasMicSource 0xA0
    ||| (if e.atlasClockSource128mhz then 0x10 else 0x20)
    ||| match e.atlasClockSource10mhz with
      | 0 => 0x00
      | 1 => 0x24
      | 2 => 0x08
      | _ => 0x00

def openCollector : Byte :=
  if e.transmitting then
    let tuning := e.transmitter.tune && (!(e.fullTune || e.memoryTune) || e.tuneRunning)
    (e.txBand.ocTx <<< 1) ||| flag tuning (e.ocTune <<< 1)
  else
    e.rxBand.ocRx <<< 1

def rxAntenna : Byte :=
  let i := if e.transmitting && e.rx.puresignal then e.adc2.antenna else e.adc0.antenna
  let i :=
    if e.device = .orion2 ∨ e.device = .g2e then
      i + 100
    else if e.newPaBoard then
      i + 1000
    else
      i
  if i = 3 ∨ i = 6 ∨ i = 1006 then 0xC0
  else if i = 4 then 0xA0
  else if i = 5 then 0xE0
  else if i = 104 ∨ i = 103 then 0x40
  else if i = 105 then 0x60
  else if i = 106 ∨ i = 107 then 0x20
  else if i = 1003 then 0x40
  else if i = 1004 then 0x20
  else if i = 1005 then 0x60
  else if i = 7 ∨ i = 1007 then 0x80
  else 0x00

def txAntenna : Byte :=
  let i :=
    if e.transmitting || e.hpsdrPtt then
      -- an illegal antenna is replaced by the first one
      if e.transmitter.antenna < 0 ∨ e.transmitter.antenna > 2 then 0 else e.transmitter.antenna
    else if e.adc0.antenna > 2 ∧ !e.newPaBoard then
      e.transmitter.antenna
    else
      e.adc0.antenna
  if i = 0 then 0x00
  else if i = 1 then 0x01
  else if i = 2 then 0x02
  else 0x03

def general : Payload where
  c1 :=
    (if e.sampleRate = 48000 then 0x00
      else if e.sampleRate = 96000 then 0x01
      else if e.sampleRate = 192000 then 0x02
      else if e.sampleRate = 384000 then 0x03
      else 0x00)
      ||| if e.device = .ozy ∨ e.device = .metis then e.atlasConfig else 0
  c2 := e.openCollector
  c3 :=
    (if (e.haveAlexAtt ∧ e.filterBoard = .alex) ∨ e.filterBoard = .charly25 then
        BitVec.ofInt 8 e.adc0.alexAttenuation &&& 0x03
      else
        0)
      ||| flag (e.adc0.random || e.adc1.random) 0x10
      ||| flag (e.adc0.dither || e.adc1.dither) 0x08
      ||| flag (e.device == .hermesLite2 && e.hl2AudioCodec) 0x08
      ||| flag (e.filterBoard == .charly25 && e.adc0.preamp != 0) 0x04
      ||| e.rxAntenna
  c4 :=
    0x04
      ||| flag e.rx.diversityEnabled 0x80
      ||| ((BitVec.ofInt 8 (e.numReceivers - 1) &&& 0x07) <<< 3)
      ||| e.txAntenna

-- the low-pass filter for manual filter selection
def txFilter (f : Int) : Byte :=
  if f > 35600000 then 0x10
  else if f > 24000000 then 0x20
  else if f > 16500000 then 0x40
  else if f > 8000000 then 0x01
  else if f > 5000000 then 0x02
  else if f > 2500000 then 0x04
  else 0x08

def power : Int :=
  let f := (e.vfo e.txVfo).txFrequency
  if (f ≥ e.txBand.frequencyMin ∧ f ≤ e.txBand.frequencyMax) ∨ e.txOutOfBandAllowed then
    e.transmitter.driveLevel
  else
    0

def drive : Payload :=
  let c1 := BitVec.ofInt 8 e.power
  if e.device = .hermesLite2 then
    { c1
      c2 := (if e.paActive then 0x08 else 0x04) ||| flag (e.transmitter.tune && e.hl2Ah4Atu) 0x10
      c3 := 0
      c4 := 0 }
  else
    let apollo := e.filterBoard == .apollo
    let bypass := (!e.paActive && e.transmitting) || (!e.transmitting && e.adc0.filterBypass)
    let c2 := flag e.micBoost 0x01 ||| flag e.micLinein 0x02 ||| flag apollo 0x2C
      ||| flag (apollo && e.transmitter.tune) 0x10 ||| flag bypass 0x40
    let c3 := flag ((e.vfo e.activeReceiver).band == band6) 0x40 ||| flag (!e.paActive) 0x80
      ||| flag bypass 0x20
    -- PureSignal feedback to EXT1: the signal must pass the filters unaltered
    if e.transmitting ∧ e.rx.puresignal ∧ e.adc2.antenna = 6 then
      { c1
        c2 := c2 ||| 0x40
        c3 := (c3 &&& 0x80) ||| 0x20
        c4 := txFilter ((e.vfo e.txVfo).txFrequency - (e.vfo e.txVfo).lo) }
    else
      { c1, c2, c3, c4 := 0 }

def clampGain (g : Int) : Byte :=
  BitVec.ofInt 8 (if g < 0 then 0 else if g > 60 then 60 else g)

def preampAttenuator : Payload where
  c1 :=
    (if e.havePreamp then
        BitVec.ofInt 8 e.adc0.preamp ||| (BitVec.ofInt 8 e.adc1.preamp <<< 1)
      else
        0)
      ||| flag (!e.orionMicPttEnabled) 0x40
      ||| flag e.orionMicBiasEnabled 0x20
      ||| flag e.orionMicPttTip 0x10
  c2 := BitVec.ofInt 8 e.lineinCode ||| flag e.rx.puresignal 0x40
  c3 := 0
  c4 :=
    if e.device = .hermesLite2 then
      let gain := if e.transmitting && e.paActive then 0 else e.rxGain
      let gain :=
        if e.transmitting && e.rx.puresignal then 31 - e.transmitter.attenuation else gain
      0x40 ||| clampGain gain
    else if e.transmitting && e.rx.puresignal then
      0x20 ||| (BitVec.ofInt 8 e.transmitter.attenuation &&& 0x1F)
    else if e.transmitting && e.paActive then
      0x3F
    else
      0x20 ||| (BitVec.ofInt 8 e.adc0.attenuation &&& 0x1F)

def attenuatorKeyer : Payload where
  c1 :=
    if e.nAdc = 2 then
      if e.transmitting && e.paActive then
        0x3F
      else if e.rx.diversityEnabled then
        0x20 ||| (BitVec.ofInt 8 e.adc0.attenuation &&& 0x1F)
      else
        0x20 ||| (BitVec.ofInt 8 e.adc1.attenuation &&& 0x1F)
    else
      0
  c2 := flag e.keyer.keysReversed 0x40
  c3 := BitVec.ofInt 8 e.keyer.speed ||| (BitVec.ofInt 8 e.keyer.mode <<< 6)
  c4 := BitVec.ofInt 8 e.keyer.weight ||| (BitVec.ofInt 8 e.keyer.spacing <<< 7)

def adcSelection : Payload where
  c1 :=
    let receivers : Byte :=
      if e.rx.diversityEnabled then
        0x04
      else
        (BitVec.ofInt 8 e.receiver0Adc &&& 0x03)
          ||| ((BitVec.ofInt 8 e.receiver1Adc &&& 0x03) <<< (2 : Nat))
    let chan := rxFeedbackChannel e.rx.device e.rx.anan10E
    let feedback : Byte :=
      if chan > 1 ∧ chan < 4 ∧ e.rx.puresignal then
        (BitVec.ofInt 8 e.feedbackAdc &&& 0x03) <<< (2 * chan)
      else
        0
    receivers ||| feedback
  c2 := 0
  c3 :=
    if e.device = .hermesLite2 then
      let gain := if e.paActive then 0 else e.rxGain
      let gain := if e.rx.puresignal then 31 - e.transmitter.attenuation else gain
      0xC0 ||| clampGain gain
    else if e.rx.puresignal then
      BitVec.ofInt 8 e.transmitter.attenuation &&& 0x1F
    else if e.paActive then
      0x1F
    else
      0
  c4 := 0

def keyerInternal : Payload where
  c1 :=
    flag (e.txModeCw && !e.transmitter.tune && !e.transmitter.twotone && e.keyer.internal
      && !e.midiCwIsActive && !e.catCwIsActive) 0x01
  c2 := BitVec.ofInt 8 e.keyer.sidetoneVolume
  c3 :=
    let rfdelay : Byte := BitVec.ofInt 8 e.keyer.pttDelay
    let rfmax : Byte := BitVec.ofInt 8 (Int.tdiv 900 e.keyer.speed)
    if rfdelay > rfmax then rfmax else rfdelay
  c4 := 0

def keyerTimes : Payload where
  c1 := BitVec.ofInt 8 (e.keyer.hangTime >>> 2)
  c2 := BitVec.ofInt 8 e.keyer.hangTime &&& 0x03
  c3 := BitVec.ofInt 8 (e.keyer.sidetoneFrequency >>> 4)
  c4 := BitVec.ofInt 8 e.keyer.sidetoneFrequency &&& 0x0F

def alex2 : Payload where
  c1 := flag e.transmitting 0x80 ||| flag e.adc1.filterBypass 0x20
  c2 := flag (e.adc0.antenna == 5) 0x02 ||| flag e.rx.puresignal 0x40
  c3 := 0
  c4 := 0

end P1Settings

/--
The static variables of `ozy_send_buffer` for the HermesLite-II.
-/
structure Hl2State where
  lastTune : Bool
  commandLoop : Nat
  queryCount : Nat
  iobTxFreq : Int
  iobRx1Code : Int
  iobRx2Code : Int
  iobRfmode : Int
  cl1Loop : Nat
  oldCl1Setting : Int
  newCl1Setting : Int
  deriving DecidableEq

def Hl2State.init : Hl2State := ⟨false, 0, 0, 0, 0, 0, 0, 0, 0, 0⟩

def hl2Cl1On : List Byte :=
  [0x10, 0xc0, 0x13, 0x03, 0x10, 0x40, 0x2d, 0x01, 0x2e, 0x20, 0x22, 0x03,
    0x23, 0x00, 0x24, 0x00, 0x25, 0x00, 0x19, 0x00, 0x1A, 0x00, 0x1B, 0x00,
    0x18, 0x00, 0x17, 0x12, 0x62, 0x3b, 0x2c, 0x00, 0x31, 0x81, 0x3d, 0x09,
    0x3e, 0x00, 0x32, 0x00, 0x33, 0x00, 0x34, 0x00, 0x35, 0x00, 0x63, 0x01]

def hl2Cl1Off : List Byte :=
  [0x10, 0xc0, 0x13, 0x00, 0x10, 0x80, 0x2d, 0x01, 0x2e, 0x10, 0x22, 0x00,
    0x23, 0x00, 0x24, 0x00, 0x25, 0x00, 0x19, 0x00, 0x1A, 0x00, 0x1B, 0x00,
    0x18, 0x40, 0x17, 0x04, 0x62, 0x5b, 0x2c, 0x00, 0x31, 0x00, 0x3d, 0x00,
    0x3e, 0x00, 0x32, 0x00, 0x33, 0x00, 0x34, 0x00, 0x35, 0x00, 0x63, 0x00]

/--
The commands sent to the radio.
-/
inductive Command where
  | general
  | txFrequency
  | rxFrequency (rx : Nat)
  | drive
  | preampAttenuator
  | attenuatorKeyer
  | adcSelection
  | keyerInternal
  | keyerTimes
  | pwm
  | alex2
  | hl2Latency
  | hl2StartTuner
  | hl2Query
  -- the byte of the TX frequency that starts with bit `8 * (4 - reg)`
  | hl2TxFrequency (reg : Fin 5)
  | hl2RfInputs
  | hl2Rx1Code
  | hl2Rx2Code
  | hl2Cl1
  deriving DecidableEq

namespace Command

def address : Command → Byte
  | .general => 0x00
  | .txFrequency => 0x02
  | .rxFrequency rx => BitVec.ofNat 8 (0x04 + rx * 2)
  | .drive => 0x12
  | .preampAttenuator => 0x14
  | .attenuatorKeyer => 0x16
  | .adcSelection => 0x1C
  | .keyerInternal => 0x1E
  | .keyerTimes => 0x20
  | .pwm => 0x22
  | .alex2 => 0x24
  | .hl2Latency => 0x2E
  | .hl2StartTuner => 0x7A
  | .hl2Query => 0xFA
  | .hl2TxFrequency _ => 0x7A
  | .hl2RfInputs => 0x7A
  | .hl2Rx1Code => 0x7A
  | .hl2Rx2Code => 0x7A
  | .hl2Cl1 => 0x78

-- a write without ACK to a register of the IO board
def iobWrite (reg data : Byte) : Payload := ⟨0x06, 0x80 ||| 0x1d, reg, data⟩

-- `s` are the static variables at the beginning of the call
def payload (e : P1Settings) (s : Hl2State) : Command → Payload
  | .general => e.general
  | .txFrequency => .ofFrequency (e.channelFreq none)
  | .rxFrequency rx => .ofFrequency (e.channelFreq (some rx))
  | .drive => e.drive
  | .preampAttenuator => e.preampAttenuator
  | .attenuatorKeyer => e.attenuatorKeyer
  | .adcSelection => e.adcSelection
  | .keyerInternal => e.keyerInternal
  | .keyerTimes => e.keyerTimes
  | .pwm => ⟨25, 0, 100, 0⟩
  | .alex2 => e.alex2
  | .hl2Latency => ⟨0, 0, 20, 40⟩
  | .hl2StartTuner => iobWrite 7 1
  | .hl2Query => ⟨0x07, 0x80 ||| 0x41, 0x00, 0x00⟩
  | .hl2TxFrequency reg =>
    iobWrite (BitVec.ofNat 8 reg) (BitVec.ofInt 8 (s.iobTxFreq >>> (8 * (4 - reg.val))))
  | .hl2RfInputs => iobWrite 11 (BitVec.ofInt 8 s.iobRfmode)
  | .hl2Rx1Code => iobWrite 13 (BitVec.ofInt 8 s.iobRx1Code)
  | .hl2Rx2Code => iobWrite 14 (BitVec.ofInt 8 s.iobRx2Code)
  | .hl2Cl1 =>
    let pairs := if s.newCl1Setting ≠ 0 then hl2Cl1On else hl2Cl1Off
    ⟨0x06, 0xEA, pairs.getD s.cl1Loop 0, pairs.getD (s.cl1Loop + 1) 0⟩

end Command

namespace Hl2State

def clearTune (e : P1Settings) (s : Hl2State) : Hl2State :=
  if e.transmitter.tune then s else { s with lastTune := false }

-- the tuner register is written as fast as possible
def startsTuner (e : P1Settings) (s : Hl2State) : Bool :=
  e.hl2IobPresent && e.transmitter.tune && !s.lastTune && !e.hl2Ah4Atu

-- `case 2` of the HL2 state machine
def latchFrequencies (e : P1Settings) (s : Hl2State) : Hl2State :=
  { s with
    iobTxFreq := (e.vfo e.txVfo).txFrequency
    iobRx1Code := e.vfoACode
    iobRx2Code := if e.rx.receivers < 2 then e.vfoACode else e.vfoBCode
    iobRfmode := if e.adc0.antenna ≠ 0 then if e.rx.puresignal then 2 else 1 else 0
    commandLoop := 3 }

-- the tick of the HL2 state machine, with the command it sends
def tick (e : P1Settings) (s : Hl2State) : Hl2State × Command :=
  match s.commandLoop with
  | 0 =>
    if s.oldCl1Setting ≠ e.hl2Cl1Input then
      ({ s with
          oldCl1Setting := e.hl2Cl1Input
          newCl1Setting := e.hl2Cl1Input
          cl1Loop := 0
          commandLoop := 20 }, .hl2Latency)
    else
      ({ s with commandLoop := if e.hl2IobPresent then 2 else 1 }, .hl2Latency)
  | 1 =>
    if s.queryCount = 0 then
      ({ s with queryCount := 25, commandLoop := 0 }, .hl2Query)
    else
      ({ s with queryCount := s.queryCount - 1, commandLoop := 0 }, .hl2Latency)
  | 2 => (s.latchFrequencies e, .hl2Latency)
  | 3 => ({ s with commandLoop := 4 }, .hl2TxFrequency 0)
  | 4 => ({ s with commandLoop := 5 }, .hl2TxFrequency 1)
  | 5 => ({ s with commandLoop := 6 }, .hl2TxFrequency 2)
  | 6 => ({ s with commandLoop := 7 }, .hl2TxFrequency 3)
  | 7 => ({ s with commandLoop := 8 }, .hl2TxFrequency 4)
  | 8 => ({ s with commandLoop := 9 }, .hl2RfInputs)
  | 9 => ({ s with commandLoop := 10 }, .hl2Rx1Code)
  | 10 => ({ s with commandLoop := 0 }, .hl2Rx2Code)
  | 20 =>
    ({ s with
        cl1Loop := s.cl1Loop + 2
        commandLoop := if s.cl1Loop + 2 > 47 then 0 else 20 }, .hl2Cl1)
  | _ => (s, .hl2Latency)

end Hl2State

structure OzyHeader where
  c0 : Byte
  payload : Payload
  deriving DecidableEq

def OzyHeader.zero : OzyHeader := ⟨0, .zero⟩

/--
The variables that decide which command is sent. `lowerHalf` says that `metis_offset` is 8 (and not
520), that is, that the next buffer is the first one of its packet.
-/
structure CommandState where
  lowerHalf : Bool
  p1CommandLoop : Nat
  currentRx : Nat
  hl2 : Hl2State
  deriving DecidableEq

namespace CommandState

def init : CommandState := ⟨true, 1, 0, .init⟩

-- `case 2`: the frequency of one receiver after the other
def sendRxFrequency (e : P1Settings) (s : CommandState) : CommandState × Option Command :=
  let (s, cmd) :=
    if s.currentRx < e.numReceivers then
      ({ s with currentRx := s.currentRx + 1 }, some (.rxFrequency s.currentRx))
    else
      (s, none)
  if s.currentRx ≥ e.numReceivers then
    ({ s with currentRx := 0, p1CommandLoop := 3 }, cmd)
  else
    (s, cmd)

-- `case 11`
def sendHl2 (e : P1Settings) (s : CommandState) : CommandState × Option Command :=
  let hl2 := s.hl2.clearTune e
  if hl2.startsTuner e then
    ({ s with hl2 := { hl2 with lastTune := true } }, some .hl2StartTuner)
  else
    let (hl2, cmd) := hl2.tick e
    ({ s with hl2, p1CommandLoop := 1 }, some cmd)

-- the command the buffer is filled with, `none` where C0 is not written
def nextCommand (e : P1Settings) (s : CommandState) : CommandState × Option Command :=
  if s.lowerHalf then
    (s, some .general)
  else
    match s.p1CommandLoop with
    | 1 => ({ s with p1CommandLoop := 2 }, some .txFrequency)
    | 2 => s.sendRxFrequency e
    | 3 => ({ s with p1CommandLoop := 4 }, some .drive)
    | 4 => ({ s with p1CommandLoop := 5 }, some .preampAttenuator)
    | 5 => ({ s with p1CommandLoop := 6 }, some .attenuatorKeyer)
    | 6 => ({ s with p1CommandLoop := 7 }, some .adcSelection)
    | 7 => ({ s with p1CommandLoop := 8 }, some .keyerInternal)
    | 8 => ({ s with p1CommandLoop := 9 }, some .keyerTimes)
    | 9 => ({ s with p1CommandLoop := 10 }, some .pwm)
    | 10 => ({ s with p1CommandLoop := if e.device = .hermesLite2 then 11 else 1 }, some .alex2)
    | 11 => s.sendHl2 e
    | _ => (s, none)

end CommandState

-- the header of a buffer that had the header `h` before the call
def fillHeader (e : P1Settings) (s : Hl2State) (cmd : Option Command) (h : OzyHeader)
    : OzyHeader :=
  let h : OzyHeader :=
    match cmd with
    | some cmd => { c0 := cmd.address, payload := cmd.payload e s }
    | none => { c0 := h.c0, payload := .zero }
  { h with c0 := h.c0 ||| flag e.mox 0x01 }

/--
A call of `ozy_send_buffer` for a buffer with header `h`: the new variables, the new header and
whether the buffer is handed to `metis_write`.
-/
def ozySendBuffer (e : P1Settings) (s : CommandState) (h : OzyHeader)
    : CommandState × OzyHeader × Bool :=
  let (s', cmd) := s.nextCommand e
  let h := fillHeader e s.hl2 cmd h
  if e.device = .ozy then
    (s', h, false)
  else
    ({ s' with lowerHalf := !s.lowerHalf }, h, true)

-- the buffers: two of the thread that sends the samples, one of `old_protocol_run`
inductive BufferId where
  | ozyBuf1
  | ozyBuf2
  | run
  deriving DecidableEq

structure OzySender where
  vars : CommandState
  header : BufferId → OzyHeader

inductive SendEvent where
  | send (buffer : BufferId) (e : P1Settings)
  -- the beginning of a start sequence of `old_protocol_run`
  | restart

def OzySender.step (y : OzySender) : SendEvent → OzySender
  | .send buffer e =>
    let (vars, h, _) := ozySendBuffer e y.vars (y.header buffer)
    ⟨vars, fun b => if b = buffer then h else y.header b⟩
  | .restart =>
    { vars := { y.vars with lowerHalf := true, currentRx := 0, p1CommandLoop := 1 }
      header := fun b => if b = .run then .zero else y.header b }

end OldProtocol
