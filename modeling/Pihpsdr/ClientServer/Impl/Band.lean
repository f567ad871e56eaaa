import Pihpsdr.ClientServer.Impl.Wire
import Pihpsdr.Radio.Band

/-!
The messages of bands and band stacks: `send_band_data` and `send_bandstack_data`, and the cases
`INFO_BAND` and `INFO_BANDSTACK` of the client and the server.
-/

namespace ClientServer

structure BandData where
  paCalibration : BitVec 64
  frequencyMin : BitVec 64
  frequencyMax : BitVec 64
  frequencyLo : BitVec 64
  errorLo : BitVec 64
  gaincalib : BitVec 16
  title : CString 16
  band : BitVec 8
  ocRx : BitVec 8
  ocTx : BitVec 8
  rxAntenna : BitVec 8
  txAntenna : BitVec 8
  disablePa : BitVec 8
  current : BitVec 8

structure BandstackData where
  frequency : BitVec 64
  ctunFrequency : BitVec 64
  deviation : BitVec 16
  band : BitVec 8
  stack : BitVec 8
  mode : BitVec 8
  filter : BitVec 8
  ctun : BitVec 8
  ctcssEnabled : BitVec 8
  ctcss : BitVec 8

def sendBandData (bands : Bands) (b : Fin (numBands + numXvtrs)) : BandData where
  title := (bands b).title.snprintf 16 (by decide)
  band := to8 b
  ocRx := to8 (bands b).ocRx
  ocTx := to8 (bands b).ocTx
  rxAntenna := to8 (bands b).rxAntenna
  txAntenna := to8 (bands b).txAntenna
  disablePa := to8 (bands b).disablePa
  current := to8 (bands b).bandstack.currentEntry
  gaincalib := to16 (bands b).gaincalib
  paCalibration := toDouble (bands b).paCalibration
  frequencyMin := to64 (bands b).frequencyMin
  frequencyMax := to64 (bands b).frequencyMax
  frequencyLo := to64 (bands b).frequencyLo
  errorLo := to64 (bands b).errorLo

def sendBandstackData (bands : Bands) (b : Fin (numBands + numXvtrs))
    (stack : Fin (bands b).bandstack.entry.length) : BandstackData :=
  let entry := (bands b).bandstack.entry.get stack
  { band := to8 b
    stack := to8 stack
    mode := to8 entry.mode
    filter := to8 entry.filter
    ctun := to8 entry.ctun
    ctcssEnabled := to8 entry.ctcssEnabled
    ctcss := to8 entry.ctcss
    deviation := to16 entry.deviation
    frequency := to64 entry.frequency
    ctunFrequency := to64 entry.ctunFrequency }

-- what became of a message: the warning, an access outside of an array, or the stored indices
inductive Verdict where
  | warned
  | fault
  | accepted (band stack : Nat)
  deriving DecidableEq

def BandData.store (data : BandData) (band : Band) : Band :=
  { band with
    title := data.title.snprintf 16 (by decide)
    ocRx := from8 data.ocRx
    ocTx := from8 data.ocTx
    rxAntenna := from8 data.rxAntenna
    txAntenna := from8 data.txAntenna
    disablePa := from8 data.disablePa
    bandstack := { band.bandstack with currentEntry := from8 data.current }
    gaincalib := from16 data.gaincalib
    paCalibration := fromDouble data.paCalibration
    frequencyMin := from64 data.frequencyMin
    frequencyMax := from64 data.frequencyMax
    frequencyLo := from64 data.frequencyLo
    errorLo := from64 data.errorLo }

def BandstackData.entry (data : BandstackData) : BandstackEntry where
  mode := from8 data.mode
  filter := from8 data.filter
  ctun := from8 data.ctun
  ctcssEnabled := from8 data.ctcssEnabled
  ctcss := from8 data.ctcssEnabled
  deviation := from16 data.deviation
  frequency := from64 data.frequency
  ctunFrequency := from64 data.ctunFrequency

def infoBand (bands : Bands) (data : BandData) : Verdict × Bands :=
  if data.band.toNat > numBands + numXvtrs then
    (.warned, bands)
  else if h : data.band.toNat < numBands + numXvtrs then
    let b : Fin (numBands + numXvtrs) := ⟨data.band.toNat, h⟩
    if data.current.toNat > (bands b).bandstack.entries then
      (.warned, bands)
    else
      (.accepted b data.current.toNat, Function.update bands b (data.store (bands b)))
  else
    (.fault, bands)

def infoBandstack (bands : Bands) (data : BandstackData) : Verdict × Bands :=
  if data.band.toNat > numBands + numXvtrs then
    (.warned, bands)
  else if h : data.band.toNat < numBands + numXvtrs then
    let b : Fin (numBands + numXvtrs) := ⟨data.band.toNat, h⟩
    if data.stack.toNat > (bands b).bandstack.entries then
      (.warned, bands)
    else if data.stack.toNat < (bands b).bandstack.entry.length then
      (.accepted b data.stack.toNat, Function.update bands b
        { bands b with bandstack := (bands b).bandstack.setEntry data.stack.toNat data.entry })
    else
      (.fault, bands)
  else
    (.fault, bands)

inductive BandMessage where
  | band (data : BandData)
  | bandstack (data : BandstackData)

namespace BandMessage

def band8 : BandMessage → BitVec 8
  | band data => data.band
  | bandstack data => data.band

def stack8 : BandMessage → BitVec 8
  | band data => data.current
  | bandstack data => data.stack

end BandMessage

def clientThread (bands : Bands) : BandMessage → Verdict × Bands
  | .band data => infoBand bands data
  | .bandstack data => infoBandstack bands data

-- after `INFO_BAND` the server also applies the settings of its current bands, which only reads
-- the bands
def serverCommand (bands : Bands) : BandMessage → Verdict × Bands
  | .band data => infoBand bands data
  | .bandstack data => infoBandstack bands data

def Peer.receive : Peer → Bands → BandMessage → Verdict × Bands
  | client => clientThread
  | server => serverCommand

-- the peer gets a band and then an entry of its stack, as at the start of a connection
def exchange (peer : Peer) (own other : Bands) (b : Fin (numBands + numXvtrs))
    (stack : Fin (own b).bandstack.entry.length) : Bands :=
  (peer.receive (peer.receive other (.band (sendBandData own b))).2
    (.bandstack (sendBandstackData own b stack))).2

-- an accepted message names a band and an entry that exist, any other one changes nothing
def WithinBounds (bands : Bands) (result : Verdict × Bands) : Prop :=
  match result.1 with
  | .warned => result.2 = bands
  | .fault => False
  | .accepted band stack =>
    ∃ h : band < numBands + numXvtrs, stack < (bands ⟨band, h⟩).bandstack.entries

end ClientServer

/-!
The settings of the radio that the message `RADIO_DATA` has, which are global variables and fields
of the structure `DISCOVERED`, `send_radio_data` of the server and the case `INFO_RADIO` of the
client.
-/

namespace ClientServer

inductive SoapyChannel where
  | rx1
  | rx2
  | tx
  deriving DecidableEq

inductive RadioInt where
  | soapyRadioSampleRate
  | frequencyCalibration
  | paPower
  | ocFullTuneTime
  | ocMemoryTuneTime
  | cwKeyerSidetoneFrequency
  | rxGainCalibration
  | device
  | pttDelay
  | locked
  | protocol
  | supportedReceivers
  | receivers
  | filterBoard
  | enableAutoTune
  | newPaBoard
  | region
  | atlasPenelope
  | atlasClockSource10mhz
  | atlasClockSource128mhz
  | atlasMicSource
  | atlasJanus
  | hl2AudioCodec
  | anan10E
  | txOutOfBandAllowed
  | paEnabled
  | ocTune
  | muteRxWhileTransmitting
  | adc0FilterBypass
  | adc1FilterBypass
  | split
  | satMode
  | duplex
  | haveRxGain
  | haveRxAtt
  | haveAlexAtt
  | havePreamp
  | haveDither
  | haveSaturnXdma
  | rxStackHorizontal
  | nAdc
  | diversityEnabled
  | soapyIqswap
  | soapyAntennas (channel : SoapyChannel)
  | soapyGains (channel : SoapyChannel)
  | soapyTxChannels
  | soapyRx1HasAutomaticGain
  | soapyRx2HasAutomaticGain
  deriving DecidableEq

inductive RadioDouble where
  | driveMin
  | driveMax
  | driveDigiMax
  | paTrim (i : Fin 11)
  | divGain
  | divPhase
  | soapyGainStep (channel : SoapyChannel)
  | soapyGainMin (channel : SoapyChannel)
  | soapyGainMax (channel : SoapyChannel)
  | soapyGainElemStep (channel : SoapyChannel) (i : Fin 8)
  | soapyGainElemMin (channel : SoapyChannel) (i : Fin 8)
  | soapyGainElemMax (channel : SoapyChannel) (i : Fin 8)
  deriving DecidableEq

-- the texts that are copied with all of their 64 characters
inductive RadioText where
  | soapyHardwareKey
  | soapyDriverKey
  | soapyAntenna (channel : SoapyChannel) (i : Fin 8)
  | soapyGainElemName (channel : SoapyChannel) (i : Fin 8)
  deriving DecidableEq

def RadioInt.wire : RadioInt → Wire
  | soapyRadioSampleRate => .u32
  | frequencyCalibration | paPower | ocFullTuneTime | ocMemoryTuneTime
  | cwKeyerSidetoneFrequency | rxGainCalibration | device | pttDelay => .u16
  | _ => .u8

-- the elements of an array that lie below its counter, which the loops run over
def RadioDouble.counted (int : RadioInt → Int) : RadioDouble → Bool
  | soapyGainElemStep channel i => (i : Int) < int (.soapyGains channel)
  | soapyGainElemMin channel i => (i : Int) < int (.soapyGains channel)
  | soapyGainElemMax channel i => (i : Int) < int (.soapyGains channel)
  | _ => true

def RadioText.counted (int : RadioInt → Int) : RadioText → Bool
  | soapyAntenna channel i => (i : Int) < int (.soapyAntennas channel)
  | soapyGainElemName channel i => (i : Int) < int (.soapyGains channel)
  | _ => true

-- `radioProtocol`, `radioDevice` and `soapySampleRate` are the copies in `DISCOVERED`
structure Radio extends Record RadioInt RadioDouble where
  text : RadioText → Fin 64 → BitVec 8
  name : CString 64
  frequencyMin : ℚ
  frequencyMax : ℚ
  radioProtocol : Int
  radioDevice : Int
  soapySampleRate : Int

structure RadioData extends Packet RadioInt.wire RadioDouble where
  text : RadioText → Fin 64 → BitVec 8
  name : CString 64
  radioFrequencyMin : BitVec 64
  radioFrequencyMax : BitVec 64

def soapysdrProtocol : Int :=
  2

-- the conversion of a double to `long long`
def truncate (q : ℚ) : Int :=
  q.num.tdiv q.den

def sendRadioData (stack : RadioData) (radio : Radio) : RadioData where
  int := fillInts stack.int [.adc0FilterBypass, .adc1FilterBypass] radio.int
  double g := if g.counted radio.int then toDouble (radio.double g) else stack.double g
  text t := if t.counted radio.int then radio.text t else stack.text t
  name := radio.name.snprintf 64 (by decide)
  radioFrequencyMin := to64 (truncate radio.frequencyMin)
  radioFrequencyMax := to64 (truncate radio.frequencyMax)

-- the number of supported receivers is read with the decoder for two bytes
def RadioData.storeInt (data : RadioData) (radio : Radio) : RadioInt → Int :=
  Function.update (storeInts data.int [.adc0FilterBypass, .adc1FilterBypass] radio.int)
    .supportedReceivers (from16Byte (data.int .supportedReceivers))

-- the counters of the arrays have been stored when the loops over the arrays start
def infoRadio (radio : Radio) (data : RadioData) : Radio :=
  let int := data.storeInt radio
  { int := int
    double := fun g => if g.counted int then fromDouble (data.double g) else radio.double g
    text := fun t => if t.counted int then data.text t else radio.text t
    name := data.name.snprintf 64 (by decide)
    frequencyMin := double (from64 data.radioFrequencyMin)
    frequencyMax := double (from64 data.radioFrequencyMax)
    radioProtocol := int .protocol
    radioDevice := int .device
    soapySampleRate :=
      if int .protocol = soapysdrProtocol then
        int .soapyRadioSampleRate
      else
        radio.soapySampleRate }

-- at most eight gain elements and antennas for each channel, frequencies in whole Hertz
structure Radio.InWireRange (radio : Radio) : Prop where
  int : ∀ f : RadioInt, f.wire.InRange (radio.int f)
  double : ∀ g : RadioDouble, g.counted radio.int → DoubleInRange (radio.double g)
  soapyGains : ∀ channel, radio.int (.soapyGains channel) ≤ 8
  soapyAntennas : ∀ channel, radio.int (.soapyAntennas channel) ≤ 8
  frequencyMin : ∃ n : Int, radio.frequencyMin = n ∧ Wire.u64.InRange n ∧ ClientServer.double n = n
  frequencyMax : ∃ n : Int, radio.frequencyMax = n ∧ Wire.u64.InRange n ∧ ClientServer.double n = n

-- the settings `x` have arrived as the settings `y`
structure Radio.Transferred (x y : Radio) : Prop where
  int : ∀ f, y.int f = x.int f
  double : ∀ g : RadioDouble, g.counted x.int → Reproduces (x.double g) (y.double g)
  text : ∀ t : RadioText, t.counted x.int → y.text t = x.text t
  name : y.name = x.name
  frequencyMin : y.frequencyMin = x.frequencyMin
  frequencyMax : y.frequencyMax = x.frequencyMax

end ClientServer
