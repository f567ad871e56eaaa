import Pihpsdr.Radio.Band
import Pihpsdr.ClientServer.Impl.Receiver
import Pihpsdr.ClientServer.Impl.Memory

/-!
The state of the radio that the functions of `vfo.c`, `band.c` and `store.c` work on. Flags and
enumerations that a message carries are integers, as in the source.
-/

abbrev BandIndex :=
  Fin (numBands + numXvtrs)

def band60 : BandIndex := 4

def bandWwv : BandIndex := 22

def bandGen : BandIndex := 23

def modeLsb : Int := 0

def modeUsb : Int := 1

def modeDsb : Int := 2

def modeCwl : Int := 3

def modeCwu : Int := 4

def modeFmn : Int := 5

def modeAm : Int := 6

def modeDigu : Int := 7

def modeDigl : Int := 9

def modeSam : Int := 10

def filterVar1 : Int := 10

def filterVar2 : Int := 11

def agcFixed : Int := 6

def satModeNone : Int := 0

def satModeSat : Int := 1

def satModeRsat : Int := 2

-- the structure `_vfo`
structure VfoState where
  band : BandIndex
  bandstack : Int
  frequency : Int
  ctun : Int
  ctunFrequency : Int
  ritEnabled : Int
  ritStep : Int
  rit : Int
  xitEnabled : Int
  xit : Int
  lo : Int
  offset : Int
  mode : Int
  step : Int
  filter : Int
  deviation : Int
  cwAudioPeakFilter : Int
  deriving DecidableEq

-- the frequency on the dial
def VfoState.dial (v : VfoState) : Int :=
  if v.ctun ≠ 0 then v.ctunFrequency else v.frequency

-- a band stack; `entry` is the memory from its first entry on
structure BandstackState where
  entries : Int
  currentEntry : Int
  entry : Int → BandstackEntry

-- the part of the structure `_BAND` that is used here
structure BandState where
  title : CString 16
  bandstack : BandstackState
  rxAntenna : Int
  txAntenna : Int
  frequencyMin : Int
  frequencyMax : Int
  frequencyLo : Int
  errorLo : Int
  rfGain : ℚ
  agcGain : ℚ
  preamp : Int
  dither : Int
  attenuation : Int
  alexAttenuation : Int
  panlow : Int
  panhigh : Int
  panstep : Int

-- the edges of the filter of a receiver
structure Passband where
  filterLow : Int
  filterHigh : Int

structure ReceiverState extends Passband where
  deviation : Int
  agc : Int
  agcGain : ℚ
  panadapterLow : Int
  panadapterHigh : Int
  panadapterStep : Int
  multiNotchEnable : Fin 3 → Int
  multiNotchCenter : Fin 3 → ℚ

structure TransmitterState where
  antenna : Int
  deviation : Int
  ctcssEnabled : Int
  ctcss : Int
  useRxFilter : Int

-- an element of `RXTXprofile`
structure RxtxProfile where
  filter : Int
  cwPeak : Int
  ritStep : Int
  step : Int
  agc : Int
  useRxFilter : Int

-- the structure `_FILTER`
structure FilterEdges where
  low : Int
  high : Int

inductive Protocol where
  | original
  | new
  | soapysdr
  deriving DecidableEq

inductive FilterBoard where
  | none
  | alex
  | apollo
  | charly25
  | n2adr
  deriving DecidableEq

/--
What no function of `vfo.c`, `band.c` and `store.c` changes: the radio, the number of running
receivers and the active one, ADC and sample rate of each receiver, and some settings.
-/
structure RadioConfig where
  protocol : Protocol
  filterBoard : FilterBoard
  haveRxAtt : Bool
  haveRxGain : Bool
  frequencyMin : ℚ
  frequencyMax : ℚ
  receivers : Nat
  activeReceiver : Fin 2
  rxAdc : Fin 2 → Fin 3
  sampleRate : Fin 2 → Int
  locked : Bool
  cwKeyerSidetoneFrequency : Int
  filters : Int → Int → FilterEdges

-- what the band settings, the filters and the ADCs do not change
structure TuningState where
  config : RadioConfig
  vfo : Fin 2 → VfoState
  bands : BandIndex → BandState
  mem : Fin ClientServer.numMemories → ClientServer.Mem
  satMode : Int
  split : Int

abbrev Adcs :=
  Fin 3 → ClientServer.Adc

structure RadioState extends TuningState where
  adc : Adcs
  receiver : Fin 2 → ReceiverState
  transmitter : Option TransmitterState
  profile : Int → RxtxProfile

namespace Adcs

def setInt (adc : Adcs) (i : Fin 3) (f : ClientServer.AdcInt) (x : Int) : Adcs :=
  Function.update adc i { adc i with int := Function.update (adc i).int f x }

def setGain (adc : Adcs) (i : Fin 3) (x : ℚ) : Adcs :=
  Function.update adc i { adc i with double := Function.update (adc i).double .gain x }

end Adcs

namespace TuningState

def setVfo (s : TuningState) (id : Fin 2) (v : VfoState) : TuningState :=
  { s with vfo := Function.update s.vfo id v }

def setBand (s : TuningState) (b : BandIndex) (band : BandState) : TuningState :=
  { s with bands := Function.update s.bands b band }

def setBandstack (s : TuningState) (b : BandIndex) (stack : BandstackState) : TuningState :=
  s.setBand b { s.bands b with bandstack := stack }

-- the receiver of a VFO runs
def Running (s : TuningState) (id : Fin 2) : Prop :=
  id.val < s.config.receivers

instance (s : TuningState) (id : Fin 2) : Decidable (s.Running id) := by
  unfold Running
  infer_instance

def txVfo (s : TuningState) : Fin 2 :=
  if s.split ≠ 0 then 1 - s.config.activeReceiver else s.config.activeReceiver

def txMode (s : TuningState) : Int :=
  (s.vfo s.txVfo).mode

end TuningState

namespace RadioState

def setVfo (s : RadioState) (id : Fin 2) (v : VfoState) : RadioState :=
  { s with toTuningState := s.toTuningState.setVfo id v }

def setBand (s : RadioState) (b : BandIndex) (band : BandState) : RadioState :=
  { s with toTuningState := s.toTuningState.setBand b band }

def setBandstack (s : RadioState) (b : BandIndex) (stack : BandstackState) : RadioState :=
  { s with toTuningState := s.toTuningState.setBandstack b stack }

def setReceiver (s : RadioState) (id : Fin 2) (rx : ReceiverState) : RadioState :=
  { s with receiver := Function.update s.receiver id rx }

end RadioState
