import Pihpsdr.Vfo.Impl.Change
import Pihpsdr.ClientServer.Impl.RemoteCommand
import Pihpsdr.Rigctl.Impl.Rig
import Pihpsdr.Properties.Impl.Property

/-!
Bands and VFOs from the properties file (`band_restore_state`, `vfo_restore_state`), the region with
its band stack for 60 m, and the events that change band stacks and their indices.
-/

-- the properties of an entry of a band stack, as far as they are in the file
structure EntryProps where
  frequency : Option Int
  ctun : Option Int
  ctunFrequency : Option Int
  mode : Option Int
  filter : Option Int
  deviation : Option Int
  ctcssEnabled : Option Int
  ctcss : Option Int

structure BandProps where
  title : Option (CString 16)
  frequencyLo : Option Int
  errorLo : Option Int
  frequencyMin : Option Int
  frequencyMax : Option Int
  current : Option Int
  preamp : Option Int
  dither : Option Int
  panhigh : Option Int
  panlow : Option Int
  panstep : Option Int
  agcGain : Option ℚ
  attenuation : Option Int
  gain : Option ℚ
  alexRxAntenna : Option Int
  alexTxAntenna : Option Int
  alexAttenuation : Option Int
  stack : Int → EntryProps

structure VfoProps where
  band : Option BandIndex
  frequency : Option Int
  ctun : Option Int
  ctunFrequency : Option Int
  rit : Option Int
  ritEnabled : Option Int
  xit : Option Int
  xitEnabled : Option Int
  lo : Option Int
  offset : Option Int
  mode : Option Int
  filter : Option Int
  cwApf : Option Int
  deviation : Option Int
  step : Option Int
  ritStep : Option Int

def EntryProps.restore (props : EntryProps) (entry : BandstackEntry) : BandstackEntry where
  frequency := props.frequency.getD entry.frequency
  ctun := props.ctun.getD entry.ctun
  ctunFrequency := props.ctunFrequency.getD entry.ctunFrequency
  mode := props.mode.getD entry.mode
  filter := props.filter.getD entry.filter
  deviation := props.deviation.getD entry.deviation
  ctcssEnabled := props.ctcssEnabled.getD entry.ctcssEnabled
  ctcss := props.ctcss.getD entry.ctcss

-- an index that is too large becomes zero
def BandProps.restoreBandstack (props : BandProps) (stack : BandstackState) : BandstackState :=
  let current := props.current.getD stack.currentEntry
  { stack with
    currentEntry := if current ≥ stack.entries then 0 else current
    entry := fun i =>
      if 0 ≤ i ∧ i < stack.entries then (props.stack i).restore (stack.entry i)
      else stack.entry i }

-- the name and the local oscillator are restored for transverters only
def BandProps.restore (props : BandProps) (config : RadioConfig) (rxGainCalibration : ℚ)
    (b : BandIndex) (band : BandState) : BandState :=
  let rfGain := if config.haveRxGain then rxGainCalibration else band.rfGain
  let txAntenna := props.alexTxAntenna.getD band.txAntenna
  { title := if b.val ≥ numBands then props.title.getD band.title else band.title
    bandstack := props.restoreBandstack band.bandstack
    rxAntenna := props.alexRxAntenna.getD band.rxAntenna
    txAntenna :=
      if config.protocol ≠ .soapysdr ∧ (txAntenna > 2 ∨ txAntenna < 0) then 0 else txAntenna
    frequencyMin := props.frequencyMin.getD band.frequencyMin
    frequencyMax := props.frequencyMax.getD band.frequencyMax
    frequencyLo :=
      if b.val ≥ numBands then props.frequencyLo.getD band.frequencyLo else band.frequencyLo
    errorLo := if b.val ≥ numBands then props.errorLo.getD band.errorLo else band.errorLo
    rfGain := if config.haveRxGain then props.gain.getD rfGain else rfGain
    agcGain := props.agcGain.getD band.agcGain
    preamp := props.preamp.getD band.preamp
    dither := props.dither.getD band.dither
    attenuation :=
      if config.haveRxAtt then props.attenuation.getD band.attenuation else band.attenuation
    alexAttenuation := props.alexAttenuation.getD band.alexAttenuation
    panlow := props.panlow.getD band.panlow
    panhigh := props.panhigh.getD band.panhigh
    panstep := props.panstep.getD band.panstep }

def band430 : BandIndex := 16

def band144 : BandIndex := 14

def band20 : BandIndex := 7

-- the band stack of a VFO is not in the file
def VfoProps.restore (props : VfoProps) (config : RadioConfig) (v : VfoState) : VfoState :=
  let (band, frequency) :=
    if config.frequencyMin < 430000000 ∧ config.frequencyMax > 440000000 then
      (band430, 434010000)
    else if config.frequencyMin < 144000000 ∧ config.frequencyMax > 146000000 then
      (band144, 145000000)
    else
      (band20, 14010000)
  let ctun := props.ctun.getD 0
  { band := props.band.getD band
    bandstack := 0
    frequency := props.frequency.getD frequency
    ctun := ctun
    ctunFrequency := props.ctunFrequency.getD v.ctunFrequency
    ritEnabled := props.ritEnabled.getD 0
    ritStep := props.ritStep.getD 10
    rit := props.rit.getD 0
    xitEnabled := props.xitEnabled.getD 0
    xit := props.xit.getD 0
    lo := props.lo.getD 0
    offset := if ctun = 0 then 0 else props.offset.getD 0
    mode := props.mode.getD modeCwu
    step := props.step.getD 100
    filter := props.filter.getD 4
    deviation := props.deviation.getD 2500
    cwAudioPeakFilter := props.cwApf.getD 0 }

namespace RadioState

end RadioState

section

/-!
The operations that change the frequency or the band of a VFO, as one step of the radio.
-/

open ClientServer.Remote

inductive FrequencyOperation where
  | tune (id : Fin 2) (c : RadioState.TuneCommand)
  | setFrequency (id : Fin 2) (f : Int)
  -- CTUN, band, band stack, memory and the copies between the VFOs
  | request (r : Request)

namespace RadioState

-- `none` is a memory slot whose band does not exist
def operate (s : RadioState) : FrequencyOperation → Option RadioState
  | .tune id c => some (s.tune id c)
  | .setFrequency id f => some (s.vfoIdSetFrequency id f)
  | .request r => perform s r

-- nothing follows such a recall
def operateNext (s : Option RadioState) (op : FrequencyOperation) : Option RadioState :=
  s.bind fun s => s.operate op

end RadioState

end

section

/-!
The VFOs in the properties file (`vfo_save_state` and `vfo_restore_state`), and the operations on bands
and band stacks that may follow.
-/

open Text Properties

-- what is saved of a VFO
inductive VfoField where
  | band
  | frequency
  | ctun
  | ctunFrequency
  | rit
  | ritEnabled
  | xit
  | xitEnabled
  | lo
  | offset
  | mode
  | filter
  | cwApf
  | deviation
  | step
  | ritStep
  deriving DecidableEq

namespace VfoField

def key : VfoField → String
  | .band => "band"
  | .frequency => "frequency"
  | .ctun => "ctun"
  | .ctunFrequency => "ctun_frequency"
  | .rit => "rit"
  | .ritEnabled => "rit_enabled"
  | .xit => "xit"
  | .xitEnabled => "xit_enabled"
  | .lo => "lo"
  | .offset => "offset"
  | .mode => "mode"
  | .filter => "filter"
  | .cwApf => "cw_apf"
  | .deviation => "deviation"
  | .step => "step"
  | .ritStep => "rit_step"

def value (v : VfoState) : VfoField → Int
  | .band => v.band.val
  | .frequency => v.frequency
  | .ctun => v.ctun
  | .ctunFrequency => v.ctunFrequency
  | .rit => v.rit
  | .ritEnabled => v.ritEnabled
  | .xit => v.xit
  | .xitEnabled => v.xitEnabled
  | .lo => v.lo
  | .offset => v.offset
  | .mode => v.mode
  | .filter => v.filter
  | .cwApf => v.cwAudioPeakFilter
  | .deviation => v.deviation
  | .step => v.step
  | .ritStep => v.ritStep

end VfoField

-- the properties in the order of `vfo_save_state`
def savedVfoFields : List VfoField :=
  [.band, .frequency, .ctun, .ctunFrequency, .rit, .ritEnabled, .xit, .xitEnabled, .lo, .offset, .mode,
    .filter, .cwApf, .deviation, .step, .ritStep]

-- the name `vfo.%d.key`
def vfoName (id : Fin 2) (key : String) : List Int :=
  propName [codes "vfo", Decimal.digits id.val, codes key]

def savedVfo (vfo : Fin 2 → VfoState) : List (List Int × List Int) :=
  (List.finRange 2).flatMap fun id =>
    savedVfoFields.map fun f => (vfoName id f.key, intText (f.value (vfo id)))

-- the properties that `vfo_restore_state` reads
def vfoProps (props : Properties) (id : Fin 2) : VfoProps where
  band := (getInt props (vfoName id "band")).bind bandIndex?
  frequency := getInt props (vfoName id "frequency")
  ctun := getInt props (vfoName id "ctun")
  ctunFrequency := getInt props (vfoName id "ctun_frequency")
  rit := getInt props (vfoName id "rit")
  ritEnabled := getInt props (vfoName id "rit_enabled")
  xit := getInt props (vfoName id "xit")
  xitEnabled := getInt props (vfoName id "xit_enabled")
  lo := getInt props (vfoName id "lo")
  offset := getInt props (vfoName id "offset")
  mode := getInt props (vfoName id "mode")
  filter := getInt props (vfoName id "filter")
  cwApf := getInt props (vfoName id "cw_apf")
  deviation := getInt props (vfoName id "deviation")
  step := getInt props (vfoName id "step")
  ritStep := getInt props (vfoName id "rit_step")

namespace RadioState

def vfoSaveState (s : RadioState) (props : Properties) : RadioState × Properties :=
  let s := s.vfoSaveBandstack
  (s, setAll props (savedVfo s.vfo))

def vfoRestoreState (s : RadioState) (props : Properties) : RadioState :=
  { s with vfo := fun id => (vfoProps props id).restore s.config (s.vfo id) }

-- the radio `r` starts with what the radio `s` has left in the file
def restart (s r : RadioState) : RadioState :=
  r.vfoRestoreState (loadProperties (saveProperties (s.vfoSaveState []).2))

inductive BandOperation where
  | bandChanged (id : Fin 2) (b : BandIndex)
  | bandstackChanged (id : Fin 2) (b : Int)

def bandOperation (s : RadioState) : BandOperation → RadioState
  | .bandChanged id b => s.vfoIdBandChanged id b
  | .bandstackChanged id b => s.vfoIdBandstackChanged id b

-- the operation is for VFO B, or is refused
def LeavesVfoA (s : RadioState) : BandOperation → Prop
  | .bandChanged id b => id ≠ 0 ∨ (b ≠ (s.vfo id).band ∧ OutOfRange s.config (s.bands b))
  | .bandstackChanged id _ => id ≠ 0

end RadioState

end
