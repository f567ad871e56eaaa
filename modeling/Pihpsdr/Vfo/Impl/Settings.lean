import Pihpsdr.Radio.State

/-!
Settings that follow from band, mode and filter: `get_band_from_frequency`, the settings stored with
a band (`radio_apply_band_settings`), the filter edges (`rx_set_filter`) and the profiles of the
modes.
-/

namespace RadioState

-- the band has a name, and the frequency is inside of it
def bandHolds (band : BandState) (f : Int) : Prop :=
  band.title.chars ≠ [] ∧ band.frequencyMin ≤ f ∧ f ≤ band.frequencyMax

instance (band : BandState) (f : Int) : Decidable (bandHolds band f) := by
  unfold bandHolds
  infer_instance

def wwvFrequencies : List Int :=
  [2500000, 5000000, 10000000, 15000000, 20000000, 25000000]

-- a transverter band takes precedence over the other bands
def getBandFromFrequency (config : RadioConfig) (bands : BandIndex → BandState) (f : Int)
    : BandIndex :=
  let found :=
    if config.frequencyMin ≤ f ∧ f ≤ config.frequencyMax then
      (List.finRange (numBands + numXvtrs)).find?
        fun b : BandIndex => decide (b.val < numBands ∧ bandHolds (bands b) f)
    else
      none
  let xvtr :=
    (List.finRange (numBands + numXvtrs)).find?
      fun b : BandIndex => decide (numBands ≤ b.val ∧ bandHolds (bands b) f)
  match xvtr.or found with
  | some b => b
  | none => if wwvFrequencies.any (fun f' => |f - f'| ≤ 1000) then bandWwv else bandGen

end RadioState

namespace Adcs

-- preamps and attenuators of the first ADC
def setC25Att (adc : Adcs) (val : Int) : Adcs :=
  let (alexAttenuation, preamp, dither) :=
    if val = -36 then (3, 0, 0)
    else if val = -24 then (2, 0, 0)
    else if val = -12 then (1, 0, 0)
    else if val = 18 then (0, 1, 0)
    else if val = 36 then (0, 1, 1)
    else (0, 0, 0)
  ((adc.setInt 0 .alexAttenuation alexAttenuation).setInt 0 .preamp preamp).setInt 0 .dither dither

def setAttenuation (adc : Adcs) (i : Fin 3) (value : Int) : Adcs :=
  (adc.setInt i .attenuation value).setGain i 0

def setRfGain (adc : Adcs) (i : Fin 3) (value : ℚ) : Adcs :=
  (adc.setGain i value).setInt i .attenuation 0

-- the antenna and, for a real change of the band, what is stored with the band
def applyBand (adc : Adcs) (config : RadioConfig) (flag : Bool) (i : Fin 3) (band : BandState)
    : Adcs :=
  let adc := adc.setInt i .antenna band.rxAntenna
  if flag then
    let adc := (adc.setInt i .preamp band.preamp).setInt i .dither band.dither
    if config.filterBoard = .alex ∧ i = 0 then
      adc.setInt i .alexAttenuation band.alexAttenuation
    else
      adc
  else
    adc

end Adcs

namespace RadioState

def radioSetC25Att (s : RadioState) (id : Fin 2) (val : Int) : RadioState :=
  if s.config.filterBoard ≠ .charly25 then
    s
  else if id = 0 then
    { s with adc := s.adc.setC25Att val }
  else
    s

-- what is set for the first receiver is stored with its band
def storeWithBand (s : RadioState) (id : Fin 2) (store : BandState → BandState) : RadioState :=
  if id = 0 then
    let b := (s.vfo id).band
    s.setBand b (store (s.bands b))
  else
    s

def radioSetAttenuation (s : RadioState) (id : Fin 2) (value : Int) : RadioState :=
  if ¬ s.Running id ∨ s.config.haveRxAtt = false then
    s
  else
    let s := { s with adc := s.adc.setAttenuation (s.config.rxAdc id) value }
    s.storeWithBand id ({ · with attenuation := value })

def radioSetRfGain (s : RadioState) (id : Fin 2) (value : ℚ) : RadioState :=
  if ¬ s.Running id ∨ s.config.haveRxGain = false then
    s
  else
    let s := { s with adc := s.adc.setRfGain (s.config.rxAdc id) value }
    s.storeWithBand id ({ · with rfGain := value })

-- `have_preamp` is of no other use for the VFOs
def radioSetPreamp (havePreamp : Bool) (s : RadioState) (id : Fin 2) (value : Int) : RadioState :=
  if ¬ s.Running id ∨ havePreamp = false then
    s
  else
    let s := { s with adc := s.adc.setInt (s.config.rxAdc id) .preamp value }
    s.storeWithBand id ({ · with preamp := value })

def setReceiverIfRunning (s : RadioState) (id : Fin 2) (set : ReceiverState → ReceiverState)
    : RadioState :=
  if s.Running id then s.setReceiver id (set (s.receiver id)) else s

def radioSetPanhigh (s : RadioState) (id : Fin 2) (value : Int) : RadioState :=
  (s.setReceiverIfRunning id ({ · with panadapterHigh := value })).storeWithBand id
    ({ · with panhigh := value })

def radioSetPanlow (s : RadioState) (id : Fin 2) (value : Int) : RadioState :=
  (s.setReceiverIfRunning id ({ · with panadapterLow := value })).storeWithBand id
    ({ · with panlow := value })

def radioSetPanstep (s : RadioState) (id : Fin 2) (value : Int) : RadioState :=
  (s.setReceiverIfRunning id ({ · with panadapterStep := value })).storeWithBand id
    ({ · with panstep := value })

def radioSetAgcGain (s : RadioState) (id : Fin 2) (value : ℚ) : RadioState :=
  if ¬ s.Running id then
    s
  else
    let s := s.setReceiver id { s.receiver id with agcGain := value }
    if (s.receiver id).agc ≠ agcFixed then
      s.storeWithBand id ({ · with agcGain := value })
    else
      s

def applyAntennas (s : RadioState) (flag : Bool) (rxadc : Fin 3) (rxband : BandState)
    : RadioState :=
  if s.config.protocol = .soapysdr then
    s
  else
    let txband := s.bands (s.vfo s.txVfo).band
    { s with
      adc := s.adc.applyBand s.config flag rxadc rxband
      transmitter := s.transmitter.map ({ · with antenna := txband.txAntenna }) }

def applyLevels (s : RadioState) (id : Fin 2) (rxband : BandState) : RadioState :=
  if s.config.filterBoard = .charly25 then
    s.radioSetC25Att 0 (-12 * rxband.alexAttenuation + 18 * (rxband.preamp + rxband.dither))
  else
    (s.radioSetAttenuation id rxband.attenuation).radioSetRfGain id rxband.rfGain

def applyDisplay (s : RadioState) (id : Fin 2) (rxband : BandState) : RadioState :=
  let s := s.radioSetPanhigh id rxband.panhigh
  let s := s.radioSetPanlow id rxband.panlow
  let s := s.radioSetPanstep id rxband.panstep
  if s.Running id ∧ (s.receiver id).agc ≠ agcFixed then
    s.radioSetAgcGain id rxband.agcGain
  else
    s

def radioApplyBandSettings (s : RadioState) (flag : Bool) (id : Fin 2) : RadioState :=
  let rxadc := if s.Running id then s.config.rxAdc id else 0
  let rxband := s.bands (s.vfo id).band
  let s := s.applyAntennas flag rxadc rxband
  if flag then
    (s.applyLevels id rxband).applyDisplay id rxband
  else
    s

-- the modes that share their settings
def profilesCopyRxtxprofile (profile : Int → RxtxProfile) (mode : Int) : Int → RxtxProfile :=
  if mode = modeCwu ∨ mode = modeCwl then
    Function.update (Function.update profile modeCwu (profile mode)) modeCwl (profile mode)
  else if mode = modeDigu ∨ mode = modeDigl then
    Function.update (Function.update profile modeDigu (profile mode)) modeDigl (profile mode)
  else if mode = modeLsb ∨ mode = modeUsb ∨ mode = modeDsb then
    Function.update (Function.update (Function.update profile modeLsb (profile mode)) modeUsb
      (profile mode)) modeDsb (profile mode)
  else
    profile

-- the filter of the transmitter is derived from its settings and not kept here
def txSetFilter (s : RadioState) : RadioState :=
  match s.transmitter with
  | none => s
  | some tx =>
    { s with
      profile := profilesCopyRxtxprofile
        (Function.update s.profile s.txMode
          { s.profile s.txMode with useRxFilter := tx.useRxFilter }) s.txMode
      transmitter := some { tx with deviation := (s.vfo s.txVfo).deviation } }

end RadioState

-- the filter edges for the mode of a VFO
def ReceiverState.setFilter (rx : ReceiverState) (config : RadioConfig) (v : VfoState)
    : ReceiverState :=
  let filter := config.filters v.mode v.filter
  if v.mode = modeCwl then
    { rx with
      filterLow := -config.cwKeyerSidetoneFrequency + filter.low
      filterHigh := -config.cwKeyerSidetoneFrequency + filter.high }
  else if v.mode = modeCwu then
    { rx with
      filterLow := config.cwKeyerSidetoneFrequency + filter.low
      filterHigh := config.cwKeyerSidetoneFrequency + filter.high }
  else if v.mode = modeFmn then
    { rx with
      deviation := v.deviation
      filterLow := -(3000 + v.deviation)
      filterHigh := 3000 + v.deviation }
  else
    { rx with filterLow := filter.low, filterHigh := filter.high }

namespace RadioState

def rxSetFilter (s : RadioState) (id : Fin 2) : RadioState :=
  s.setReceiver id ((s.receiver id).setFilter s.config (s.vfo id))

def rxFilterChanged (s : RadioState) (id : Fin 2) : RadioState :=
  let s := s.rxSetFilter id
  match s.transmitter with
  | none => s
  | some tx =>
    if (tx.useRxFilter ≠ 0 ∧ id = s.config.activeReceiver) ∨ s.txMode = modeFmn then
      s.txSetFilter
    else
      s

-- `rx_set_mode` and `rx_set_offset` only pass values on
def rxModeChanged (s : RadioState) (id : Fin 2) : RadioState :=
  s.rxFilterChanged id

end RadioState

def VfoState.loadProfile (v : VfoState) (profile : RxtxProfile) : VfoState :=
  { v with
    filter := profile.filter
    cwAudioPeakFilter := profile.cwPeak
    ritStep := profile.ritStep
    step := profile.step }

/--
The offset of a receiver from the frequency of its VFO. If the filter has left the window around
this frequency, the window is moved.
-/
def VfoState.frequencyChanged (v : VfoState) (rx : Passband) (sampleRate : Int) : VfoState :=
  let rit := if v.ritEnabled ≠ 0 then v.rit else 0
  if v.ctun ≠ 0 then
    let half := sampleRate.tdiv 2
    let frequency :=
      if v.ctunFrequency + rx.filterLow < v.frequency - half
          ∨ v.ctunFrequency + rx.filterHigh > v.frequency + half then
        v.ctunFrequency
      else
        v.frequency
    { v with frequency := frequency, offset := v.ctunFrequency - frequency + rit }
  else
    { v with offset := rit }

-- a new frequency on the dial
def VfoState.setDial (v : VfoState) (f : Int) : VfoState :=
  if v.ctun ≠ 0 then { v with ctunFrequency := f } else { v with frequency := f }

namespace RadioState

def profilesLoadRxProfile (s : RadioState) (id : Fin 2) (m : Int) : RadioState :=
  let s := s.setVfo id ((s.vfo id).loadProfile (s.profile m))
  let s := s.setReceiver id { s.receiver id with agc := (s.profile m).agc }
  s.rxFilterChanged id

def profilesLoadTxProfile (s : RadioState) (m : Int) : RadioState :=
  match s.transmitter with
  | none => s
  | some tx =>
    { s with
      transmitter := some { tx with useRxFilter := (s.profile m).useRxFilter } }.txSetFilter

def profilesLoadRxtxProfile (s : RadioState) (id : Fin 2) : RadioState :=
  let m := (s.vfo id).mode
  let s := s.profilesLoadRxProfile id m
  if id = s.txVfo then s.profilesLoadTxProfile m else s

def rxFrequencyChanged (s : RadioState) (id : Fin 2) : RadioState :=
  s.setVfo id ((s.vfo id).frequencyChanged (s.receiver id).toPassband (s.config.sampleRate id))

def rxSetFrequency (s : RadioState) (id : Fin 2) (f : Int) : RadioState :=
  (s.setVfo id ((s.vfo id).setDial f)).rxFrequencyChanged id

def rxVfoChanged (s : RadioState) (id : Fin 2) : RadioState :=
  (s.rxFrequencyChanged id).rxModeChanged id

-- the mode of the transmitter; its drive level is not kept here
def radioTxVfoChanged (s : RadioState) : RadioState :=
  s.txSetFilter

def radioSetSplit (s : RadioState) (val : Int) : RadioState :=
  if s.transmitter.isSome then
    ({ s with split := val }.radioTxVfoChanged).radioApplyBandSettings false 0
  else
    s

end RadioState
