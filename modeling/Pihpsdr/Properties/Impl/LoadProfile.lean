import Pihpsdr.Lib.Assoc
import Pihpsdr.Lib.Indices
import Pihpsdr.Properties.Impl.Profiles

/-!
How a profile is loaded: `profiles_load_rxtx_profile` of `profiles.c`, the setters of `radio.c`,
`receiver.c` and `transmitter.c` that it calls, which store the settings with the mode again, and the
change of the mode in `vfo.c`.
-/

namespace Profiles

open Assign

/--
The table of the profiles and the settings that are kept there. To the settings of a receiver belong
those of its VFO.
-/
structure ModeRadio where
  table : Table
  rx : Fin 2 → RxProfile
  tx : TxProfile
  hasTransmitter : Bool
  receivers : Nat
  activeReceiver : Fin 2
  split : Bool
  mode : Fin 2 → Fin modes

-- whether the sound system opens a device for output or input
structure AudioDevices where
  opensOutput : CString 128 → Bool
  opensInput : CString 128 → Bool

def slot (mode : Fin modes) : Fin (modes + numProfiles) :=
  mode.castAdd numProfiles

def RxProfile.getInt (rx : RxProfile) (f : RxInt) : Int :=
  rx (.int f)

def RxProfile.getDouble (rx : RxProfile) (f : RxDouble) : ℚ :=
  rx (.double f)

def TxProfile.getInt (tx : TxProfile) (f : TxInt) : Int :=
  tx (.int f)

def TxProfile.getDouble (tx : TxProfile) (f : TxDouble) : ℚ :=
  tx (.double f)

def RxProfile.setInt (rx : RxProfile) (f : RxInt) (x : Int) : RxProfile :=
  Function.update rx (.int f) x

def RxProfile.setDouble (rx : RxProfile) (f : RxDouble) (x : ℚ) : RxProfile :=
  Function.update rx (.double f) x

def RxProfile.setName (rx : RxProfile) (name : CString 128) : RxProfile :=
  Function.update rx .audioName name

def TxProfile.setInt (tx : TxProfile) (f : TxInt) (x : Int) : TxProfile :=
  Function.update tx (.int f) x

def TxProfile.setDouble (tx : TxProfile) (f : TxDouble) (x : ℚ) : TxProfile :=
  Function.update tx (.double f) x

def TxProfile.setName (tx : TxProfile) (name : CString 128) : TxProfile :=
  Function.update tx .audioName name

def Entry.rx (e : Entry) : RxProfile :=
  fun f => e (.rx f)

def Entry.tx (e : Entry) : TxProfile :=
  fun f => e (.tx f)

def Entry.mk (rx : RxProfile) (tx : TxProfile) : Entry
  | .rx f => rx f
  | .tx f => tx f

-- the modes that share the settings of a mode
def sharedModes (mode : Fin modes) : List Int :=
  let m : Int := mode.val
  if m = modeCwu ∨ m = modeCwl then
    [modeCwu, modeCwl]
  else if m = modeDigu ∨ m = modeDigl then
    [modeDigu, modeDigl]
  else if m = modeLsb ∨ m = modeUsb ∨ m = modeDsb then
    [modeLsb, modeUsb, modeDsb]
  else
    []

def profilesCopyRxtxprofile (table : Table) (mode : Fin modes) : Table :=
  fun i => if (i.val : Int) ∈ sharedModes mode then table (slot mode) else table i

def vfoFields : List RxField :=
  [.int .filter, .int .cwPeak, .int .ritStep, .int .step]

def noiseFields : List RxField :=
  [.int .nb, .double .nbTau, .double .nbHang, .double .nbAdvtime, .double .nbThresh,
    .int .nb2Mode, .int .nr, .int .nrAgc, .int .nr2GainMethod, .int .nr2NpeMethod, .int .nr2Post,
    .int .nr2PostTaper, .int .nr2PostNlevel, .int .nr2PostFactor, .int .nr2PostRate,
    .double .nr2TrainedThreshold, .double .nr2TrainedT2, .double .nr4ReductionAmount,
    .double .nr4SmoothingFactor, .double .nr4WhiteningFactor, .double .nr4NoiseRescale,
    .double .nr4PostThreshold, .int .nr4NoiseScalingType]

def notchFields : List RxField :=
  [.int .anf, .int .anfTaps, .int .anfDelay, .double .anfGain, .double .anfLeakage, .int .snb]

def agcFields : List RxField :=
  [.int .agc, .int .agcCustomAttack, .int .agcCustomDecay, .int .agcCustomHang,
    .int .agcCustomSlope]

def limiterFields : List RxField :=
  [.int .fmLimiter, .double .fmLimiterGain]

def rxEqFields : List RxField :=
  .int .enEq ::
    (List.finRange 11).flatMap fun j => [.array .eqGain j, .array .eqFreq j]

def squelchFields : List RxField :=
  [.int .squelchEnable, .double .squelch]

def txFilterFields : List TxField :=
  [.int .useRxFilter, .int .defaultFilterLow, .int .defaultFilterHigh]

def cfcFields : List TxField :=
  [.int .cfc, .int .cfcEq] ++
    (List.finRange 11).flatMap fun j => [.array .cfcFreq j, .array .cfcLvl j, .array .cfcPost j]

def compressorFields : List TxField :=
  [.int .compressor, .double .compressorLevel] ++ cfcFields

def dexpFields : List TxField :=
  [.int .dexp, .int .dexpTrigger, .double .dexpTau, .double .dexpAttack, .double .dexpRelease,
    .double .dexpHold, .int .dexpExp, .double .dexpHyst, .int .dexpFilter, .int .dexpFilterLow,
    .int .dexpFilterHigh]

def txEqCurveFields : List TxField :=
  (List.finRange 11).flatMap fun j => [.array .eqGain j, .array .eqFreq j]

def txEqFields : List TxField :=
  .int .enEq :: txEqCurveFields

def phrotFields : List TxField :=
  [.int .phrotEnable, .int .phrotReverse, .int .phrotStages, .double .phrotCorner]

/--
Local audio: what is stored is taken over if it differs from what is in use. A device that is not to be
used is closed, its name stays.
-/
def switchAudio (opens : CString 128 → Bool) (used stored : Int × CString 128)
    : Int × CString 128 :=
  if used.1 ≠ stored.1 ∨ used.2 ≠ stored.2 then
    if stored.1 ≠ 0 then (if opens stored.2 then 1 else 0, stored.2) else (0, used.2)
  else
    used

namespace ModeRadio

def vfoGetTxVfo (s : ModeRadio) : Fin 2 :=
  if s.split then 1 - s.activeReceiver else s.activeReceiver

def vfoGetTxMode (s : ModeRadio) : Fin modes :=
  s.mode s.vfoGetTxVfo

def setRx (s : ModeRadio) (id : Fin 2) (rx : RxProfile) : ModeRadio :=
  { s with rx := Function.update s.rx id rx }

-- assignments of settings from an entry of the table
def loadRx (s : ModeRadio) (id : Fin 2) (m : Fin (modes + numProfiles)) (fs : List RxField)
    : ModeRadio :=
  s.setRx id (assign fs (s.table m).rx (s.rx id))

def loadTx (s : ModeRadio) (m : Fin (modes + numProfiles)) (fs : List TxField) : ModeRadio :=
  { s with tx := assign fs (s.table m).tx s.tx }

-- what all setters do with the entry of the mode, those of a receiver for the first one only
def setEntry (s : ModeRadio) (mode : Fin modes) (e : Entry) : ModeRadio :=
  { s with table := profilesCopyRxtxprofile (Function.update s.table (slot mode) e) mode }

def storeRx (s : ModeRadio) (id : Fin 2) (fs : List RxField) : ModeRadio :=
  if id = 0 then
    let mode := s.mode id
    let e := s.table (slot mode)
    s.setEntry mode (Entry.mk (assign fs (s.rx id) e.rx) e.tx)
  else
    s

def storeTx (s : ModeRadio) (fs : List TxField) : ModeRadio :=
  let txmode := s.vfoGetTxMode
  let e := s.table (slot txmode)
  s.setEntry txmode (Entry.mk e.rx (assign fs s.tx e.tx))

def rxSetAfGain (s : ModeRadio) (id : Fin 2) : ModeRadio :=
  s.storeRx id [.double .volume]

def rxSetSquelch (s : ModeRadio) (id : Fin 2) : ModeRadio :=
  s.storeRx id squelchFields

def rxSetAgc (s : ModeRadio) (id : Fin 2) : ModeRadio :=
  s.storeRx id agcFields

def rxSetEqualizer (s : ModeRadio) (id : Fin 2) : ModeRadio :=
  s.storeRx id rxEqFields

def rxSetNoise (s : ModeRadio) (id : Fin 2) : ModeRadio :=
  s.storeRx id (noiseFields ++ notchFields)

def txSetFilter (s : ModeRadio) : ModeRadio :=
  s.storeTx txFilterFields

def txSetCompressor (s : ModeRadio) : ModeRadio :=
  s.storeTx compressorFields

def txSetDexp (s : ModeRadio) : ModeRadio :=
  s.storeTx dexpFields

def txSetEqualizer (s : ModeRadio) : ModeRadio :=
  s.storeTx txEqFields

def txSetPhrot (s : ModeRadio) : ModeRadio :=
  s.storeTx phrotFields

def txSetMicGain (s : ModeRadio) : ModeRadio :=
  s.storeTx [.double .micGain]

def radioSetAfGain (s : ModeRadio) (id : Fin 2) (value : ℚ) : ModeRadio :=
  if s.receivers ≤ id.val then
    s
  else
    (s.setRx id (RxProfile.setDouble (s.rx id) .volume value)).rxSetAfGain id

def radioSetSquelch (s : ModeRadio) (id : Fin 2) (value : ℚ) : ModeRadio :=
  if s.receivers ≤ id.val then
    s
  else
    let enable : Int := if 1 / 2 < value then 1 else 0
    let rx := RxProfile.setDouble (s.rx id) .squelch value
    (s.setRx id (RxProfile.setInt rx .squelchEnable enable)).rxSetSquelch id

def radioSetSquelchEnable (s : ModeRadio) (id : Fin 2) (enable : Int) : ModeRadio :=
  if s.receivers ≤ id.val then
    s
  else
    (s.setRx id (RxProfile.setInt (s.rx id) .squelchEnable enable)).rxSetSquelch id

def radioSetMicGain (s : ModeRadio) (value : ℚ) : ModeRadio :=
  if s.hasTransmitter then
    { s with tx := TxProfile.setDouble s.tx .micGain value }.txSetMicGain
  else
    s

-- the filter edges follow from the settings; they come with new lines of the AGC
def rxSetFilter (s : ModeRadio) (id : Fin 2) : ModeRadio :=
  s.rxSetAgc id

def rxFilterChanged (s : ModeRadio) (id : Fin 2) : ModeRadio :=
  let s := s.rxSetFilter id
  if s.hasTransmitter ∧ ((TxProfile.getInt s.tx .useRxFilter ≠ 0 ∧ id = s.activeReceiver) ∨
    (s.vfoGetTxMode.val : Int) = modeFmn)
  then s.txSetFilter
  else s

def rxAudio (rx : RxProfile) : Int × CString 128 :=
  (RxProfile.getInt rx .localAudio, rx .audioName)

def loadRxAudio (opens : CString 128 → Bool) (s : ModeRadio) (m : Fin (modes + numProfiles))
    : ModeRadio :=
  let s := s.loadRx 0 m [.int .audioChannel]
  let audio := switchAudio opens (rxAudio (s.rx 0)) (rxAudio (s.table m).rx)
  s.setRx 0 (RxProfile.setName (RxProfile.setInt (s.rx 0) .localAudio audio.1) audio.2)

def txAudio (tx : TxProfile) : Int × CString 128 :=
  (TxProfile.getInt tx .localAudio, tx .audioName)

def loadTxAudio (opens : CString 128 → Bool) (s : ModeRadio) (m : Fin (modes + numProfiles))
    : ModeRadio :=
  let audio := switchAudio opens (txAudio s.tx) (txAudio (s.table m).tx)
  { s with tx := TxProfile.setName (TxProfile.setInt s.tx .localAudio audio.1) audio.2 }

variable (a : AudioDevices)

def profilesLoadRxProfile (s : ModeRadio) (id : Fin 2) (m : Fin (modes + numProfiles))
    : ModeRadio :=
  let s := s.loadRx id m vfoFields
  let s := s.radioSetAfGain id (RxProfile.getDouble (s.table m).rx .volume)
  let s := s.loadRx id m noiseFields
  let s := s.radioSetSquelchEnable id (RxProfile.getInt (s.table m).rx .squelchEnable)
  -- by now the squelch of the first receiver has been stored in the table
  let s := s.radioSetSquelch id (RxProfile.getDouble (s.table m).rx .squelch)
  let s := s.loadRx id m (notchFields ++ agcFields ++ limiterFields ++ rxEqFields)
  let s := ((s.rxSetAgc id).rxSetEqualizer id).rxSetNoise id
  let s := s.rxFilterChanged id
  if id = 0 then loadRxAudio a.opensOutput s m else s

def profilesLoadTxProfile (s : ModeRadio) (m : Fin (modes + numProfiles)) : ModeRadio :=
  if ¬ s.hasTransmitter then
    s
  else
    let s := s.loadTx m
      [.int .pttDelay, .int .enEq, .int .compressor, .double .compressorLevel]
    let s := s.radioSetMicGain (TxProfile.getDouble (s.table m).tx .micGain)
    let s := s.loadTx m (dexpFields ++ cfcFields ++ txFilterFields ++ phrotFields ++ txEqCurveFields)
    let s := s.txSetFilter.txSetCompressor.txSetDexp.txSetEqualizer.txSetPhrot
    loadTxAudio a.opensInput s m

def profilesLoadRxtxProfile (s : ModeRadio) (id : Fin 2) : ModeRadio :=
  let m := slot (s.mode id)
  let s := profilesLoadRxProfile a s id m
  if s.hasTransmitter ∧ id = s.vfoGetTxVfo then profilesLoadTxProfile a s m else s

-- the mode of the receiver decides about the kind of its squelch
def rxModeChanged (s : ModeRadio) (id : Fin 2) : ModeRadio :=
  (s.rxSetSquelch id).rxFilterChanged id

def setMode (s : ModeRadio) (id : Fin 2) (m : Fin modes) : ModeRadio :=
  { s with mode := Function.update s.mode id m }

def vfoIdModeChanged (s : ModeRadio) (id : Fin 2) (m : Fin modes) : ModeRadio :=
  let s := s.setMode id m
  let s :=
    if id.val < s.receivers then
      ((profilesLoadRxtxProfile a s id).rxModeChanged id).rxFilterChanged id
    else
      s
  if s.hasTransmitter then s.txSetFilter else s

end ModeRadio

end Profiles
