import Pihpsdr.Lib.Rounding
import Pihpsdr.Properties.Impl.Property
import Pihpsdr.Radio.State

/-!
The table `RXTXprofile` of `profiles.c` and how it is kept in the properties file. There is one entry for
each mode, and after them one for each user profile.
-/

namespace Profiles

open Text Properties

inductive RxInt where
  | filter
  | cwPeak
  | ritStep
  | step
  | nb
  | nb2Mode
  | nr
  | nrAgc
  | nr2GainMethod
  | nr2NpeMethod
  | nr2Post
  | nr2PostTaper
  | nr2PostNlevel
  | nr2PostFactor
  | nr2PostRate
  | nr4NoiseScalingType
  | squelchEnable
  | anf
  | anfTaps
  | anfDelay
  | snb
  | agc
  | agcCustomAttack
  | agcCustomDecay
  | agcCustomHang
  | agcCustomSlope
  | fmLimiter
  | enEq
  | audioChannel
  | localAudio
  deriving DecidableEq

inductive RxDouble where
  | volume
  | nbTau
  | nbHang
  | nbAdvtime
  | nbThresh
  | nr2TrainedThreshold
  | nr2TrainedT2
  | nr4ReductionAmount
  | nr4SmoothingFactor
  | nr4WhiteningFactor
  | nr4NoiseRescale
  | nr4PostThreshold
  | squelch
  | anfGain
  | anfLeakage
  | fmLimiterGain
  deriving DecidableEq

inductive RxArray where
  | eqFreq
  | eqGain
  deriving DecidableEq

inductive TxInt where
  | enEq
  | compressor
  | dexp
  | dexpTrigger
  | dexpExp
  | dexpFilter
  | dexpFilterLow
  | dexpFilterHigh
  | cfc
  | cfcEq
  | defaultFilterLow
  | defaultFilterHigh
  | useRxFilter
  | pttDelay
  | phrotEnable
  | phrotReverse
  | phrotStages
  | localAudio
  deriving DecidableEq

inductive TxDouble where
  | compressorLevel
  | micGain
  | dexpTau
  | dexpAttack
  | dexpRelease
  | dexpHold
  | dexpHyst
  | phrotCorner
  deriving DecidableEq

inductive TxArray where
  | eqFreq
  | eqGain
  | cfcFreq
  | cfcLvl
  | cfcPost
  deriving DecidableEq

/--
A field of a profile: `I`, `D` and `A` name the fields of the integer types, of type `double` and those
that are arrays of eleven doubles.
-/
inductive Field (I D A : Type) where
  | int (f : I)
  | double (f : D)
  | array (f : A) (j : Fin 11)
  | audioName
  deriving DecidableEq

def Field.Value {I D A : Type} : Field I D A → Type
  | .int _ => Int
  | .double _ => ℚ
  | .array _ _ => ℚ
  | .audioName => CString 128

abbrev RxField :=
  Field RxInt RxDouble RxArray

abbrev TxField :=
  Field TxInt TxDouble TxArray

-- the structures `_rxprofile` and `_txprofile`
abbrev RxProfile :=
  (f : RxField) → f.Value

abbrev TxProfile :=
  (f : TxField) → f.Value

-- a field of the structure `_rxtxprofile`
inductive Cell where
  | rx (f : RxField)
  | tx (f : TxField)
  deriving DecidableEq

def Cell.Value : Cell → Type
  | .rx f => f.Value
  | .tx f => f.Value

inductive ArrayField where
  | rx (f : RxArray)
  | tx (f : TxArray)
  deriving DecidableEq

def ArrayField.cell : ArrayField → Fin 11 → Cell
  | .rx f, j => .rx (.array f j)
  | .tx f, j => .tx (.array f j)

abbrev Entry :=
  (c : Cell) → c.Value

def modes : Nat :=
  12

def numProfiles : Nat :=
  8

abbrev Table :=
  Fin (modes + numProfiles) → Entry

def CString.codes {n : Nat} (t : CString n) : List Int :=
  t.chars.map fun b => (b.toNat : Int)

-- a character other than the terminator
def IsByte (c : Int) : Prop :=
  0 < c ∧ c < 256

instance (c : Int) : Decidable (IsByte c) :=
  inferInstanceAs (Decidable (_ ∧ _))

theorem ofInt_ne_zero {c : Int} (h : IsByte c) : BitVec.ofInt 8 c ≠ 0 := by
  unfold IsByte at h
  intro hzero
  have hnat := congrArg BitVec.toNat hzero
  rw [BitVec.toNat_ofInt] at hnat
  simp at hnat
  omega

-- `snprintf` with the format `%s` into an array of `n + 1` characters
def CString.ofCodes (n : Nat) (cs : List Int) : CString (n + 1) where
  chars := ((cs.takeWhile fun c => decide (IsByte c)).map (BitVec.ofInt 8)).take n
  length_lt := by
    rw [List.length_take]
    omega
  no_nul := by
    intro hmem
    obtain ⟨c, hc, hzero⟩ := List.mem_map.mp (List.mem_of_mem_take hmem)
    have hbyte : IsByte c := by simpa using List.mem_takeWhile_imp hc
    exact ofInt_ne_zero hbyte hzero

-- the text that a field is stored with
def Field.text {I D A : Type} : (f : Field I D A) → f.Value → List Int
  | .int _, x => intText x
  | .double _, x => doubleText x
  | .array _ _, x => doubleText x
  | .audioName, x => CString.codes x

-- the value that is read for a field
def Field.parse {I D A : Type} : (f : Field I D A) → List Int → f.Value
  | .int _, cs => Decimal.parse cs
  | .double _, cs => myatof cs
  | .array _ _, cs => myatof cs
  | .audioName, cs => CString.ofCodes 127 cs

def Cell.text : (c : Cell) → c.Value → List Int
  | .rx f, x => f.text x
  | .tx f, x => f.text x

def Cell.parse : (c : Cell) → List Int → c.Value
  | .rx f, cs => f.parse cs
  | .tx f, cs => f.parse cs

-- what a property of an entry is called behind `modeset.%d.`
abbrev Key :=
  List (List Int)

def scalars (l : List (String × Cell)) : List (Key × Cell) :=
  l.map fun p => ([codes p.1], p.2)

def arrays (l : List (String × ArrayField)) : List (Key × Cell) :=
  (List.finRange 11).flatMap fun j => l.map fun p => ([codes p.1, Decimal.digits j.val], p.2.cell j)

def savedAudio : List (String × Cell) :=
  [("rx_audio_channel", .rx (.int .audioChannel)), ("rx_local_audio", .rx (.int .localAudio)),
    ("rx_audio_name", .rx .audioName), ("tx_local_audio", .tx (.int .localAudio)),
    ("tx_audio_name", .tx .audioName)]

def savedRx : List (String × Cell) :=
  [("filter", .rx (.int .filter)), ("cwPeak", .rx (.int .cwPeak)), ("step", .rx (.int .step)),
    ("rit_step", .rx (.int .ritStep)), ("rxvolume", .rx (.double .volume)),
    ("nb", .rx (.int .nb)), ("nb_tau", .rx (.double .nbTau)), ("nb_hang", .rx (.double .nbHang)),
    ("nb_advtime", .rx (.double .nbAdvtime)), ("nb_thresh", .rx (.double .nbThresh)),
    ("nb2_mode", .rx (.int .nb2Mode)), ("nr", .rx (.int .nr)), ("nr_agc", .rx (.int .nrAgc)),
    ("nr2_gain_method", .rx (.int .nr2GainMethod)), ("nr2_npe_method", .rx (.int .nr2NpeMethod)),
    ("nr2_post", .rx (.int .nr2Post)), ("nr2_post_taper", .rx (.int .nr2PostTaper)),
    ("nr2_post_nlevel", .rx (.int .nr2PostNlevel)),
    ("nr2_post_factor", .rx (.int .nr2PostFactor)), ("nr2_post_rate", .rx (.int .nr2PostRate)),
    ("nr2_trained_threshold", .rx (.double .nr2TrainedThreshold)),
    ("nr2_trained_t2", .rx (.double .nr2TrainedT2)),
    ("nr4_reduction_amount", .rx (.double .nr4ReductionAmount)),
    ("nr4_smoothing_factor", .rx (.double .nr4SmoothingFactor)),
    ("nr4_whitening_factor", .rx (.double .nr4WhiteningFactor)),
    ("nr4_noise_rescale", .rx (.double .nr4NoiseRescale)),
    ("nr4_post_threshold", .rx (.double .nr4PostThreshold)),
    ("nr4_noise_scaling_type", .rx (.int .nr4NoiseScalingType)),
    ("en_squelch", .rx (.int .squelchEnable)), ("squelch", .rx (.double .squelch)),
    ("anf", .rx (.int .anf)), ("anf_taps", .rx (.int .anfTaps)),
    ("anf_delay", .rx (.int .anfDelay)), ("anf_gain", .rx (.double .anfGain)),
    ("anf_leakage", .rx (.double .anfLeakage)), ("snb", .rx (.int .snb)),
    ("agc", .rx (.int .agc)), ("agc_custom_attack", .rx (.int .agcCustomAttack)),
    ("agc_custom_decay", .rx (.int .agcCustomDecay)),
    ("agc_custom_hang", .rx (.int .agcCustomHang)),
    ("agc_custom_slope", .rx (.int .agcCustomSlope)), ("fm_limiter", .rx (.int .fmLimiter)),
    ("fm_limiter_gain", .rx (.double .fmLimiterGain)), ("en_rxeq", .rx (.int .enEq))]

def savedRxArrays : List (String × ArrayField) :=
  [("rxeq", .rx .eqGain), ("rxeqfrq", .rx .eqFreq)]

def savedTx : List (String × Cell) :=
  [("ptt_delay", .tx (.int .pttDelay)), ("en_txeq", .tx (.int .enEq)),
    ("compressor", .tx (.int .compressor)), ("compressor_level", .tx (.double .compressorLevel)),
    ("mic_gain", .tx (.double .micGain)), ("dexp", .tx (.int .dexp)),
    ("dexp_trigger", .tx (.int .dexpTrigger)), ("dexp_tau", .tx (.double .dexpTau)),
    ("dexp_attack", .tx (.double .dexpAttack)), ("dexp_release", .tx (.double .dexpRelease)),
    ("dexp_hold", .tx (.double .dexpHold)), ("dexp_exp", .tx (.int .dexpExp)),
    ("dexp_hyst", .tx (.double .dexpHyst)), ("dexp_filter", .tx (.int .dexpFilter)),
    ("dexp_filter_low", .tx (.int .dexpFilterLow)),
    ("dexp_filter_high", .tx (.int .dexpFilterHigh)), ("cfc", .tx (.int .cfc)),
    ("cfc_eq", .tx (.int .cfcEq)), ("tx_default_filter_low", .tx (.int .defaultFilterLow)),
    ("tx_default_filter_high", .tx (.int .defaultFilterHigh)),
    ("use_rx_filter", .tx (.int .useRxFilter)), ("tx_phrot_enable", .tx (.int .phrotEnable)),
    ("tx_phrot_stages", .tx (.int .phrotStages)),
    ("tx_phrot_corner", .tx (.double .phrotCorner)),
    ("tx_phrot_reverse", .tx (.int .phrotReverse))]

def savedTxArrays : List (String × ArrayField) :=
  [("txeq", .tx .eqGain), ("txeqfrq", .tx .eqFreq), ("cfc_frq", .tx .cfcFreq),
    ("cfc_lvl", .tx .cfcLvl), ("cfc_post", .tx .cfcPost)]

-- the properties of an entry in the order in which they are saved; a client keeps its local audio only
def savedProps (remote : Bool) : List (Key × Cell) :=
  scalars savedAudio ++
    if remote then []
    else scalars savedRx ++ arrays savedRxArrays ++ scalars savedTx ++ arrays savedTxArrays

def restoredAudio : List (String × Cell) :=
  [("rx_audio_channel", .rx (.int .audioChannel)), ("rx_local_audio", .rx (.int .localAudio)),
    ("tx_local_audio", .tx (.int .localAudio)), ("rx_audio_name", .rx .audioName),
    ("tx_audio_name", .tx .audioName)]

def restoredSettings : List (String × Cell) :=
  [("filter", .rx (.int .filter)), ("cwPeak", .rx (.int .cwPeak)), ("step", .rx (.int .step)),
    ("rit_step", .rx (.int .ritStep)), ("rxvolume", .rx (.double .volume)),
    ("nb", .rx (.int .nb)), ("nb_tau", .rx (.double .nbTau)), ("nb_hang", .rx (.double .nbHang)),
    ("nb_advtime", .rx (.double .nbAdvtime)), ("nb_thresh", .rx (.double .nbThresh)),
    ("nb2_mode", .rx (.int .nb2Mode)), ("nr", .rx (.int .nr)), ("nr_agc", .rx (.int .nrAgc)),
    ("nr2_gain_method", .rx (.int .nr2GainMethod)), ("nr2_npe_method", .rx (.int .nr2NpeMethod)),
    ("nr2_trained_threshold", .rx (.double .nr2TrainedThreshold)),
    ("nr2_trained_t2", .rx (.double .nr2TrainedT2)), ("nr2_post", .rx (.int .nr2Post)),
    ("nr2_post_taper", .rx (.int .nr2PostTaper)), ("nr2_post_nlevel", .rx (.int .nr2PostNlevel)),
    ("nr2_post_factor", .rx (.int .nr2PostFactor)), ("nr2_post_rate", .rx (.int .nr2PostRate)),
    ("nr4_reduction_amount", .rx (.double .nr4ReductionAmount)),
    ("nr4_smoothing_factor", .rx (.double .nr4SmoothingFactor)),
    ("nr4_whitening_factor", .rx (.double .nr4WhiteningFactor)),
    ("nr4_noise_rescale", .rx (.double .nr4NoiseRescale)),
    ("nr4_post_threshold", .rx (.double .nr4PostThreshold)),
    ("nr4_noise_scaling_type", .rx (.int .nr4NoiseScalingType)),
    ("en_squelch", .rx (.int .squelchEnable)), ("squelch", .rx (.double .squelch)),
    ("anf", .rx (.int .anf)), ("anf_taps", .rx (.int .anfTaps)),
    ("anf_delay", .rx (.int .anfDelay)), ("anf_gain", .rx (.double .anfGain)),
    ("anf_leakage", .rx (.double .anfLeakage)), ("fm_limiter", .rx (.int .fmLimiter)),
    ("fm_limiter_gain", .rx (.double .fmLimiterGain)), ("snb", .rx (.int .snb)),
    ("agc", .rx (.int .agc)), ("agc_custom_attack", .rx (.int .agcCustomAttack)),
    ("agc_custom_decay", .rx (.int .agcCustomDecay)),
    ("agc_custom_hang", .rx (.int .agcCustomHang)),
    ("agc_custom_slope", .rx (.int .agcCustomSlope)), ("en_rxeq", .rx (.int .enEq)),
    ("ptt_delay", .tx (.int .pttDelay)), ("en_txeq", .tx (.int .enEq)),
    ("compressor", .tx (.int .compressor)), ("compressor_level", .tx (.double .compressorLevel)),
    ("mic_gain", .tx (.double .micGain)), ("dexp", .tx (.int .dexp)),
    ("dexp_trigger", .tx (.int .dexpTrigger)), ("dexp_tau", .tx (.double .dexpTau)),
    ("dexp_attack", .tx (.double .dexpAttack)), ("dexp_release", .tx (.double .dexpRelease)),
    ("dexp_hold", .tx (.double .dexpHold)), ("dexp_exp", .tx (.int .dexpExp)),
    ("dexp_hyst", .tx (.double .dexpHyst)), ("dexp_filter", .tx (.int .dexpFilter)),
    ("dexp_filter_low", .tx (.int .dexpFilterLow)),
    ("dexp_filter_high", .tx (.int .dexpFilterHigh)), ("cfc", .tx (.int .cfc)),
    ("cfc_eq", .tx (.int .cfcEq)), ("tx_default_filter_low", .tx (.int .defaultFilterLow)),
    ("tx_default_filter_high", .tx (.int .defaultFilterHigh)),
    ("use_rx_filter", .tx (.int .useRxFilter)), ("tx_phrot_enable", .tx (.int .phrotEnable)),
    ("tx_phrot_stages", .tx (.int .phrotStages)),
    ("tx_phrot_corner", .tx (.double .phrotCorner)),
    ("tx_phrot_reverse", .tx (.int .phrotReverse))]

def restoredArrays : List (String × ArrayField) :=
  [("txeq", .tx .eqGain), ("txeqfrq", .tx .eqFreq), ("rxeq", .rx .eqGain),
    ("rxeqfrq", .rx .eqFreq), ("cfc_frq", .tx .cfcFreq), ("cfc_lvl", .tx .cfcLvl),
    ("cfc_post", .tx .cfcPost)]

-- the name `modeset.%d.key`
def profileName (i : Fin (modes + numProfiles)) (key : Key) : List Int :=
  propName (codes "modeset" :: Decimal.digits i.val :: key)

-- only the entries of the modes are saved
def profilesSaveState (remote : Bool) (props : Properties) (table : Table) : Properties :=
  setAll props
    (((List.finRange (modes + numProfiles)).filter fun i => decide (i.val < modes)).flatMap fun i =>
      (savedProps remote).map fun p => (profileName i p.1, p.2.text (table i p.2)))

-- the constant `q` of the source as a double
def const (q : ℚ) : ℚ :=
  Rounding.round 53 q

def noAudio : CString 128 :=
  CString.ofCodes 127 (codes "NO AUDIO")

def agcMedium : Int := 3

def agcFast : Int := 4

def filterF0 : Int := 0

def filterF3 : Int := 3

def filterF4 : Int := 4

def filterF5 : Int := 5

def filterF6 : Int := 6

def defaultRxInt : RxInt → Int
  | .filter => filterF3
  | .cwPeak => 0
  | .ritStep => 10
  | .step => 100
  | .nb => 0
  | .nb2Mode => 0
  | .nr => 0
  | .nrAgc => 0
  | .nr2GainMethod => 0
  | .nr2NpeMethod => 0
  | .nr2Post => 0
  | .nr2PostTaper => 12
  | .nr2PostNlevel => 15
  | .nr2PostFactor => 15
  | .nr2PostRate => 5
  | .nr4NoiseScalingType => 0
  | .squelchEnable => 0
  | .anf => 0
  | .anfTaps => 64
  | .anfDelay => 16
  | .snb => 0
  | .agc => agcMedium
  | .agcCustomAttack => 1
  | .agcCustomDecay => 250
  | .agcCustomHang => 250
  | .agcCustomSlope => 250
  | .fmLimiter => 0
  | .enEq => 0
  | .audioChannel => 0
  | .localAudio => 0

def defaultRxDouble : RxDouble → ℚ
  | .volume => -20
  | .nbTau => const (1 / 100000)
  | .nbHang => const (1 / 100000)
  | .nbAdvtime => const (1 / 100000)
  | .nbThresh => const (495 / 100)
  | .nr2TrainedThreshold => -1 / 2
  | .nr2TrainedT2 => const (2 / 10)
  | .nr4ReductionAmount => 10
  | .nr4SmoothingFactor => 20
  | .nr4WhiteningFactor => 0
  | .nr4NoiseRescale => 2
  | .nr4PostThreshold => -3
  | .squelch => 0
  | .anfGain => -80
  | .anfLeakage => -20
  | .fmLimiterGain => 10

def defaultTxInt : TxInt → Int
  | .enEq => 0
  | .compressor => 0
  | .dexp => 0
  | .dexpTrigger => -25
  | .dexpExp => 20
  | .dexpFilter => 0
  | .dexpFilterLow => 1000
  | .dexpFilterHigh => 2000
  | .cfc => 0
  | .cfcEq => 0
  | .defaultFilterLow => 150
  | .defaultFilterHigh => 2850
  | .useRxFilter => 0
  | .pttDelay => 0
  | .phrotEnable => 0
  | .phrotReverse => 0
  | .phrotStages => 2
  | .localAudio => 0

def defaultTxDouble : TxDouble → ℚ
  | .compressorLevel => 0
  | .micGain => 0
  | .dexpTau => const (1 / 100)
  | .dexpAttack => const (25 / 1000)
  | .dexpRelease => const (100 / 1000)
  | .dexpHold => const (800 / 1000)
  | .dexpHyst => 3 / 4
  | .phrotCorner => 600

-- the frequencies of the equalizers; the one with index 2 has no default and stays what it was
def defaultFreqs : List ℚ :=
  [0, 50, 0, 200, 500, 1000, 1500, 2000, 2500, 3000, 5000]

def defaultFreq (old : ℚ) (j : Fin 11) : ℚ :=
  if j = 2 then old else defaultFreqs.getD j.val 0

def defaultRx (old : RxProfile) : RxProfile
  | .int f => defaultRxInt f
  | .double f => defaultRxDouble f
  | .array .eqFreq j => defaultFreq (old (.array .eqFreq j)) j
  | .array .eqGain _ => (0 : ℚ)
  | .audioName => noAudio

def defaultTx (old : TxProfile) : TxProfile
  | .int f => defaultTxInt f
  | .double f => defaultTxDouble f
  | .array .eqFreq j => defaultFreq (old (.array .eqFreq j)) j
  | .array .eqGain _ => (0 : ℚ)
  | .array .cfcFreq j => defaultFreq (old (.array .cfcFreq j)) j
  | .array .cfcLvl _ => (0 : ℚ)
  | .array .cfcPost _ => (0 : ℚ)
  | .audioName => noAudio

-- the defaults that depend on the mode or the profile
structure ModeDefaults where
  agc : Int
  filter : Int
  step : Int
  ritStep : Int
  pttDelay : Int
  contest : Bool

def modeSpec : Int := 8

def modeDrm : Int := 11

def profAudio : Int := modes

def profContest : Int := modes + 2

def profDx : Int := modes + 3

def modeDefaults (i : Fin (modes + numProfiles)) : ModeDefaults :=
  let m : Int := i.val
  if m = modeDigl ∨ m = modeDigu then
    ⟨agcFast, filterF6, 50, 100, 50, false⟩
  else if m = modeCwl ∨ m = modeCwu then
    ⟨agcFast, filterF4, 25, 10, 0, false⟩
  else if m = modeAm ∨ m = modeSam ∨ m = modeSpec ∨ m = modeDrm ∨ m = modeFmn then
    ⟨agcMedium, filterF3, 100, 100, 250, false⟩
  else if m = profAudio then
    ⟨agcMedium, filterF0, 100, 100, 50, false⟩
  else if m = profContest ∨ m = profDx then
    ⟨agcMedium, filterF5, 100, 10, 0, true⟩
  else
    ⟨agcMedium, filterF5, 100, 100, 250, false⟩

-- the gains of the equalizer of the transmitter for contests
def contestGains : List ℚ :=
  [0, 1, 0, 3, 5, 4, 3, 1, 0, -1, -1]

def defaultEntry (i : Fin (modes + numProfiles)) (old : Entry) : Entry :=
  let d := modeDefaults i
  fun
    | .rx (.int .agc) => d.agc
    | .rx (.int .filter) => d.filter
    | .rx (.int .step) => d.step
    | .rx (.int .ritStep) => d.ritStep
    | .tx (.int .pttDelay) => d.pttDelay
    | .tx (.int .enEq) => if d.contest then (1 : Int) else defaultTxInt .enEq
    | .tx (.int .compressor) => if d.contest then (1 : Int) else defaultTxInt .compressor
    | .tx (.double .compressorLevel) =>
      if d.contest then (10 : ℚ) else defaultTxDouble .compressorLevel
    | .tx (.array .eqGain j) => if d.contest then contestGains.getD j.val 0 else (0 : ℚ)
    | .rx f => defaultRx (fun f => old (.rx f)) f
    | .tx f => defaultTx (fun f => old (.tx f)) f

def IsAudio : Cell → Prop
  | .rx (.int .audioChannel) => True
  | .rx (.int .localAudio) => True
  | .rx .audioName => True
  | .tx (.int .localAudio) => True
  | .tx .audioName => True
  | _ => False

instance : DecidablePred IsAudio := fun c => by
  unfold IsAudio
  split <;> infer_instance

def restoreCell (props : Properties) (i : Fin (modes + numProfiles)) (e : Entry) (p : Key × Cell)
    : Entry :=
  match getProperty props (profileName i p.1) with
  | some value => Function.update e p.2 (p.2.parse value)
  | none => e

def restoreCells (props : Properties) (i : Fin (modes + numProfiles)) (ps : List (Key × Cell))
    (e : Entry) : Entry :=
  ps.foldl (restoreCell props i) e

-- the local audio gets its defaults and is read before everything else
def restoreEntry (remote : Bool) (props : Properties) (i : Fin (modes + numProfiles)) (e : Entry)
    : Entry :=
  let audio : Entry := fun c => if IsAudio c then defaultEntry i e c else e c
  let e := restoreCells props i (scalars restoredAudio) audio
  if remote then
    e
  else
    let settings : Entry := fun c => if IsAudio c then e c else defaultEntry i e c
    restoreCells props i
      (scalars restoredSettings ++ arrays restoredArrays ++ scalars restoredAudio) settings

def profilesRestoreState (remote : Bool) (props : Properties) (table : Table) : Table :=
  fun i => restoreEntry remote props i (table i)

end Profiles
