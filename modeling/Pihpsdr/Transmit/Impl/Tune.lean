import Pihpsdr.Lib.Run
import Pihpsdr.Transmit.Impl.Switch
import Pihpsdr.Transmit.Impl.Settings
import Mathlib.Data.Rat.Init
import Pihpsdr.Radio.Band

/-!
What `radio_set_tune` does to the settings of the transmitter, and the changes of mode, VFO, split and
band that may take place while it tunes. The transmitter has the mode of one of the two VFOs, and with
each change of this mode the settings stored for it are loaded.
-/

namespace Transmit

/--
A local radio with a transmitter. `preTuneMode` and `preTuneCwInternal` are set when TUNE begins.
-/
structure TuneRadio (ρ : Type) where
  radio : RxTx
  state : TxState ρ
  vfoMode : Fin 2 → Mode
  split : Bool
  activeReceiver : Fin 2
  receivers : Nat
  cwKeyerInternal : Int
  preTuneMode : Mode
  preTuneCwInternal : Int

namespace TuneRadio

variable {ρ : Type} (pow10 : ℚ → ℚ)

def vfoGetTxVfo (s : TuneRadio ρ) : Fin 2 :=
  if s.split then 1 - s.activeReceiver else s.activeReceiver

def vfoGetTxMode (s : TuneRadio ρ) : Mode :=
  s.vfoMode s.vfoGetTxVfo

def Running (s : TuneRadio ρ) (id : Fin 2) : Prop :=
  id.val < s.receivers

instance (s : TuneRadio ρ) (id : Fin 2) : Decidable (s.Running id) :=
  inferInstanceAs (Decidable (_ < _))

def setMode (s : TuneRadio ρ) (id : Fin 2) (m : Mode) : TuneRadio ρ :=
  { s with vfoMode := Function.update s.vfoMode id m }

def txSetMode (s : TuneRadio ρ) (mode : Mode) : TuneRadio ρ :=
  { s with state := s.state.txSetMode s.vfoGetTxMode mode }

def radioTxVfoChanged (s : TuneRadio ρ) : TuneRadio ρ :=
  s.txSetMode s.vfoGetTxMode

def rxFilterChanged (s : TuneRadio ρ) (id : Fin 2) : TuneRadio ρ :=
  if s.state.tx.filter.useRxFilter ∧ id = s.activeReceiver ∨ s.vfoGetTxMode = .fmn then
    { s with state := s.state.txSetFilter s.vfoGetTxMode }
  else
    s

-- the first receiver stores its settings again, which copies the entry to the other modes of its group
def profilesLoadRxProfile (s : TuneRadio ρ) (id : Fin 2) (m : Mode) : TuneRadio ρ :=
  let s :=
    if id = 0 then
      { s with state := { s.state with profile := profilesCopyRxtxprofile s.state.profile m } }
    else
      s
  s.rxFilterChanged id

def profilesLoadRxtxProfile (s : TuneRadio ρ) (id : Fin 2) : TuneRadio ρ :=
  let m := s.vfoMode id
  let s := s.profilesLoadRxProfile id m
  if id = s.vfoGetTxVfo then
    { s with state := s.state.profilesLoadTxProfile pow10 s.vfoGetTxMode m }
  else
    s

def loadProfileIf (s : TuneRadio ρ) (id : Fin 2) (changed : Bool) : TuneRadio ρ :=
  if changed then s.profilesLoadRxtxProfile pow10 id else s

def rxVfoChanged (s : TuneRadio ρ) (id : Fin 2) : TuneRadio ρ :=
  s.rxFilterChanged id

def vfoVfosChanged (s : TuneRadio ρ) : TuneRadio ρ :=
  let s := (s.rxVfoChanged 0).radioTxVfoChanged
  if s.receivers = 2 then s.rxVfoChanged 1 else s

def vfoIdModeChanged (s : TuneRadio ρ) (id : Fin 2) (m : Mode) : TuneRadio ρ :=
  let s := s.setMode id m
  let s :=
    if s.Running id then
      ((s.profilesLoadRxtxProfile pow10 id).rxFilterChanged id).rxFilterChanged id
    else
      s
  s.txSetMode s.vfoGetTxMode

-- a change of the band or of the band stack, whose entry has the mode `m`
def enterEntry (s : TuneRadio ρ) (id : Fin 2) (m : Mode) : TuneRadio ρ :=
  let oldmode := s.vfoMode id
  let s := s.setMode id m
  (s.loadProfileIf pow10 id (s.Running id ∧ oldmode ≠ m)).vfoVfosChanged

def vfoAToB (s : TuneRadio ρ) : TuneRadio ρ :=
  let oldmode := s.vfoMode 1
  let s := s.setMode 1 (s.vfoMode 0)
  (s.loadProfileIf pow10 1 (s.vfoMode 1 ≠ oldmode ∧ s.receivers = 2)).vfoVfosChanged

def vfoBToA (s : TuneRadio ρ) : TuneRadio ρ :=
  let oldmode := s.vfoMode 0
  let s := s.setMode 0 (s.vfoMode 1)
  (s.loadProfileIf pow10 0 (s.vfoMode 0 ≠ oldmode)).vfoVfosChanged

def vfoASwapB (s : TuneRadio ρ) : TuneRadio ρ :=
  let a := s.vfoMode 0
  let b := s.vfoMode 1
  let s := (s.setMode 0 b).setMode 1 a
  let s := s.loadProfileIf pow10 0 (b ≠ a)
  (s.loadProfileIf pow10 1 (b ≠ a ∧ s.receivers = 2)).vfoVfosChanged

def radioSetSplit (s : TuneRadio ρ) (val : Bool) : TuneRadio ρ :=
  { s with split := val }.radioTxVfoChanged

def rxSetActive (s : TuneRadio ρ) (id : Fin 2) : TuneRadio ρ :=
  { s with activeReceiver := id }.radioTxVfoChanged

end TuneRadio

inductive VfoChange where
  | mode (id : Fin 2) (m : Mode)
  | entry (id : Fin 2) (m : Mode)
  | aToB
  | bToA
  | aSwapB
  | split (val : Bool)
  | active (id : Fin 2)

def CompressorSettings.off (c : CompressorSettings) : CompressorSettings :=
  { c with cfc := false, compressor := false }

namespace TuneRadio

variable {ρ : Type} (pow10 : ℚ → ℚ)

def change (s : TuneRadio ρ) : VfoChange → TuneRadio ρ
  | .mode id m => s.vfoIdModeChanged pow10 id m
  | .entry id m => s.enterEntry pow10 id m
  | .aToB => s.vfoAToB pow10
  | .bToA => s.vfoBToA pow10
  | .aSwapB => s.vfoASwapB pow10
  | .split val => s.radioSetSplit val
  | .active id => s.rxSetActive id

-- the compressor and the CFC are off for the setter, and then as before
def muteCompressor (s : TuneRadio ρ) : TuneRadio ρ :=
  let saved := s.state.tx.comp
  let state := { s.state with tx := { s.state.tx with comp := saved.off } }
  let state := state.txSetCompressor s.vfoGetTxMode
  { s with state := { state with tx := { state.tx with comp := saved } } }

def tuneOn (s : TuneRadio ρ) : TuneRadio ρ :=
  let s := s.muteCompressor
  let txMode := s.vfoGetTxMode
  let s := { s with preTuneMode := txMode, preTuneCwInternal := s.cwKeyerInternal }
  match txMode with
  | .cwl => { s with cwKeyerInternal := 0 }.txSetMode .lsb
  | .cwu => { s with cwKeyerInternal := 0 }.txSetMode .usb
  | _ => s

def tuneOff (s : TuneRadio ρ) : TuneRadio ρ :=
  let s :=
    match s.preTuneMode with
    | .cwl => { s.txSetMode .cwl with cwKeyerInternal := s.preTuneCwInternal }
    | .cwu => { s.txSetMode .cwu with cwKeyerInternal := s.preTuneCwInternal }
    | _ => s
  { s with state := s.state.txSetCompressor s.vfoGetTxMode }

def call (s : TuneRadio ρ) (c : TxEnv × SwitchCall) : TuneRadio ρ :=
  let t :=
    match s.radio.callTune c with
    | some state => if state ≠ 0 then s.tuneOn else s.tuneOff
    | none => s
  { t with radio := s.radio.call c }

end TuneRadio

end Transmit

/-!
The generator at the end of the transmit chain ("post-generator") with its two users: TUNE, through
`tx_set_singletone`, and the two-tone signal of `tx_set_twotone`.
-/

namespace Transmit

-- the modes 0 and 1 of the generator
inductive PostGenMode where
  | tone
  | twoTone
  deriving DecidableEq

structure PostGen where
  run : Bool
  mode : PostGenMode
  toneFreq : ℚ
  toneMag : ℚ
  ttFreq : ℚ × ℚ
  ttMag : ℚ × ℚ
  deriving DecidableEq

/--
A local radio with its generator. `twotone` is the flag of the transmitter, and `idle` holds the
states of the calls of `radio_set_mox` that `tx_set_twotone` has left with the main loop.
-/
structure ToneRadio where
  radio : RxTx
  txMode : Mode
  twotone : CInt
  tt1Freq : ℚ
  tt2Freq : ℚ
  gen : PostGen
  idle : List CInt
  deriving DecidableEq

def PostGen.txSetSingletone (g : PostGen) (state : CInt) (freq : ℚ) : PostGen :=
  if state ≠ 0 then
    { g with toneFreq := freq, toneMag := 99999 / 100000, mode := .tone, run := true }
  else
    { g with run := false }

-- the lower sideband is mirrored
def PostGen.txSetTtFreq (g : PostGen) (mode : Mode) (tt1 tt2 : ℚ) : PostGen :=
  match mode with
  | .cwl => { g with ttFreq := (-tt1, -tt2) }
  | .lsb => { g with ttFreq := (-tt1, -tt2) }
  | .digl => { g with ttFreq := (-tt1, -tt2) }
  | _ => { g with ttFreq := (tt1, tt2) }

-- the signal of `tx_set_twotone`
def PostGen.txSetTt (g : PostGen) (state : CInt) (mode : Mode) (tt1 tt2 : ℚ) : PostGen :=
  if state ≠ 0 then
    { g.txSetTtFreq mode tt1 tt2 with
      ttMag := (49999 / 100000, 49999 / 100000), mode := .twoTone, run := true }
  else
    { g with run := false }

namespace ToneRadio

def txSetTwotone (s : ToneRadio) (state : CInt) : ToneRadio :=
  if state = s.twotone then
    s
  else
    { s with
      twotone := state
      gen := s.gen.txSetTt state s.txMode s.tt1Freq s.tt2Freq
      idle := s.idle ++ [state] }

-- the callers have made sure that there is a transmitter
def radioSetTwotone (s : ToneRadio) (state : CInt) : ToneRadio :=
  if s.radio.hasTransmitter then s.txSetTwotone state else s

-- where `radio_set_tune` changes TUNE it also switches the generator
def call (env : TxEnv) (s : ToneRadio) (c : SwitchCall) : ToneRadio :=
  { s with
    radio := s.radio.call (env, c)
    gen :=
      match s.radio.callTune (env, c) with
      | some state => s.gen.txSetSingletone state 0
      | none => s.gen }

def runIdle (env : TxEnv) (s : ToneRadio) : ToneRadio :=
  match s.idle with
  | [] => s
  | state :: idle => { s with idle := idle }.call env (.setMox state)

end ToneRadio

inductive ToneEvent where
  | call (c : SwitchCall)
  | setTwotone (state : CInt)
  | mode (m : Mode)
  | idle

def ToneRadio.step (s : ToneRadio) : TxEnv × ToneEvent → ToneRadio
  | (env, .call c) => s.call env c
  | (_, .setTwotone state) => s.radioSetTwotone state
  | (_, .mode m) => { s with txMode := m }
  | (env, .idle) => s.runIdle env

def ToneRadio.receiving (hasTransmitter duplex : Bool) (receivers : Nat) (txMode : Mode)
    (tt1Freq tt2Freq : ℚ) : ToneRadio where
  radio := .receiving hasTransmitter duplex receivers
  txMode := txMode
  twotone := 0
  tt1Freq := tt1Freq
  tt2Freq := tt2Freq
  gen := ⟨false, .tone, 0, 0, (0, 0), (0, 0)⟩
  idle := []

end Transmit
