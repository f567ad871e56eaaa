import Mathlib.Data.Rat.Floor
import Pihpsdr.Lib.Decimal
import Pihpsdr.Lib.Ring
import Pihpsdr.Rigctl.Impl.FilterCommands
import Pihpsdr.Rigctl.Impl.Clients

/-!
What the CAT commands read and change: the radio, further settings, and calls of other parts of the
program, which are only recorded. Values of type `double` are rational numbers.
-/

-- what these functions of the C library return is not needed here
structure CLibrary where
  log10 : ℚ → ℚ
  -- `pow` with a base of ten
  pow10 : ℚ → ℚ
  atof : List Int → ℚ

-- a conversion from `double` to `int`
def truncate (q : ℚ) : Int :=
  q.num.tdiv q.den

-- the steps of a VFO
def vfoSteps : List Int :=
  [1, 10, 25, 50, 100, 250, 500, 1000, 5000, 6250, 9000, 10000, 12500, 100000, 250000, 500000,
    1000000]

-- an index out of range is moved into it
def vfoGetStepFromIndex (index : Int) : Int :=
  let index := if index < 0 then 0 else index
  let index := if index ≥ 17 then 16 else index
  vfoSteps.getD index.toNat 0

-- an unknown step is reported as the fifth one
def vfoGetStepindex (step : Int) : Nat :=
  let i := vfoSteps.idxOf step
  if i ≥ 17 then 4 else i

namespace RadioState

def vfoIdSetStepFromIndex (s : RadioState) (id : Fin 2) (index : Int) : RadioState :=
  let step := vfoGetStepFromIndex index
  let s := s.setVfo id { s.vfo id with step := step }
  if id = 0 then
    let mode := (s.vfo id).mode
    { s with
      profile := profilesCopyRxtxprofile
        (Function.update s.profile mode { s.profile mode with step := step }) mode }
  else
    s

-- without a receiver of its own, the second VFO has no use for CTUN
def vfoIdSetFrequency (s : RadioState) (v : Fin 2) (f : Int) : RadioState :=
  let s := s.vfoIdAdjustBand v f
  if v = 0 ∨ s.config.receivers = 2 then
    s.rxSetFrequency v f
  else if (s.vfo v).ctun ≠ 0 then
    s.setVfo v { s.vfo v with frequency := f, ctun := 0, offset := 0, ctunFrequency := f }
  else
    s.setVfo v { s.vfo v with frequency := f }

def vfoXitOnoff (s : RadioState) (enable : Int) : RadioState :=
  let id := s.txVfo
  s.setVfo id { s.vfo id with xitEnabled := if enable ≠ 0 then 1 else 0 }

-- the AGC of the first receiver is also stored with its mode
def rxSetAgc (s : RadioState) (id : Fin 2) : RadioState :=
  if id = 0 then
    let mode := (s.vfo id).mode
    { s with
      profile := profilesCopyRxtxprofile
        (Function.update s.profile mode { s.profile mode with agc := (s.receiver id).agc }) mode }
  else
    s

def setAgc (s : RadioState) (id : Fin 2) (agc : Int) : RadioState :=
  (s.setReceiver id { s.receiver id with agc := agc }).rxSetAgc id

end RadioState

namespace Rigctl

-- what a receiver has besides its state in the radio
structure RigReceiver where
  volume : ℚ
  muteRadio : Int
  nb : Int
  nr : Int
  anf : Int
  squelch : ℚ
  squelchEnable : Bool
  rxlvl : ℚ

structure RigTransmitter where
  micGain : ℚ
  drive : ℚ
  compressorLevel : ℚ
  puresignal : Int
  twotone : Int
  tune : Int

-- the connection that a command is from
structure RigClient where
  autoReporting : Int
  andromedaType : Int
  lastV : Int

-- a call of another part of the program
inductive RigCall where
  | radioShutdown
  | radioSetMox (state : Int)
  -- the callback that ends a transmission after `ptt_delay`
  | moxOffLater
  -- the actions `RX1` and `RX2`, for the main loop
  | scheduleRx (id : Int)
  | scheduleVfo (steps : Int)
  | txSetCtcss (frequency : ℚ) (enabled : Int)
  | txPsOnoff (state : Int)
  | txSetTwotone (state : Int)
  | executeEncoder (andromedaType p v : Int)
  | executeButton (andromedaType p v lastV : Int)
  | g2panelDefaults (andromedaType : Int)
  deriving DecidableEq

/--
The state behind the CAT commands. The memory of the receivers and of the table for the speed of a
dial, and the one of the CTCSS tones, goes on outside of the arrays.
-/
structure Rig where
  radio : RadioState
  rx : Int → RigReceiver
  tx : RigTransmitter
  speedup : Int → Int
  ctcssFrequencies : Int → ℚ
  client : RigClient
  cwKeyerSpeed : Int
  cwKeyerHangTime : Int
  cwBreakin : Int
  voxThreshold : ℚ
  voxEnabled : Int
  locked : Int
  mox : Int
  transmitting : Bool
  driveDigiMax : ℚ
  cwBuf : Nat → CChar
  cwBufIn : Nat
  cwBufOut : Nat
  calls : List RigCall

-- the state after a command and its reply
abbrev Outcome :=
  Rig × Option (List CChar)

def codes (cs : List Char) : List CChar :=
  cs.map fun c => (c.toNat : Int)

namespace Rig

def silent (s : Rig) : Outcome :=
  (s, none)

def answer (s : Rig) (cs : List CChar) : Outcome :=
  (s, some (cs ++ [semicolon]))

def unimplemented (s : Rig) : Outcome :=
  s.answer (codes ['?'])

def setRadio (s : Rig) (radio : RadioState) : Outcome :=
  ({ s with radio := radio }, none)

def call (s : Rig) (c : RigCall) : Outcome :=
  ({ s with calls := s.calls ++ [c] }, none)

def receivers (s : Rig) : Int :=
  s.radio.config.receivers

def hasTransmitter (s : Rig) : Bool :=
  s.radio.transmitter.isSome

-- what is done only if there is a transmitter
def withTransmitter (s : Rig) (f : TransmitterState → Outcome) : Outcome :=
  match s.radio.transmitter with
  | some tx => f tx
  | none => s.silent

def setRx (s : Rig) (id : Int) (rx : RigReceiver) : Rig :=
  { s with rx := Function.update s.rx id rx }

def radioSetAfGain (s : Rig) (id : Int) (value : ℚ) : Rig :=
  if id ≥ s.receivers then s else s.setRx id { s.rx id with volume := value }

-- the squelch is enabled or disabled with its value
def radioSetSquelch (s : Rig) (id : Int) (value : ℚ) : Rig :=
  if id ≥ s.receivers then
    s
  else
    s.setRx id { s.rx id with squelch := value, squelchEnable := decide (value > 1 / 2) }

def radioSetMicGain (s : Rig) (value : ℚ) : Rig :=
  if s.hasTransmitter then { s with tx := { s.tx with micGain := value } } else s

def radioSetDrive (s : Rig) (value : ℚ) : Rig :=
  if s.hasTransmitter then
    let digi := s.radio.txMode = modeDigu ∨ s.radio.txMode = modeDigl
    let value := if digi ∧ value > s.driveDigiMax then s.driveDigiMax else value
    { s with tx := { s.tx with drive := value } }
  else
    s

-- `locked` is a flag for the functions of the VFOs
def setLocked (s : Rig) (x : Int) : Rig :=
  { s with
    locked := x
    radio := { s.radio with config := { s.radio.config with locked := decide (x ≠ 0) } } }

-- the tone that the transmitter is set to
def txSetCtcss (s : Rig) (tx : TransmitterState) : Outcome :=
  ({ s with radio := { s.radio with transmitter := some tx } } : Rig).call
    (.txSetCtcss (s.ctcssFrequencies tx.ctcss) tx.ctcssEnabled)

-- characters that cannot be printed are suppressed
def queueCwChar (s : Rig) (c : CChar) : Rig :=
  if c < 32 then
    s
  else
    let new := Ring.next 512 s.cwBufIn
    if new ≠ s.cwBufOut then
      { s with cwBuf := Function.update s.cwBuf s.cwBufIn c, cwBufIn := new }
    else
      s

end Rig

end Rigctl
