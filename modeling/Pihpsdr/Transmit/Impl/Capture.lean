import Pihpsdr.Transmit.Impl.Settings
import Pihpsdr.Lib.Run
import Pihpsdr.Transmit.Impl.Switch

/-!
The transmission of captured audio: `tx_xmit_captured_data_start` takes parts of the DSP out of service
and `tx_xmit_captured_data_end` puts them back. Meanwhile the settings of the transmitter may change.
-/

namespace Transmit

-- a change of the settings while the given mode is that of the transmitter
inductive SettingsChange where
  | compressor (txMode : Mode) (comp : CompressorSettings)
  | phrot (txMode : Mode) (phrot : PhrotSettings)
  | dexp (txMode : Mode) (dexp : DexpSettings)
  | equalizer (txMode : Mode) (eq : EqualizerSettings)
  | micGain (txMode : Mode) (value : ℚ)
  | loadProfile (txMode m : Mode)

namespace SettingsChange

def setsCompressor : SettingsChange → Bool
  | .compressor _ _ => true
  | .loadProfile _ _ => true
  | _ => false

def setsDexp : SettingsChange → Bool
  | .dexp _ _ => true
  | .loadProfile _ _ => true
  | _ => false

end SettingsChange

namespace TxState

variable {ρ : Type} (pow10 : ℚ → ℚ)

def change (s : TxState ρ) : SettingsChange → TxState ρ
  | .compressor txMode comp => { s with tx := { s.tx with comp := comp } }.txSetCompressor txMode
  | .phrot txMode phrot => { s with tx := { s.tx with phrot := phrot } }.txSetPhrot txMode
  | .dexp txMode dexp => { s with tx := { s.tx with dexp := dexp } }.txSetDexp pow10 txMode
  | .equalizer txMode eq => { s with tx := { s.tx with eq := eq } }.txSetEqualizer txMode
  | .micGain txMode value => s.radioSetMicGain pow10 txMode value
  | .loadProfile txMode m => s.profilesLoadTxProfile pow10 txMode m

def txXmitCapturedDataStart (s : TxState ρ) : TxState ρ :=
  { s with
    dsp := { s.dsp with
      eqRun := false
      panelGain1 := 1
      comp := { s.dsp.comp with
        levelerSt := false
        cfcompPeqRun := false
        cfcompRun := false
        osctrlRun := false
        compressorRun := false }
      dexp := { s.dsp.dexp with dexpRun := false } } }

def txXmitCapturedDataEnd (s : TxState ρ) : TxState ρ :=
  { s with
    dsp := { s.dsp with
      eqRun := s.tx.eq.eqEnable
      panelGain1 := pow10 (s.tx.micGain / 20)
      comp := { s.dsp.comp with
        levelerSt := s.tx.comp.compressor || s.tx.comp.cfc
        cfcompPrePeq := s.tx.comp.cfcPost 0
        cfcompRun := s.tx.comp.cfc
        osctrlRun := s.tx.comp.osctrl
        compressorRun := s.tx.comp.compressor } } }

def replay (s : TxState ρ) (es : List SettingsChange) : TxState ρ :=
  (Run.exec (change pow10) s.txXmitCapturedDataStart es).txXmitCapturedDataEnd pow10

end TxState

end Transmit

/-!
Capture and replay of audio: the actions `CAPTURE` and `REPLAY`, the samples that are recorded or played,
`rxtx`, which ends all this, and the timeout of the display. What ends by itself schedules a press of one
of the two buttons, which waits in the main loop like those of the operator.
-/

namespace Transmit

inductive CaptureState where
  | init
  | recording
  | recordDone
  | avail
  | xmit
  | xmitDone
  | replay
  | replayDone
  | gotoSleep
  | sleeping
  deriving DecidableEq

-- an automatic press is scheduled
def CaptureState.Pending : CaptureState → Prop
  | .recordDone => True
  | .xmitDone => True
  | .replayDone => True
  | .gotoSleep => True
  | _ => False

instance (c : CaptureState) : Decidable c.Pending := by
  cases c <;> unfold CaptureState.Pending <;> infer_instance

inductive CaptureAction where
  | capture
  | replay
  deriving DecidableEq

-- an automatic press with the number of what it is to end
inductive Press where
  | user (action : CaptureAction)
  | automatic (action : CaptureAction) (session : Nat)
  deriving DecidableEq

def Press.action : Press → CaptureAction
  | .user action => action
  | .automatic action _ => action

/--
`queue` holds the presses that wait in the main loop, and `session` counts the recordings, transmissions
and replays, and the timeouts of the display.
-/
structure Capture where
  radio : RxTx
  fps : Nat
  state : CaptureState
  recordPointer : Nat
  replayPointer : Nat
  capCount : Nat
  queue : List Press
  session : Nat
  deriving DecidableEq

def captureMax : Nat :=
  960000

namespace Capture

def schedule (s : Capture) (action : CaptureAction) : Capture :=
  { s with queue := s.queue ++ [.automatic action s.session] }

-- where data are available, a press starts something, and else it ends what is going on
def start (s : Capture) (action : CaptureAction) : Capture :=
  if s.radio.radioIsTransmitting ≠ 0 then
    { s with replayPointer := 0, state := .xmit, session := s.session + 1 }
  else
    match action with
    | .capture => { s with recordPointer := 0, state := .recording, session := s.session + 1 }
    | .replay => { s with replayPointer := 0, state := .replay, session := s.session + 1 }

def processAction (s : Capture) (action : CaptureAction) : Capture :=
  match s.state with
  | .init => { s with recordPointer := 0, replayPointer := 0, state := .avail }
  | .avail => s.start action
  | .recording => { s with state := .avail }
  | .recordDone => { s with state := .avail }
  | .xmit => { s with state := .avail }
  | .xmitDone => { s with state := .avail }
  | .replay => { s with state := .avail }
  | .replayDone => { s with state := .avail }
  | .gotoSleep => { s with state := .sleeping }
  | .sleeping => { s with state := .avail }

def process (s : Capture) : Capture :=
  match s.queue with
  | [] => s
  | p :: queue => { s with queue := queue }.processAction p.action

-- an audio sample of the active receiver
def replaySample (s : Capture) : Capture :=
  if s.state = .replay then
    if s.replayPointer < s.recordPointer then
      { s with replayPointer := s.replayPointer + 1 }
    else
      { s with state := .replayDone }.schedule .replay
  else
    s

def recordSample (s : Capture) : Capture :=
  if s.state = .recording then
    if s.recordPointer < captureMax then
      { s with recordPointer := s.recordPointer + 1 }
    else
      { s with state := .recordDone }.schedule .capture
  else
    s

def xmitSample (s : Capture) : Capture :=
  if s.state = .xmit then
    if s.replayPointer < s.recordPointer then
      { s with replayPointer := s.replayPointer + 1 }
    else
      { s with state := .xmitDone }.schedule .capture
  else
    s

-- the beginning of `rxtx`
def abort (s : Capture) : Capture :=
  match s.state with
  | .recording => { s with state := .recordDone }.schedule .capture
  | .xmit => { s with state := .xmitDone }.schedule .capture
  | .replay => { s with state := .replayDone }.schedule .capture
  | _ => s

-- a call that runs `rxtx`, possibly twice
def call (s : Capture) (c : TxEnv × SwitchCall) : Capture :=
  let radio := s.radio.call c
  if radio.switches ≠ s.radio.switches then
    { s.abort with radio := radio }
  else
    { s with radio := radio }

-- the panadapter is drawn
def draw (s : Capture) : Capture :=
  if s.state = .avail then
    if s.capCount + 1 > 30 * s.fps then
      { s with state := .gotoSleep, capCount := 0, session := s.session + 1 }.schedule .capture
    else
      { s with capCount := s.capCount + 1 }
  else
    s

end Capture

inductive CaptureEvent where
  | press (action : CaptureAction)
  | process
  | rxSample
  | micSample
  | call (c : TxEnv × SwitchCall)
  | draw

def Capture.step (s : Capture) : CaptureEvent → Capture
  | .press action => { s with queue := s.queue ++ [.user action] }
  | .process => s.process
  | .rxSample => s.replaySample.recordSample
  | .micSample => s.xmitSample
  | .call c => s.call c
  | .draw => s.draw

def Capture.new (radio : RxTx) (fps : Nat) : Capture where
  radio := radio
  fps := fps
  state := .init
  recordPointer := 0
  replayPointer := 0
  capCount := 0
  queue := []
  session := 0

end Transmit
