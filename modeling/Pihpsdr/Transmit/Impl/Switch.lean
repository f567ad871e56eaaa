import Mathlib.Data.List.Basic

/-!
The functions of `radio.c` that switch a local radio between receiving and transmitting: `rxtx`,
`radio_set_mox`, `radio_set_vox`, `radio_set_tune` and `radio_toggle_tune`. The flags `mox`, `vox`
and `transmitter->tune` are C integers and are compared as such.
-/

namespace Transmit

abbrev CInt :=
  BitVec 32

structure Channel where
  running : Bool
  displaying : Bool
  deriving DecidableEq

/--
What the functions work on: the flags, the receivers, the transmitter (which a radio need not have)
and the arguments of the calls of `rxtx` so far, the last one first.
-/
structure RxTx where
  hasTransmitter : Bool
  duplex : Bool
  mox : CInt
  vox : CInt
  tune : CInt
  receivers : List Channel
  transmitter : Channel
  switches : List CInt
  deriving DecidableEq

/--
What the radio reports when one of the functions is called: the results of `TransmitAllowed` and the
variable `TxInhibit`.
-/
structure TxEnv where
  transmitAllowed : Bool
  txInhibit : Bool
  deriving DecidableEq

namespace RxTx

def rxOff (s : RxTx) : RxTx :=
  { s with receivers := s.receivers.map fun _ => ⟨false, false⟩ }

def rxOn (s : RxTx) : RxTx :=
  { s with receivers := s.receivers.map fun _ => ⟨true, true⟩ }

def rxtx (s : RxTx) (state : CInt) : RxTx :=
  if s.hasTransmitter then
    let s := { s with switches := state :: s.switches }
    if state ≠ 0 then
      let s := if s.duplex then s else s.rxOff
      { s with transmitter := ⟨true, true⟩ }
    else
      let s := { s with transmitter := ⟨false, false⟩ }
      if s.duplex then s else s.rxOn
  else
    s

def radioIsTransmitting (s : RxTx) : CInt :=
  if s.hasTransmitter then s.mox ||| s.vox ||| s.tune else 0

def radioSetTune (env : TxEnv) (s : RxTx) (state : CInt) : RxTx :=
  if ¬ s.hasTransmitter then
    s
  else if state ≠ 0 ∧ env.txInhibit then
    s
  else
    let state := if state ≠ 0 ∧ ¬ env.transmitAllowed then 0 else state
    if s.tune ≠ state then
      let s :=
        if s.vox ≠ 0 ∨ s.mox ≠ 0 then
          { s.rxtx 0 with vox := 0, mox := 0 }
        else
          s
      if state ≠ 0 then
        let s := if s.duplex then s else s.rxOff
        { s with tune := state }.rxtx state
      else
        { s.rxtx state with tune := state }
    else
      s

def radioToggleTune (env : TxEnv) (s : RxTx) : RxTx :=
  if s.hasTransmitter then
    s.radioSetTune env (if s.tune = 0 then 1 else 0)
  else
    s

def radioSetMox (env : TxEnv) (s : RxTx) (state : CInt) : RxTx :=
  if ¬ s.hasTransmitter then
    s
  else
    let state := if state ≠ 0 ∧ ¬ env.transmitAllowed then 0 else state
    if state ≠ 0 ∧ env.txInhibit then
      s
    else
      let s := if s.tune ≠ 0 then s.radioSetTune env 0 else s
      -- only a real change needs a transition, not the one from VOX to MOX
      let s := if state ≠ s.radioIsTransmitting then s.rxtx state else s
      { s with mox := state, tune := 0, vox := 0 }

def radioSetVox (env : TxEnv) (s : RxTx) (state : CInt) : RxTx :=
  if ¬ s.hasTransmitter then
    s
  else if s.mox ≠ 0 ∨ s.tune ≠ 0 then
    s
  else if state ≠ 0 ∧ env.txInhibit then
    s
  else if s.vox ≠ state then
    { s.rxtx state with vox := state }
  else
    s

end RxTx

inductive SwitchCall where
  | setMox (state : CInt)
  | setVox (state : CInt)
  | setTune (state : CInt)
  | toggleTune
  deriving DecidableEq

def RxTx.call (s : RxTx) : TxEnv × SwitchCall → RxTx
  | (env, .setMox state) => s.radioSetMox env state
  | (env, .setVox state) => s.radioSetVox env state
  | (env, .setTune state) => s.radioSetTune env state
  | (env, .toggleTune) => s.radioToggleTune env

def RxTx.receiving (hasTransmitter duplex : Bool) (receivers : Nat) : RxTx where
  hasTransmitter := hasTransmitter
  duplex := duplex
  mox := 0
  vox := 0
  tune := 0
  receivers := List.replicate receivers ⟨true, true⟩
  transmitter := ⟨false, false⟩
  switches := []

end Transmit

/-!
What a call of `radio_set_mox`, `radio_set_tune` or `radio_toggle_tune` goes on with after the checks
at its beginning. All that these functions do beside the flags happens only then.
-/

namespace Transmit

namespace RxTx

-- the state that `radio_set_tune` changes TUNE to, unless it returns early or finds it there
def tuneChange (env : TxEnv) (s : RxTx) (state : CInt) : Option CInt :=
  if ¬ s.hasTransmitter then
    none
  else if state ≠ 0 ∧ env.txInhibit then
    none
  else
    let state := if state ≠ 0 ∧ ¬ env.transmitAllowed then 0 else state
    if s.tune ≠ state then some state else none

-- the state that `radio_set_mox` sets MOX to, unless it returns early
def moxChange (env : TxEnv) (s : RxTx) (state : CInt) : Option CInt :=
  if ¬ s.hasTransmitter then
    none
  else
    let state := if state ≠ 0 ∧ ¬ env.transmitAllowed then 0 else state
    if state ≠ 0 ∧ env.txInhibit then none else some state

-- setting MOX ends TUNE first
def callTune (s : RxTx) : TxEnv × SwitchCall → Option CInt
  | (env, .setMox state) =>
    if (s.moxChange env state).isSome ∧ s.tune ≠ 0 then s.tuneChange env 0 else none
  | (_, .setVox _) => none
  | (env, .setTune state) => s.tuneChange env state
  | (env, .toggleTune) => s.tuneChange env (if s.tune = 0 then 1 else 0)

-- the call runs `vox_cancel`
def cancelsVox (s : RxTx) : TxEnv × SwitchCall → Bool
  | (env, .setMox state) => (s.moxChange env state).isSome
  | (_, .setVox _) => false
  | (env, .setTune state) => (s.tuneChange env state).isSome
  | (env, .toggleTune) => (s.tuneChange env (if s.tune = 0 then 1 else 0)).isSome

def Receives (s : RxTx) : Prop :=
  s.mox = 0 ∧ s.vox = 0 ∧ s.tune = 0

instance (s : RxTx) : Decidable s.Receives :=
  inferInstanceAs (Decidable (_ ∧ _))

end RxTx

end Transmit

/-!
The requests to key the radio and the callbacks they leave with the main loop: a key-on calls
`radio_set_mox` at once or, if the radio reports it, through `g_idle_add`; each key-off starts a
one-shot timer of its own with `g_timeout_add(ptt_delay, ext_radio_set_mox, 0)`. No timer is ever
cancelled, and nothing is assumed about the order in which the timers fire.
-/

namespace Transmit

inductive KeyRequest where
  -- the CAT commands `TX;`, `RX;` and `ZZTXx;`
  | catTx
  | catRx
  | catZztx (new : Int)
  -- the action `PTT`, pressed or released
  | actionPtt (pressed : Bool)
  -- the action `MOX`, with the same code as the space bar and the MOX button of an ANDROMEDA panel
  | actionMox
  -- the PTT status that the radio reports, in either protocol
  | radioPtt (hpsdrPtt : Bool)
  deriving DecidableEq

/--
The radio with the callbacks that wait in the main loop, each with the number of the request it is
from. `requests` counts the requests, `keyedBy` is the number of the one that has set MOX last, and
`wanted` is the state of MOX that the last request stands for.
-/
structure Keying where
  radio : RxTx
  hpsdrPtt : Bool
  idles : List Nat
  timers : List Nat
  requests : Nat
  keyedBy : Nat
  wanted : CInt
  deriving DecidableEq

namespace Keying

-- `radio_set_mox(1)` for request `n`
def keyOn (env : TxEnv) (s : Keying) (n : Nat) : Keying :=
  { s with
    radio := s.radio.radioSetMox env 1
    keyedBy := if s.radio.hasTransmitter ∧ env.transmitAllowed ∧ ¬ env.txInhibit then
      n
    else
      s.keyedBy
    -- a refused key-on is no request if the radio inhibits it, and a key-off if it is out of band
    wanted := if n ≠ s.requests ∨ ¬ s.radio.hasTransmitter then
      s.wanted
    else if ¬ env.transmitAllowed then
      0
    else if env.txInhibit then
      s.wanted
    else
      1
  }

-- `g_timeout_add(ptt_delay, ext_radio_set_mox, 0)` for request `n`
def keyOffDelayed (s : Keying) (n : Nat) : Keying :=
  { s with timers := s.timers ++ [n], wanted := 0 }

-- `g_idle_add(ext_radio_set_mox, 1)` for request `n`
def keyOnQueued (s : Keying) (n : Nat) : Keying :=
  { s with idles := s.idles ++ [n] }

def numbered (s : Keying) : Keying :=
  { s with requests := s.requests + 1 }

def request (env : TxEnv) (s : Keying) (r : KeyRequest) : Keying :=
  match r with
  | .catTx => s.numbered.keyOn env (s.requests + 1)
  | .catRx => s.numbered.keyOffDelayed (s.requests + 1)
  | .catZztx new =>
    if new ≠ 0 then
      s.numbered.keyOn env (s.requests + 1)
    else
      s.numbered.keyOffDelayed (s.requests + 1)
  | .actionPtt pressed =>
    if pressed then
      s.numbered.keyOn env (s.requests + 1)
    else
      s.numbered.keyOffDelayed (s.requests + 1)
  | .actionMox =>
    if s.radio.mox ≠ 0 then
      s.numbered.keyOffDelayed (s.requests + 1)
    else
      s.numbered.keyOn env (s.requests + 1)
  | .radioPtt hpsdrPtt =>
    if s.hpsdrPtt ≠ hpsdrPtt then
      let s := { s with hpsdrPtt := hpsdrPtt }
      if hpsdrPtt then
        s.numbered.keyOnQueued (s.requests + 1)
      else
        s.numbered.keyOffDelayed (s.requests + 1)
    else
      s

-- idle callbacks run in the order in which they were added
def runIdle (env : TxEnv) (s : Keying) : Keying :=
  match s.idles with
  | [] => s
  | n :: idles => { s with idles := idles }.keyOn env n

-- the timer at position `i` of those that wait fires
def fireTimer (env : TxEnv) (s : Keying) (i : Nat) : Keying :=
  if i < s.timers.length then
    { s with timers := s.timers.eraseIdx i, radio := s.radio.radioSetMox env 0 }
  else
    s

end Keying

inductive KeyEvent where
  | request (r : KeyRequest)
  | idle
  | timer (i : Nat)
  deriving DecidableEq

def Keying.event (s : Keying) : TxEnv × KeyEvent → Keying
  | (env, .request r) => s.request env r
  | (env, .idle) => s.runIdle env
  | (env, .timer i) => s.fireTimer env i

def Keying.unkeyed (radio : RxTx) : Keying where
  radio := radio
  hpsdrPtt := false
  idles := []
  timers := []
  requests := 0
  keyedBy := 0
  wanted := 0

end Transmit
