import Pihpsdr.Transmit.Impl.CwEvents

/-!
The iambic keyer of `iambic.c` while it is running: `keyer_event`, which the interrupt of the paddles calls,
and the states of `keyer_thread`. What the thread does from one sleep to the next is one step, and any
events of the paddles and changes of the settings may come in between.
-/

namespace Transmit

-- `cw_keyer_mode`
inductive KeyerMode where
  | straight
  | modeA
  | modeB
  deriving DecidableEq

inductive KeyState where
  | check
  | predot
  | predash
  | afterdot
  | afterdash
  | straight
  | letterspace
  | exitloop
  deriving DecidableEq

-- the thread waits for a paddle event, for MOX to come or to go (at most `i` times), or is in its loop
inductive KeyerPhase where
  | waiting
  | moxOn (i : Nat)
  | looping
  | moxOff (i : Nat)
  deriving DecidableEq

def KeyerSettings.dotLength (k : KeyerSettings) : Nat :=
  1200 / k.speed

-- the settings that the thread reads itself; `cwMode` stands for a transmit mode of CWU or CWL
structure KeyerMenu where
  mode : KeyerMode
  spacing : Bool
  breakin : Bool
  hangTime : Nat
  cwMode : Bool

-- what is sent: automatic elements with their samples, and the straight key with its time in nanoseconds
inductive Element where
  | dot (dotSamples : Nat)
  | dash (dashSamples dotSamples : Nat)
  | held (ns : Nat)
  deriving DecidableEq

/--
`kcwl` and `kcwr` are the paddles, `settings` and `reversed` what `keyer_update` has seen last, `clock` the
monotonic clock in nanoseconds and `cwEvent` the count of the semaphore. `queued` lists the calls of
`tx_queue_cw_event`, `elements` what has been sent with them.
-/
structure Keyer where
  kcwl : Bool
  kcwr : Bool
  dotMemory : Bool
  dashMemory : Bool
  dotHeld : Bool
  dashHeld : Bool
  settings : KeyerSettings
  reversed : Bool
  menu : KeyerMenu
  phase : KeyerPhase
  keyState : KeyState
  kdelay : Nat
  cwvox : Nat
  moxbefore : Bool
  enforceCwVox : Bool
  cwEvent : Nat
  mox : Bool
  catCwIsActive : Bool
  clock : Nat
  tdown : Nat
  queued : List CwEvent
  elements : List Element

-- the requests of the thread for MOX, and all else that switches it, have their effect with `radio`
inductive KeyerInput where
  | keyerEvent (left state : Bool)
  | keyerUpdate (settings : KeyerSettings) (reversed : Bool)
  | menu (menu : KeyerMenu)
  | radio (mox catCwIsActive : Bool)
  | elapse (ns : Nat)
  -- the thread goes on to its next sleep
  | thread

-- a time in samples
def samplesOf (ns : Nat) : Nat :=
  48 * ns / 1000000

namespace Keyer

-- the conversion of a time to `int`, whose value the language leaves open if it does not fit
variable (toInt : Nat → Int)

def kdot (s : Keyer) : Bool :=
  if s.reversed then s.kcwr else s.kcwl

def kdash (s : Keyer) : Bool :=
  if s.reversed then s.kcwl else s.kcwr

def keyerUpdate (s : Keyer) (settings : KeyerSettings) (reversed : Bool) : Keyer :=
  { s with settings, reversed }

-- a paddle that is hit triggers its memory: the left one that of the dot, unless they are reversed
def keyerEvent (s : Keyer) (left state : Bool) : Keyer :=
  { s with
    enforceCwVox := s.enforceCwVox || state && s.catCwIsActive
    kcwl := if left then state else s.kcwl
    kcwr := if left then s.kcwr else state
    dotMemory := s.dotMemory || state && left != s.reversed
    dashMemory := s.dashMemory || state && left == s.reversed
    cwEvent := if state then s.cwEvent + 1 else s.cwEvent }

def txQueueCwEvent (s : Keyer) (down : BitVec 8) (wait : Int) : Keyer :=
  { s with queued := s.queued ++ [⟨down, wait⟩] }

def exitloop (s : Keyer) : Keyer :=
  let s := { s with cwvox := s.cwvox - 1 }
  if s.cwvox = 0 then
    if s.moxbefore then s else { s with phase := .moxOff 250 }
  else
    { s with keyState := .check }

-- not down to zero, which is left to the state `EXITLOOP`
def countVox (s : Keyer) : Keyer :=
  if s.cwvox > 1 then { s with cwvox := s.cwvox - 1 } else s

def check (s : Keyer) : Keyer :=
  let s := { s with keyState := .exitloop }.countVox
  if s.menu.mode = .straight then
    let s := if s.kdot then { s with keyState := .predot } else s
    if s.kdash then
      { s.txQueueCwEvent 1 0 with tdown := s.clock, keyState := .straight }
    else
      s
  else
    let s := if s.kdash then { s with keyState := .predash } else s
    if s.kdot then { s with keyState := .predot } else s

def straight (s : Keyer) : Keyer :=
  if s.kdash then
    s
  else
    { s.txQueueCwEvent 0 (toInt (samplesOf (s.clock - s.tdown))) with
      keyState := .check
      elements := s.elements ++ [.held (s.clock - s.tdown)] }

def predot (s : Keyer) : Keyer :=
  let s := { s with dashMemory := false, dashHeld := s.kdash }
  let dotSamples := s.settings.dotSamples
  { ((s.txQueueCwEvent 1 0).txQueueCwEvent 0 dotSamples).txQueueCwEvent 0 dotSamples with
    keyState := .afterdot
    elements := s.elements ++ [.dot dotSamples] }

-- the end of a letter
def letterEnd (s : Keyer) : Keyer :=
  if s.menu.spacing then
    { s with dotMemory := false, dashMemory := false, keyState := .letterspace, kdelay := 0 }
  else
    { s with keyState := .exitloop }

-- mode A: both paddles have been released
def releaseDash (s : Keyer) : Keyer :=
  if s.menu.mode = .modeA ∧ ¬s.kdot ∧ ¬s.kdash then { s with dashHeld := false } else s

def releaseDot (s : Keyer) : Keyer :=
  if s.menu.mode = .modeA ∧ ¬s.kdot ∧ ¬s.kdash then { s with dotHeld := false } else s

def afterdot (s : Keyer) : Keyer :=
  if s.menu.mode = .straight then
    { s with keyState := if s.kdot then .predot else .exitloop }
  else
    let s := s.releaseDash
    if s.dashMemory || s.kdash || s.dashHeld then
      { s with keyState := .predash }
    else if s.kdot then
      { s with keyState := .predot }
    else
      s.letterEnd

def predash (s : Keyer) : Keyer :=
  let s := { s with dotMemory := false, dotHeld := s.kdot }
  let dotSamples := s.settings.dotSamples
  let dashSamples := s.settings.dashSamples
  { ((s.txQueueCwEvent 1 0).txQueueCwEvent 0 dashSamples).txQueueCwEvent 0 dotSamples with
    keyState := .afterdash
    elements := s.elements ++ [.dash dashSamples dotSamples] }

-- other than after a dot, there is no bug mode here
def afterdash (s : Keyer) : Keyer :=
  let s := s.releaseDot
  if s.dotMemory || s.kdot || s.dotHeld then
    { s with keyState := .predot }
  else if s.kdash then
    { s with keyState := .predash }
  else
    s.letterEnd

def letterspace (s : Keyer) : Keyer :=
  let s := { s with kdelay := s.kdelay + 1 }
  if s.kdelay > 2 * s.settings.dotLength then
    { s with
      keyState := if s.dotMemory then .predot else if s.dashMemory then .predash else .exitloop }
  else
    s

def retriggerVox (s : Keyer) : Keyer :=
  if s.cwvox > 0 ∧ s.keyState ≠ .exitloop ∧ s.keyState ≠ .check then
    { s with cwvox := s.menu.hangTime }
  else
    s

-- the loop over the states
def loop (s : Keyer) : Keyer :=
  if s.keyState = .exitloop ∧ s.cwvox = 0 then
    { s with phase := .waiting, enforceCwVox := false }
  else
    let s := s.retriggerVox
    match s.keyState with
    | .exitloop => s.exitloop
    | .check => s.check
    | .straight => s.straight toInt
    | .predot => s.predot
    | .afterdot => s.afterdot
    | .predash => s.predash
    | .afterdash => s.afterdash
    | .letterspace => s.letterspace

-- `sem_wait`, and what follows it up to the loop or to the wait for MOX
def wakeUp (s : Keyer) : Keyer :=
  if s.cwEvent = 0 then
    s
  else
    let s := { s with cwEvent := s.cwEvent - 1 }
    if ¬s.kcwl ∧ ¬s.kcwr then
      { s with enforceCwVox := false }
    else
      let s := { s with moxbefore := s.mox && !s.enforceCwVox, cwvox := 0 }
      if s.menu.breakin && s.menu.cwMode then
        { s with phase := .moxOn 200 }
      else
        { s with phase := .looping, keyState := .check }

def thread (s : Keyer) : Keyer :=
  match s.phase with
  | .waiting => s.wakeUp
  | .moxOn i =>
    if ¬s.mox ∧ 0 < i then
      { s with phase := .moxOn (i - 1) }
    else
      { s with phase := .looping, cwvox := s.menu.hangTime, keyState := .check }
  | .looping => s.loop toInt
  | .moxOff i =>
    if s.mox ∧ 0 < i then { s with phase := .moxOff (i - 1) } else { s with phase := .looping }

def step (s : Keyer) : KeyerInput → Keyer
  | .keyerEvent left state => s.keyerEvent left state
  | .keyerUpdate settings reversed => s.keyerUpdate settings reversed
  | .menu menu => { s with menu }
  | .radio mox catCwIsActive => { s with mox, catCwIsActive }
  | .elapse ns => { s with clock := s.clock + ns }
  | .thread => s.thread toInt

def run (s : Keyer) (es : List KeyerInput) : Keyer :=
  Run.exec (step toInt) s es

def start (settings : KeyerSettings) (reversed : Bool) (menu : KeyerMenu) : Keyer where
  kcwl := false
  kcwr := false
  dotMemory := false
  dashMemory := false
  dotHeld := false
  dashHeld := false
  settings
  reversed
  menu
  phase := .waiting
  keyState := .check
  kdelay := 0
  cwvox := 0
  moxbefore := false
  enforceCwVox := false
  cwEvent := 0
  mox := false
  catCwIsActive := false
  clock := 0
  tdown := 0
  queued := []
  elements := []

end Keyer

end Transmit
