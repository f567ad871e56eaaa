import Pihpsdr.Midi.Impl.Commands

/-!
Layer 3 of the MIDI support, `midi3.c`: the ticks of the big wheels are summed up, and a timer hands the sum on.
The threads of the MIDI devices and the main loop take turns between any two accesses to the record of a timer.
-/

namespace Midi

inductive Wheel where
  | vfo
  | vfoa
  | vfob
  deriving DecidableEq

namespace Wheel

-- `VFO`, `VFOA` and `VFOB` of `enum ACTION`
def action : Wheel → ActionId
  | vfo => 190
  | vfoa => 193
  | vfob => 194

def ofAction (action : ActionId) : Option Wheel :=
  if action = vfoa.action then some vfoa
  else if action = vfob.action then some vfob
  else if action = vfo.action then some vfo
  else none

end Wheel

inductive ScheduleMode where
  | relative
  | absolute
  | pressed
  | released
  deriving DecidableEq

-- the arguments of `schedule_action`
structure Scheduled where
  action : ActionId
  mode : ScheduleMode
  val : BitVec 32
  deriving DecidableEq

-- `VFO_TIMER`; its action is that of the wheel
structure VfoTimer where
  val : BitVec 32
  timeout : Nat

-- where `DoTheMidi` is in a thread, with what has been read of the timer of the wheel
inductive MidiThread where
  | idle
  | loaded (w : Wheel) (v old : BitVec 32)
  | stored (w : Wheel)
  | adding (w : Wheel)
  | added (w : Wheel) (id : Nat)
  deriving DecidableEq

-- where `vfo_timeout_cb` is, with the number of its source and the value that it has read
inductive TimeoutCb where
  | idle
  | scheduled (w : Wheel) (id : Nat) (read : BitVec 32)
  | cleared (w : Wheel) (id : Nat) (read : BitVec 32)
  | zeroed (w : Wheel) (id : Nat)
  deriving DecidableEq

/--
`sources` are the timers that exist in the main loop, by their numbers; `received` is the sum of the ticks that
have been added to the value of a timer so far.
-/
structure WheelState where
  timer : Wheel → VfoTimer
  thread : Nat → MidiThread
  callback : TimeoutCb
  sources : List (Nat × Wheel)
  actions : List Scheduled
  received : Wheel → Int

inductive WheelEvent where
  | doTheMidi (i : Nat) (action : ActionId) (type : ActionType) (val : BitVec 32)
  -- the next access in a thread; `id` is what `g_timeout_add` returns if it is called
  | thread (i id : Nat)
  | dispatch (id : Nat)
  | callback

namespace WheelState

def start : WheelState where
  timer := fun _ => ⟨0, 0⟩
  thread := fun _ => .idle
  callback := .idle
  sources := []
  actions := []
  received := fun _ => 0

def setVal (s : WheelState) (w : Wheel) (val : BitVec 32) : WheelState :=
  { s with timer := Function.update s.timer w { s.timer w with val } }

def setTimeout (s : WheelState) (w : Wheel) (timeout : Nat) : WheelState :=
  { s with timer := Function.update s.timer w { s.timer w with timeout } }

def setThread (s : WheelState) (i : Nat) (t : MidiThread) : WheelState :=
  { s with thread := Function.update s.thread i t }

def receive (s : WheelState) (w : Wheel) (v : BitVec 32) : WheelState :=
  { s with received := Function.update s.received w (s.received w + v.toInt) }

def scheduleAction (s : WheelState) (a : Scheduled) : WheelState :=
  { s with actions := s.actions ++ [a] }

def doTheMidi (s : WheelState) (i : Nat) (action : ActionId) (type : ActionType) (val : BitVec 32)
    : WheelState :=
  if type = atBtn then
    s.scheduleAction ⟨action, if val ≠ 0 then .pressed else .released, 0⟩
  else if type = atKnb then
    s.scheduleAction ⟨action, .absolute, val⟩
  else if type = atEnc then
    match Wheel.ofAction action with
    | some w => s.setThread i (.loaded w val (s.timer w).val)
    | none => s.scheduleAction ⟨action, .relative, val⟩
  else
    s

def stepThread (s : WheelState) (i id : Nat) : WheelState :=
  match s.thread i with
  | .idle => s
  | .loaded w v old => ((s.setVal w (old + v)).receive w v).setThread i (.stored w)
  | .stored w => s.setThread i (if (s.timer w).timeout = 0 then .adding w else .idle)
  | .adding w =>
    -- the number of a new source is not 0 and not that of another one
    if id = 0 ∨ id ∈ s.sources.map Prod.fst then
      s
    else
      { s with sources := (id, w) :: s.sources }.setThread i (.added w id)
  | .added w id => (s.setTimeout w id).setThread i .idle

def dispatch (s : WheelState) (id : Nat) : WheelState :=
  match s.callback, s.sources.lookup id with
  | .idle, some w =>
    let read := (s.timer w).val
    { s.scheduleAction ⟨w.action, .relative, read⟩ with callback := .scheduled w id read }
  | _, _ => s

-- the source is gone when the callback has returned `FALSE`
def stepCallback (s : WheelState) : WheelState :=
  match s.callback with
  | .idle => s
  | .scheduled w id read => { s.setTimeout w 0 with callback := .cleared w id read }
  | .cleared w id _ => { s.setVal w 0 with callback := .zeroed w id }
  | .zeroed _ id => { s with sources := s.sources.filter fun p => p.1 ≠ id, callback := .idle }

def step (s : WheelState) : WheelEvent → WheelState
  | .doTheMidi i action type val => if s.thread i = .idle then s.doTheMidi i action type val else s
  | .thread i id => s.stepThread i id
  | .dispatch id => s.dispatch id
  | .callback => s.stepCallback

end WheelState

end Midi
