import Pihpsdr.Lib.Mealy
import Pihpsdr.Rigctl.Impl.Extended

/-!
The push-buttons of an ANDROMEDA panel other than the original console: what `ZZZP` makes of the reports
of a client, and `g2panel_execute_button`, which starts the actions.
-/

namespace Rigctl

-- `other` is any action without a branch of its own
inductive PanelAction where
  | noAction
  | bandMinus
  | bandPlus
  | filterMinus
  | filterPlus
  | modeMinus
  | modePlus
  | anf
  | nb
  | nr
  | snb
  | twoTone
  | menuBand
  | menuFilter
  | menuMode
  | menuNoise
  | menuPs
  | other (action : Nat)
  deriving DecidableEq

inductive ActionMode where
  | pressed
  | released
  deriving DecidableEq

inductive Started where
  | scheduleAction (action : PanelAction) (mode : ActionMode)
  | changeCommand (button : Int)
  deriving DecidableEq

/--
A report `ZZZPxxy;`, with what is asked for when it is handled: whether the menu of the panel is open, and
the actions that are assigned to the buttons at that time.
-/
structure ButtonReport where
  button : Int
  v : Int
  g2panelMenuIsOpen : Bool
  buttonvec : Option (Int → PanelAction)

-- the menu that a button opens when it is held down
def PanelAction.longpress : PanelAction → Option PanelAction
  | .bandPlus | .bandMinus => some .menuBand
  | .filterPlus | .filterMinus => some .menuFilter
  | .modePlus | .modeMinus => some .menuMode
  | .anf | .snb | .nb | .nr => some .menuNoise
  | .twoTone => some .menuPs
  | _ => none

def scheduleIf (b : Bool) (action : PanelAction) (mode : ActionMode) : List Started :=
  if b then [.scheduleAction action mode] else []

def g2panelExecuteButton (vec : Option (Int → PanelAction)) (button : Int)
    (tr01 tr10 tr12 tr20 : Bool) : List Started :=
  match vec with
  | none => []
  | some vec =>
    if button < 0 ∨ button > 99 then
      []
    else if vec button = .noAction then
      []
    else
      match (vec button).longpress with
      | some menu => scheduleIf tr10 (vec button) .pressed ++ scheduleIf tr12 menu .pressed
      | none =>
        scheduleIf tr01 (vec button) .pressed ++ scheduleIf (tr10 || tr20) (vec button) .released

-- `lastV` is the last report of the client, of whichever button
def buttonOut (lastV : Int) (r : ButtonReport) : List Started :=
  let tr01 := decide (lastV = 0 ∧ r.v = 1)
  let tr12 := decide (lastV = 1 ∧ r.v = 2)
  let tr10 := decide (lastV = 1 ∧ r.v = 0)
  let tr20 := decide (lastV = 2 ∧ r.v = 0)
  if r.g2panelMenuIsOpen then
    if tr01 then [.changeCommand r.button] else []
  else
    g2panelExecuteButton r.buttonvec r.button tr01 tr10 tr12 tr20

def buttons : Mealy Int ButtonReport (List Started) where
  next _ r := r.v
  out := buttonOut

-- what a recorded call of the CAT commands starts
def ButtonReport.started (r : ButtonReport) : RigCall → List Started
  | .executeButton _ p v lastV => buttonOut lastV { r with button := p, v := v }
  | _ => []

-- the state behind the commands after a report
def zzzpReport (s : Rig) (r : ButtonReport) : Rig :=
  (zzzpSet r.button r.v s).1

end Rigctl
