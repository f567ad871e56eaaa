import Pihpsdr.Rigctl.Impl.Buttons

/-!
Whether the buttons of a panel are kept apart, although the last report of a client is the only thing that
is remembered.
-/

namespace Rigctl

open Run

-- what happens to one button
inductive ButtonEvent where
  | press
  | longPress
  | releaseShort
  | releaseLong
  deriving DecidableEq

-- by the report before, of the same button
def ButtonEvent.between (last v : Int) : Option ButtonEvent :=
  if last = 0 ∧ v = 1 then some .press
  else if last = 1 ∧ v = 2 then some .longPress
  else if last = 1 ∧ v = 0 then some .releaseShort
  else if last = 2 ∧ v = 0 then some .releaseLong
  else none

-- what a button is good for when its report is handled
inductive ButtonUse where
  | none
  -- in the menu of the panel, to have an action assigned to it
  | assign
  -- an action of its own for a long press
  | long (action menu : PanelAction)
  | normal (action : PanelAction)

def ButtonReport.use (r : ButtonReport) : ButtonUse :=
  if r.g2panelMenuIsOpen then
    .assign
  else
    match r.buttonvec with
    | Option.none => .none
    | some vec =>
      if r.button < 0 ∨ r.button > 99 ∨ vec r.button = .noAction then
        .none
      else
        match (vec r.button).longpress with
        | some menu => .long (vec r.button) menu
        | Option.none => .normal (vec r.button)

def ButtonUse.starts (button : Int) : ButtonUse → ButtonEvent → List Started
  | .assign, .press => [.changeCommand button]
  | .long action _, .releaseShort => [.scheduleAction action .pressed]
  | .long _ menu, .longPress => [.scheduleAction menu .pressed]
  | .normal action, .press => [.scheduleAction action .pressed]
  | .normal action, .releaseShort => [.scheduleAction action .released]
  | .normal action, .releaseLong => [.scheduleAction action .released]
  | _, _ => []

-- a button by itself
def ownButton : Mealy Int ButtonReport (List Started) where
  next _ r := r.v
  out last r := (ButtonEvent.between last r.v).elim [] (r.use.starts r.button)

/--
For each button, the actions that are started upon its reports are those that the sequence of its own
reports defines.
-/
def TracksButtons (rs : List ButtonReport) : Prop :=
  ∀ b, buttons.outputsFor ButtonReport.button b 0 rs
    = ownButton.outputs 0 (Mealy.inputsOf ButtonReport.button b rs)

-- the value of the last report
def lastReport (rs : List ButtonReport) : Int :=
  rs.getLast?.elim 0 ButtonReport.v

def reportsOf (button : Int) (rs : List ButtonReport) : List ButtonReport :=
  Mealy.inputsOf ButtonReport.button button rs

-- `any` and `own` are alike as far as `r` asks for them
def ButtonReport.Alike (r : ButtonReport) (any own : Int) : Prop :=
  match r.use with
  | .none => True
  | .assign => r.v = 1 → (any = 0 ↔ own = 0)
  | .long _ _ => r.v = 0 ∨ r.v = 2 → (any = 1 ↔ own = 1)
  | .normal _ =>
    (r.v = 1 → (any = 0 ↔ own = 0)) ∧ (r.v = 0 → (any = 1 ∨ any = 2 ↔ own = 1 ∨ own = 2))

section Single

variable {r : ButtonReport}

theorem out_of_use_none (h : r.use = .none) (last : Int) : ownButton.out last r = [] := by
  simp only [ownButton, h]
  cases ButtonEvent.between last r.v with
  | none => rfl
  | some e => rfl

theorem out_of_use_assign (h : r.use = .assign) (last : Int)
    : ownButton.out last r = if last = 0 ∧ r.v = 1 then [.changeCommand r.button] else [] := by
  simp only [ownButton, h, ButtonEvent.between]
  split_ifs
  all_goals rfl

theorem out_of_use_long {action menu : PanelAction} (h : r.use = .long action menu) (last : Int)
    : ownButton.out last r
        =
      scheduleIf (decide (last = 1 ∧ r.v = 0)) action .pressed ++
        scheduleIf (decide (last = 1 ∧ r.v = 2)) menu .pressed := by
  simp only [ownButton, h, ButtonEvent.between, scheduleIf, decide_eq_true_eq]
  split_ifs
  all_goals first | rfl | omega

theorem out_of_use_normal {action : PanelAction} (h : r.use = .normal action) (last : Int)
    : ownButton.out last r
        =
      scheduleIf (decide (last = 0 ∧ r.v = 1)) action .pressed ++
        scheduleIf (decide (last = 1 ∧ r.v = 0) || decide (last = 2 ∧ r.v = 0)) action .released := by
  simp only [ownButton, h, ButtonEvent.between, scheduleIf, decide_eq_true_eq, Bool.or_eq_true]
  split_ifs
  all_goals first | rfl | omega

-- for a single button, the four transitions are its four events
theorem buttonOut_eq (last : Int) (r : ButtonReport) : buttonOut last r = ownButton.out last r := by
  unfold buttonOut
  by_cases hopen : r.g2panelMenuIsOpen
  . have huse : r.use = .assign := by simp [ButtonReport.use, hopen]
    simp only [hopen, if_true, out_of_use_assign huse, decide_eq_true_eq]
  . cases hvec : r.buttonvec with
    | none =>
      have huse : r.use = .none := by simp [ButtonReport.use, hopen, hvec]
      simp [hopen, g2panelExecuteButton, out_of_use_none huse]
    | some vec =>
      by_cases hbutton : r.button < 0 ∨ r.button > 99
      . have huse : r.use = .none := by
          simp only [ButtonReport.use, hopen, hvec]
          simp [← or_assoc, hbutton]
        simp [hopen, g2panelExecuteButton, hbutton, out_of_use_none huse]
      . by_cases haction : vec r.button = .noAction
        . have huse : r.use = .none := by simp [ButtonReport.use, hopen, hvec, haction]
          simp [hopen, g2panelExecuteButton, hbutton, haction, out_of_use_none huse]
        . cases hlong : (vec r.button).longpress with
          | some menu =>
            have huse : r.use = .long (vec r.button) menu := by
              simp only [ButtonReport.use, hopen, hvec]
              simp [hbutton, haction, hlong]
            simp only [hopen, g2panelExecuteButton, hbutton, haction, hlong, out_of_use_long huse]
            rfl
          | none =>
            have huse : r.use = .normal (vec r.button) := by
              simp only [ButtonReport.use, hopen, hvec]
              simp [hbutton, haction, hlong]
            simp only [hopen, g2panelExecuteButton, hbutton, haction, hlong,
              out_of_use_normal huse]
            rfl

theorem out_eq_iff (r : ButtonReport) (any own : Int)
    : ownButton.out any r = ownButton.out own r ↔ r.Alike any own := by
  unfold ButtonReport.Alike
  cases huse : r.use with
  | none => simp [out_of_use_none huse]
  | assign =>
    rw [out_of_use_assign huse, out_of_use_assign huse]
    split_ifs
    all_goals simp
    all_goals omega
  | long action menu =>
    rw [out_of_use_long huse, out_of_use_long huse]
    simp only [scheduleIf, decide_eq_true_eq]
    split_ifs
    all_goals simp
    all_goals omega
  | normal action =>
    rw [out_of_use_normal huse, out_of_use_normal huse]
    simp only [scheduleIf, decide_eq_true_eq, Bool.or_eq_true]
    split_ifs
    all_goals simp
    all_goals omega

end Single

theorem buttons_eq : buttons = ownButton := by
  simp only [buttons, ownButton, Mealy.mk.injEq, true_and]
  funext last r
  exact buttonOut_eq last r

theorem exec_next (rs : List ButtonReport) (last : Int)
    : exec ownButton.next last rs = rs.getLast?.elim last ButtonReport.v := by
  induction rs using List.reverseRecOn with
  | nil => rfl
  | append_singleton rs r ih =>
    rw [exec_append, List.getLast?_concat]
    rfl

/--
The buttons are kept apart if and only if, at each report, the last report of any button is like the last
report of the same button as far as the report asks for it.
-/
theorem tracksButtons_iff (rs : List ButtonReport)
    : TracksButtons rs
        ↔
      ∀ before r after, rs = before ++ r :: after →
        r.Alike (lastReport before) (lastReport (reportsOf r.button before)) := by
  have hseparates := ownButton.separates_iff ButtonReport.button 0 rs
  simp only [exec_next, out_eq_iff] at hseparates
  rw [TracksButtons, buttons_eq]
  exact hseparates

-- two buttons are pressed, then both are released: only the first one starts anything
theorem not_tracksButtons : ¬∀ rs, TracksButtons rs := by
  intro h
  let report (button v : Int) : ButtonReport := ⟨button, v, false, some fun _ => .other 1⟩
  have hsecond := h [report 1 1, report 2 1, report 1 0, report 2 0] 2
  revert hsecond
  decide

theorem lastReport_reportsOf_concat (rs : List ButtonReport) (r : ButtonReport)
    : lastReport (reportsOf r.button (rs ++ [r])) = r.v := by
  simp [lastReport, reportsOf, Mealy.inputsOf]

theorem reportsOf_concat_of_ne {button : Int} {r : ButtonReport} (h : r.button ≠ button)
    (rs : List ButtonReport) : reportsOf button (rs ++ [r]) = reportsOf button rs := by
  simp [reportsOf, Mealy.inputsOf, h]

-- the reports of a button only follow those of another one after its release
def OneAtATime (rs : List ButtonReport) : Prop :=
  rs.IsChain fun r r' => r.button = r'.button ∨ r.v = 0

theorem lastReport_of_oneAtATime (rs : List ButtonReport) (r : ButtonReport)
    (h : OneAtATime (rs ++ [r])) (button : Int)
    : lastReport (reportsOf button (rs ++ [r])) = if r.button = button then r.v else 0 := by
  induction rs using List.reverseRecOn generalizing r with
  | nil =>
    split_ifs with hb
    . subst hb
      exact lastReport_reportsOf_concat [] r
    . rw [reportsOf_concat_of_ne hb]
      rfl
  | append_singleton rs r' ih =>
    split_ifs with hb
    . subst hb
      exact lastReport_reportsOf_concat _ r
    . have hchain : OneAtATime (rs ++ [r']) := h.left_of_append
      have hlink : r'.button = r.button ∨ r'.v = 0 := by
        rw [OneAtATime, List.append_assoc] at h
        simpa using h.right_of_append
      rw [reportsOf_concat_of_ne hb, ih r' hchain]
      split_ifs with hb'
      . exact hlink.resolve_left fun heq => hb (heq.symm.trans hb')
      . rfl

theorem alike_refl (r : ButtonReport) (last : Int) : r.Alike last last :=
  (out_eq_iff r last last).mp rfl

-- for buttons that are used one after the other, one memory for all of them is enough
theorem tracksButtons_of_oneAtATime {rs : List ButtonReport} (h : OneAtATime rs)
    : TracksButtons rs := by
  rw [tracksButtons_iff]
  intro before r after hrs
  suffices hlast : lastReport (reportsOf r.button before) = lastReport before by
    rw [hlast]
    exact alike_refl r _
  cases before using List.reverseRecOn with
  | nil => rfl
  | append_singleton before r' =>
    rw [hrs, OneAtATime, List.append_assoc] at h
    have hlink : r'.button = r.button ∨ r'.v = 0 := by
      have htail := h.right_of_append
      rw [List.singleton_append, List.isChain_cons_cons] at htail
      exact htail.1
    have hchain : OneAtATime (before ++ [r']) := by
      rw [← List.append_assoc] at h
      exact h.left_of_append
    rw [lastReport_of_oneAtATime before r' hchain, lastReport, List.getLast?_concat]
    split_ifs with hb
    . rfl
    . exact (hlink.resolve_left hb).symm

section Commands

variable {s : Rig} (h : s.client.andromedaType ≠ 1)
include h

-- the command leaves its report behind and makes one call, which starts what the buttons make of it
theorem zzzpReport_eq (r : ButtonReport)
    : zzzpReport s r
        =
      { s with
        client := { s.client with lastV := buttons.next s.client.lastV r }
        calls := s.calls ++
          [.executeButton s.client.andromedaType r.button r.v s.client.lastV] } := by
  simp only [zzzpReport, zzzpSet, h, if_false, Rig.call, buttons]

theorem started_zzzpReport (r : ButtonReport)
    : (zzzpReport s r).calls.getLast?.map r.started = some (buttons.out s.client.lastV r) := by
  rw [zzzpReport_eq h, List.getLast?_concat]
  rfl

-- so the calls for a sequence of reports start what the buttons make of the sequence
theorem exec_zzzpReport (rs : List ButtonReport)
    : (exec zzzpReport s rs).client.andromedaType = s.client.andromedaType ∧
      (exec zzzpReport s rs).client.lastV = exec buttons.next s.client.lastV rs ∧
      ∃ calls : List RigCall,
        (exec zzzpReport s rs).calls = s.calls ++ calls ∧
          List.zipWith ButtonReport.started rs calls = buttons.outputs s.client.lastV rs ∧
          calls.length = rs.length := by
  induction rs generalizing s with
  | nil => exact ⟨rfl, rfl, [], by simp, rfl, rfl⟩
  | cons r rs ih =>
    have hnext : (zzzpReport s r).client.andromedaType ≠ 1 := by
      rw [zzzpReport_eq h]
      exact h
    obtain ⟨htype, hlast, calls, hcalls, hstarted, hlength⟩ := ih hnext
    rw [zzzpReport_eq h] at htype hlast hcalls hstarted
    rw [exec_cons, zzzpReport_eq h]
    refine ⟨htype, hlast,
      .executeButton s.client.andromedaType r.button r.v s.client.lastV :: calls, ?_, ?_, ?_⟩
    . rw [hcalls, List.append_assoc]
      rfl
    . rw [List.zipWith_cons_cons, hstarted]
      rfl
    . rw [List.length_cons, hlength, List.length_cons]

end Commands

end Rigctl
