import Mathlib.Algebra.Group.Nat.Even
import Pihpsdr.Gpio.Lemmas.Encoder

/-!
The debouncing of the switches and push-buttons, which ignores the edges in a window of time whatever their
direction is: when the last action that is scheduled is the one for the level of the line.
-/

namespace Gpio

open Run

inductive Button where
  | encSwitch (num : Fin 5)
  | switch (num : Fin 16)
  deriving DecidableEq

-- Each edge changes the level of the line.
def Flips : Bool → List (Bool × Nat) → Prop
  | _, [] => True
  | level, e :: es => e.1 = !level ∧ Flips e.1 es

def levelAfter : Bool → List (Bool × Nat) → Bool
  | level, [] => level
  | _, e :: es => levelAfter e.1 es

def timeAfter : Option Nat → List (Bool × Nat) → Option Nat
  | time, [] => time
  | _, e :: es => timeAfter (some e.2) es

-- Nothing happens on the line for longer than the settle time of 50 ms, which starts at `time`.
def Stable (time : Option Nat) : List (Bool × Nat) → Prop
  | [] => True
  | e :: _ => ∀ start ∈ time, start + 50 < e.2

instance (time : Option Nat) : ∀ es : List (Bool × Nat), Decidable (Stable time es)
  | [] => isTrue trivial
  | e :: _ => inferInstanceAs (Decidable (∀ start ∈ time, start + 50 < e.2))

-- The actions are `PRESSED` and `RELEASED` by turns, after one of the kind of `last`.
def Alternates : Bool → List ActionMode → Prop
  | _, [] => True
  | last, mode :: modes => mode = pressedOr (!last) ∧ Alternates (!last) modes

def lastPressed : Bool → List ActionMode → Bool
  | last, [] => last
  | _, mode :: modes => lastPressed (mode = .pressed) modes

namespace Switch

variable (epochMilli : Nat)

-- what is scheduled for the edges of the line
def modes : Switch → List (Bool × Nat) → List ActionMode
  | _, [] => []
  | s, e :: es =>
    (s.scheduled e.1 (millis epochMilli e.2)).toList
      ++ modes (s.processEdge (millis epochMilli e.2)) es

/--
With `ignored` edges since the last one that was not ignored: the number of ignored edges is even whenever an edge
is not ignored or the line is stable.
-/
def EvenIgnored : Nat → Option Nat → BitVec 32 → List (Bool × Nat) → Prop
  | ignored, _, _, [] => Even ignored
  | ignored, time, debounce, e :: es =>
    (debounce < millis epochMilli e.2 ∨ Stable time (e :: es) → Even ignored)
      ∧ if debounce < millis epochMilli e.2 then
          EvenIgnored 0 (some e.2) (millis epochMilli e.2 + 50) es
        else
          EvenIgnored (ignored + 1) (some e.2) debounce es

instance decidableEvenIgnored
    : ∀ (ignored : Nat) (time : Option Nat) (debounce : BitVec 32) (es : List (Bool × Nat)),
      Decidable (EvenIgnored epochMilli ignored time debounce es)
  | ignored, _, _, [] => inferInstanceAs (Decidable (Even ignored))
  | ignored, time, debounce, e :: es =>
    have := decidableEvenIgnored 0 (some e.2) (millis epochMilli e.2 + 50) es
    have := decidableEvenIgnored (ignored + 1) (some e.2) debounce es
    inferInstanceAs (Decidable ((debounce < millis epochMilli e.2 ∨ Stable time (e :: es)
      → Even ignored) ∧ ite _ _ _))

-- what the debouncing is for, after an action of the kind of `last`
def Settles (s : Switch) (last level : Bool) (time : Option Nat) (es : List (Bool × Nat)) : Prop :=
  Alternates last (s.modes epochMilli es)
    ∧ ∀ before after, es = before ++ after → Stable (timeAfter time before) after →
        lastPressed last (s.modes epochMilli before) = levelAfter level before

variable {epochMilli} {s : Switch} {last level : Bool} {time : Option Nat} {e : Bool × Nat}
    {es : List (Bool × Nat)}

theorem pressedOr_eq_iff {a b : Bool} : pressedOr a = pressedOr b ↔ a = b := by
  cases a
  all_goals
    cases b
    all_goals decide

theorem lastPressed_pressedOr {a : Bool} (modes : List ActionMode)
    : lastPressed last (pressedOr a :: modes) = lastPressed a modes := by
  cases a
  . rfl
  . rfl

theorem settles_nil : s.Settles epochMilli last level time [] ↔ last = level := by
  constructor
  . intro h
    exact h.2 [] [] rfl trivial
  . intro h
    refine ⟨trivial, ?_⟩
    intro before after heq _
    obtain ⟨rfl, rfl⟩ := List.nil_eq_append_iff.mp heq
    exact h

-- An edge in the window only adds a place where the line can be stable.
theorem settles_ignored (h : ¬ s.debounce < millis epochMilli e.2)
    : s.Settles epochMilli last level time (e :: es)
        ↔ (Stable time (e :: es) → last = level)
          ∧ s.Settles epochMilli last e.1 (some e.2) es := by
  have hmodes (l : List (Bool × Nat)) : s.modes epochMilli (e :: l) = s.modes epochMilli l := by
    rw [modes, scheduled, processEdge, if_neg h, if_neg h]
    rfl
  constructor
  . intro ⟨halternates, hlast⟩
    rw [hmodes] at halternates
    refine ⟨hlast [] (e :: es) rfl, halternates, ?_⟩
    intro before after heq hstable
    have hthere := hlast (e :: before) after (congrArg (e :: ·) heq) hstable
    rw [hmodes] at hthere
    exact hthere
  . intro ⟨hhere, halternates, hlast⟩
    refine ⟨(hmodes es).symm ▸ halternates, ?_⟩
    intro before after heq hstable
    cases before with
    | nil =>
      rw [List.nil_append] at heq
      rw [← heq] at hstable
      exact hhere hstable
    | cons e' before =>
      obtain ⟨rfl, htail⟩ := List.cons_eq_cons.mp heq
      rw [hmodes]
      exact hlast before after htail hstable

-- An edge after the window has to be the opposite of the last action.
theorem settles_scheduled (h : s.debounce < millis epochMilli e.2) (hflip : e.1 = !level)
    : s.Settles epochMilli last level time (e :: es)
        ↔ last = level
          ∧ (s.processEdge (millis epochMilli e.2)).Settles epochMilli e.1 e.1 (some e.2) es := by
  have hmodes (l : List (Bool × Nat)) : s.modes epochMilli (e :: l)
      = pressedOr e.1 :: (s.processEdge (millis epochMilli e.2)).modes epochMilli l := by
    rw [modes, scheduled, if_pos h]
    rfl
  have hturn : pressedOr e.1 = pressedOr (!last) ↔ last = level := by
    rw [pressedOr_eq_iff, hflip]
    cases last
    all_goals
      cases level
      all_goals decide
  constructor
  . intro ⟨halternates, hlast⟩
    rw [hmodes] at halternates
    have heq := hturn.mp halternates.1
    subst heq
    refine ⟨rfl, hflip ▸ halternates.2, ?_⟩
    intro before after heq hstable
    have hthere := hlast (e :: before) after (congrArg (e :: ·) heq) hstable
    rw [hmodes, lastPressed_pressedOr] at hthere
    exact hthere
  . intro ⟨heq, halternates, hlast⟩
    subst heq
    constructor
    . rw [hmodes]
      exact ⟨hturn.mpr rfl, hflip ▸ halternates⟩
    . intro before after heq hstable
      cases before with
      | nil => rfl
      | cons e' before =>
        obtain ⟨rfl, htail⟩ := List.cons_eq_cons.mp heq
        rw [hmodes, lastPressed_pressedOr]
        exact hlast before after htail hstable

-- The last action and the level agree exactly if an even number of edges was ignored.
theorem settles_iff {ignored : Nat} (hflips : Flips level es) (hignored : last = level ↔ Even ignored)
    : s.Settles epochMilli last level time es
        ↔ EvenIgnored epochMilli ignored time s.debounce es := by
  induction es generalizing s last level time ignored with
  | nil => rw [settles_nil, hignored, EvenIgnored]
  | cons e es ih =>
    obtain ⟨hflip, hrest⟩ := hflips
    rw [EvenIgnored]
    by_cases h : s.debounce < millis epochMilli e.2
    . have hdebounce : (s.processEdge (millis epochMilli e.2)).debounce
          = millis epochMilli e.2 + 50 := by
        rw [processEdge, if_pos h]
      rw [settles_scheduled h hflip, if_pos h, ih hrest (iff_of_true rfl Even.zero), hdebounce,
        hignored]
      simp only [h, true_or, true_imp_iff]
    . have hnext : last = e.1 ↔ Even (ignored + 1) := by
        rw [Nat.even_add_one, ← hignored, hflip]
        cases last
        all_goals
          cases level
          all_goals decide
      rw [settles_ignored h, if_neg h, ih hrest hnext, hignored]
      simp only [h, false_or]

end Switch

def OffsetAction.button : OffsetAction → Option Button
  | .encSwitch num => some (.encSwitch num)
  | .switch num => some (.switch num)
  | _ => none

def Effect.mode : Effect → Option ActionMode
  | .scheduleAction _ mode _ => some mode
  | .i2cInterrupt => none

namespace Controller

variable (c : Controller)

def button : Button → Switch
  | .encSwitch num => (c.encoders num).button
  | .switch num => c.switches num

variable (b : Button)

-- level and time of an edge on the line of the button
def buttonEdge : Event → Option (Bool × Nat)
  | .edge offset value now =>
    if (c.lineList offset).button = some b then some (value, now) else none
  | .poll => none

def buttonEdges (es : List Event) : List (Bool × Nat) :=
  es.filterMap (c.buttonEdge b)

-- what is scheduled for the button in a run
def buttonModes : Controller → List Event → List ActionMode
  | _, [] => []
  | c, e :: es =>
    (if (c.buttonEdge b e).isSome then (c.effects e).filterMap Effect.mode else [])
      ++ buttonModes (c.step e) es

/--
The actions of the button are `PRESSED` and `RELEASED` by turns, `PRESSED` first, and agree with the line whenever
it is stable.
-/
def KeepsFinalState (es : List Event) : Prop :=
  Alternates false (c.buttonModes b es)
    ∧ ∀ before after, es = before ++ after →
        Stable (timeAfter none (c.buttonEdges b before)) (c.buttonEdges b after) →
        lastPressed false (c.buttonModes b before) = levelAfter false (c.buttonEdges b before)

variable {b}

theorem button_setSingle (num : Fin 5) (side : Side) (enc : SingleEncoder)
    : (c.setSingle num side enc).button b = c.button b := by
  cases b with
  | switch n => rfl
  | encSwitch n =>
    unfold button setSingle
    dsimp only
    by_cases h : n = num
    . subst h
      rw [Function.update_self]
      cases side
      . rfl
      . rfl
    . rw [Function.update_of_ne h]

theorem button_setButton (num : Fin 5) (switch : Switch)
    : (c.setButton num switch).button b
        = if some (Button.encSwitch num) = some b then switch else c.button b := by
  cases b with
  | switch n => rfl
  | encSwitch n =>
    unfold button setButton
    dsimp only
    by_cases h : n = num
    . subst h
      rw [Function.update_self, if_pos rfl]
    . rw [Function.update_of_ne h, if_neg]
      intro heq
      injection heq with heq
      injection heq with heq
      exact h heq.symm

theorem button_setSwitch (num : Fin 16) (switch : Switch)
    : (c.setSwitch num switch).button b
        = if some (Button.switch num) = some b then switch else c.button b := by
  cases b with
  | encSwitch n => rfl
  | switch n =>
    unfold button setSwitch
    dsimp only
    by_cases h : n = num
    . subst h
      rw [Function.update_self, if_pos rfl]
    . rw [Function.update_of_ne h, if_neg]
      intro heq
      injection heq with heq
      injection heq with heq
      exact h heq.symm

theorem button_poll : c.poll.button b = c.button b := by
  unfold poll
  dsimp only
  split_ifs
  . exact c.button_setSingle c.thread.num c.thread.side _
  . cases b
    . rfl
    . rfl
  . cases b
    . rfl
    . rfl

-- An edge is for the button of its line only.
theorem button_processEdge (offset : Fin 32) (value : Bool) (now : Nat)
    : (c.processEdge offset value now).button b
        = if (c.lineList offset).button = some b then
            (c.button b).processEdge (millis c.epochMilli now)
          else
            c.button b := by
  unfold processEdge
  cases c.lineList offset with
  | botEncA n => exact c.button_setSingle n .bottom _
  | botEncB n => exact c.button_setSingle n .bottom _
  | topEncA n => exact c.button_setSingle n .top _
  | topEncB n => exact c.button_setSingle n .top _
  | encSwitch n =>
    refine (c.button_setButton n _).trans ?_
    change (if some (Button.encSwitch n) = some b then _ else _)
      = if some (Button.encSwitch n) = some b then _ else _
    split
    next h =>
      cases h
      rfl
    . rfl
  | switch n =>
    refine (c.button_setSwitch n _).trans ?_
    change (if some (Button.switch n) = some b then _ else _)
      = if some (Button.switch n) = some b then _ else _
    split
    next h =>
      cases h
      rfl
    . rfl
  | i2cIrq => rfl
  | special action => rfl
  | noAction => rfl

theorem modes_edge {offset : Fin 32} (h : (c.lineList offset).button = some b) (value : Bool)
    (now : Nat)
    : (c.edgeEffects offset value now).filterMap Effect.mode
        = ((c.button b).scheduled value (millis c.epochMilli now)).toList := by
  unfold edgeEffects
  cases hline : c.lineList offset with
  | encSwitch n =>
    rw [hline] at h
    cases h
    change List.filterMap _ (Option.map _ ((c.encoders n).button.scheduled _ _)).toList = _
    unfold button
    cases (c.encoders n).button.scheduled value (millis c.epochMilli now) with
    | none => rfl
    | some mode => rfl
  | switch n =>
    rw [hline] at h
    cases h
    change List.filterMap _ (Option.map _ ((c.switches n).scheduled _ _)).toList = _
    unfold button
    cases (c.switches n).scheduled value (millis c.epochMilli now) with
    | none => rfl
    | some mode => rfl
  | _ =>
    rw [hline] at h
    cases h

theorem epochMilli_step (e : Event) : (c.step e).epochMilli = c.epochMilli := by
  cases e with
  | edge offset value now =>
    change (c.processEdge offset value now).epochMilli = _
    unfold processEdge
    split
    all_goals rfl
  | poll =>
    change c.poll.epochMilli = _
    unfold poll
    dsimp only
    split_ifs
    all_goals rfl

theorem buttonEdges_step (e : Event) (es : List Event)
    : (c.step e).buttonEdges b es = c.buttonEdges b es := by
  unfold buttonEdges buttonEdge
  rw [lineList_step]

-- What is scheduled for a button depends on the edges on its line only.
theorem buttonModes_eq (es : List Event)
    : c.buttonModes b es = (c.button b).modes c.epochMilli (c.buttonEdges b es) := by
  induction es generalizing c with
  | nil => rfl
  | cons e es ih =>
    rw [buttonModes, ih, epochMilli_step, buttonEdges_step]
    cases e with
    | poll =>
      change [] ++ (c.poll.button b).modes _ _ = _
      rw [button_poll]
      rfl
    | edge offset value now =>
      change _ ++ ((c.processEdge offset value now).button b).modes _ _ = _
      rw [button_processEdge]
      by_cases h : (c.lineList offset).button = some b
      . have hedge : c.buttonEdge b (.edge offset value now) = some (value, now) := if_pos h
        have hedges : c.buttonEdges b (.edge offset value now :: es)
            = (value, now) :: c.buttonEdges b es :=
          List.filterMap_cons_some hedge
        rw [hedges, hedge, if_pos h, Option.isSome_some, if_pos rfl, Switch.modes]
        change List.filterMap _ (c.edgeEffects offset value now) ++ _ = _
        rw [c.modes_edge h]
      . have hedge : c.buttonEdge b (.edge offset value now) = none := if_neg h
        have hedges : c.buttonEdges b (.edge offset value now :: es) = c.buttonEdges b es :=
          List.filterMap_cons_none hedge
        rw [hedges, hedge, if_neg h]
        rfl

theorem keepsFinalState_iff_settles (es : List Event)
    : c.KeepsFinalState b es
        ↔ (c.button b).Settles c.epochMilli false false none (c.buttonEdges b es) := by
  unfold KeepsFinalState Switch.Settles
  rw [buttonModes_eq]
  refine and_congr_right fun _ => ?_
  constructor
  . intro h before after heq hstable
    obtain ⟨es₁, es₂, rfl, rfl, rfl⟩ := List.filterMap_eq_append_iff.mp heq
    have hthere := h es₁ es₂ rfl hstable
    rw [buttonModes_eq] at hthere
    exact hthere
  . intro h before after heq hstable
    subst heq
    rw [buttonModes_eq]
    apply h _ _ ?_ hstable
    unfold buttonEdges
    rw [List.filterMap_append]

/--
The actions follow the line of a button if and only if, whenever an edge is not ignored or the line is stable, the
number of the edges that were ignored since the last one that was not is even.
-/
theorem keepsFinalState_iff (es : List Event) (hflips : Flips false (c.buttonEdges b es))
    : c.KeepsFinalState b es
        ↔ Switch.EvenIgnored c.epochMilli 0 none (c.button b).debounce (c.buttonEdges b es) := by
  rw [keepsFinalState_iff_settles]
  exact Switch.settles_iff hflips (iff_of_true rfl Even.zero)

-- a long press that bounces twice at its start, and then a short one
theorem keepsFinalState_iff_controller1
    : Flips false ((controller1 0).buttonEdges (.switch 0)
          [.edge 27 true 1000, .edge 27 false 1003, .edge 27 true 1005, .edge 27 false 1400])
        ∧ (controller1 0).KeepsFinalState (.switch 0)
          [.edge 27 true 1000, .edge 27 false 1003, .edge 27 true 1005, .edge 27 false 1400] := by
  have hflips : Flips false ((controller1 0).buttonEdges (.switch 0)
      [.edge 27 true 1000, .edge 27 false 1003, .edge 27 true 1005, .edge 27 false 1400]) :=
    ⟨rfl, rfl, rfl, rfl, trivial⟩
  refine ⟨hflips, (keepsFinalState_iff (controller1 0) _ hflips).mpr ?_⟩
  decide

-- A press of 30 ms stays pressed.
theorem not_keepsFinalState
    : ¬ ∀ (c : Controller) (b : Button) (es : List Event), Flips false (c.buttonEdges b es) →
        c.KeepsFinalState b es := by
  intro h
  have hlast := (h (controller1 0) (.switch 0) [.edge 27 true 1000, .edge 27 false 1030]
    ⟨rfl, rfl, trivial⟩).2 [.edge 27 true 1000, .edge 27 false 1030] [] rfl trivial
  revert hlast
  decide

end Controller

end Gpio
