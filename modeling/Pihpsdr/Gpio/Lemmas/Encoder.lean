import Mathlib.Algebra.Order.Group.Int
import Mathlib.Tactic.SplitIfs
import Pihpsdr.Lib.Run
import Pihpsdr.Gpio.Impl.Controller

/-!
What the ticks of an encoder have to do with the quadrature steps of its two lines, and with what the thread that
reports them takes.
-/

namespace Gpio

open Run

inductive Line where
  | a
  | b
  deriving DecidableEq

-- the levels of the two lines, 1 if pressed
structure Levels where
  a : Bool
  b : Bool
  deriving DecidableEq

def Levels.set (l : Levels) : Line × Bool → Levels
  | (.a, val) => { l with a := val }
  | (.b, val) => { l with b := val }

-- quarters of a cycle, clockwise: AB = 11, 10, 00, 01
def Levels.quarter : Levels → Fin 4
  | ⟨true, true⟩ => 0
  | ⟨true, false⟩ => 1
  | ⟨false, false⟩ => 2
  | ⟨false, true⟩ => 3

def Levels.quadrature (l l' : Levels) : Int :=
  if l'.quarter = l.quarter + 1 then
    1
  else if l.quarter = l'.quarter + 1 then
    -1
  else
    0

-- the net number of quadrature steps
def Levels.steps : Levels → List (Line × Bool) → Int
  | _, [] => 0
  | l, e :: es => l.quadrature (l.set e) + steps (l.set e) es

inductive Cycle where
  | full
  | half
  deriving DecidableEq

def Cycle.length : Cycle → Int
  | .full => 4
  | .half => 2

def Cycle.start : Cycle → BitVec 8
  | .full => rStart
  | .half => rStart1

-- how the net number `t` of ticks goes with the net number `x` of steps that lead to the levels `l`
def Cycle.Counts (t x : Int) (l : Levels) : Cycle → Prop
  | .full => l = ⟨true, true⟩ → 4 * t = x
  | .half => |2 * t - x| ≤ 1

-- the cycle that a state belongs to
def cycleAt (row : Fin 13) : Cycle :=
  if row ≤ 6 then .full else .half

def levelsAt (row : Fin 13) : Levels :=
  #v[⟨true, true⟩, ⟨false, true⟩, ⟨true, false⟩, ⟨false, false⟩, ⟨false, true⟩, ⟨true, false⟩,
    ⟨false, false⟩, ⟨true, true⟩, ⟨false, false⟩, ⟨true, false⟩, ⟨false, true⟩, ⟨false, true⟩,
    ⟨true, false⟩].get row

-- the steps that were made since the last tick
def sinceTick (row : Fin 13) : Int :=
  #v[0, 3, 1, 2, -1, -3, -2, 0, 0, 1, 1, -1, -1].get row

def EncoderState.entry (row : Fin 13) (l : Levels) : EncoderState :=
  ⟨(encoderStateTable.get row).get (pinstate l.a l.b), encoderStateTable_lt row _⟩

-- The table counts each step of the two lines.
theorem entry_counts (row : Fin 13) (e : Line × Bool)
    : levelsAt (EncoderState.entry row ((levelsAt row).set e)).row = (levelsAt row).set e
        ∧ cycleAt (EncoderState.entry row ((levelsAt row).set e)).row = cycleAt row
        ∧ (cycleAt row).length * (EncoderState.entry row ((levelsAt row).set e)).tick
              + sinceTick (EncoderState.entry row ((levelsAt row).set e)).row
            = sinceTick row + (levelsAt row).quadrature ((levelsAt row).set e) := by
  obtain ⟨line, val⟩ := e
  cases line
  all_goals
    cases val
    all_goals
      revert row
      decide

namespace SingleEncoder

variable (enc : SingleEncoder)

def levels : Levels :=
  ⟨enc.aValue, enc.bValue⟩

def process : Line × Bool → SingleEncoder
  | (.a, val) => enc.processEncoderA val
  | (.b, val) => enc.processEncoderB val

-- the net number of ticks
def ticks : SingleEncoder → List (Line × Bool) → Int
  | _, [] => 0
  | enc, e :: es => (enc.process e).state.tick + ticks (enc.process e) es

/--
At rest both lines are at the level 1, or at 0 half a cycle later, and the state is the one that the table starts
from.
-/
def AtRest : Cycle → Prop
  | .full => enc.levels = ⟨true, true⟩ ∧ enc.state.word &&& 0x0F = rStart
  | .half =>
    enc.levels = ⟨true, true⟩ ∧ enc.state.word &&& 0x0F = rStart1
      ∨ enc.levels = ⟨false, false⟩ ∧ enc.state.word &&& 0x0F = rStart0

-- the state is one for the levels of the lines
structure Sound (cycle : Cycle) : Prop where
  levels : enc.levels = levelsAt enc.state.row
  cycle : cycleAt enc.state.row = cycle

variable {enc} {cycle : Cycle}

theorem row_eq {word : BitVec 8} {row : Fin 13} (h : enc.state.word &&& 0x0F = word)
    (hword : word.toNat = row.val)
    : enc.state.row = row :=
  Fin.ext ((congrArg BitVec.toNat h).trans hword)

theorem AtRest.sound (h : enc.AtRest cycle)
    : enc.Sound cycle ∧ sinceTick enc.state.row = 0 := by
  cases cycle with
  | full =>
    obtain ⟨hlevels, hword⟩ := h
    have hrow : enc.state.row = 0 := row_eq hword rfl
    refine ⟨⟨?_, ?_⟩, ?_⟩
    . rw [hrow, hlevels]
      rfl
    . rw [hrow]
      rfl
    . rw [hrow]
      rfl
  | half =>
    rcases h with ⟨hlevels, hword⟩ | ⟨hlevels, hword⟩
    . have hrow : enc.state.row = 7 := row_eq hword rfl
      refine ⟨⟨?_, ?_⟩, ?_⟩
      . rw [hrow, hlevels]
        rfl
      . rw [hrow]
        rfl
      . rw [hrow]
        rfl
    . have hrow : enc.state.row = 8 := row_eq hword rfl
      refine ⟨⟨?_, ?_⟩, ?_⟩
      . rw [hrow, hlevels]
        rfl
      . rw [hrow]
        rfl
      . rw [hrow]
        rfl

theorem levels_process (e : Line × Bool) : (enc.process e).levels = enc.levels.set e := by
  obtain ⟨line, val⟩ := e
  cases line with
  | a => rfl
  | b => rfl

theorem state_process (e : Line × Bool)
    : (enc.process e).state = EncoderState.entry enc.state.row (enc.levels.set e) := by
  obtain ⟨line, val⟩ := e
  cases line with
  | a => rfl
  | b => rfl

theorem pos_process (e : Line × Bool)
    : (enc.process e).pos = enc.pos + (enc.process e).state.tick := by
  obtain ⟨line, val⟩ := e
  cases line with
  | a => rfl
  | b => rfl

theorem ticks_pos (p : Int) (es : List (Line × Bool))
    : ticks { enc with pos := p } es = enc.ticks es := by
  induction es generalizing enc p with
  | nil => rfl
  | cons e es ih =>
    have hprocess : ({ enc with pos := p } : SingleEncoder).process e
        = { enc.process e with pos := p + (enc.process e).state.tick } := by
      obtain ⟨line, val⟩ := e
      cases line with
      | a => rfl
      | b => rfl
    rw [ticks, ticks, hprocess, ih]

theorem Sound.process (h : enc.Sound cycle) (e : Line × Bool) : (enc.process e).Sound cycle := by
  obtain ⟨hlevels, hcycle, hcount⟩ := entry_counts enc.state.row e
  constructor
  . rw [levels_process, state_process, h.levels, hlevels]
  . rw [state_process, h.levels, hcycle, h.cycle]

theorem Sound.tick (h : enc.Sound cycle) (e : Line × Bool)
    : cycle.length * (enc.process e).state.tick + sinceTick (enc.process e).state.row
        = sinceTick enc.state.row + enc.levels.quadrature (enc.levels.set e) := by
  obtain ⟨hlevels, hcycle, hcount⟩ := entry_counts enc.state.row e
  rw [state_process, h.levels, ← h.cycle, hcount]

theorem levels_exec (es : List (Line × Bool))
    : (exec process enc es).levels = exec Levels.set enc.levels es := by
  induction es generalizing enc with
  | nil => rfl
  | cons e es ih => rw [exec_cons, ih, levels_process, exec_cons]

theorem Sound.exec (h : enc.Sound cycle) (es : List (Line × Bool))
    : (Run.exec SingleEncoder.process enc es).Sound cycle := by
  induction es generalizing enc with
  | nil => exact h
  | cons e es ih => exact ih (h.process e)

-- No step is lost: those without a tick so far are in the state.
theorem Sound.ticks (h : enc.Sound cycle) (es : List (Line × Bool))
    : cycle.length * enc.ticks es + sinceTick (Run.exec SingleEncoder.process enc es).state.row
        = sinceTick enc.state.row + enc.levels.steps es := by
  induction es generalizing enc with
  | nil =>
    rw [exec_nil, SingleEncoder.ticks, Levels.steps]
    omega
  | cons e es ih =>
    have htick := h.tick e
    have hrest := ih (h.process e)
    rw [levels_process] at hrest
    rw [exec_cons, SingleEncoder.ticks, Levels.steps, mul_add]
    omega

theorem sinceTick_of_half {row : Fin 13} (h : cycleAt row = .half) : |sinceTick row| ≤ 1 := by
  revert row
  decide

theorem sinceTick_of_full {row : Fin 13} (h : cycleAt row = .full)
    (hlevels : levelsAt row = ⟨true, true⟩)
    : sinceTick row = 0 := by
  revert row
  decide

theorem AtRest.counts (h : enc.AtRest cycle) (es : List (Line × Bool))
    : cycle.Counts (enc.ticks es) (enc.levels.steps es) (Run.exec Levels.set enc.levels es) := by
  obtain ⟨hsound, hsince⟩ := h.sound
  have hticks := hsound.ticks es
  have hlast := hsound.exec es
  rw [hsince, zero_add] at hticks
  cases cycle with
  | full =>
    intro hlevels
    rw [← levels_exec, hlast.levels] at hlevels
    rw [sinceTick_of_full hlast.cycle hlevels, add_zero] at hticks
    exact hticks
  | half =>
    have hbound := sinceTick_of_half hlast.cycle
    have heq : 2 * enc.ticks es - enc.levels.steps es
        = -sinceTick (Run.exec SingleEncoder.process enc es).state.row := by
      change 2 * enc.ticks es + _ = _ at hticks
      omega
    change |2 * enc.ticks es - enc.levels.steps es| ≤ 1
    rw [heq, abs_neg]
    exact hbound

end SingleEncoder

-- the change that an edge is for an encoder
def OffsetAction.edge (num : Fin 5) (side : Side) (value : Bool) :
    OffsetAction → Option (Line × Bool)
  | .botEncA n => if n = num ∧ side = .bottom then some (.a, value) else none
  | .botEncB n => if n = num ∧ side = .bottom then some (.b, value) else none
  | .topEncA n => if n = num ∧ side = .top then some (.a, value) else none
  | .topEncB n => if n = num ∧ side = .top then some (.b, value) else none
  | _ => none

namespace Controller

variable (c : Controller) (num : Fin 5) (side : Side)

def edgeOf : Event → Option (Line × Bool)
  | .poll => none
  | .edge offset value _ => (c.lineList offset).edge num side value

def edges (es : List Event) : List (Line × Bool) :=
  es.filterMap (c.edgeOf num side)

-- what the thread has taken from the encoder in a run
def delivered : Controller → List Event → Int
  | _, [] => 0
  | c, .poll :: es => c.taken num side + delivered c.poll es
  | c, .edge offset value now :: es => delivered (c.processEdge offset value now) es

variable {num side}

theorem single_setSingle (n : Fin 5) (s : Side) (enc : SingleEncoder)
    : (c.setSingle n s enc).single num side
        = if n = num ∧ s = side then enc else c.single num side := by
  unfold setSingle single
  dsimp only
  by_cases hnum : n = num
  . subst hnum
    rw [Function.update_self]
    cases s
    all_goals
      cases side
      all_goals simp [Encoder.setSingle, Encoder.single]
  . rw [Function.update_of_ne (Ne.symm hnum), if_neg fun h => hnum h.1]

theorem single_setButton (n : Fin 5) (button : Switch)
    : (c.setButton n button).single num side = c.single num side := by
  unfold setButton single
  dsimp only
  by_cases hnum : n = num
  . subst hnum
    rw [Function.update_self]
    cases side
    . rfl
    . rfl
  . rw [Function.update_of_ne (Ne.symm hnum)]

theorem single_setSingle_process (n : Fin 5) (s : Side) (e : Line × Bool)
    : (c.setSingle n s ((c.single n s).process e)).single num side
        = match if n = num ∧ side = s then some e else none with
          | some e => (c.single num side).process e
          | none => c.single num side := by
  rw [single_setSingle]
  by_cases h : n = num ∧ side = s
  . obtain ⟨rfl, rfl⟩ := h
    rw [if_pos ⟨rfl, rfl⟩, if_pos ⟨rfl, rfl⟩]
  . rw [if_neg h, if_neg fun h' => h ⟨h'.1, h'.2.symm⟩]

-- An edge on one of the lines of the encoder is processed; all other edges leave it alone.
theorem single_processEdge (offset : Fin 32) (value : Bool) (now : Nat)
    : (c.processEdge offset value now).single num side
        = match (c.lineList offset).edge num side value with
          | some e => (c.single num side).process e
          | none => c.single num side := by
  unfold processEdge
  cases c.lineList offset with
  | botEncA n => exact c.single_setSingle_process n .bottom (.a, value)
  | botEncB n => exact c.single_setSingle_process n .bottom (.b, value)
  | topEncA n => exact c.single_setSingle_process n .top (.a, value)
  | topEncB n => exact c.single_setSingle_process n .top (.b, value)
  | encSwitch n => exact c.single_setButton n _
  | switch n => rfl
  | i2cIrq => rfl
  | special action => rfl
  | noAction => rfl

theorem single_poll
    : c.poll.single num side
        = { c.single num side with pos := (c.single num side).pos - c.taken num side } := by
  unfold poll taken
  dsimp only
  by_cases htaking : c.thread.taking
  . rw [if_pos htaking]
    refine Eq.trans (c.single_setSingle c.thread.num c.thread.side
      { c.single c.thread.num c.thread.side with pos := 0 }) ?_
    by_cases hat : c.thread.num = num ∧ c.thread.side = side
    . rw [if_pos hat, if_pos ⟨htaking, hat⟩, Int.sub_self, hat.1, hat.2]
    . rw [if_neg hat, if_neg fun h => hat h.2, Int.sub_zero]
  . have hnone : ¬ (c.thread.taking ∧ c.thread.num = num ∧ c.thread.side = side) :=
      fun h => htaking h.1
    rw [if_neg htaking, if_neg hnone, Int.sub_zero]
    split
    . rfl
    . rfl

theorem lineList_processEdge (offset : Fin 32) (value : Bool) (now : Nat)
    : (c.processEdge offset value now).lineList = c.lineList := by
  unfold processEdge
  split
  all_goals rfl

theorem lineList_poll : c.poll.lineList = c.lineList := by
  unfold poll
  dsimp only
  split_ifs
  all_goals rfl

theorem lineList_step (e : Event) : (c.step e).lineList = c.lineList := by
  cases e with
  | edge offset value now => exact c.lineList_processEdge offset value now
  | poll => exact c.lineList_poll

theorem edges_step (e : Event) (es : List Event)
    : (c.step e).edges num side es = c.edges num side es := by
  unfold edges edgeOf
  rw [lineList_step]

-- The ticks are in the position until the thread takes them.
theorem delivered_add_pos (es : List Event)
    : c.delivered num side es + ((exec step c es).single num side).pos
        = (c.single num side).pos + (c.single num side).ticks (c.edges num side es) := by
  induction es generalizing c with
  | nil =>
    rw [delivered, exec_nil, edges, List.filterMap_nil, SingleEncoder.ticks]
    omega
  | cons e es ih =>
    have hrest := ih (c.step e)
    rw [edges_step] at hrest
    rw [exec_cons]
    cases e with
    | poll =>
      have hpos : (c.poll.single num side).pos = (c.single num side).pos - c.taken num side :=
        congrArg SingleEncoder.pos c.single_poll
      have hticks : (c.poll.single num side).ticks (c.edges num side es)
          = (c.single num side).ticks (c.edges num side es) := by
        rw [single_poll, SingleEncoder.ticks_pos]
      change c.taken num side + c.poll.delivered num side es + _
        = _ + (c.single num side).ticks (c.edges num side es)
      change c.poll.delivered num side es + _ = (c.poll.single num side).pos
        + (c.poll.single num side).ticks (c.edges num side es) at hrest
      omega
    | edge offset value now =>
      have hsingle : (c.processEdge offset value now).single num side = _ :=
        c.single_processEdge offset value now
      change (c.processEdge offset value now).delivered num side es + _ = _ at hrest ⊢
      change _ = ((c.processEdge offset value now).single num side).pos
        + ((c.processEdge offset value now).single num side).ticks _ at hrest
      cases hedge : (c.lineList offset).edge num side value with
      | none =>
        have hedges : c.edges num side (.edge offset value now :: es) = c.edges num side es :=
          List.filterMap_cons_none hedge
        rw [hedges, hrest, hsingle, hedge]
      | some line =>
        have hedges : c.edges num side (.edge offset value now :: es)
            = line :: c.edges num side es :=
          List.filterMap_cons_some hedge
        rw [hedges, hrest, hsingle, hedge]
        change ((c.single num side).process line).pos
          + ((c.single num side).process line).ticks _ = _
        rw [SingleEncoder.pos_process, SingleEncoder.ticks, add_assoc]

theorem enabled_step (e : Event)
    : ((c.step e).single num side).enabled = (c.single num side).enabled := by
  cases e with
  | poll =>
    change (c.poll.single num side).enabled = _
    rw [single_poll]
  | edge offset value now =>
    change ((c.processEdge offset value now).single num side).enabled = _
    rw [single_processEdge]
    cases (c.lineList offset).edge num side value with
    | none => rfl
    | some e =>
      obtain ⟨line, val⟩ := e
      cases line with
      | a => rfl
      | b => rfl

theorem enabled_exec (es : List Event)
    : ((exec step c es).single num side).enabled = (c.single num side).enabled := by
  induction es generalizing c with
  | nil => rfl
  | cons e es ih => rw [exec_cons, ih, enabled_step]

end Controller

def Side.index : Side → Nat
  | .bottom => 0
  | .top => 1

namespace RotaryThread

variable (r : RotaryThread) (num : Fin 5) (side : Side)

-- the number of encoders that the thread comes to before this one
def ahead : Nat :=
  (10 + (2 * num.val + side.index) - (2 * r.num.val + r.side.index)) % 10

-- the number of accesses before the one that ends the treatment of this encoder
def accesses : Nat :=
  2 * r.ahead num side + (if r.taking then 0 else 1)

variable {r num side}

theorem accesses_lt : r.accesses num side < 20 := by
  unfold accesses ahead
  split
  all_goals omega

theorem ahead_advance (h : ¬ (r.num = num ∧ r.side = side))
    : r.advance.ahead num side + 1 = r.ahead num side := by
  obtain ⟨n, s, taking⟩ := r
  unfold ahead advance
  cases s
  all_goals
    cases side
    all_goals
      revert h
      revert n num taking
      decide

theorem accesses_advance (h : ¬ (r.num = num ∧ r.side = side))
    : r.advance.accesses num side < r.accesses num side := by
  have hahead := ahead_advance h
  have htaking : r.advance.taking = false := by
    unfold advance
    split
    . rfl
    . rfl
  unfold accesses
  rw [htaking]
  split
  all_goals omega

end RotaryThread

namespace Controller

variable (c : Controller) {num : Fin 5} {side : Side}

theorem pos_poll_of_zero (h : (c.single num side).pos = 0) : (c.poll.single num side).pos = 0 := by
  rw [single_poll]
  unfold taken
  dsimp only
  rw [h, ite_self, Int.sub_zero]

-- Each access brings the thread closer to the encoder, or its position is zero.
theorem pos_poll_or (henabled : (c.single num side).enabled)
    : (c.poll.single num side).pos = 0
        ∨ c.poll.thread.accesses num side < c.thread.accesses num side := by
  by_cases hat : c.thread.num = num ∧ c.thread.side = side
  . obtain ⟨rfl, rfl⟩ := hat
    by_cases htaking : c.thread.taking
    . left
      rw [single_poll]
      unfold taken
      rw [if_pos ⟨htaking, rfl, rfl⟩]
      exact Int.sub_self _
    . by_cases hpos : (c.single c.thread.num c.thread.side).pos = 0
      . exact .inl (c.pos_poll_of_zero hpos)
      . right
        unfold poll
        dsimp only
        rw [if_neg htaking, if_pos ⟨henabled, hpos⟩]
        unfold RotaryThread.accesses RotaryThread.ahead
        rw [if_pos rfl, if_neg htaking]
        exact Nat.lt_succ_self _
  . right
    have hadvance := RotaryThread.accesses_advance hat
    unfold poll
    dsimp only
    split
    . exact hadvance
    next htaking =>
      split
      . unfold RotaryThread.accesses RotaryThread.ahead
        rw [if_pos rfl, if_neg htaking]
        exact Nat.lt_succ_self _
      . exact hadvance

theorem pos_polls {n : Nat} (henabled : (c.single num side).enabled)
    (h : c.thread.accesses num side < n ∨ (c.single num side).pos = 0)
    : ((exec step c (List.replicate n .poll)).single num side).pos = 0 := by
  induction n generalizing c with
  | zero => exact h.resolve_left (Nat.not_lt_zero _)
  | succ n ih =>
    rw [List.replicate_succ, exec_cons]
    apply ih c.poll ((c.enabled_step .poll).trans henabled)
    rcases h with hlt | hzero
    . rcases c.pos_poll_or henabled with hpos | hless
      . exact .inr hpos
      . exact .inl (by omega)
    . exact .inr (c.pos_poll_of_zero hzero)

/--
For an encoder at rest, the ticks count the steps of its lines whatever their edges are, and the thread takes each
of them once: those that it has not taken are in the position, from which it takes them in its next round.
-/
theorem encoder_counts {cycle : Cycle} (h : (c.single num side).AtRest cycle) (es : List Event)
    : cycle.Counts ((c.single num side).ticks (c.edges num side es))
          ((c.single num side).levels.steps (c.edges num side es))
          (exec Levels.set (c.single num side).levels (c.edges num side es))
        ∧ c.delivered num side es + ((exec step c es).single num side).pos
            = (c.single num side).pos + (c.single num side).ticks (c.edges num side es)
        ∧ ((c.single num side).enabled → ∀ n ≥ 20,
            c.delivered num side (es ++ List.replicate n .poll)
              = (c.single num side).pos + (c.single num side).ticks (c.edges num side es)) := by
  refine ⟨h.counts _, c.delivered_add_pos es, ?_⟩
  intro henabled n hn
  have htotal : c.delivered num side (es ++ List.replicate n .poll) + _ = _ :=
    c.delivered_add_pos _
  have hnone : (List.replicate n Event.poll).filterMap (c.edgeOf num side) = [] := by
    rw [List.filterMap_eq_nil_iff]
    intro e he
    rw [List.eq_of_mem_replicate he]
    rfl
  have hedges : c.edges num side (es ++ List.replicate n .poll) = c.edges num side es := by
    unfold edges
    rw [List.filterMap_append, hnone, List.append_nil]
  have hzero := (exec step c es).pos_polls (n := n) ((c.enabled_exec es).trans henabled)
    (.inl (lt_of_lt_of_le RotaryThread.accesses_lt hn))
  rw [exec_append, hzero, hedges, add_zero] at htotal
  exact htotal

/--
A cycle of the first encoder of controller 1 in which one line bounces. The thread sees the tick in the round after
it.
-/
theorem encoder_counts_controller1
    : ((controller1 0).single 0 .bottom).AtRest .full
        ∧ (controller1 0).delivered 0 .bottom
            ([.edge 26 false 10, .edge 20 false 12, .poll, .edge 20 true 13, .edge 20 false 14,
              .edge 26 true 20, .edge 20 true 25] ++ List.replicate 20 .poll) = 1 := by
  have hrest : ((controller1 0).single 0 .bottom).AtRest .full := by
    unfold SingleEncoder.AtRest
    decide
  refine ⟨hrest, ?_⟩
  obtain ⟨hcounts, htaken, hround⟩ := encoder_counts (controller1 0) hrest
    [.edge 26 false 10, .edge 20 false 12, .poll, .edge 20 true 13, .edge 20 false 14,
      .edge 26 true 20, .edge 20 true 25]
  exact (hround rfl 20 (Nat.le_refl 20)).trans (by decide)

end Controller

end Gpio
