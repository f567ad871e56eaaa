import Pihpsdr.Transmit.Lemmas.Keyer

/-!
The iambic law of the keyer: which element follows another one, and what a squeeze produces.
-/

namespace Transmit

inductive Paddle where
  | dot
  | dash
  deriving DecidableEq

namespace Paddle

def other : Paddle → Paddle
  | dot => dash
  | dash => dot

-- the state in which the element starts
def starts : Paddle → KeyState
  | dot => .predot
  | dash => .predash

-- the state at the end of its gap
def ends : Paddle → KeyState
  | dot => .afterdot
  | dash => .afterdash

-- the first elements of a sequence that begins with that of this paddle
def alternating (p : Paddle) : Nat → List Paddle
  | 0 => []
  | n + 1 => p :: p.other.alternating n

@[simp]
theorem other_other (p : Paddle) : p.other.other = p := by
  cases p <;> rfl

end Paddle

def Element.paddle? : Element → Option Paddle
  | .dot _ => some .dot
  | .dash _ _ => some .dash
  | .held _ => none

namespace Keyer

-- the automatic elements
def sent (s : Keyer) : List Paddle :=
  s.elements.filterMap Element.paddle?

def held (s : Keyer) : Paddle → Bool
  | .dot => s.kdot
  | .dash => s.kdash

def memory (s : Keyer) : Paddle → Bool
  | .dot => s.dotMemory
  | .dash => s.dashMemory

-- `dot_held` and `dash_held`
def heldAtStart (s : Keyer) : Paddle → Bool
  | .dot => s.dotHeld
  | .dash => s.dashHeld

-- the paddle is hit, with the assignment of the paddles at this time
def Hits (s : Keyer) (p : Paddle) : KeyerInput → Prop
  | .keyerEvent left true => p = if left = s.reversed then .dash else .dot
  | _ => False

instance (s : Keyer) (p : Paddle) (e : KeyerInput) : Decidable (s.Hits p e) := by
  unfold Hits
  split <;> infer_instance

variable (toInt : Nat → Int)

def HitIn (s : Keyer) (p : Paddle) (es : List KeyerInput) : Prop :=
  Run.Sometime (step toInt) (fun s e => s.Hits p e) s es

instance (s : Keyer) (p : Paddle) (es : List KeyerInput) : Decidable (s.HitIn toInt p es) :=
  inferInstanceAs (Decidable (Run.Sometime _ _ _ _))

def letterEndState (s : Keyer) : KeyState :=
  if s.menu.spacing then .letterspace else .exitloop

theorem held_eq {s t : Keyer} (h : t.surroundings = s.surroundings) (p : Paddle)
    : t.held p = s.held p := by
  have hkdot (s : Keyer)
      : s.kdot = if s.surroundings.reversed then s.surroundings.kcwr else s.surroundings.kcwl := rfl
  cases p with
  | dot =>
    show t.kdot = s.kdot
    rw [hkdot, hkdot, h]
  | dash => exact kdash_eq h

theorem SameStream.sent {s t : Keyer} (h : SameStream s t) : t.sent = s.sent := by
  rw [Keyer.sent, Keyer.sent, h.elements]

-- the start of an element
structure Starts (p : Paddle) (s s' : Keyer) : Prop where
  frame : s'.frame = s.frame
  keyState : s'.keyState = p.ends
  memory : s'.memory p.other = false
  heldAtStart : s'.heldAtStart p.other = s.held p.other
  sent : s'.sent = s.sent ++ [p]

-- a step of the thread inside its loop
theorem thread_eq {s : Keyer} (hphase : s.phase = .looping) (h : s.keyState ≠ .exitloop)
    : s.thread toInt
        =
      match s.keyState with
      | .exitloop => s.retriggerVox.exitloop
      | .check => s.retriggerVox.check
      | .straight => s.retriggerVox.straight toInt
      | .predot => s.retriggerVox.predot
      | .afterdot => s.retriggerVox.afterdot
      | .predash => s.retriggerVox.predash
      | .afterdash => s.retriggerVox.afterdash
      | .letterspace => s.retriggerVox.letterspace := by
  unfold thread loop
  cases hkey : s.keyState
  case exitloop => exact absurd hkey h
  all_goals simp [hphase, hkey, (sameStream_retriggerVox s).keyState]

theorem starts_thread {s : Keyer} {p : Paddle} (hphase : s.phase = .looping)
    (h : s.keyState = p.starts)
    : Starts p s (s.thread toInt) := by
  have hvox := frame_retriggerVox s
  have hheld := held_eq (surroundings_of_frame hvox)
  have hsent : s.retriggerVox.sent = s.sent := (sameStream_retriggerVox s).sent
  cases p with
  | dot =>
    have hthread : s.thread toInt = s.retriggerVox.predot := by
      rw [thread_eq toInt hphase (by simp [h, Paddle.starts]), h]
      rfl
    rw [hthread]
    refine ⟨hvox, rfl, rfl, hheld .dash, ?_⟩
    rw [← hsent]
    simp [sent, predot, txQueueCwEvent, Element.paddle?]
  | dash =>
    have hthread : s.thread toInt = s.retriggerVox.predash := by
      rw [thread_eq toInt hphase (by simp [h, Paddle.starts]), h]
      rfl
    rw [hthread]
    refine ⟨hvox, rfl, rfl, hheld .dot, ?_⟩
    rw [← hsent]
    simp [sent, predash, txQueueCwEvent, Element.paddle?]

-- what happens before the next step of the thread: its own fields stay, the memories are triggered
structure Meanwhile (s s' : Keyer) (hit : Paddle → Prop) : Prop where
  phase : s'.phase = s.phase
  keyState : s'.keyState = s.keyState
  heldAtStart : s'.heldAtStart = s.heldAtStart
  elements : s'.elements = s.elements
  kdelay : s'.kdelay = s.kdelay
  memory : ∀ p, s'.memory p = true ↔ s.memory p = true ∨ hit p

theorem memory_keyerEvent (s : Keyer) (left state : Bool) (p : Paddle)
    : (s.keyerEvent left state).memory p = true
        ↔
      s.memory p = true ∨ s.Hits p (.keyerEvent left state) := by
  cases p with
  | dot =>
    show (s.dotMemory || state && left != s.reversed) = true ↔ s.dotMemory = true ∨ _
    cases state
    . simp [Hits]
    . by_cases h : left = s.reversed
      . simp [Hits, h]
      . simp [Hits, h]
  | dash =>
    show (s.dashMemory || state && left == s.reversed) = true ↔ s.dashMemory = true ∨ _
    cases state
    . simp [Hits]
    . by_cases h : left = s.reversed
      . simp [Hits, h]
      . simp [Hits, h]

theorem meanwhile_step (s : Keyer) {e : KeyerInput} (he : e ≠ .thread)
    : Meanwhile s (s.step toInt e) (fun p => s.Hits p e) := by
  cases e with
  | thread => exact absurd rfl he
  | keyerEvent left state =>
    exact ⟨rfl, rfl, rfl, rfl, rfl, fun p => memory_keyerEvent s left state p⟩
  | _ => exact ⟨rfl, rfl, rfl, rfl, rfl, fun p => (or_iff_left id).symm⟩

theorem hitIn_cons (s : Keyer) (p : Paddle) (e : KeyerInput) (es : List KeyerInput)
    : s.HitIn toInt p (e :: es) ↔ s.Hits p e ∨ (s.step toInt e).HitIn toInt p es := Iff.rfl

theorem meanwhile_run (s : Keyer) {es : List KeyerInput} (hes : .thread ∉ es)
    : Meanwhile s (s.run toInt es) (fun p => s.HitIn toInt p es) := by
  induction es generalizing s with
  | nil => exact ⟨rfl, rfl, rfl, rfl, rfl, fun p => by simp [run, HitIn]⟩
  | cons e es ih =>
    rw [List.mem_cons, not_or] at hes
    have hstep := meanwhile_step toInt s (Ne.symm hes.1)
    have hrun := ih (s.step toInt e) hes.2
    refine ⟨hrun.phase.trans hstep.phase, hrun.keyState.trans hstep.keyState,
      hrun.heldAtStart.trans hstep.heldAtStart, hrun.elements.trans hstep.elements,
      hrun.kdelay.trans hstep.kdelay, ?_⟩
    intro p
    have hmemory := hrun.memory p
    rw [hstep.memory p, or_assoc, ← hitIn_cons] at hmemory
    exact hmemory

-- after the element of `p` comes that of the other paddle
def Opposite (s : Keyer) (p : Paddle) : Prop :=
  s.memory p.other = true ∨ s.held p.other = true
    ∨ s.heldAtStart p.other = true
      ∧ (s.menu.mode = .modeB ∨ s.held p = true ∨ s.held p.other = true)

instance (s : Keyer) (p : Paddle) : Decidable (s.Opposite p) :=
  inferInstanceAs (Decidable (_ ∨ _))

-- the end of a gap: the decision on the next element
structure Decides (p : Paddle) (s s' : Keyer) : Prop where
  frame : s'.frame = s.frame
  sent : s'.sent = s.sent
  keyState :
    s'.keyState =
      if s.Opposite p then p.other.starts
      else if s.held p = true then p.starts
      else s.letterEndState

theorem not_released_iff {s : Keyer} (hmode : s.menu.mode ≠ .straight)
    : ¬(s.menu.mode = .modeA ∧ ¬s.kdot = true ∧ ¬s.kdash = true)
        ↔
      s.menu.mode = .modeB ∨ s.kdot = true ∨ s.kdash = true := by
  cases h : s.menu.mode with
  | straight => exact absurd h hmode
  | modeA => simp [or_iff_not_imp_left]
  | modeB => simp

theorem dashHeld_releaseDash {s : Keyer} (hmode : s.menu.mode ≠ .straight)
    : s.releaseDash.dashHeld = true
        ↔
      s.dashHeld = true ∧ (s.menu.mode = .modeB ∨ s.kdot = true ∨ s.kdash = true) := by
  rw [← not_released_iff hmode]
  unfold releaseDash
  split
  next h => simp [h]
  next h => simp only [h, not_false_eq_true, and_true]

theorem dotHeld_releaseDot {s : Keyer} (hmode : s.menu.mode ≠ .straight)
    : s.releaseDot.dotHeld = true
        ↔
      s.dotHeld = true ∧ (s.menu.mode = .modeB ∨ s.kdot = true ∨ s.kdash = true) := by
  rw [← not_released_iff hmode]
  unfold releaseDot
  split
  next h => simp [h]
  next h => simp only [h, not_false_eq_true, and_true]

theorem releaseDash_memory (s : Keyer) : s.releaseDash.memory = s.memory := by
  unfold releaseDash
  split
  . rfl
  . rfl

theorem releaseDot_memory (s : Keyer) : s.releaseDot.memory = s.memory := by
  unfold releaseDot
  split
  . rfl
  . rfl

theorem letterEnd_spec (s : Keyer)
    : s.letterEnd.frame = s.frame ∧ s.letterEnd.sent = s.sent
      ∧ s.letterEnd.keyState = s.letterEndState := by
  unfold letterEnd letterEndState
  split
  . exact ⟨rfl, rfl, rfl⟩
  . exact ⟨rfl, rfl, rfl⟩

theorem afterdot_eq {s : Keyer} (hmode : s.menu.mode ≠ .straight)
    : s.afterdot
        =
      if s.Opposite .dot then { s.releaseDash with keyState := .predash }
      else if s.kdot = true then { s.releaseDash with keyState := .predot }
      else s.releaseDash.letterEnd := by
  have hsurroundings := surroundings_of_frame (frame_releaseDash s)
  have hkdot : s.releaseDash.kdot = s.kdot := held_eq hsurroundings .dot
  have hkdash : s.releaseDash.kdash = s.kdash := held_eq hsurroundings .dash
  have hmemory : s.releaseDash.dashMemory = s.dashMemory := congrFun (releaseDash_memory s) .dash
  have hdash : (s.releaseDash.dashMemory || s.releaseDash.kdash || s.releaseDash.dashHeld) = true
      ↔ s.Opposite .dot := by
    rw [Bool.or_eq_true, Bool.or_eq_true, dashHeld_releaseDash hmode, or_assoc, hkdash, hmemory]
    rfl
  unfold afterdot
  rw [if_neg hmode]
  dsimp only
  rw [hkdot]
  exact if_congr hdash rfl rfl

theorem afterdash_eq {s : Keyer} (hmode : s.menu.mode ≠ .straight)
    : s.afterdash
        =
      if s.Opposite .dash then { s.releaseDot with keyState := .predot }
      else if s.kdash = true then { s.releaseDot with keyState := .predash }
      else s.releaseDot.letterEnd := by
  have hsurroundings := surroundings_of_frame (frame_releaseDot s)
  have hkdot : s.releaseDot.kdot = s.kdot := held_eq hsurroundings .dot
  have hkdash : s.releaseDot.kdash = s.kdash := held_eq hsurroundings .dash
  have hmemory : s.releaseDot.dotMemory = s.dotMemory := congrFun (releaseDot_memory s) .dot
  have hdot : (s.releaseDot.dotMemory || s.releaseDot.kdot || s.releaseDot.dotHeld) = true
      ↔ s.Opposite .dash := by
    rw [Bool.or_eq_true, Bool.or_eq_true, dotHeld_releaseDot hmode, or_assoc, hkdot, hmemory,
      or_comm (a := s.kdot = true) (b := s.kdash = true)]
    rfl
  unfold afterdash
  dsimp only
  rw [hkdash]
  exact if_congr hdot rfl rfl

-- both decisions have this form, with another field of the element released
theorem decides_of_eq {p : Paddle} {s t s' : Keyer} (hframe : t.frame = s.frame)
    (hsent : t.sent = s.sent)
    (hs' : s' = if s.Opposite p then { t with keyState := p.other.starts }
      else if s.held p = true then { t with keyState := p.starts } else t.letterEnd)
    : Decides p s s' := by
  have hend : t.letterEndState = s.letterEndState := by
    rw [letterEndState, letterEndState, show t.menu = s.menu from congrArg (fun f => f.1.menu) hframe]
  have ⟨hletterFrame, hletterSent, hletterState⟩ := letterEnd_spec t
  rw [hs']
  by_cases hopposite : s.Opposite p
  . rw [if_pos hopposite]
    exact ⟨hframe, hsent, (if_pos hopposite).symm⟩
  . rw [if_neg hopposite]
    by_cases hheld : s.held p = true
    . rw [if_pos hheld]
      exact ⟨hframe, hsent, ((if_neg hopposite).trans (if_pos hheld)).symm⟩
    . rw [if_neg hheld]
      refine ⟨hletterFrame.trans hframe, hletterSent.trans hsent, ?_⟩
      rw [hletterState, hend]
      exact ((if_neg hopposite).trans (if_neg hheld)).symm

theorem decides_afterdot {s : Keyer} (hmode : s.menu.mode ≠ .straight)
    : Decides .dot s s.afterdot :=
  decides_of_eq (frame_releaseDash s) (sameStream_releaseDash s).sent (afterdot_eq hmode)

theorem decides_afterdash {s : Keyer} (hmode : s.menu.mode ≠ .straight)
    : Decides .dash s s.afterdash :=
  decides_of_eq (frame_releaseDot s) (sameStream_releaseDot s).sent (afterdash_eq hmode)

theorem memory_retriggerVox (s : Keyer) : s.retriggerVox.memory = s.memory := by
  unfold retriggerVox
  split
  . rfl
  . rfl

theorem heldAtStart_retriggerVox (s : Keyer) : s.retriggerVox.heldAtStart = s.heldAtStart := by
  unfold retriggerVox
  split
  . rfl
  . rfl

-- the fields that the decision depends on are not those of the VOX
theorem Decides.of_retriggerVox {p : Paddle} {s s' : Keyer} (h : Decides p s.retriggerVox s')
    : Decides p s s' := by
  have hframe := frame_retriggerVox s
  have hsurroundings := surroundings_of_frame hframe
  have hheld := held_eq hsurroundings
  have hmenu : s.retriggerVox.menu = s.menu := congrArg Surroundings.menu hsurroundings
  have hmemory := memory_retriggerVox s
  have hstart := heldAtStart_retriggerVox s
  have hsent : s.retriggerVox.sent = s.sent := (sameStream_retriggerVox s).sent
  have hopposite : s.retriggerVox.Opposite p ↔ s.Opposite p := by
    unfold Opposite
    rw [hmemory, hstart, hheld, hheld, hmenu]
  have hend : s.retriggerVox.letterEndState = s.letterEndState := by
    rw [letterEndState, letterEndState, hmenu]
  refine ⟨h.frame.trans hframe, h.sent.trans hsent, h.keyState.trans ?_⟩
  apply if_congr hopposite rfl
  rw [hheld, hend]

theorem decides_thread {s : Keyer} {p : Paddle} (hphase : s.phase = .looping)
    (h : s.keyState = p.ends) (hmode : s.menu.mode ≠ .straight)
    : Decides p s (s.thread toInt) := by
  have hmode' : s.retriggerVox.menu.mode ≠ .straight := by
    rw [show s.retriggerVox.menu = s.menu from
      congrArg Surroundings.menu (surroundings_of_frame (frame_retriggerVox s))]
    exact hmode
  apply Decides.of_retriggerVox
  cases p with
  | dot =>
    rw [thread_eq toInt hphase (by simp [h, Paddle.ends]), h]
    exact decides_afterdot hmode'
  | dash =>
    rw [thread_eq toInt hphase (by simp [h, Paddle.ends]), h]
    exact decides_afterdash hmode'

theorem run_cons (s : Keyer) (e : KeyerInput) (es : List KeyerInput)
    : s.run toInt (e :: es) = (s.step toInt e).run toInt es := rfl

theorem step_thread (s : Keyer) : s.step toInt .thread = s.thread toInt := rfl

theorem Meanwhile.sent {s s' : Keyer} {hit : Paddle → Prop} (h : Meanwhile s s' hit)
    : s'.sent = s.sent := by
  rw [Keyer.sent, Keyer.sent, h.elements]

theorem phase_of_frame {s t : Keyer} (h : t.frame = s.frame) : t.phase = s.phase :=
  congrArg Prod.snd h

-- from the start of an element to the decision on the next one
theorem element_after {s : Keyer} {p : Paddle} (hphase : s.phase = .looping)
    (h : s.keyState = p.starts) {mid : List KeyerInput} (hmid : .thread ∉ mid)
    (hmode : ((s.thread toInt).run toInt mid).menu.mode ≠ .straight)
    : let started := s.thread toInt
      let ended := started.run toInt mid
      let next := ended.thread toInt
      next.keyState
          = (if started.HitIn toInt p.other mid ∨ ended.held p.other = true
              ∨ s.held p.other = true
                ∧ (ended.menu.mode = .modeB ∨ ended.held p = true ∨ ended.held p.other = true) then
            p.other.starts
          else if ended.held p = true then
            p.starts
          else
            ended.letterEndState)
        ∧ next.phase = .looping ∧ next.sent = s.sent ++ [p] := by
  have hstart := starts_thread toInt hphase h
  have hmeanwhile := meanwhile_run toInt (s.thread toInt) hmid
  have hlooping : ((s.thread toInt).run toInt mid).phase = .looping :=
    hmeanwhile.phase.trans ((phase_of_frame hstart.frame).trans hphase)
  have hdecides := decides_thread toInt hlooping (hmeanwhile.keyState.trans hstart.keyState) hmode
  have hstate := hdecides.keyState
  simp only [Opposite, hmeanwhile.memory, hstart.memory, Bool.false_eq_true, false_or,
    hmeanwhile.heldAtStart, hstart.heldAtStart] at hstate
  refine ⟨hstate, (phase_of_frame hdecides.frame).trans hlooping, ?_⟩
  rw [hdecides.sent, hmeanwhile.sent, hstart.sent]

-- what has been decided is sent with the next step
theorem sent_next {s : Keyer} {p : Paddle} (hphase : s.phase = .looping)
    (h : s.keyState = p.starts) {mid : List KeyerInput} (hmid : .thread ∉ mid)
    : ((s.run toInt mid).thread toInt).sent = s.sent ++ [p] := by
  have hmeanwhile := meanwhile_run toInt s hmid
  rw [(starts_thread toInt (hmeanwhile.phase.trans hphase) (hmeanwhile.keyState.trans h)).sent,
    hmeanwhile.sent]

def Squeezed (s : Keyer) : Prop :=
  s.held .dot = true ∧ s.held .dash = true ∧ s.menu.mode ≠ .straight

theorem Squeezed.held {s : Keyer} (h : s.Squeezed) (p : Paddle) : s.held p = true := by
  cases p with
  | dot => exact h.1
  | dash => exact h.2.1

def threads (es : List KeyerInput) : Nat :=
  es.countP fun e => e matches .thread

-- an element takes two steps of the thread
theorem squeeze_alternates {s : Keyer} {p : Paddle} (hphase : s.phase = .looping)
    {es : List KeyerInput} (hes : Run.Along (step toInt) (fun s _ => s.Squeezed) s es)
    : (s.keyState = p.starts →
          (s.run toInt es).sent = s.sent ++ p.alternating ((threads es + 1) / 2))
        ∧ (s.keyState = p.ends →
          (s.run toInt es).sent = s.sent ++ p.other.alternating (threads es / 2)) := by
  induction es generalizing s p with
  | nil =>
    constructor
    . intro _
      exact (List.append_nil _).symm
    . intro _
      exact (List.append_nil _).symm
  | cons e es ih =>
    rw [Run.along_cons] at hes
    have ⟨hnow, hlater⟩ := hes
    by_cases he : e = .thread
    . rw [he] at hlater ⊢
      rw [step_thread] at hlater
      have hcount : threads (.thread :: es) = threads es + 1 := by simp [threads]
      rw [run_cons, step_thread, hcount]
      constructor
      . intro h
        have hstart := starts_thread toInt hphase h
        have hnext := (ih (p := p) ((phase_of_frame hstart.frame).trans hphase) hlater).2
          hstart.keyState
        rw [hnext, hstart.sent, show (threads es + 1 + 1) / 2 = threads es / 2 + 1 by omega,
          List.append_assoc]
        rfl
      . intro h
        have hdecides := decides_thread toInt hphase h hnow.2.2
        have hstate : (s.thread toInt).keyState = p.other.starts := by
          rw [hdecides.keyState, if_pos (.inr (.inl (hnow.held p.other)))]
        have hnext := (ih (p := p.other) ((phase_of_frame hdecides.frame).trans hphase) hlater).1
          hstate
        rw [hnext, hdecides.sent]
    . have hstep := meanwhile_step toInt s he
      have hcount : threads (e :: es) = threads es := by
        unfold threads
        rw [List.countP_cons_of_neg]
        cases e with
        | thread => exact absurd rfl he
        | _ => simp
      rw [run_cons, hcount, ← hstep.sent, ← hstep.keyState]
      exact ih (hstep.phase.trans hphase) hlater

end Keyer

end Transmit
