import Pihpsdr.Transmit.Lemmas.Iambic

/-!
Where the modes A and B of the keyer differ: by the one element of the other paddle that mode B sends after
both have been released.
-/

namespace Transmit

namespace Keyer

variable (toInt : Nat → Int)

def inMode (s : Keyer) (m : KeyerMode) : Keyer :=
  { s with menu := { s.menu with mode := m } }

-- the settings are changed in the same way, but for the mode
def inputInMode (m : KeyerMode) : KeyerInput → KeyerInput
  | .menu menu => .menu { menu with mode := m }
  | e => e

-- another mode, and values of `dot_held` and `dash_held` that are left over
def varied (s : Keyer) (m : KeyerMode) (dotHeld dashHeld : Bool) : Keyer :=
  { s.inMode m with dotHeld, dashHeld }

section Varied

variable {s : Keyer} {m : KeyerMode} {x y : Bool}

theorem varied_ite (c : Prop) [Decidable c] (t : Keyer)
    : (if c then s else t).varied m x y = if c then s.varied m x y else t.varied m x y :=
  apply_ite (fun u => u.varied m x y) c s t

theorem varied_exitloop : (s.varied m x y).exitloop = s.exitloop.varied m x y := by
  unfold exitloop
  dsimp only
  rw [varied_ite, varied_ite]
  rfl

theorem varied_countVox : (s.varied m x y).countVox = s.countVox.varied m x y := by
  unfold countVox
  rw [varied_ite]
  rfl

theorem varied_check (hm : m ≠ .straight) (hs : s.menu.mode ≠ .straight)
    : (s.varied m x y).check = s.check.varied m x y := by
  have hcount : { s.varied m x y with keyState := .exitloop }.countVox
      = { s with keyState := .exitloop }.countVox.varied m x y :=
    @varied_countVox { s with keyState := .exitloop } m x y
  have hmenu : { s with keyState := .exitloop }.countVox.menu = s.menu :=
    congrArg (fun f => f.1.menu) (frame_countVox { s with keyState := .exitloop })
  unfold check
  rw [hcount]
  generalize { s with keyState := .exitloop }.countVox = t at hmenu ⊢
  have hmode : t.menu.mode ≠ .straight := by
    rw [hmenu]
    exact hs
  have hmode' : (t.varied m x y).menu.mode ≠ .straight := hm
  dsimp only
  rw [if_neg hmode, if_neg hmode', varied_ite]
  have hkdash : (t.varied m x y).kdash = t.kdash := rfl
  by_cases h : t.kdash = true
  . rw [hkdash, if_pos h, if_pos h]
    rfl
  . rw [hkdash, if_neg h, if_neg h]
    rfl

theorem varied_straight
    : (s.varied m x y).straight toInt = (s.straight toInt).varied m x y := by
  unfold straight
  rw [varied_ite]
  rfl

theorem varied_letterEnd : (s.varied m x y).letterEnd = s.letterEnd.varied m x y := by
  unfold letterEnd
  rw [varied_ite]
  rfl

theorem varied_letterspace : (s.varied m x y).letterspace = s.letterspace.varied m x y := by
  unfold letterspace
  dsimp only
  rw [varied_ite]
  rfl

theorem varied_retriggerVox : (s.varied m x y).retriggerVox = s.retriggerVox.varied m x y := by
  unfold retriggerVox
  rw [varied_ite]
  rfl

theorem varied_wakeUp : (s.varied m x y).wakeUp = s.wakeUp.varied m x y := by
  unfold wakeUp
  dsimp only
  rw [varied_ite, varied_ite, varied_ite]
  rfl

theorem varied_releaseDash
    : ∃ y', (s.varied .modeA x y).releaseDash = s.varied .modeA x y' := by
  unfold releaseDash
  split
  . exact ⟨false, rfl⟩
  . exact ⟨y, rfl⟩

theorem varied_releaseDot
    : ∃ x', (s.varied .modeA x y).releaseDot = s.varied .modeA x' y := by
  unfold releaseDot
  split
  . exact ⟨false, rfl⟩
  . exact ⟨x, rfl⟩

/--
The modes differ at the end of a gap: both paddles have been released, the other one was held at the start of
the element but has not been hit since then.
-/
def Released (s : Keyer) (p : Paddle) : Prop :=
  s.held p = false ∧ s.held p.other = false ∧ s.memory p.other = false
    ∧ s.heldAtStart p.other = true

theorem opposite_varied {p : Paddle} (hs : s.menu.mode = .modeB) (h : ¬s.Released p)
    (hheld : (s.varied .modeA x y).heldAtStart p.other = s.heldAtStart p.other)
    : (s.varied .modeA x y).Opposite p ↔ s.Opposite p := by
  have hmode : (s.varied .modeA x y).menu.mode ≠ .modeB := by
    show KeyerMode.modeA ≠ .modeB
    decide
  have hmemory : (s.varied .modeA x y).memory = s.memory := rfl
  have hpaddles : (s.varied .modeA x y).held = s.held := rfl
  unfold Opposite
  rw [hheld, hmemory, hpaddles]
  unfold Released at h
  simp only [hs, hmode, false_or, true_or, and_true]
  cases hp : s.held p <;> cases ho : s.held p.other <;> cases hm : s.memory p.other <;>
    cases hh : s.heldAtStart p.other <;> simp_all

theorem varied_afterdot (hs : s.menu.mode = .modeB) (h : ¬s.Released .dot)
    : ∃ y, (s.varied .modeA x s.dashHeld).afterdot = s.afterdot.varied .modeA x y := by
  have hrelease : s.releaseDash = s := if_neg (by simp [hs])
  have ⟨y, hrelease'⟩ := @varied_releaseDash s x s.dashHeld
  have hmode : (s.varied .modeA x s.dashHeld).menu.mode ≠ .straight := by
    show KeyerMode.modeA ≠ .straight
    decide
  refine ⟨y, ?_⟩
  rw [afterdot_eq hmode, afterdot_eq (by simp [hs]), hrelease, hrelease', varied_ite, varied_ite]
  apply if_congr (opposite_varied hs h rfl) rfl
  apply if_congr Iff.rfl rfl
  exact varied_letterEnd

theorem varied_afterdash (hs : s.menu.mode = .modeB) (h : ¬s.Released .dash)
    : ∃ x, (s.varied .modeA s.dotHeld y).afterdash = s.afterdash.varied .modeA x y := by
  have hrelease : s.releaseDot = s := if_neg (by simp [hs])
  have ⟨x, hrelease'⟩ := @varied_releaseDot s s.dotHeld y
  have hmode : (s.varied .modeA s.dotHeld y).menu.mode ≠ .straight := by
    show KeyerMode.modeA ≠ .straight
    decide
  refine ⟨x, ?_⟩
  rw [afterdash_eq hmode, afterdash_eq (by simp [hs]), hrelease, hrelease', varied_ite, varied_ite]
  apply if_congr (opposite_varied hs h rfl) rfl
  apply if_congr Iff.rfl rfl
  exact varied_letterEnd

-- a step of the thread that does not depend on what was held at the start of an element
theorem varied_thread (hm : m ≠ .straight) (hs : s.menu.mode ≠ .straight)
    (hstart : s.phase = .looping → s.keyState ≠ .predot ∧ s.keyState ≠ .predash)
    (hend : s.phase = .looping → s.keyState ≠ .afterdot ∧ s.keyState ≠ .afterdash)
    : (s.varied m x y).thread toInt = (s.thread toInt).varied m x y := by
  have hphase : (s.varied m x y).phase = s.phase := rfl
  unfold thread
  rw [hphase]
  split
  . exact varied_wakeUp
  . rw [varied_ite]
    rfl
  next hlooping =>
    have ⟨hpredot, hpredash⟩ := hstart hlooping
    have ⟨hafterdot, hafterdash⟩ := hend hlooping
    have hmenu : s.retriggerVox.menu = s.menu :=
      congrArg (fun f => f.1.menu) (frame_retriggerVox s)
    have hstate := (sameStream_retriggerVox s).keyState
    have hstate' : (s.retriggerVox.varied m x y).keyState = s.keyState := hstate
    unfold loop
    dsimp only
    rw [varied_ite, varied_retriggerVox, hstate, hstate']
    apply if_congr Iff.rfl rfl
    cases h : s.keyState with
    | exitloop => exact varied_exitloop
    | check => exact varied_check hm (by rw [hmenu]; exact hs)
    | straight => exact varied_straight toInt
    | letterspace => exact varied_letterspace
    | predot => exact absurd h hpredot
    | predash => exact absurd h hpredash
    | afterdot => exact absurd h hafterdot
    | afterdash => exact absurd h hafterdash
  . rw [varied_ite]
    rfl

end Varied

-- `a` in mode A and `b` in mode B: what is left over counts only at the end of an element of the other paddle
def AgreeInModes (a b : Keyer) : Prop :=
  b.menu.mode = .modeB
    ∧ ∃ x y, a = b.varied .modeA x y
      ∧ (b.keyState = .afterdash → x = b.dotHeld) ∧ (b.keyState = .afterdot → y = b.dashHeld)

theorem AgreeInModes.elements {a b : Keyer} (h : AgreeInModes a b)
    : a.elements = b.elements ∧ a.queued = b.queued := by
  have ⟨_, x, y, ha, _⟩ := h
  rw [ha]
  exact ⟨rfl, rfl⟩

theorem agree_inMode (s : Keyer) : AgreeInModes (s.inMode .modeA) (s.inMode .modeB) :=
  ⟨rfl, s.dotHeld, s.dashHeld, rfl, fun _ => rfl, fun _ => rfl⟩

theorem agree_step {a b : Keyer} (h : AgreeInModes a b) {e : KeyerInput} (he : e ≠ .thread)
    : AgreeInModes (a.step toInt (inputInMode .modeA e)) (b.step toInt (inputInMode .modeB e)) := by
  have ⟨hmode, x, y, ha, hx, hy⟩ := h
  rw [ha]
  cases e with
  | thread => exact absurd rfl he
  | menu menu => exact ⟨rfl, x, y, rfl, hx, hy⟩
  | _ => exact ⟨hmode, x, y, rfl, hx, hy⟩

-- the ends of the elements are reached from their starts
theorem keyState_check (s : Keyer) : s.check.keyState ≠ .afterdot ∧ s.check.keyState ≠ .afterdash := by
  have hstate : { s with keyState := .exitloop }.countVox.keyState = .exitloop :=
    (sameStream_countVox { s with keyState := .exitloop }).keyState
  unfold check
  generalize { s with keyState := .exitloop }.countVox = t at hstate ⊢
  dsimp only
  split
  . split
    . split
      . simp
      . simp
    . split
      . simp
      . simp [hstate]
  . split
    . split
      . simp
      . simp
    . split
      . simp
      . simp [hstate]

theorem keyState_of_decides {p : Paddle} {s s' : Keyer} (h : Decides p s s')
    : s'.keyState ≠ .afterdot ∧ s'.keyState ≠ .afterdash := by
  have hstarts (q : Paddle) : q.starts ≠ .afterdot ∧ q.starts ≠ .afterdash := by
    cases q
    . decide
    . decide
  rw [h.keyState]
  split
  . exact hstarts p.other
  . split
    . exact hstarts p
    . unfold letterEndState
      split
      . decide
      . decide

theorem keyState_thread {s : Keyer} (hphase : s.phase = .looping)
    (hpredot : s.keyState ≠ .predot) (hpredash : s.keyState ≠ .predash)
    (hafterdot : s.keyState ≠ .afterdot) (hafterdash : s.keyState ≠ .afterdash)
    : (s.thread toInt).keyState ≠ .afterdot ∧ (s.thread toInt).keyState ≠ .afterdash := by
  have hstate := (sameStream_retriggerVox s).keyState
  by_cases hexit : s.keyState = .exitloop
  . unfold thread
    rw [hphase]
    dsimp only
    unfold loop
    split
    . simp [hexit]
    . dsimp only
      rw [hstate, hexit]
      dsimp only
      unfold exitloop
      dsimp only
      split
      . split
        . simp [hstate, hexit]
        . simp [hstate, hexit]
      . simp
  . rw [thread_eq toInt hphase hexit]
    cases h : s.keyState with
    | exitloop => exact absurd h hexit
    | check => exact keyState_check _
    | straight =>
      dsimp only
      unfold straight
      split
      . simp [hstate, h]
      . simp
    | letterspace =>
      dsimp only
      unfold letterspace
      dsimp only
      split
      . dsimp only
        split
        . simp
        . split
          . simp
          . simp
      . simp [hstate, h]
    | predot => exact absurd h hpredot
    | predash => exact absurd h hpredash
    | afterdot => exact absurd h hafterdot
    | afterdash => exact absurd h hafterdash

-- outside the loop
theorem keyState_idle {s : Keyer} (hphase : s.phase ≠ .looping)
    : (s.thread toInt).keyState = .check
      ∨ (s.thread toInt).keyState = s.keyState
        ∧ (s.thread toInt).heldAtStart = s.heldAtStart := by
  unfold thread
  split
  . unfold wakeUp
    split
    . exact .inr ⟨rfl, rfl⟩
    . dsimp only
      split
      . exact .inr ⟨rfl, rfl⟩
      . split
        . exact .inr ⟨rfl, rfl⟩
        . exact .inl rfl
  . split
    . exact .inr ⟨rfl, rfl⟩
    . exact .inl rfl
  next h => exact absurd h hphase
  . split
    . exact .inr ⟨rfl, rfl⟩
    . exact .inr ⟨rfl, rfl⟩

theorem modeB_thread {s : Keyer} (h : s.menu.mode = .modeB)
    : (s.thread toInt).menu.mode = .modeB := by
  rw [show (s.thread toInt).menu = s.menu from
    congrArg Surroundings.menu (surroundings_thread toInt s)]
  exact h

theorem released_retriggerVox (s : Keyer) (p : Paddle)
    : s.retriggerVox.Released p ↔ s.Released p := by
  have hheld := held_eq (surroundings_of_frame (frame_retriggerVox s))
  unfold Released
  rw [hheld, hheld, memory_retriggerVox, heldAtStart_retriggerVox]

theorem agree_starts {b : Keyer} {x y : Bool} {p : Paddle} (hphase : b.phase = .looping)
    (hstate : b.keyState = p.starts)
    : ∃ x' y', (b.varied .modeA x y).thread toInt = (b.thread toInt).varied .modeA x' y'
      ∧ ((b.thread toInt).keyState = .afterdash → x' = (b.thread toInt).dotHeld)
      ∧ ((b.thread toInt).keyState = .afterdot → y' = (b.thread toInt).dashHeld) := by
  have hne : b.keyState ≠ .exitloop := by
    rw [hstate]
    cases p <;> decide
  have hb := thread_eq toInt hphase hne
  have ha := thread_eq toInt (s := b.varied .modeA x y) hphase hne
  have hkeyState : (b.varied .modeA x y).keyState = p.starts := hstate
  rw [hstate] at hb
  rw [hkeyState, varied_retriggerVox] at ha
  rw [ha, hb]
  cases p with
  | dot => exact ⟨x, b.retriggerVox.kdash, rfl, fun h => by contradiction, fun _ => rfl⟩
  | dash => exact ⟨b.retriggerVox.kdot, y, rfl, fun _ => rfl, fun h => by contradiction⟩

theorem agree_ends {b : Keyer} {x y : Bool} {p : Paddle} (hmode : b.menu.mode = .modeB)
    (hphase : b.phase = .looping) (hstate : b.keyState = p.ends) (hreleased : ¬b.Released p)
    (hheld : (b.varied .modeA x y).heldAtStart p.other = b.heldAtStart p.other)
    : ∃ x' y', (b.varied .modeA x y).thread toInt = (b.thread toInt).varied .modeA x' y' := by
  have hne : b.keyState ≠ .exitloop := by
    rw [hstate]
    cases p <;> decide
  have hmode' : b.retriggerVox.menu.mode = .modeB := by
    rw [show b.retriggerVox.menu = b.menu from congrArg (fun f => f.1.menu) (frame_retriggerVox b)]
    exact hmode
  rw [← released_retriggerVox] at hreleased
  rw [← heldAtStart_retriggerVox b] at hheld
  have hb := thread_eq toInt hphase hne
  have ha := thread_eq toInt (s := b.varied .modeA x y) hphase hne
  have hkeyState : (b.varied .modeA x y).keyState = p.ends := hstate
  rw [hstate] at hb
  rw [hkeyState, varied_retriggerVox] at ha
  rw [ha, hb]
  cases p with
  | dot =>
    have hy : y = b.retriggerVox.dashHeld := hheld
    have ⟨y', hafterdot⟩ := @varied_afterdot b.retriggerVox x hmode' hreleased
    rw [hy]
    exact ⟨x, y', hafterdot⟩
  | dash =>
    have hx : x = b.retriggerVox.dotHeld := hheld
    have ⟨x', hafterdash⟩ := @varied_afterdash b.retriggerVox y hmode' hreleased
    rw [hx]
    exact ⟨x', y, hafterdash⟩

-- a step of the thread, other than for the element that mode B sends after both paddles were released
theorem agree_thread {a b : Keyer} (h : AgreeInModes a b)
    (hreleased : ∀ p : Paddle, b.phase = .looping → b.keyState = p.ends → ¬b.Released p)
    : AgreeInModes (a.thread toInt) (b.thread toInt) := by
  have ⟨hmode, x, y, ha, hx, hy⟩ := h
  have hmodeA : KeyerMode.modeA ≠ .straight := by decide
  have hstraight : b.menu.mode ≠ .straight := by simp [hmode]
  refine ⟨modeB_thread toInt hmode, ?_⟩
  rw [ha]
  by_cases hphase : b.phase = .looping
  . by_cases hends : ∃ p : Paddle, b.keyState = p.ends
    . have ⟨p, hstate⟩ := hends
      have hheld : (b.varied .modeA x y).heldAtStart p.other = b.heldAtStart p.other := by
        cases p with
        | dot => exact hy hstate
        | dash => exact hx hstate
      have ⟨x', y', hthread⟩ := agree_ends toInt hmode hphase hstate (hreleased p hphase hstate) hheld
      have ⟨hdot, hdash⟩ := keyState_of_decides (decides_thread toInt hphase hstate hstraight)
      exact ⟨x', y', hthread, fun h => absurd h hdash, fun h => absurd h hdot⟩
    . by_cases hstarts : ∃ p : Paddle, b.keyState = p.starts
      . have ⟨p, hstate⟩ := hstarts
        exact agree_starts toInt hphase hstate
      . have hne (p : Paddle) : b.keyState ≠ p.starts ∧ b.keyState ≠ p.ends :=
          ⟨fun h => hstarts ⟨p, h⟩, fun h => hends ⟨p, h⟩⟩
        have hother := keyState_thread toInt hphase (hne .dot).1 (hne .dash).1 (hne .dot).2
          (hne .dash).2
        refine ⟨x, y, ?_, fun h => absurd h hother.2, fun h => absurd h hother.1⟩
        exact varied_thread toInt hmodeA hstraight (fun _ => ⟨(hne .dot).1, (hne .dash).1⟩)
          (fun _ => ⟨(hne .dot).2, (hne .dash).2⟩)
  . refine ⟨x, y, ?_, ?_⟩
    . exact varied_thread toInt hmodeA hstraight (fun h => absurd h hphase)
        (fun h => absurd h hphase)
    . cases keyState_idle toInt hphase with
      | inl hcheck =>
        rw [hcheck]
        exact ⟨fun h => by contradiction, fun h => by contradiction⟩
      | inr hsame =>
        have hdotHeld : (b.thread toInt).dotHeld = b.dotHeld := congrFun hsame.2 .dot
        have hdashHeld : (b.thread toInt).dashHeld = b.dashHeld := congrFun hsame.2 .dash
        rw [hsame.1, hdotHeld, hdashHeld]
        exact ⟨hx, hy⟩

-- the end of an element that is sent in both modes, with both paddles released
structure Parts (p : Paddle) (a b : Keyer) : Prop where
  agree : AgreeInModes a b
  phase : b.phase = .looping
  keyState : b.keyState = p.ends
  released : b.Released p

-- two runs that differ in the mode agree up to the first time that both paddles were released in this way
theorem modes_run {a b : Keyer} (h : AgreeInModes a b) (es : List KeyerInput)
    : AgreeInModes (a.run toInt (es.map (inputInMode .modeA)))
          (b.run toInt (es.map (inputInMode .modeB)))
        ∨ ∃ pre post p, es = pre ++ .thread :: post
          ∧ Parts p (a.run toInt (pre.map (inputInMode .modeA)))
            (b.run toInt (pre.map (inputInMode .modeB))) := by
  induction es generalizing a b with
  | nil => exact .inl h
  | cons e es ih =>
    have hnext (hstep : AgreeInModes (a.step toInt (inputInMode .modeA e))
        (b.step toInt (inputInMode .modeB e))) := ih hstep
    by_cases hparts : e = .thread ∧ ∃ p, Parts p a b
    . have ⟨he, p, hp⟩ := hparts
      exact .inr ⟨[], es, p, by rw [he]; rfl, hp⟩
    . have hstep : AgreeInModes (a.step toInt (inputInMode .modeA e))
          (b.step toInt (inputInMode .modeB e)) := by
        by_cases he : e = .thread
        . rw [he]
          apply agree_thread toInt h
          intro p hphase hstate hreleased
          exact hparts ⟨he, p, h, hphase, hstate, hreleased⟩
        . exact agree_step toInt h he
      cases hnext hstep with
      | inl hagree => exact .inl hagree
      | inr hlater =>
        have ⟨pre, post, p, hes, hp⟩ := hlater
        exact .inr ⟨e :: pre, post, p, by rw [hes]; rfl, hp⟩

-- there mode A ends the letter, mode B goes on to the other element
theorem Parts.keyState_thread {p : Paddle} {a b : Keyer} (h : Parts p a b)
    : (a.thread toInt).keyState = a.letterEndState
      ∧ (b.thread toInt).keyState = p.other.starts := by
  have ⟨hmode, x, y, ha, _, _⟩ := h.agree
  have ⟨hheld, hother, hmemory, hstart⟩ := h.released
  have hamode : a.menu.mode = .modeA := by
    rw [ha]
    rfl
  have haheld (q : Paddle) : a.held q = b.held q := by
    rw [ha]
    rfl
  have hamemory : a.memory p.other = b.memory p.other := by
    rw [ha]
    rfl
  have haphase : a.phase = .looping := by
    rw [ha]
    exact h.phase
  have hastate : a.keyState = p.ends := by
    rw [ha]
    exact h.keyState
  have hA := decides_thread toInt haphase hastate (by simp [hamode])
  have hB := decides_thread toInt h.phase h.keyState (by simp [hmode])
  rw [hA.keyState, hB.keyState]
  constructor
  . rw [if_neg (by simp [Opposite, haheld, hamemory, hheld, hother, hmemory, hamode]),
      if_neg (by simp [haheld, hheld])]
  . rw [if_pos (.inr (.inr ⟨hstart, .inl hmode⟩))]

def NoPress (es : List KeyerInput) : Prop :=
  ∀ left, .keyerEvent left true ∉ es

theorem up_run {s : Keyer} (h : s.kcwl = false ∧ s.kcwr = false) {es : List KeyerInput}
    (hes : NoPress es)
    : (s.run toInt es).kcwl = false ∧ (s.run toInt es).kcwr = false := by
  induction es generalizing s with
  | nil => exact h
  | cons e es ih =>
    apply ih ?_ (fun left hmem => hes left (List.mem_cons_of_mem e hmem))
    cases e with
    | thread =>
      have hsame := surroundings_thread toInt s
      have hkcwl : (s.thread toInt).kcwl = s.kcwl := congrArg Surroundings.kcwl hsame
      have hkcwr : (s.thread toInt).kcwr = s.kcwr := congrArg Surroundings.kcwr hsame
      rw [step_thread, hkcwl, hkcwr]
      exact h
    | keyerEvent left state =>
      cases state with
      | true => exact absurd List.mem_cons_self (hes left)
      | false =>
        show (if left then false else s.kcwl) = false ∧ (if left then s.kcwr else false) = false
        simp [h]
    | _ => exact h

theorem held_of_up {s : Keyer} (h : s.kcwl = false ∧ s.kcwr = false) (p : Paddle)
    : s.held p = false := by
  cases p with
  | dot =>
    show (if s.reversed then s.kcwr else s.kcwl) = false
    simp [h]
  | dash =>
    show (if s.reversed then s.kcwl else s.kcwr) = false
    simp [h]

theorem up_of_held {s : Keyer} {p : Paddle} (h : s.held p = false) (hother : s.held p.other = false)
    : s.kcwl = false ∧ s.kcwr = false := by
  have hboth : s.kdot = false ∧ s.kdash = false := by
    cases p with
    | dot => exact ⟨h, hother⟩
    | dash => exact ⟨hother, h⟩
  unfold kdot kdash at hboth
  split at hboth
  . exact ⟨hboth.2, hboth.1⟩
  . exact hboth

theorem not_hits_of_noPress {s : Keyer} {p : Paddle} {e : KeyerInput}
    (h : ∀ left, e ≠ .keyerEvent left true)
    : ¬s.Hits p e := by
  cases e with
  | keyerEvent left state =>
    cases state with
    | true => exact absurd rfl (h left)
    | false => simp [Hits]
  | _ => simp [Hits]

theorem not_hitIn_of_noPress {s : Keyer} {p : Paddle} {es : List KeyerInput} (h : NoPress es)
    : ¬s.HitIn toInt p es := by
  apply Run.not_sometime_of_along (P := fun _ e => ∀ left, e ≠ .keyerEvent left true)
  . intro s e he
    exact not_hits_of_noPress he
  . apply Run.along_of_forall_mem
    intro e he left heq
    rw [heq] at he
    exact h left he

-- the one element after a release: the letter ends with it, unless a paddle is hit again
theorem one_extra {s : Keyer} {p : Paddle} (hphase : s.phase = .looping)
    (hstate : s.keyState = p.starts) (hup : s.kcwl = false ∧ s.kcwr = false)
    {before mid : List KeyerInput} (hbefore : .thread ∉ before) (hmid : .thread ∉ mid)
    (hpress : NoPress (before ++ mid))
    (hmode : (((s.run toInt before).thread toInt).run toInt mid).menu.mode ≠ .straight)
    : let ended := ((s.run toInt before).thread toInt).run toInt mid
      (ended.thread toInt).sent = s.sent ++ [p]
        ∧ (ended.thread toInt).keyState = ended.letterEndState := by
  have hpressBefore : NoPress before := fun left h => hpress left (List.mem_append_left mid h)
  have hpressMid : NoPress mid := fun left h => hpress left (List.mem_append_right before h)
  have hmeanwhile := meanwhile_run toInt s hbefore
  have hupBefore := up_run toInt hup hpressBefore
  have hupEnd : (((s.run toInt before).thread toInt).run toInt mid).kcwl = false
      ∧ (((s.run toInt before).thread toInt).run toInt mid).kcwr = false := by
    have hpressThread : NoPress (.thread :: mid) := by
      intro left h
      rw [List.mem_cons] at h
      cases h with
      | inl h => contradiction
      | inr h => exact hpressMid left h
    exact up_run toInt hupBefore hpressThread
  have ⟨hnext, _, hsent⟩ := element_after toInt (hmeanwhile.phase.trans hphase)
    (hmeanwhile.keyState.trans hstate) hmid hmode
  refine ⟨?_, ?_⟩
  . rw [hsent, hmeanwhile.sent]
  . rw [hnext, if_neg, if_neg]
    . simp [held_of_up hupEnd]
    . simp [held_of_up hupEnd, held_of_up hupBefore, not_hitIn_of_noPress toInt hpressMid]

/--
The law for each element, the next step of the thread that sends what has been decided, the alternating
elements of a squeeze, and the runs of the two modes: they are alike, or first differ where both paddles have
been released, with one more element in mode B.
-/
theorem iambic_law
    : (∀ (s : Keyer) (p : Paddle) (mid : List KeyerInput), s.phase = .looping →
        s.keyState = p.starts → .thread ∉ mid →
        ((s.thread toInt).run toInt mid).menu.mode ≠ .straight →
        let started := s.thread toInt
        let ended := started.run toInt mid
        let next := ended.thread toInt
        next.keyState
            = (if started.HitIn toInt p.other mid ∨ ended.held p.other = true
                ∨ s.held p.other = true
                  ∧ (ended.menu.mode = .modeB ∨ ended.held p = true
                    ∨ ended.held p.other = true) then
              p.other.starts
            else if ended.held p = true then
              p.starts
            else
              ended.letterEndState)
          ∧ next.phase = .looping ∧ next.sent = s.sent ++ [p])
      ∧ (∀ (s : Keyer) (p : Paddle) (mid : List KeyerInput), s.phase = .looping →
        s.keyState = p.starts → .thread ∉ mid →
        ((s.run toInt mid).thread toInt).sent = s.sent ++ [p])
      ∧ (∀ (s : Keyer) (p : Paddle) (es : List KeyerInput), s.phase = .looping →
        s.keyState = p.starts → Run.Along (step toInt) (fun s _ => s.Squeezed) s es →
        (s.run toInt es).sent = s.sent ++ p.alternating ((threads es + 1) / 2))
      ∧ ∀ (s : Keyer) (es : List KeyerInput),
        let a (es : List KeyerInput) := (s.inMode .modeA).run toInt (es.map (inputInMode .modeA))
        let b (es : List KeyerInput) := (s.inMode .modeB).run toInt (es.map (inputInMode .modeB))
        ((a es).elements = (b es).elements ∧ (a es).queued = (b es).queued)
          ∨ ∃ pre post p, es = pre ++ .thread :: post
            ∧ (a pre).elements = (b pre).elements
            ∧ (b pre).keyState = p.ends ∧ (b pre).Released p
            ∧ ((a pre).thread toInt).keyState = (a pre).letterEndState
            ∧ ((b pre).thread toInt).keyState = p.other.starts
            ∧ ∀ before mid, .thread ∉ before → .thread ∉ mid → NoPress (before ++ mid) →
              let started := (((b pre).thread toInt).run toInt before).thread toInt
              let ended := started.run toInt mid
              ended.menu.mode ≠ .straight →
              (ended.thread toInt).sent = (b pre).sent ++ [p.other]
                ∧ (ended.thread toInt).keyState = ended.letterEndState := by
  refine ⟨?_, ?_, ?_, ?_⟩
  . intro s p mid hphase hstate hmid hmode
    exact element_after toInt hphase hstate hmid hmode
  . intro s p mid hphase hstate hmid
    exact sent_next toInt hphase hstate hmid
  . intro s p es hphase hstate hes
    exact (squeeze_alternates toInt hphase hes).1 hstate
  . intro s es
    dsimp only
    cases modes_run toInt (agree_inMode s) es with
    | inl hagree => exact .inl hagree.elements
    | inr hparts =>
      have ⟨pre, post, p, hes, hp⟩ := hparts
      have ⟨hA, hB⟩ := hp.keyState_thread toInt
      refine .inr ⟨pre, post, p, hes, hp.agree.elements.1, hp.keyState, hp.released, hA, hB, ?_⟩
      intro before mid hbefore hmid hpress hmode
      have hmodeB := hp.agree.1
      have hdecides := decides_thread toInt hp.phase hp.keyState (by rw [hmodeB]; decide)
      have hup := up_of_held hp.released.1 hp.released.2.1
      have hsame := surroundings_of_frame hdecides.frame
      have hupNext : (((s.inMode .modeB).run toInt
          (pre.map (inputInMode .modeB))).thread toInt).kcwl = false
          ∧ (((s.inMode .modeB).run toInt
            (pre.map (inputInMode .modeB))).thread toInt).kcwr = false :=
        ⟨(congrArg Surroundings.kcwl hsame).trans hup.1, (congrArg Surroundings.kcwr hsame).trans hup.2⟩
      have hextra := one_extra toInt ((phase_of_frame hdecides.frame).trans hp.phase) hB hupNext
        hbefore hmid hpress hmode
      rw [hdecides.sent] at hextra
      exact hextra

instance (s : Keyer) : Decidable s.Squeezed :=
  inferInstanceAs (Decidable (_ ∧ _))

-- both paddles are held in mode A, with a dash to start
def squeezed : Keyer :=
  { start defaultSpeed false { straightKeyMenu with mode := .modeA } with
    kcwl := true
    kcwr := true
    phase := .looping
    keyState := .predash }

theorem iambic_law_squeezed
    : (squeezed.run clampInt [.thread, .thread, .thread]).sent
        =
      squeezed.sent ++ Paddle.dash.alternating 2 :=
  (iambic_law clampInt).2.2.1 squeezed .dash _ rfl rfl (by decide)

end Keyer

end Transmit
