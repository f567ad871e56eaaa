import Pihpsdr.Transmit.Lemmas.Iambic

/-!
The space between two letters of the keyer: which paddles that were hit in it get their element in the letter
that follows.
-/

namespace Transmit

namespace Keyer

def InSpace (s : Keyer) : Prop :=
  s.phase = .looping ∧ s.keyState = .letterspace

def InLetter (s : Keyer) : Prop :=
  s.phase = .looping ∧ ∃ p : Paddle, s.keyState = p.starts ∨ s.keyState = p.ends

-- the space begins without any hits
def EntersSpace (s : Keyer) : Prop :=
  s.InSpace ∧ ∀ p, s.memory p = false

variable (toInt : Nat → Int)

-- the thread starts an element
def StartsIn (s : Keyer) (p : Paddle) (es : List KeyerInput) : Prop :=
  Run.Sometime (step toInt) (fun s e => e = .thread ∧ s.keyState = p.starts) s es

/--
At the end of a dot the keyer is asked for a dash: its paddle is held, or has been hit since the dot began, or
was held when it began and not both paddles have been released in mode A.
-/
def AsksDash (s : Keyer) (es : List KeyerInput) : Prop :=
  Run.Sometime (step toInt)
    (fun s e => e = .thread ∧ s.keyState = .afterdot ∧ s.menu.mode ≠ .straight ∧ s.Opposite .dot)
    s es

-- the elements that are sent with some inputs
def sentWith (s : Keyer) (es : List KeyerInput) : List Paddle :=
  (s.run toInt es).sent.drop s.sent.length

theorem entersSpace_letterEnd {s : Keyer} (hphase : s.phase = .looping) (h : s.menu.spacing = true)
    : s.letterEnd.EntersSpace := by
  rw [letterEnd, if_pos h]
  refine ⟨⟨hphase, rfl⟩, ?_⟩
  intro p
  cases p
  . rfl
  . rfl

-- the thread leaves the space with the next letter, or stays in it; the memories are kept
theorem space_thread {s : Keyer} (h : s.InSpace)
    : (s.thread toInt).phase = .looping ∧ (s.thread toInt).memory = s.memory
      ∧ (s.thread toInt).sent = s.sent
      ∧ ((s.thread toInt).keyState = .letterspace
        ∨ (s.thread toInt).keyState
          = if s.dotMemory then .predot else if s.dashMemory then .predash else .exitloop) := by
  have hvox := frame_retriggerVox s
  have hstate := (sameStream_retriggerVox s).keyState
  have hsent := (sameStream_retriggerVox s).sent
  have hmemory := memory_retriggerVox s
  have hdot : s.retriggerVox.dotMemory = s.dotMemory := congrFun hmemory .dot
  have hdash : s.retriggerVox.dashMemory = s.dashMemory := congrFun hmemory .dash
  have hphase := (phase_of_frame hvox).trans h.1
  rw [thread_eq toInt h.1 (by simp [h.2]), h.2]
  dsimp only
  unfold letterspace
  dsimp only
  split
  . refine ⟨hphase, hmemory, hsent, .inr ?_⟩
    rw [← hdot, ← hdash]
  . exact ⟨hphase, hmemory, hsent, .inl (hstate.trans h.2)⟩

-- at the end of the space the memories tell which paddles have been hit
theorem space_run {s : Keyer} (h : s.InSpace) {es : List KeyerInput}
    (hes : Run.Lasts (step toInt) InSpace s es)
    : (s.run toInt es).phase = .looping
      ∧ ∃ hit : Paddle → Bool, (∀ p, hit p = true ↔ s.memory p = true ∨ s.HitIn toInt p es)
        ∧ (s.run toInt es).keyState
          = if hit .dot then .predot else if hit .dash then .predash else .exitloop := by
  induction es generalizing s with
  | nil => exact absurd h hes
  | cons e es ih =>
    have hlater := hes.2
    by_cases he : e = .thread
    . rw [he, step_thread] at hlater
      obtain ⟨hphase, hmemory, _, hstate⟩ := space_thread toInt h
      rw [he, run_cons, step_thread]
      simp only [hitIn_cons, Hits, false_or, step_thread]
      cases hstate with
      | inl hstay =>
        obtain ⟨hend, hit, hhit, hstate⟩ := ih ⟨hphase, hstay⟩ hlater
        rw [hmemory] at hhit
        exact ⟨hend, hit, hhit, hstate⟩
      | inr hleave =>
        have hout : ¬(s.thread toInt).InSpace := by
          intro hin
          rw [hin.2] at hleave
          split at hleave
          . contradiction
          . split at hleave
            . contradiction
            . contradiction
        rw [hlater.eq_nil hout]
        refine ⟨hphase, s.memory, ?_, hleave⟩
        intro p
        exact (or_iff_left (Run.sometime_nil _)).symm
    . have hstep := meanwhile_step toInt s he
      obtain ⟨hend, hit, hhit, hstate⟩ := ih ⟨hstep.phase.trans h.1, hstep.keyState.trans h.2⟩ hlater
      refine ⟨hend, hit, ?_, hstate⟩
      intro p
      rw [hhit, hstep.memory, or_assoc, hitIn_cons]

theorem sent_afterdot (s : Keyer) : s.afterdot.sent = s.sent := by
  have hsent := (sameStream_releaseDash s).sent
  unfold afterdot
  generalize s.releaseDash = t at hsent ⊢
  dsimp only
  split
  . rfl
  . rw [← hsent]
    split
    . rfl
    . split
      . rfl
      . exact (letterEnd_spec t).2.1

theorem sent_afterdash (s : Keyer) : s.afterdash.sent = s.sent := by
  have hsent := (sameStream_releaseDot s).sent
  unfold afterdash
  generalize s.releaseDot = t at hsent ⊢
  dsimp only
  rw [← hsent]
  split
  . rfl
  . split
    . rfl
    . exact (letterEnd_spec t).2.1

-- the end of an element, in any mode
theorem letter_ends {s : Keyer} {p : Paddle} (hphase : s.phase = .looping)
    (h : s.keyState = p.ends)
    : (s.thread toInt).phase = .looping ∧ (s.thread toInt).sent = s.sent := by
  have hvox := frame_retriggerVox s
  have hsent := (sameStream_retriggerVox s).sent
  have hlooping := (phase_of_frame hvox).trans hphase
  cases p with
  | dot =>
    rw [thread_eq toInt hphase (by simp [h, Paddle.ends]), h]
    exact ⟨(phase_of_frame (frame_afterdot _)).trans hlooping, (sent_afterdot _).trans hsent⟩
  | dash =>
    rw [thread_eq toInt hphase (by simp [h, Paddle.ends]), h]
    exact ⟨(phase_of_frame (frame_afterdash _)).trans hlooping, (sent_afterdash _).trans hsent⟩

theorem starts_ne_ends (p q : Paddle) : p.ends ≠ q.starts := by
  cases p <;> cases q <;> decide

theorem starts_inj {p q : Paddle} (h : p.starts = q.starts) : p = q := by
  cases p <;> cases q <;> first | rfl | contradiction

theorem startsIn_cons (s : Keyer) (p : Paddle) (e : KeyerInput) (es : List KeyerInput)
    : s.StartsIn toInt p (e :: es)
        ↔
      (e = .thread ∧ s.keyState = p.starts) ∨ (s.step toInt e).StartsIn toInt p es := Iff.rfl

-- in a letter the thread sends exactly the elements that it starts
theorem sentWith_letter {s : Keyer} {es : List KeyerInput}
    (hes : Run.Lasts (step toInt) InLetter s es)
    : ∃ sent, (s.run toInt es).sent = s.sent ++ sent ∧ ∀ p, p ∈ sent ↔ s.StartsIn toInt p es := by
  induction es generalizing s with
  | nil => exact ⟨[], (List.append_nil _).symm, fun p => by simp [StartsIn]⟩
  | cons e es ih =>
    have ⟨hnow, hlater⟩ := hes
    have ⟨sent, hsent, hmem⟩ := ih hlater
    rw [run_cons, hsent]
    by_cases he : e = .thread
    . rw [he, step_thread] at hmem ⊢
      have ⟨hphase, q, hstate⟩ := hnow
      cases hstate with
      | inl hstarts =>
        refine ⟨q :: sent, ?_, ?_⟩
        . rw [(starts_thread toInt hphase hstarts).sent, List.append_assoc]
          rfl
        . intro p
          rw [List.mem_cons, hmem, startsIn_cons, hstarts, step_thread]
          apply or_congr ?_ Iff.rfl
          constructor
          . intro hp
            exact ⟨rfl, by rw [hp]⟩
          . intro hp
            exact (starts_inj hp.2).symm
      | inr hends =>
        refine ⟨sent, by rw [(letter_ends toInt hphase hends).2], ?_⟩
        intro p
        rw [hmem, startsIn_cons, hends, step_thread]
        simp [starts_ne_ends]
    . have hstep := meanwhile_step toInt s he
      refine ⟨sent, by rw [hstep.sent], ?_⟩
      intro p
      rw [hmem, startsIn_cons]
      simp [he]

theorem mem_sentWith {s : Keyer} {es : List KeyerInput}
    (hes : Run.Lasts (step toInt) InLetter s es) (p : Paddle)
    : p ∈ s.sentWith toInt es ↔ s.StartsIn toInt p es := by
  have ⟨sent, hsent, hmem⟩ := sentWith_letter toInt hes
  rw [sentWith, hsent, List.drop_left, hmem]

-- an element that is due is sent before the letter ends
theorem startsIn_of_starts {s : Keyer} {p : Paddle} (hphase : s.phase = .looping)
    (h : s.keyState = p.starts) {es : List KeyerInput}
    (hes : Run.Lasts (step toInt) InLetter s es)
    : s.StartsIn toInt p es := by
  induction es generalizing s with
  | nil => exact absurd ⟨hphase, p, .inl h⟩ hes
  | cons e es ih =>
    by_cases he : e = .thread
    . exact .inl ⟨he, h⟩
    . have hstep := meanwhile_step toInt s he
      exact .inr (ih (hstep.phase.trans hphase) (hstep.keyState.trans h) hes.2)

-- what is asked for is sent
theorem startsIn_of_asksDash {s : Keyer} {es : List KeyerInput}
    (hes : Run.Lasts (step toInt) InLetter s es) (h : s.AsksDash toInt es)
    : s.StartsIn toInt .dash es := by
  induction es generalizing s with
  | nil => exact absurd h (Run.sometime_nil _)
  | cons e es ih =>
    have ⟨hnow, hlater⟩ := hes
    cases h with
    | inr h => exact .inr (ih hlater h)
    | inl h =>
      have ⟨he, hstate, hmode, hopposite⟩ := h
      have hdecides := decides_thread toInt (p := .dot) hnow.1 hstate hmode
      have hdash : (s.thread toInt).keyState = .predash := by
        rw [hdecides.keyState, if_pos hopposite]
        rfl
      rw [he, step_thread] at hlater
      rw [he]
      exact .inr (startsIn_of_starts toInt (p := .dash)
        ((phase_of_frame hdecides.frame).trans hnow.1) hdash hlater)

theorem not_inLetter_of_letterEndState {s t : Keyer} (h : t.keyState = s.letterEndState)
    : ¬t.InLetter := by
  intro hin
  have ⟨_, p, hp⟩ := hin
  rw [h] at hp
  unfold letterEndState at hp
  cases p <;> split at hp <;> simp [Paddle.starts, Paddle.ends] at hp

-- otherwise another dot follows, or the letter ends
theorem keyState_not_asked {s : Keyer} (hphase : s.phase = .looping) (h : s.keyState = .afterdot)
    (hnot : ¬(s.menu.mode ≠ .straight ∧ s.Opposite .dot))
    : (s.thread toInt).keyState = .predot ∨ ¬(s.thread toInt).InLetter := by
  by_cases hmode : s.menu.mode = .straight
  . have hmode' : s.retriggerVox.menu.mode = .straight := by
      rw [show s.retriggerVox.menu = s.menu from congrArg (fun f => f.1.menu) (frame_retriggerVox s)]
      exact hmode
    rw [thread_eq toInt hphase (by simp [h]), h]
    dsimp only
    rw [afterdot, if_pos hmode']
    split
    . exact .inl rfl
    . apply Or.inr
      intro hin
      have ⟨_, p, hp⟩ := hin
      cases p <;> simp [Paddle.starts, Paddle.ends] at hp
  . have hdecides := decides_thread toInt (p := .dot) hphase h hmode
    have hstate := hdecides.keyState
    rw [if_neg (fun hopposite => hnot ⟨hmode, hopposite⟩)] at hstate
    split at hstate
    . exact .inl hstate
    . exact .inr (not_inLetter_of_letterEndState hstate)

-- after dots a dash has to be asked for
theorem asksDash_of_startsIn {s : Keyer} (hphase : s.phase = .looping)
    (hstate : s.keyState = .predot ∨ s.keyState = .afterdot) {es : List KeyerInput}
    (hes : Run.Lasts (step toInt) InLetter s es) (h : s.StartsIn toInt .dash es)
    : s.AsksDash toInt es := by
  induction es generalizing s with
  | nil => exact absurd h (Run.sometime_nil _)
  | cons e es ih =>
    have ⟨hnow, hlater⟩ := hes
    cases h with
    | inl h =>
      have hdash : s.keyState = .predash := h.2
      rw [hdash] at hstate
      cases hstate <;> contradiction
    | inr h =>
      by_cases he : e = .thread
      . rw [he, step_thread] at hlater h
        rw [he]
        cases hstate with
        | inl hpredot =>
          have hstart := starts_thread toInt (p := .dot) hphase hpredot
          exact .inr (ih ((phase_of_frame hstart.frame).trans hphase) (.inr hstart.keyState) hlater h)
        | inr hafterdot =>
          by_cases hasked : s.menu.mode ≠ .straight ∧ s.Opposite .dot
          . exact .inl ⟨rfl, hafterdot, hasked.1, hasked.2⟩
          . cases keyState_not_asked toInt hphase hafterdot hasked with
            | inl hpredot =>
              have hlooping := (letter_ends toInt (p := .dot) hphase hafterdot).1
              exact .inr (ih hlooping (.inl hpredot) hlater h)
            | inr hout =>
              rw [hlater.eq_nil hout] at h
              exact absurd h (Run.sometime_nil _)
      . have hstep := meanwhile_step toInt s he
        rw [← hstep.keyState] at hstate
        exact .inr (ih (hstep.phase.trans hphase) hstate hlater h)

/--
In every run through a space and the letter after it, each paddle that was hit in the space gets its element
sent in the letter exactly if not both were hit, or the letter asks for the dash of its own accord.
-/
theorem hits_sent_iff {s : Keyer} (hs : s.EntersSpace) {space letter : List KeyerInput}
    (hspace : Run.Lasts (step toInt) InSpace s space)
    (hletter : Run.Lasts (step toInt) InLetter (s.run toInt space) letter)
    : (∀ p, s.HitIn toInt p space → p ∈ (s.run toInt space).sentWith toInt letter)
        ↔
      (s.HitIn toInt .dot space → s.HitIn toInt .dash space →
        (s.run toInt space).AsksDash toInt letter) := by
  have ⟨hphase, hit, hhit, hstate⟩ := space_run toInt hs.1 hspace
  simp only [hs.2, Bool.false_eq_true, false_or] at hhit
  simp only [mem_sentWith toInt hletter, ← hhit]
  generalize s.run toInt space = t at hphase hstate hletter ⊢
  have hdot (h : hit .dot = true) : t.keyState = .predot := hstate.trans (if_pos h)
  constructor
  . intro hsent hdotHit hdashHit
    exact asksDash_of_startsIn toInt hphase (.inl (hdot hdotHit)) hletter (hsent .dash hdashHit)
  . intro hasks p hp
    cases p with
    | dot => exact startsIn_of_starts toInt (p := .dot) hphase (hdot hp) hletter
    | dash =>
      by_cases hdotHit : hit .dot = true
      . exact startsIn_of_asksDash toInt hletter (hasks hdotHit hp)
      . have hdash : t.keyState = .predash := by
          rw [hstate, if_neg hdotHit, if_pos hp]
        exact startsIn_of_starts toInt (p := .dash) hphase hdash hletter

instance (s : Keyer) : Decidable s.InSpace :=
  inferInstanceAs (Decidable (_ ∧ _))

instance (s : Keyer) : Decidable s.InLetter :=
  decidable_of_iff (s.phase = .looping ∧ ((s.keyState = .predot ∨ s.keyState = .afterdot)
      ∨ s.keyState = .predash ∨ s.keyState = .afterdash)) <| by
    apply and_congr Iff.rfl
    constructor
    . intro h
      cases h with
      | inl h => exact ⟨.dot, h⟩
      | inr h => exact ⟨.dash, h⟩
    . intro h
      have ⟨p, hp⟩ := h
      cases p with
      | dot => exact .inl hp
      | dash => exact .inr hp

theorem fastSpeed_pos : 1 ≤ 60 := by decide

def fastSpeed : KeyerSettings where
  speed := 60
  weight := 50
  speed_pos := fastSpeed_pos
  weight_le := defaultWeight_le

-- a dot has been sent in mode A, and the space after it begins
def spacing : Keyer :=
  (start fastSpeed false { straightKeyMenu with mode := .modeA, spacing := true }).run clampInt
    [.keyerEvent true true, .thread, .thread, .thread, .keyerEvent true false, .thread]

-- a paddle is hit and released
def tap (left : Bool) : List KeyerInput :=
  [.keyerEvent left true, .keyerEvent left false]

-- the milliseconds of the space
def wait : List KeyerInput :=
  List.replicate 41 .thread

theorem spacing_entersSpace : spacing.EntersSpace := by
  refine ⟨by decide, ?_⟩
  intro p
  cases p
  . rfl
  . rfl

-- the dash paddle alone
theorem hits_sent_dash
    : spacing.EntersSpace ∧ ∀ p, spacing.HitIn clampInt p (tap false ++ wait) →
      p ∈ (spacing.run clampInt (tap false ++ wait)).sentWith clampInt [.thread, .thread] :=
  ⟨spacing_entersSpace,
    (@hits_sent_iff clampInt spacing spacing_entersSpace (tap false ++ wait) [.thread, .thread]
      (by decide) (by decide)).mpr (fun h => absurd h (by decide))⟩

-- both paddles: the dash is not sent
theorem hit_lost
    : ¬∀ p, spacing.HitIn clampInt p (tap true ++ tap false ++ wait) →
      p ∈ (spacing.run clampInt (tap true ++ tap false ++ wait)).sentWith clampInt
        [.thread, .thread] := by
  intro h
  have hdash := h .dash
  revert hdash
  decide

end Keyer

end Transmit
