import Pihpsdr.Transmit.Impl.Keyer

/-!
The CW events of the keyer: each key-down is followed by the key-up of its element, as long as the straight
key is not held for so long that the number of samples exceeds an `int`.
-/

namespace Transmit

def Element.events : Element → List CwEvent
  | .dot dotSamples => [⟨1, 0⟩, ⟨0, dotSamples⟩, ⟨0, dotSamples⟩]
  | .dash dashSamples dotSamples => [⟨1, 0⟩, ⟨0, dashSamples⟩, ⟨0, dotSamples⟩]
  | .held ns => [⟨1, 0⟩, ⟨0, samplesOf ns⟩]

namespace Keyer

-- the straight key is down, its key-up will follow
def pending (s : Keyer) : List CwEvent :=
  if s.keyState = .straight then [⟨1, 0⟩] else []

/--
The stream consists of the events of the elements, with a last key-down if the straight key is held, and ends
with a key-up when the thread waits for the next paddle event.
-/
structure WellFormed (s : Keyer) : Prop where
  queued_eq : s.queued = s.elements.flatMap Element.events ++ s.pending
  waiting : s.phase = .waiting → s.queued = [] ∨ ∃ wait, s.queued.getLast? = some ⟨0, wait⟩

variable (toInt : Nat → Int)

-- what a step adds to the stream
inductive Queues (s s' : Keyer) : Prop where
  | nothing (hqueued : s'.queued = s.queued) (helements : s'.elements = s.elements)
      (htdown : s'.tdown = s.tdown) (hstate : s'.keyState = .straight ↔ s.keyState = .straight)
  | element (e : Element) (hqueued : s'.queued = s.queued ++ e.events)
      (helements : s'.elements = s.elements ++ [e]) (hbefore : s.keyState ≠ .straight)
      (hafter : s'.keyState ≠ .straight)
  | keyDown (hqueued : s'.queued = s.queued ++ [⟨1, 0⟩]) (helements : s'.elements = s.elements)
      (htdown : s'.tdown = s.clock) (hbefore : s.keyState ≠ .straight) (hafter : s'.keyState = .straight)
  | keyUp
      (hqueued : s'.queued = s.queued ++ [⟨0, toInt (samplesOf (s.clock - s.tdown))⟩])
      (helements : s'.elements = s.elements ++ [.held (s.clock - s.tdown)])
      (hbefore : s.keyState = .straight) (hafter : s'.keyState ≠ .straight)

-- the same but for the fields that the stream does not depend on
structure SameStream (s t : Keyer) : Prop where
  queued : t.queued = s.queued
  elements : t.elements = s.elements
  keyState : t.keyState = s.keyState
  clock : t.clock = s.clock
  tdown : t.tdown = s.tdown

theorem SameStream.refl (s : Keyer) : SameStream s s := ⟨rfl, rfl, rfl, rfl, rfl⟩

theorem sameStream_countVox (s : Keyer) : SameStream s s.countVox := by
  unfold countVox
  split
  . exact ⟨rfl, rfl, rfl, rfl, rfl⟩
  . exact .refl s

theorem sameStream_releaseDash (s : Keyer) : SameStream s s.releaseDash := by
  unfold releaseDash
  split
  . exact ⟨rfl, rfl, rfl, rfl, rfl⟩
  . exact .refl s

theorem sameStream_releaseDot (s : Keyer) : SameStream s s.releaseDot := by
  unfold releaseDot
  split
  . exact ⟨rfl, rfl, rfl, rfl, rfl⟩
  . exact .refl s

theorem sameStream_retriggerVox (s : Keyer) : SameStream s s.retriggerVox := by
  unfold retriggerVox
  split
  . exact ⟨rfl, rfl, rfl, rfl, rfl⟩
  . exact .refl s

theorem Queues.of_same {s t s' : Keyer} (h : Queues toInt t s') (hsame : SameStream s t)
    : Queues toInt s s' := by
  have ⟨hqueued, helements, hstate, hclock, htdown⟩ := hsame
  cases h with
  | nothing hq he ht hs =>
    exact .nothing (hq.trans hqueued) (he.trans helements) (ht.trans htdown) (hstate ▸ hs)
  | element e hq he hb ha =>
    exact .element e (hqueued ▸ hq) (helements ▸ he) (hstate ▸ hb) ha
  | keyDown hq he ht hb ha =>
    exact .keyDown (hqueued ▸ hq) (he.trans helements) (ht.trans hclock) (hstate ▸ hb) ha
  | keyUp hq he hb ha =>
    rw [hqueued, hclock, htdown] at hq
    rw [helements, hclock, htdown] at he
    exact .keyUp hq he (hstate ▸ hb) ha

theorem queues_exitloop {s : Keyer} (h : s.keyState = .exitloop) : Queues toInt s s.exitloop := by
  unfold exitloop
  dsimp only
  split
  . split
    . exact .nothing rfl rfl rfl Iff.rfl
    . exact .nothing rfl rfl rfl Iff.rfl
  . exact .nothing rfl rfl rfl (by simp [h])

-- another state than that of the straight key
theorem queues_state {s : Keyer} {state : KeyState} (h : s.keyState ≠ .straight)
    (hstate : state ≠ .straight)
    : Queues toInt s { s with keyState := state } :=
  .nothing rfl rfl rfl (iff_of_false hstate h)

-- the straight key goes down
theorem queues_keyDown {s u : Keyer} (h : s.keyState ≠ .straight) (hqueued : u.queued = s.queued)
    (helements : u.elements = s.elements) (hclock : u.clock = s.clock)
    : Queues toInt s { u.txQueueCwEvent 1 0 with tdown := u.clock, keyState := .straight } := by
  refine .keyDown ?_ ?_ ?_ h ?_
  . dsimp only [txQueueCwEvent]
    rw [hqueued]
  . exact helements
  . exact hclock
  . rfl

theorem queues_check {s : Keyer} (h : s.keyState = .check) : Queues toInt s s.check := by
  have hbefore : s.keyState ≠ .straight := by simp [h]
  have hsame := sameStream_countVox { s with keyState := .exitloop }
  have hqueued : { s with keyState := .exitloop }.countVox.queued = s.queued := hsame.queued
  have helements : { s with keyState := .exitloop }.countVox.elements = s.elements :=
    hsame.elements
  have hstate : { s with keyState := .exitloop }.countVox.keyState ≠ .straight := by
    rw [hsame.keyState]
    simp
  have hclock : { s with keyState := .exitloop }.countVox.clock = s.clock := hsame.clock
  have htdown : { s with keyState := .exitloop }.countVox.tdown = s.tdown := hsame.tdown
  unfold check
  generalize { s with keyState := .exitloop }.countVox = t at hqueued helements hstate hclock htdown ⊢
  have hnothing (state : KeyState) (hafter : state ≠ .straight)
      : Queues toInt s { t with keyState := state } :=
    .nothing hqueued helements htdown (iff_of_false hafter hbefore)
  have hsame : Queues toInt s t := .nothing hqueued helements htdown (iff_of_false hstate hbefore)
  dsimp only
  split
  . split
    . split
      . exact queues_keyDown toInt hbefore hqueued helements hclock
      . exact hnothing _ (by decide)
    . split
      . exact queues_keyDown toInt hbefore hqueued helements hclock
      . exact hsame
  . split
    . split
      . exact hnothing _ (by decide)
      . exact hnothing _ (by decide)
    . split
      . exact hnothing _ (by decide)
      . exact hsame

theorem queues_straight {s : Keyer} (h : s.keyState = .straight)
    : Queues toInt s (s.straight toInt) := by
  unfold straight
  split
  . exact .nothing rfl rfl rfl Iff.rfl
  . exact .keyUp rfl rfl h (by simp)

theorem queues_predot {s : Keyer} (h : s.keyState = .predot) : Queues toInt s s.predot := by
  apply Queues.element (.dot s.settings.dotSamples)
  . simp [predot, txQueueCwEvent, Element.events]
  . rfl
  . simp [h]
  . simp [predot]

theorem queues_predash {s : Keyer} (h : s.keyState = .predash) : Queues toInt s s.predash := by
  apply Queues.element (.dash s.settings.dashSamples s.settings.dotSamples)
  . simp [predash, txQueueCwEvent, Element.events]
  . rfl
  . simp [h]
  . simp [predash]

theorem queues_letterEnd {s : Keyer} (h : s.keyState ≠ .straight) : Queues toInt s s.letterEnd := by
  unfold letterEnd
  split
  . exact .nothing rfl rfl rfl (by simp [h])
  . exact queues_state toInt h (by decide)

theorem queues_afterdot {s : Keyer} (h : s.keyState = .afterdot) : Queues toInt s s.afterdot := by
  have hsame := sameStream_releaseDash s
  have hstate : s.releaseDash.keyState ≠ .straight := by simp [hsame.keyState, h]
  unfold afterdot
  split
  . apply queues_state toInt (by simp [h])
    split
    . decide
    . decide
  . apply Queues.of_same toInt ?_ hsame
    dsimp only
    split
    . exact queues_state toInt hstate (by decide)
    . split
      . exact queues_state toInt hstate (by decide)
      . exact queues_letterEnd toInt hstate

theorem queues_afterdash {s : Keyer} (h : s.keyState = .afterdash)
    : Queues toInt s s.afterdash := by
  have hsame := sameStream_releaseDot s
  have hstate : s.releaseDot.keyState ≠ .straight := by simp [hsame.keyState, h]
  unfold afterdash
  apply Queues.of_same toInt ?_ hsame
  dsimp only
  split
  . exact queues_state toInt hstate (by decide)
  . split
    . exact queues_state toInt hstate (by decide)
    . exact queues_letterEnd toInt hstate

theorem queues_letterspace {s : Keyer} (h : s.keyState = .letterspace)
    : Queues toInt s s.letterspace := by
  unfold letterspace
  dsimp only
  split
  . refine .nothing rfl rfl rfl ?_
    dsimp only
    split
    . simp [h]
    . split
      . simp [h]
      . simp [h]
  . exact .nothing rfl rfl rfl Iff.rfl

theorem queues_loop (s : Keyer) : Queues toInt s (s.loop toInt) := by
  unfold loop
  split
  . exact .nothing rfl rfl rfl Iff.rfl
  . apply Queues.of_same toInt ?_ (sameStream_retriggerVox s)
    dsimp only
    split
    next h => exact queues_exitloop toInt h
    next h => exact queues_check toInt h
    next h => exact queues_straight toInt h
    next h => exact queues_predot toInt h
    next h => exact queues_afterdot toInt h
    next h => exact queues_predash toInt h
    next h => exact queues_afterdash toInt h
    next h => exact queues_letterspace toInt h

-- what the thread does not change: the paddles, the settings and the time
structure Surroundings where
  kcwl : Bool
  kcwr : Bool
  reversed : Bool
  settings : KeyerSettings
  menu : KeyerMenu
  clock : Nat

def surroundings (s : Keyer) : Surroundings where
  kcwl := s.kcwl
  kcwr := s.kcwr
  reversed := s.reversed
  settings := s.settings
  menu := s.menu
  clock := s.clock

-- within the loop it also stays in its phase, other than in the state `EXITLOOP`
def frame (s : Keyer) : Surroundings × KeyerPhase :=
  (s.surroundings, s.phase)

theorem frame_countVox (s : Keyer) : s.countVox.frame = s.frame := by
  unfold countVox
  split
  . rfl
  . rfl

theorem frame_releaseDash (s : Keyer) : s.releaseDash.frame = s.frame := by
  unfold releaseDash
  split
  . rfl
  . rfl

theorem frame_releaseDot (s : Keyer) : s.releaseDot.frame = s.frame := by
  unfold releaseDot
  split
  . rfl
  . rfl

theorem frame_retriggerVox (s : Keyer) : s.retriggerVox.frame = s.frame := by
  unfold retriggerVox
  split
  . rfl
  . rfl

theorem frame_check (s : Keyer) : s.check.frame = s.frame := by
  have hvox : { s with keyState := .exitloop }.countVox.frame = s.frame := by
    rw [frame_countVox]
    rfl
  unfold check
  generalize { s with keyState := .exitloop }.countVox = t at hvox ⊢
  rw [← hvox]
  dsimp only
  split
  . split
    . split
      . rfl
      . rfl
    . split
      . rfl
      . rfl
  . split
    . split
      . rfl
      . rfl
    . split
      . rfl
      . rfl

theorem frame_straight (s : Keyer) : (s.straight toInt).frame = s.frame := by
  unfold straight
  split
  . rfl
  . rfl

theorem frame_letterEnd (s : Keyer) : s.letterEnd.frame = s.frame := by
  unfold letterEnd
  split
  . rfl
  . rfl

theorem frame_afterdot (s : Keyer) : s.afterdot.frame = s.frame := by
  have hrelease := frame_releaseDash s
  unfold afterdot
  generalize s.releaseDash = t at hrelease ⊢
  dsimp only
  split
  . rfl
  . rw [← hrelease]
    split
    . rfl
    . split
      . rfl
      . exact frame_letterEnd t

theorem frame_afterdash (s : Keyer) : s.afterdash.frame = s.frame := by
  have hrelease := frame_releaseDot s
  unfold afterdash
  generalize s.releaseDot = t at hrelease ⊢
  dsimp only
  rw [← hrelease]
  split
  . rfl
  . split
    . rfl
    . exact frame_letterEnd t

theorem frame_letterspace (s : Keyer) : s.letterspace.frame = s.frame := by
  unfold letterspace
  dsimp only
  split
  . rfl
  . rfl

theorem surroundings_of_frame {s t : Keyer} (h : t.frame = s.frame)
    : t.surroundings = s.surroundings :=
  congrArg Prod.fst h

-- the thread leaves the loop over the states from the state `EXITLOOP` only
theorem frame_loop (s : Keyer)
    : (s.loop toInt).frame = s.frame
      ∨ (s.loop toInt).surroundings = s.surroundings ∧ (s.loop toInt).keyState = .exitloop := by
  have hvox := frame_retriggerVox s
  unfold loop
  split
  next h => exact .inr ⟨rfl, h.1⟩
  next =>
    generalize s.retriggerVox = t at hvox ⊢
    rw [← hvox, ← surroundings_of_frame hvox]
    dsimp only
    split
    next h =>
      unfold exitloop
      dsimp only
      split
      . split
        . exact .inl rfl
        . exact .inr ⟨rfl, h⟩
      . exact .inl rfl
    next => exact .inl (frame_check t)
    next => exact .inl (frame_straight toInt t)
    next => exact .inl rfl
    next => exact .inl (frame_afterdot t)
    next => exact .inl rfl
    next => exact .inl (frame_afterdash t)
    next => exact .inl (frame_letterspace t)

theorem surroundings_thread (s : Keyer) : (s.thread toInt).surroundings = s.surroundings := by
  unfold thread
  split
  . unfold wakeUp
    split
    . rfl
    . dsimp only
      split
      . rfl
      . split
        . rfl
        . rfl
  . split
    . rfl
    . rfl
  . cases frame_loop toInt s with
    | inl hframe => exact surroundings_of_frame hframe
    | inr hexit => exact hexit.1
  . split
    . rfl
    . rfl

-- what holds of the stream and the state in every run whose straight key is released in time
structure Inv (s : Keyer) : Prop where
  queued_eq : s.queued = s.elements.flatMap Element.events ++ s.pending
  looping : s.keyState = .straight → s.phase = .looping

theorem queues_wakeUp {s : Keyer} (h : s.keyState ≠ .straight) : Queues toInt s s.wakeUp := by
  unfold wakeUp
  split
  . exact .nothing rfl rfl rfl Iff.rfl
  . dsimp only
    split
    . exact .nothing rfl rfl rfl Iff.rfl
    . split
      . exact .nothing rfl rfl rfl Iff.rfl
      . exact .nothing rfl rfl rfl (by simp [h])

theorem queues_thread {s : Keyer} (h : s.keyState = .straight → s.phase = .looping)
    : Queues toInt s (s.thread toInt) := by
  unfold thread
  split
  next hphase => exact queues_wakeUp toInt (by intro hs; simp [hphase] at h; exact h hs)
  next i hphase =>
    have hbefore : s.keyState ≠ .straight := by
      intro hs
      simp [hphase, hs] at h
    split
    . exact .nothing rfl rfl rfl Iff.rfl
    . exact .nothing rfl rfl rfl (by simp [hbefore])
  next hphase => exact queues_loop toInt s
  next i hphase =>
    split
    . exact .nothing rfl rfl rfl Iff.rfl
    . exact .nothing rfl rfl rfl Iff.rfl

theorem queues_step {s : Keyer} (h : s.keyState = .straight → s.phase = .looping) (e : KeyerInput)
    : Queues toInt s (s.step toInt e) := by
  cases e with
  | thread => exact queues_thread toInt h
  | _ => exact .nothing rfl rfl rfl Iff.rfl

theorem looping_thread {s : Keyer} (h : s.keyState = .straight → s.phase = .looping)
    (hafter : (s.thread toInt).keyState = .straight)
    : (s.thread toInt).phase = .looping := by
  unfold thread at *
  split at hafter
  next hphase =>
    unfold wakeUp at *
    dsimp only at *
    split at hafter
    . simp_all
    . split at hafter
      . simp_all
      . split at hafter
        . simp_all
        . simp_all
  next i hphase =>
    split at hafter
    . simp_all
    . simp_all
  next hphase =>
    cases frame_loop toInt s with
    | inl hframe => exact (congrArg Prod.snd hframe).trans hphase
    | inr hexit =>
      rw [hexit.2] at hafter
      contradiction
  next i hphase =>
    split at hafter
    . simp_all
    . simp_all

theorem looping_step {s : Keyer} (h : s.keyState = .straight → s.phase = .looping)
    (e : KeyerInput)
    : (s.step toInt e).keyState = .straight → (s.step toInt e).phase = .looping := by
  cases e with
  | thread => exact looping_thread toInt h
  | _ => exact h

/--
The thread does not see the straight key released after more samples than an `int` can count, which are more
than twelve hours.
-/
def ReleasedInTime (s : Keyer) (e : KeyerInput) : Prop :=
  match e with
  | .thread => s.keyState = .straight → s.kdash = false → samplesOf (s.clock - s.tdown) < 2 ^ 31
  | _ => True

instance (s : Keyer) (e : KeyerInput) : Decidable (s.ReleasedInTime e) := by
  cases e <;> unfold ReleasedInTime <;> infer_instance

theorem kdash_eq {s t : Keyer} (h : t.surroundings = s.surroundings) : t.kdash = s.kdash := by
  have hkdash (s : Keyer)
      : s.kdash = if s.surroundings.reversed then s.surroundings.kcwl else s.surroundings.kcwr := rfl
  rw [hkdash, hkdash, h]

theorem kdash_retriggerVox (s : Keyer) : s.retriggerVox.kdash = s.kdash :=
  kdash_eq (surroundings_of_frame (frame_retriggerVox s))

theorem thread_straight {s : Keyer} (hphase : s.phase = .looping) (h : s.keyState = .straight)
    : s.thread toInt = s.retriggerVox.straight toInt := by
  unfold thread loop
  have hstate : s.retriggerVox.keyState = .straight := (sameStream_retriggerVox s).keyState.trans h
  simp only [hphase, h, hstate, reduceCtorEq, false_and, if_false]

-- the key-up of the straight key is queued by the thread, once it finds the paddle released
theorem released_of_keyUp {s : Keyer} (h : s.keyState = .straight → s.phase = .looping)
    {e : KeyerInput} (hbefore : s.keyState = .straight)
    (hafter : (s.step toInt e).keyState ≠ .straight)
    : e = .thread ∧ s.kdash = false := by
  cases e with
  | thread =>
    refine ⟨rfl, ?_⟩
    by_contra hkdash
    apply hafter
    have hheld : s.retriggerVox.kdash = true := by
      rw [kdash_retriggerVox]
      simpa using hkdash
    show (s.thread toInt).keyState = .straight
    rw [thread_straight toInt (h hbefore) hbefore, straight, if_pos hheld]
    exact (sameStream_retriggerVox s).keyState.trans hbefore
  | _ => exact absurd hbefore hafter

theorem keyUp_of_released {s : Keyer} (h : s.keyState = .straight → s.phase = .looping)
    (hbefore : s.keyState = .straight) (hkdash : s.kdash = false)
    : (s.step toInt .thread).queued
          = s.queued ++ [⟨0, toInt (samplesOf (s.clock - s.tdown))⟩]
        ∧ (s.step toInt .thread).elements = s.elements ++ [.held (s.clock - s.tdown)]
        ∧ (s.step toInt .thread).keyState = .check := by
  have hsame := sameStream_retriggerVox s
  have hrelease : ¬(s.retriggerVox.kdash = true) := by simp [kdash_retriggerVox, hkdash]
  have hstep : s.step toInt .thread = s.retriggerVox.straight toInt :=
    thread_straight toInt (h hbefore) hbefore
  rw [hstep, straight, if_neg hrelease, ← hsame.queued, ← hsame.elements, ← hsame.clock,
    ← hsame.tdown]
  exact ⟨rfl, rfl, rfl⟩

theorem pending_of_ne {s : Keyer} (h : s.keyState ≠ .straight) : s.pending = [] := if_neg h

theorem pending_of_straight {s : Keyer} (h : s.keyState = .straight) : s.pending = [⟨1, 0⟩] :=
  if_pos h

theorem inv_step (hint : ∀ n, n < 2 ^ 31 → toInt n = n) {s : Keyer} (hs : s.Inv) {e : KeyerInput}
    (hreleased : s.ReleasedInTime e)
    : (s.step toInt e).Inv := by
  have hqueued_eq := hs.queued_eq
  refine ⟨?_, looping_step toInt hs.looping e⟩
  cases queues_step toInt hs.looping e with
  | nothing hqueued helements htdown hstate =>
    rw [hqueued, helements, hqueued_eq]
    simp only [pending, hstate]
  | element f hqueued helements hbefore hafter =>
    rw [hqueued, helements, hqueued_eq, pending_of_ne hbefore, pending_of_ne hafter]
    simp
  | keyDown hqueued helements htdown hbefore hafter =>
    rw [hqueued, helements, hqueued_eq, pending_of_ne hbefore, pending_of_straight hafter,
      List.append_nil]
  | keyUp hqueued helements hbefore hafter =>
    have ⟨he, hkdash⟩ := released_of_keyUp toInt hs.looping hbefore hafter
    rw [he] at hreleased
    have hsamples := hint _ (hreleased hbefore hkdash)
    rw [hqueued, helements, hqueued_eq, pending_of_straight hbefore, pending_of_ne hafter, hsamples]
    simp [Element.events]

-- the last event of each element is a key-up
theorem getLast?_events (e : Element) : ∃ wait, e.events.getLast? = some ⟨0, wait⟩ := by
  cases e
  . exact ⟨_, rfl⟩
  . exact ⟨_, rfl⟩
  . exact ⟨_, rfl⟩

theorem getLast?_flatMap_events (es : List Element)
    : es.flatMap Element.events = []
        ∨ ∃ wait, (es.flatMap Element.events).getLast? = some ⟨0, wait⟩ := by
  induction es with
  | nil => exact .inl rfl
  | cons e es ih =>
    rw [List.flatMap_cons, List.getLast?_append]
    apply Or.inr
    cases ih with
    | inl hnil =>
      rw [hnil]
      exact getLast?_events e
    | inr hlast =>
      have ⟨wait, hlast⟩ := hlast
      exact ⟨wait, by rw [hlast, Option.some_or]⟩

theorem Inv.wellFormed {s : Keyer} (hs : s.Inv) : s.WellFormed := by
  refine ⟨hs.queued_eq, ?_⟩
  intro hphase
  have hstate : s.keyState ≠ .straight := by
    intro h
    rw [hs.looping h] at hphase
    contradiction
  rw [hs.queued_eq, pending_of_ne hstate, List.append_nil]
  exact getLast?_flatMap_events s.elements

theorem releasedInTime_of_wellFormed (hrange : ∀ n, toInt n < 2 ^ 31) {s : Keyer} (hs : s.Inv)
    {e : KeyerInput} (hafter : (s.step toInt e).WellFormed)
    : s.ReleasedInTime e := by
  cases e with
  | thread =>
    intro hbefore hkdash
    have ⟨hqueued, helements, hstate⟩ := keyUp_of_released toInt hs.looping hbefore hkdash
    have hstream := hafter.queued_eq
    rw [hqueued, helements, hs.queued_eq, pending_of_straight hbefore,
      pending_of_ne (by simp [hstate])] at hstream
    simp only [List.append_assoc, List.cons_append, List.nil_append, List.flatMap_append,
      List.flatMap_singleton, Element.events, List.append_nil, List.append_cancel_left_eq,
      List.cons.injEq, CwEvent.mk.injEq, true_and, and_true] at hstream
    have hlt := hrange (samplesOf (s.clock - s.tdown))
    omega
  | _ => trivial

-- the time that passes with an input
def elapsed : KeyerInput → Nat
  | .elapse ns => ns
  | _ => 0

theorem clock_step (s : Keyer) (e : KeyerInput) : (s.step toInt e).clock = s.clock + elapsed e := by
  cases e with
  | thread => exact congrArg Surroundings.clock (surroundings_thread toInt s)
  | elapse ns => rfl
  | _ => rfl

theorem clock_run (s : Keyer) (es : List KeyerInput)
    : (s.run toInt es).clock = s.clock + (es.map elapsed).sum := by
  induction es generalizing s with
  | nil => rfl
  | cons e es ih =>
    have hstep := ih (s.step toInt e)
    rw [clock_step] at hstep
    rw [List.map_cons, List.sum_cons, ← Nat.add_assoc]
    exact hstep

theorem not_straight_of_ne_thread {s : Keyer} {e : KeyerInput} (hs : s.keyState ≠ .straight)
    (he : (s.step toInt e).keyState = .straight)
    : e = .thread := by
  cases e with
  | thread => rfl
  | _ => exact absurd he hs

-- the straight key has been down since a step of the thread, whose time is kept
theorem tdown_run {s : Keyer} (h : s.keyState = .straight → s.phase = .looping)
    (es : List KeyerInput) (hend : (s.run toInt es).keyState = .straight)
    : s.keyState = .straight ∧ (s.run toInt es).tdown = s.tdown
      ∨ ∃ pre post, es = pre ++ .thread :: post ∧ (s.run toInt pre).keyState ≠ .straight
        ∧ (s.run toInt es).tdown = (s.run toInt pre).clock := by
  induction es generalizing s with
  | nil => exact .inl ⟨hend, rfl⟩
  | cons e es ih =>
    cases ih (looping_step toInt h e) hend with
    | inr hlater =>
      have ⟨pre, post, hes, hpre, htdown⟩ := hlater
      exact .inr ⟨e :: pre, post, by rw [hes, List.cons_append], hpre, htdown⟩
    | inl hnow =>
      have ⟨hstraight, htdown⟩ := hnow
      cases queues_step toInt h e with
      | nothing _ _ hsame hstate =>
        exact .inl ⟨hstate.mp hstraight, htdown.trans hsame⟩
      | element f _ _ _ hafter => exact absurd hstraight hafter
      | keyDown _ _ hclock hbefore _ =>
        rw [not_straight_of_ne_thread toInt hbefore hstraight] at *
        exact .inr ⟨[], es, rfl, hbefore, htdown.trans hclock⟩
      | keyUp _ _ _ hafter => exact absurd hstraight hafter

/--
The time that the thread takes for that of the straight key is the time that passed since the step in which
the key went down.
-/
theorem held_eq_elapsed (settings : KeyerSettings) (reversed : Bool) (menu : KeyerMenu)
    (es : List KeyerInput)
    (hend : ((start settings reversed menu).run toInt es).keyState = .straight)
    : ∃ pre post, es = pre ++ .thread :: post
      ∧ ((start settings reversed menu).run toInt pre).keyState ≠ .straight
      ∧ ((start settings reversed menu).run toInt es).clock
            - ((start settings reversed menu).run toInt es).tdown
          =
        (post.map elapsed).sum := by
  have hstart : (start settings reversed menu).keyState ≠ .straight := by simp [start]
  cases tdown_run toInt (fun h => absurd h hstart) es hend with
  | inl h => exact absurd h.1 hstart
  | inr h =>
    have ⟨pre, post, hes, hpre, htdown⟩ := h
    refine ⟨pre, post, hes, hpre, ?_⟩
    rw [htdown, clock_run, clock_run, hes, List.map_append, List.sum_append, List.map_cons,
      List.sum_cons]
    show _ + (_ + (0 + _)) - _ = _
    omega

theorem inv_start (settings : KeyerSettings) (reversed : Bool) (menu : KeyerMenu)
    : (start settings reversed menu).Inv :=
  ⟨rfl, fun h => by contradiction⟩

/--
For all timings of the paddles and all changes of the settings, the stream is well formed in each state
exactly if the straight key is always released in time. An `int` is less than `2 ^ 31`.
-/
theorem wellFormed_iff (hint : ∀ n, n < 2 ^ 31 → toInt n = n) (hrange : ∀ n, toInt n < 2 ^ 31)
    (settings : KeyerSettings) (reversed : Bool) (menu : KeyerMenu) (es : List KeyerInput)
    : (∀ es', es' <+: es → ((start settings reversed menu).run toInt es').WellFormed)
        ↔
      Run.Along (step toInt) ReleasedInTime (start settings reversed menu) es := by
  apply Run.forall_prefix_iff_along_of (I := Inv)
  . intro s e hs he
    exact inv_step toInt hint hs he
  . intro s e hs hafter
    exact releasedInTime_of_wellFormed toInt hrange hs hafter
  . intro s hs
    exact hs.wellFormed
  . exact inv_start settings reversed menu

-- a conversion that saturates
def clampInt (n : Nat) : Int :=
  if n < 2 ^ 31 then n else 2 ^ 31 - 1

theorem clampInt_of_lt (n : Nat) (h : n < 2 ^ 31) : clampInt n = n := if_pos h

theorem clampInt_lt (n : Nat) : clampInt n < 2 ^ 31 := by
  unfold clampInt
  split
  . omega
  . omega

theorem defaultSpeed_pos : 1 ≤ 16 := by decide

theorem defaultWeight_le : 50 ≤ 100 := by decide

def defaultSpeed : KeyerSettings where
  speed := 16
  weight := 50
  speed_pos := defaultSpeed_pos
  weight_le := defaultWeight_le

def straightKeyMenu : KeyerMenu where
  mode := .straight
  spacing := false
  breakin := false
  hangTime := 500
  cwMode := true

-- the dash paddle is held for a time
def holdDash (ns : Nat) : List KeyerInput :=
  [.keyerEvent false true, .thread, .thread, .elapse ns, .keyerEvent false false, .thread]

theorem wellFormed_holdDash
    : ((start defaultSpeed false straightKeyMenu).run clampInt (holdDash 100000000)).WellFormed :=
  (wellFormed_iff clampInt clampInt_of_lt clampInt_lt defaultSpeed false straightKeyMenu
    (holdDash 100000000)).mpr (by decide) _ (List.prefix_refl _)

-- after 45000 seconds
theorem not_wellFormed_holdDash
    : ¬((start defaultSpeed false straightKeyMenu).run clampInt
        (holdDash 45000000000000)).WellFormed := by
  intro h
  have hqueued := h.queued_eq
  revert hqueued
  decide

end Keyer

end Transmit
