import Pihpsdr.Lib.Run
import Pihpsdr.NewProtocol.Impl.RxRings

/-!
The accounting of the receive rings: the value of the semaphore of a ring is the number of its
posted, unread slots. `new_protocol_menu_start` empties the rings, but does not reset their
semaphores, so the accounting holds in all runs where these are zero when the protocol is started,
and in no others.
-/

namespace NewProtocol

-- the system with the slots that have been written since the last start
structure P2History where
  sys : P2System
  written : RingId → Nat → Bool

namespace P2History

def init : P2History := ⟨.init, fun _ _ => false⟩

-- A slot has been written if the write index has moved past it.
def step (h : P2History) (e : P2Event) : P2History where
  sys := h.sys.step e
  written := fun id i =>
    match e with
    | .menuStart => false
    | _ =>
      h.written id i
        || (((h.sys.step e).ring id).inptr != (h.sys.ring id).inptr && i == (h.sys.ring id).inptr)

end P2History

def P2Ring.fill (N : Nat) (r : P2Ring) : Nat := Ring.fill N r.inptr r.outptr

structure RingsSound (h : P2History) (e : P2Event) : Prop where
  -- the semaphore counts the posted, unread slots
  sem : ∀ id, ((h.step e).sys.ring id).sem = ((h.step e).sys.ring id).fill id.length
  -- a full ring is not stuck: its consumer is not blocked and makes room
  room : ∀ id, ((h.step e).sys.ring id).full id.length →
    ((h.step e).sys.consume id).2 ≠ .blocked
      ∧ (((h.step e).sys.consume id).1.ring id).full id.length = false
  -- a consumer that is not blocked takes a slot written since the last start
  fresh : ∀ id, e = .consume id → (h.sys.consume id).2 ≠ .blocked →
    h.written id (h.sys.ring id).outptr = true ∧ (h.sys.consume id).2 ≠ .nullPointer

def CleanStart (h : P2History) : P2Event → Prop
  | .menuStart => ∀ id, (h.sys.ring id).sem = 0
  | _ => True

/--
The invariant of a ring with `N` slots, `written` being those written since the last start.
-/
structure P2Ring.Inv (N : Nat) (written : Nat → Bool) (r : P2Ring) : Prop where
  inptr_lt : r.inptr < N
  outptr_lt : r.outptr < N
  sem_eq : r.sem = r.fill N
  written_unread : ∀ k < r.sem, written (Ring.slot N r.outptr k) = true
  slots_written : ∀ i, written i = true → r.slots i ≠ none

namespace P2Ring

variable {N : Nat} {written : Nat → Bool} {r : P2Ring}

theorem Inv.congr {r' : P2Ring} (hinv : r.Inv N written) (hslots : r'.slots = r.slots)
    (hinptr : r'.inptr = r.inptr) (houtptr : r'.outptr = r.outptr) (hsem : r'.sem = r.sem)
    : r'.Inv N written := by
  have ⟨hi, ho, hs, hw, hn⟩ := hinv
  constructor
  . rwa [hinptr]
  . rwa [houtptr]
  . rwa [fill, hinptr, houtptr, hsem]
  . rwa [houtptr, hsem]
  . rwa [hslots]

theorem Inv.put (hinv : r.Inv N written) (hfull : r.full N = false) (b : Nat)
    : (r.put N b).Inv N (fun i => written i || i == r.inptr) := by
  have ⟨hi, ho, hs, hw, hn⟩ := hinv
  have hne : Ring.next N r.inptr ≠ r.outptr := by simpa [full] using hfull
  constructor
  . apply Ring.next_lt
    omega
  . exact ho
  . simp only [P2Ring.put, fill]
    rw [Ring.fill_next_inp hi ho hne, hs, fill]
  . intro k hk
    simp only [P2Ring.put] at hk ⊢
    cases Nat.lt_or_eq_of_le (Nat.le_of_lt_succ hk) with
    | inl hlt => simp [hw k hlt]
    | inr heq =>
      rw [heq, hs, fill, Ring.slot_fill hi ho]
      simp
  . intro i
    simp only [P2Ring.put, Bool.or_eq_true, beq_iff_eq]
    split
    . simp
    next hne =>
      intro h
      apply hn
      simpa [hne] using h

theorem Inv.take (hinv : r.Inv N written) (hsem : r.sem ≠ 0) : (r.take N).Inv N written := by
  have ⟨hi, ho, hs, hw, hn⟩ := hinv
  have hne : r.inptr ≠ r.outptr := by
    intro h
    rw [fill, (Ring.fill_eq_zero_iff hi ho).mpr h] at hs
    contradiction
  constructor
  . exact hi
  . apply Ring.next_lt
    omega
  . have := Ring.fill_next_out hi ho hne
    simp only [P2Ring.take, fill] at hs ⊢
    omega
  . intro k hk
    simp only [P2Ring.take] at hk ⊢
    rw [← Ring.slot_succ]
    apply hw
    omega
  . exact hn

theorem Inv.reset (hinv : r.Inv N written) (hsem : r.sem = 0) {r' : P2Ring} (hinptr : r'.inptr = 0)
    (houtptr : r'.outptr = 0) (hsem' : r'.sem = r.sem)
    : r'.Inv N (fun _ => false) := by
  have := hinv.inptr_lt
  constructor
  . omega
  . omega
  . rw [fill, hinptr, houtptr, hsem', hsem, Ring.fill_self]
  . rw [hsem', hsem]
    simp
  . simp

end P2Ring

-- what an event can do to the ring `id`
inductive Moves (id : RingId) (e : P2Event) (r r' : P2Ring) : Prop where
  | same (he : e ≠ .menuStart) (hslots : r'.slots = r.slots) (hinptr : r'.inptr = r.inptr)
      (houtptr : r'.outptr = r.outptr) (hsem : r'.sem = r.sem)
  | put (he : e ≠ .menuStart) (b : Nat) (hfull : r.full id.length = false)
      (hr : r' = r.put id.length b)
  | take (he : e = .consume id) (hsem : r.sem ≠ 0) (hr : r' = r.take id.length)
  | reset (he : e = .menuStart) (hr : r' = P2System.resetRing id r)

theorem Moves.refl {id : RingId} {e : P2Event} (he : e ≠ .menuStart) (r : P2Ring)
    : Moves id e r r :=
  .same he rfl rfl rfl rfl

namespace P2System

variable {y : P2System} {id id' : RingId} {e : P2Event} {b : Nat}

theorem ring_setRing (r : P2Ring) : (y.setRing id' r).ring id = if id = id' then r else y.ring id :=
  rfl

theorem moves_setRing (he : e ≠ .menuStart) {r : P2Ring} (h : Moves id' e (y.ring id') r)
    : Moves id e (y.ring id) ((y.setRing id' r).ring id) := by
  rw [ring_setRing]
  split
  next heq =>
    subst heq
    exact h
  . exact .refl he _

theorem moves_postOrSkip (he : e ≠ .menuStart)
    : Moves id e (y.ring id) ((y.postOrSkip id' b).ring id) := by
  unfold postOrSkip
  dsimp only
  split
  . exact .refl he _
  . split
    . apply moves_setRing he
      exact .same he rfl rfl rfl rfl
    . split
      . apply moves_setRing he
        exact .same he rfl rfl rfl rfl
      next hfull =>
        apply moves_setRing he
        exact .put he b (by simpa using hfull) rfl

theorem moves_highPriority (he : e ≠ .menuStart)
    : Moves id e (y.ring id) ((y.saturnPostHighPriority b).ring id) := by
  unfold saturnPostHighPriority
  dsimp only
  split
  . exact .refl he _
  . split
    . exact .refl he _
    next hfull =>
      rw [Bool.not_eq_true] at hfull
      apply moves_setRing he
      exact .put he b hfull rfl

theorem moves_iqData (he : e ≠ .menuStart) (ddc : Int)
    : Moves id e (y.ring id) ((y.saturnPostIqData ddc b).ring id) := by
  unfold saturnPostIqData
  split
  . exact .refl he _
  . exact moves_postOrSkip he

theorem moves_receive (he : e ≠ .menuStart) {post : P2System → P2System}
    (h : Moves id e ((y.setFree b false).ring id) ((post (y.setFree b false)).ring id))
    : Moves id e (y.ring id) ((y.receive b post).ring id) := by
  unfold receive
  split
  . exact h
  . exact .refl he _

theorem ring_consume (h : (y.ring id').sem ≠ 0)
    : (y.consume id').1.ring = (y.setRing id' ((y.ring id').take id'.length)).ring := by
  unfold consume
  dsimp only
  rw [if_neg h]
  split
  . rfl
  . split <;> rfl

theorem moves_consume
    : Moves id (.consume id') (y.ring id) ((y.consume id').1.ring id) := by
  by_cases h : (y.ring id').sem = 0
  . have : y.consume id' = (y, .blocked) := by simp [consume, h]
    rw [this]
    exact .refl (by simp) _
  . rw [ring_consume h, ring_setRing]
    split
    next heq =>
      subst heq
      exact .take rfl h rfl
    . exact .refl (by simp) _

theorem moves_step (y : P2System) (e : P2Event) (id : RingId)
    : Moves id e (y.ring id) ((y.step e).ring id) := by
  cases e with
  | highPriority b => exact moves_receive (by simp) (moves_highPriority (by simp))
  | mic b => exact moves_receive (by simp) (moves_postOrSkip (by simp))
  | iq ddc b => exact moves_receive (by simp) (moves_iqData (by simp) ddc)
  | consume id' => exact moves_consume
  | stop => exact .refl (by simp) _
  | menuStart => exact .reset rfl rfl

theorem consume_ne_blocked (h : (y.ring id).sem ≠ 0) : (y.consume id).2 ≠ .blocked := by
  unfold consume
  dsimp only
  rw [if_neg h]
  split
  . simp
  . split <;> simp

theorem sem_of_not_blocked (h : (y.consume id).2 ≠ .blocked) : (y.ring id).sem ≠ 0 := by
  intro hsem
  simp [consume, hsem] at h

theorem consume_ne_nullPointer (h : (y.ring id).slots (y.ring id).outptr ≠ none)
    : (y.consume id).2 ≠ .nullPointer := by
  unfold consume
  dsimp only
  split
  . simp
  . split
    . contradiction
    . split <;> simp

end P2System

namespace P2History

def Inv (h : P2History) : Prop := ∀ id, (h.sys.ring id).Inv id.length (h.written id)

theorem inv_init : init.Inv := by
  intro id
  constructor
  . cases id <;> simp [init, P2System.init, P2Ring.init, RingId.length]
  . cases id <;> simp [init, P2System.init, P2Ring.init, RingId.length]
  . simp [init, P2System.init, P2Ring.init, P2Ring.fill]
  . simp [init, P2System.init, P2Ring.init]
  . simp [init]

theorem written_step {h : P2History} {e : P2Event} (he : e ≠ .menuStart) (id : RingId)
    : (h.step e).written id = fun i => h.written id i
        || (((h.sys.step e).ring id).inptr != (h.sys.ring id).inptr
          && i == (h.sys.ring id).inptr) := by
  funext i
  cases e with
  | menuStart => contradiction
  | _ => rfl

theorem inv_step (h : P2History) (e : P2Event) (hinv : h.Inv) (hclean : CleanStart h e)
    : (h.step e).Inv := by
  intro id
  have hid := hinv id
  have hmoves := P2System.moves_step h.sys e id
  cases hmoves with
  | same he hslots hinptr houtptr hsem =>
    rw [written_step he, hinptr]
    simp only [bne_self_eq_false, Bool.false_and, Bool.or_false]
    exact hid.congr hslots hinptr houtptr hsem
  | put he b hfull hr =>
    have hne : Ring.next id.length (h.sys.ring id).inptr ≠ (h.sys.ring id).inptr := by
      rw [Ring.next_eq_ite hid.inptr_lt]
      split
      . cases id <;> simp only [RingId.length] at * <;> omega
      . omega
    have hput := hid.put hfull b
    rw [written_step he, hr]
    simp only [P2History.step, hr]
    have hmoved : (((h.sys.ring id).put id.length b).inptr != (h.sys.ring id).inptr) = true := by
      rw [bne_iff_ne]
      exact hne
    rw [hmoved]
    simpa only [Bool.true_and] using hput
  | take he hsem hr =>
    have hne : e ≠ .menuStart := by simp [he]
    rw [written_step hne, hr]
    simp only [P2History.step, hr]
    simpa [P2Ring.take] using hid.take hsem
  | reset he hr =>
    subst he
    simp only [P2History.step, hr]
    apply hid.reset (hclean id)
    . cases id <;> rfl
    . cases id <;> rfl
    . cases id <;> rfl

theorem room_of_inv {y : P2System} {id : RingId} {written : Nat → Bool}
    (hinv : (y.ring id).Inv id.length written) (hfull : (y.ring id).full id.length)
    : (y.consume id).2 ≠ .blocked ∧ ((y.consume id).1.ring id).full id.length = false := by
  have hlen : 2 < id.length := by cases id <;> simp [RingId.length]
  have hsem := hinv.sem_eq
  have hfill : (y.ring id).fill id.length + 1 = id.length := by
    apply (Ring.next_eq_out_iff hinv.inptr_lt hinv.outptr_lt).mp
    simpa [P2Ring.full] using hfull
  have hne : (y.ring id).sem ≠ 0 := by omega
  refine ⟨P2System.consume_ne_blocked hne, ?_⟩
  rw [P2System.ring_consume hne, P2System.ring_setRing, if_pos rfl]
  have htake := hinv.take hne
  have hsem' : ((y.ring id).take id.length).sem = (y.ring id).sem - 1 := rfl
  have hfill' := htake.sem_eq
  rw [P2Ring.full, beq_eq_false_iff_ne]
  intro heq
  have := (Ring.next_eq_out_iff htake.inptr_lt htake.outptr_lt).mp heq
  simp only [P2Ring.fill] at hfill' hfill hsem
  omega

theorem fresh_of_inv {y : P2System} {id : RingId} {written : Nat → Bool}
    (hinv : (y.ring id).Inv id.length written) (hne : (y.consume id).2 ≠ .blocked)
    : written (y.ring id).outptr = true ∧ (y.consume id).2 ≠ .nullPointer := by
  have hsem := P2System.sem_of_not_blocked hne
  have hwritten := hinv.written_unread 0 (by omega)
  rw [Ring.slot_zero hinv.outptr_lt] at hwritten
  refine ⟨hwritten, ?_⟩
  apply P2System.consume_ne_nullPointer
  apply hinv.slots_written _ hwritten

theorem sound_of_inv (h : P2History) (e : P2Event) (hinv : h.Inv) (hclean : CleanStart h e)
    : RingsSound h e where
  sem := fun id => (inv_step h e hinv hclean id).sem_eq
  room := fun id => room_of_inv (inv_step h e hinv hclean id)
  fresh := fun id _ => fresh_of_inv (hinv id)

theorem cleanStart_of_sound (h : P2History) (e : P2Event) (hsound : RingsSound h e)
    : CleanStart h e := by
  cases e with
  | menuStart =>
    intro id
    have hsem := hsound.sem id
    have hring : ((h.step .menuStart).sys.ring id) = P2System.resetRing id (h.sys.ring id) := rfl
    rw [hring] at hsem
    cases id with
    | highPriority => exact hsem.trans (Ring.fill_self 0)
    | mic => exact hsem.trans (Ring.fill_self 0)
    | iq ddc => exact hsem.trans (Ring.fill_self 0)
  | _ => trivial

theorem ringsSound_iff_cleanStarts (es : List P2Event)
    : Run.Along step RingsSound init es ↔ Run.Along step CleanStart init es := by
  constructor
  . exact Run.Along.mono cleanStart_of_sound
  . exact Run.along_of_invariant inv_step sound_of_inv inv_init

-- One microphone packet is left in its ring when the protocol is stopped.
def unreadAtStop : List P2Event := [.menuStart, .mic 0, .stop, .menuStart]

theorem not_ringsSound_unread_at_stop : ¬ ∀ es, Run.Along step RingsSound init es := by
  intro hall
  have hsem := (hall (unreadAtStop ++ .consume .mic :: [])).at.sem .mic
  revert hsem
  decide +kernel

end P2History

/--
A ring that is full while its semaphore is zero stays so until the protocol is started again: no
packet is accepted and none is processed.
-/
theorem P2System.wedged_exec {y : P2System} {id : RingId} {es : List P2Event}
    (hes : ∀ e ∈ es, e ≠ .menuStart) (hfull : (y.ring id).full id.length)
    (hsem : (y.ring id).sem = 0)
    : ((Run.exec P2System.step y es).ring id).full id.length
        ∧ ((Run.exec P2System.step y es).ring id).sem = 0 := by
  induction es generalizing y with
  | nil => exact ⟨hfull, hsem⟩
  | cons e es ih =>
    have hmoves := P2System.moves_step y e id
    apply ih
    . intro e' he'
      apply hes
      exact List.mem_cons_of_mem _ he'
    all_goals
      cases hmoves with
      | same _ _ hinptr houtptr hsem' => simp_all [P2Ring.full]
      | put _ _ hnot _ => simp [hfull] at hnot
      | take _ hne _ => contradiction
      | reset he _ => exact absurd he (hes e List.mem_cons_self)

end NewProtocol
