import Pihpsdr.Rigctl.Impl.CwRing
import Pihpsdr.Lib.Run

/-!
The CW thread sends the characters that are queued and not purged, each of them once and in order,
as long as a purge does not meet the thread while it takes a character or drains the ring.
-/

namespace Rigctl

namespace CwRing

/--
A character that is taken is the oldest of those to be sent, and the ring is found empty only when
there are none.
-/
def SendsPending (s : CwRing) : CwStep → Prop
  | .take => s.phase = .taking → s.pending.head? = some (s.buf s.out)
  | .check => s.phase = .top → s.inp = s.out → s.pending = []
  | _ => True

-- a purge that writes finds `cw_buf_out` as it was read, and the thread between two characters
def PurgesUndisturbed (s : CwRing) : CwStep → Prop
  | .purgeWrite => ∀ out, s.main = .purging out → s.out = out ∧ s.phase = .top
  | _ => True

-- what the ring holds: a character that is being taken is still in it
def contents (s : CwRing) : List Nat :=
  match s.phase with
  | .took c => c :: s.pending
  | _ => s.pending

/--
The ring holds the characters to be sent; the main loop has room for the character it is about to
queue, and the thread is about to take or to drain what is there.
-/
structure InOrder (s : CwRing) : Prop where
  holds : Ring.Holds cwBufSize s.buf s.inp s.out s.contents
  room : ∀ c, s.main = .room c → s.contents.length + 1 < cwBufSize
  stored : ∀ c, s.main = .stored c → s.contents.length + 1 < cwBufSize ∧ s.buf s.inp = c
  taking : s.phase = .taking → s.pending ≠ []
  draining : ∀ inp k, s.phase = .draining inp k →
    k ≤ s.pending.length ∧ inp = Ring.slot cwBufSize s.out k

theorem start_inOrder : start.InOrder := by
  constructor
  . apply Ring.Holds.empty
    decide
  . intro c h
    contradiction
  . intro c h
    contradiction
  . intro h
    contradiction
  . intro inp k h
    contradiction

variable {s : CwRing}

theorem purgeRead_inOrder (h : s.InOrder) : s.purgeRead.InOrder := by
  unfold purgeRead
  split
  next =>
    have ⟨hholds, _, _, htaking, hdraining⟩ := h
    refine ⟨hholds, ?_, ?_, htaking, hdraining⟩
    . intro c hc
      contradiction
    . intro c hc
      contradiction
  next => exact h

theorem purgeWrite_inOrder (h : s.InOrder)
    (hundisturbed : ∀ out, s.main = .purging out → s.out = out ∧ s.phase = .top)
    : s.purgeWrite.InOrder := by
  unfold purgeWrite
  split
  next out hmain =>
    have ⟨hout, hphase⟩ := hundisturbed out hmain
    have hempty : CwRing.contents { s with inp := out, main := .idle, pending := [] } = [] := by
      simp [contents, hphase]
    constructor
    . rw [hempty, ← hout]
      apply Ring.Holds.empty h.holds.out_lt
    . intro c hc
      contradiction
    . intro c hc
      contradiction
    . intro htaking
      simp [hphase] at htaking
    . intro inp k hdraining
      simp [hphase] at hdraining
  next => exact h

theorem queueRead_inOrder (h : s.InOrder) : s.queueRead.InOrder := by
  have ⟨hholds, _, _, htaking, hdraining⟩ := h
  unfold queueRead
  split
  next hmain =>
    split
    next hroom =>
      rw [Ne, hholds.full_iff] at hroom
      have := hholds.length_lt
      refine ⟨hholds, ?_, ?_, htaking, hdraining⟩
      . intro c _
        have : s.contents.length + 1 < cwBufSize := by omega
        exact this
      . intro c hc
        contradiction
    next =>
      refine ⟨hholds, ?_, ?_, htaking, hdraining⟩
      . intro c hc
        rw [hmain] at hc
        contradiction
      . intro c hc
        rw [hmain] at hc
        contradiction
  next => exact h

theorem queueStore_inOrder (h : s.InOrder) : s.queueStore.InOrder := by
  have ⟨hholds, hroom, _, htaking, hdraining⟩ := h
  unfold queueStore
  split
  next c hmain =>
    refine ⟨hholds.write c, ?_, ?_, htaking, hdraining⟩
    . intro c' hc'
      contradiction
    . intro c' hc'
      rw [CwMain.stored.injEq] at hc'
      refine ⟨hroom c hmain, ?_⟩
      simp [hc']
  next => exact h

theorem queueWrite_inOrder (h : s.InOrder) : s.queueWrite.InOrder := by
  have ⟨hholds, _, hstored, htaking, hdraining⟩ := h
  unfold queueWrite
  split
  next c hmain =>
    have ⟨hlen, hbuf⟩ := hstored c hmain
    have hcontents : CwRing.contents
        { s with
          inp := Ring.next cwBufSize s.inp
          main := .idle
          pending := s.pending ++ [c] } = s.contents ++ [c] := by
      unfold contents
      cases s.phase <;> rfl
    have hroom : Ring.next cwBufSize s.inp ≠ s.out := by
      rw [Ne, hholds.full_iff]
      omega
    have hmem : (fun i => if i = s.inp then c else s.buf i) = s.buf := by
      funext i
      split
      next hi => rw [hi, hbuf]
      next => rfl
    constructor
    . rw [hcontents, ← hmem]
      apply hholds.push hroom
    . intro c' hc'
      contradiction
    . intro c' hc'
      contradiction
    . intro _
      simp
    . intro inp k hphase
      have ⟨hk, hinp⟩ := hdraining inp k hphase
      refine ⟨?_, hinp⟩
      rw [List.length_append]
      omega
  next => exact h

theorem check_inOrder (h : s.InOrder) : s.check.InOrder := by
  have ⟨hholds, hroom, hstored, _, _⟩ := h
  unfold check
  split
  next hphase =>
    split
    next => exact h
    next hne =>
      have hcontents : s.contents = s.pending := by simp [contents, hphase]
      rw [hcontents] at hholds
      refine ⟨hholds, ?_, ?_, ?_, ?_⟩
      . rw [hcontents] at hroom
        exact hroom
      . rw [hcontents] at hstored
        exact hstored
      . intro _ hnil
        apply hne
        have := hholds.inp_eq
        rw [hnil, List.length_nil, Ring.slot_zero hholds.out_lt] at this
        exact this
      . intro inp k hdraining
        contradiction
  next => exact h

theorem take_inOrder (h : s.InOrder) : s.take.InOrder := by
  have ⟨hholds, hroom, hstored, htaking, _⟩ := h
  unfold take
  split
  next hphase =>
    have ⟨x, rest, hpending⟩ := List.exists_cons_of_ne_nil (htaking hphase)
    have hcontents : s.contents = x :: rest := by simp [contents, hphase, hpending]
    rw [hcontents] at hholds hroom hstored
    have hnew : CwRing.contents
        { s with
          phase := .took (s.buf s.out)
          sent := s.sent ++ [s.buf s.out]
          pending := s.pending.tail } = x :: rest := by
      simp [contents, hpending, hholds.head_eq]
    constructor
    . rw [hnew]
      exact hholds
    . rw [hnew]
      exact hroom
    . rw [hnew]
      exact hstored
    . intro hphase'
      contradiction
    . intro inp k hdraining
      contradiction
  next => exact h

theorem advance_inOrder (h : s.InOrder) : s.advance.InOrder := by
  have ⟨hholds, hroom, hstored, _, _⟩ := h
  unfold advance
  split
  next x hphase =>
    have hcontents : s.contents = x :: s.pending := by simp [contents, hphase]
    rw [hcontents] at hholds hroom hstored
    rw [List.length_cons] at hroom hstored
    constructor
    . exact hholds.pop
    . intro c hc
      have := hroom c hc
      have : s.pending.length + 1 < cwBufSize := by omega
      exact this
    . intro c hc
      have ⟨hlen, hbuf⟩ := hstored c hc
      have : s.pending.length + 1 < cwBufSize := by omega
      exact ⟨this, hbuf⟩
    . intro hphase'
      contradiction
    . intro inp k hdraining
      contradiction
  next => exact h

theorem drainRead_inOrder (h : s.InOrder) : s.drainRead.InOrder := by
  have ⟨hholds, hroom, hstored, _, _⟩ := h
  unfold drainRead
  split
  next hphase =>
    have hcontents : s.contents = s.pending := by simp [contents, hphase]
    rw [hcontents] at hholds hroom hstored
    refine ⟨hholds, hroom, hstored, ?_, ?_⟩
    . intro hphase'
      contradiction
    . intro inp k hdraining
      rw [CwPhase.draining.injEq] at hdraining
      rw [← hdraining.1, ← hdraining.2]
      exact ⟨Nat.le_refl _, hholds.inp_eq⟩
  next hphase =>
    have hcontents : s.contents = s.pending := by simp [contents, hphase]
    rw [hcontents] at hholds hroom hstored
    refine ⟨hholds, hroom, hstored, ?_, ?_⟩
    . intro hphase'
      contradiction
    . intro inp k hdraining
      rw [CwPhase.draining.injEq] at hdraining
      rw [← hdraining.1, ← hdraining.2]
      exact ⟨Nat.le_refl _, hholds.inp_eq⟩
  next => exact h

theorem drainWrite_inOrder (h : s.InOrder) : s.drainWrite.InOrder := by
  have ⟨hholds, hroom, hstored, _, hdraining⟩ := h
  unfold drainWrite
  split
  next inp k hphase =>
    have hcontents : s.contents = s.pending := by simp [contents, hphase]
    have ⟨hk, hinp⟩ := hdraining inp k hphase
    rw [hcontents] at hholds hroom hstored
    have hlen : (s.pending.drop k).length ≤ s.pending.length := by
      rw [List.length_drop]
      omega
    constructor
    . rw [hinp]
      exact hholds.drop hk
    . intro c hc
      have := hroom c hc
      have : (s.pending.drop k).length + 1 < cwBufSize := by omega
      exact this
    . intro c hc
      have ⟨hlt, hbuf⟩ := hstored c hc
      have : (s.pending.drop k).length + 1 < cwBufSize := by omega
      exact ⟨this, hbuf⟩
    . intro hphase'
      contradiction
    . intro inp' k' hdraining'
      contradiction
  next => exact h

theorem step_inOrder (h : s.InOrder) (e : CwStep) (he : s.PurgesUndisturbed e)
    : (s.step e).InOrder := by
  cases e with
  | purgeRead => exact purgeRead_inOrder h
  | purgeWrite => exact purgeWrite_inOrder h he
  | queueRead => exact queueRead_inOrder h
  | queueStore => exact queueStore_inOrder h
  | queueWrite => exact queueWrite_inOrder h
  | check => exact check_inOrder h
  | take => exact take_inOrder h
  | advance => exact advance_inOrder h
  | drainRead => exact drainRead_inOrder h
  | drainWrite => exact drainWrite_inOrder h

theorem sendsPending_of_inOrder (h : s.InOrder) (e : CwStep) : s.SendsPending e := by
  cases e with
  | take =>
    intro hphase
    have ⟨x, rest, hpending⟩ := List.exists_cons_of_ne_nil (h.taking hphase)
    have hholds := h.holds
    have hcontents : s.contents = x :: rest := by simp [contents, hphase, hpending]
    rw [hcontents] at hholds
    rw [hpending, hholds.head_eq]
    rfl
  | check =>
    intro hphase heq
    have hcontents : s.contents = s.pending := by simp [contents, hphase]
    have hfill := h.holds.fill_eq
    rw [heq, Ring.fill_self, hcontents] at hfill
    exact List.eq_nil_of_length_eq_zero hfill.symm
  | _ => trivial

/--
In a run in which no purge meets the thread between its accesses to the indices, every character
that is taken is the oldest one still to be sent, and none is left when the ring is found empty.
-/
theorem sends_pending (steps : List CwStep) (h : Run.Along step PurgesUndisturbed start steps)
    : Run.Along step SendsPending start steps := by
  apply Run.along_of_invariant _ _ start_inOrder h
  . intro s e hs he
    exact step_inOrder hs e he
  . intro s e hs _
    exact sendsPending_of_inOrder hs e

theorem sends_pending_after_purge
    : Run.Along step SendsPending start
        [.queueRead, .queueStore, .queueWrite, .purgeRead, .purgeWrite, .queueRead, .queueStore,
          .queueWrite, .check, .take, .advance] := by
  apply sends_pending
  refine ⟨trivial, trivial, trivial, trivial, ?_, trivial, trivial, trivial, trivial, trivial,
    trivial, trivial⟩
  intro out hout
  exact ⟨CwMain.purging.inj hout, rfl⟩

/--
Two characters are queued, and the thread takes the first one while the purge is between its read
and its write. Then the read index is one beyond the write index, and the thread goes on with the
second character.
-/
theorem purge_disturbed
    : ¬ Run.Along step SendsPending start
        [.queueRead, .queueStore, .queueWrite, .queueRead, .queueStore, .queueWrite, .purgeRead,
          .check, .take, .advance, .purgeWrite, .check, .take] := by
  intro h
  have htake : SendsPending (Run.exec step start
      [.queueRead, .queueStore, .queueWrite, .queueRead, .queueStore, .queueWrite, .purgeRead,
        .check, .take, .advance, .purgeWrite, .check]) .take :=
    Run.Along.at h
  exact absurd (htake rfl) (by decide)

end CwRing

end Rigctl
