import Pihpsdr.Rigctl.Impl.Clients
import Pihpsdr.Lib.Run

/-!
The replies to the commands of a TCP client reach this client and no other, as long as no connection
is accepted for a slot, or with the descriptor of a slot, while commands of the slot wait.
-/

namespace Rigctl

def SlotPhase.InUse (phase : SlotPhase) : Prop :=
  phase = .accepted ∨ phase = .serving

namespace CatServer

variable {σ δ τ ρ : Type} {initial : δ} {parse : σ → δ → τ → σ × δ × List ρ}
variable {s : CatServer σ δ τ ρ} {i : Fin maxTcpClients} {fd : Nat}

/--
A command that is run now gets its replies and its data from the connection it came from, unless the
slot is spare.
-/
def RunsForAsker (s : CatServer σ δ τ ρ) : CatEvent τ → Prop
  | .execute => ∀ c, s.queue.head? = some c →
      (s.slots c.slot).conn = c.conn ∨ (s.slots c.slot).phase = .spare
  | _ => True

def RepliesToAsker (s : CatServer σ δ τ ρ) : Prop :=
  ∀ w ∈ s.written, w.sentTo = w.asker

-- no command waits for a slot that a connection is accepted for, or whose descriptor it gets
def AcceptsIdle (s : CatServer σ δ τ ρ) : CatEvent τ → Prop
  | .accept i fd => ∀ c ∈ s.queue, c.slot ≠ i ∧ (s.slots c.slot).fd ≠ some fd
  | _ => True

/--
The descriptors of the slots in use are those of their connections, and the connections of the slots
are those of the commands that wait for them.
-/
structure Connected (s : CatServer σ δ τ ρ) : Prop where
  replies : s.RepliesToAsker
  spare : ∀ i, (s.slots i).phase = .spare → (s.slots i).fd = none
  live : ∀ i, (s.slots i).phase.InUse →
    ∃ fd, (s.slots i).fd = some fd ∧ s.descriptors fd = some (s.slots i).conn
  distinct : ∀ i j, (s.slots i).phase.InUse → (s.slots j).phase.InUse → i ≠ j →
    (s.slots i).fd ≠ (s.slots j).fd
  queued_conn : ∀ c ∈ s.queue, (s.slots c.slot).conn = c.conn
  queued_fd : ∀ c ∈ s.queue, ∀ fd, (s.slots c.slot).fd = some fd →
    s.descriptors fd = none ∨ s.descriptors fd = some c.conn

theorem listening_connected (radio : σ)
    : (listening initial radio : CatServer σ δ τ ρ).Connected := by
  constructor
  . intro w hw
    contradiction
  . intro _ _
    rfl
  . intro _ h
    simp [listening, SlotPhase.InUse] at h
  . intro _ _ h
    simp [listening, SlotPhase.InUse] at h
  . intro c hc
    contradiction
  . intro c hc
    contradiction

-- a descriptor that is not open is not that of a slot in use
theorem fd_ne_of_inUse (h : s.Connected) (hi : (s.slots i).phase.InUse)
    (hfree : s.descriptors fd = none)
    : (s.slots i).fd ≠ some fd := by
  have ⟨f, hf, hd⟩ := h.live i hi
  intro heq
  rw [heq, Option.some.injEq] at hf
  rw [← hf, hfree] at hd
  contradiction

theorem accept_connected (h : s.Connected)
    (hidle : ∀ c ∈ s.queue, c.slot ≠ i ∧ (s.slots c.slot).fd ≠ some fd)
    : (s.accept i fd).Connected := by
  unfold accept
  split
  next hfree =>
    constructor
    . exact h.replies
    . intro j hj
      simp only [setSlot, Function.update_apply] at hj ⊢
      split at hj
      next => contradiction
      next hne =>
        rw [if_neg hne]
        exact h.spare j hj
    . intro j hj
      simp only [setSlot, Function.update_apply] at hj ⊢
      by_cases hij : j = i
      . refine ⟨fd, ?_⟩
        simp [hij]
      . rw [if_neg hij] at hj ⊢
        have ⟨f, hf, hd⟩ := h.live j hj
        have hne : f ≠ fd := by
          intro heq
          rw [heq] at hf
          exact fd_ne_of_inUse h hj hfree.2 hf
        refine ⟨f, hf, ?_⟩
        rw [if_neg hne]
        exact hd
    . intro j k hj hk hjk
      simp only [setSlot, Function.update_apply] at hj hk ⊢
      by_cases hji : j = i
      . rw [if_pos hji]
        have hki : k ≠ i := fun hki => hjk (hji.trans hki.symm)
        rw [if_neg hki] at hk ⊢
        exact (fd_ne_of_inUse h hk hfree.2).symm
      . rw [if_neg hji] at hj ⊢
        by_cases hki : k = i
        . rw [if_pos hki]
          exact fd_ne_of_inUse h hj hfree.2
        . rw [if_neg hki] at hk ⊢
          exact h.distinct j k hj hk hjk
    . intro c hc
      simp only [setSlot, Function.update_apply]
      rw [if_neg (hidle c hc).1]
      exact h.queued_conn c hc
    . intro c hc f hf
      simp only [setSlot, Function.update_apply] at hf ⊢
      rw [if_neg (hidle c hc).1] at hf
      have hne : f ≠ fd := by
        intro heq
        rw [heq] at hf
        exact (hidle c hc).2 hf
      rw [if_neg hne]
      exact h.queued_fd c hc f hf
  next => exact h

/--
A change of a slot that keeps its descriptor and its connection, and that does not put it to use.
-/
theorem setSlot_connected (h : s.Connected) {slot : Slot δ} (hfd : slot.fd = (s.slots i).fd)
    (hconn : slot.conn = (s.slots i).conn)
    (huse : slot.phase.InUse → (s.slots i).phase.InUse)
    (hspare : slot.phase = .spare → (s.slots i).phase = .spare)
    : (s.setSlot i slot).Connected := by
  have hfds : ∀ j, ((s.setSlot i slot).slots j).fd = (s.slots j).fd := by
    intro j
    simp only [setSlot, Function.update_apply]
    split <;> simp [*]
  have hconns : ∀ j, ((s.setSlot i slot).slots j).conn = (s.slots j).conn := by
    intro j
    simp only [setSlot, Function.update_apply]
    split <;> simp [*]
  have huses : ∀ j, ((s.setSlot i slot).slots j).phase.InUse → (s.slots j).phase.InUse := by
    intro j
    simp only [setSlot, Function.update_apply]
    split
    next hij =>
      rw [hij]
      exact huse
    next => exact id
  constructor
  . exact h.replies
  . intro j hj
    rw [hfds]
    apply h.spare
    simp only [setSlot, Function.update_apply] at hj
    split at hj
    next hij =>
      rw [hij]
      exact hspare hj
    next => exact hj
  . intro j hj
    rw [hfds, hconns]
    exact h.live j (huses j hj)
  . intro j k hj hk
    rw [hfds, hfds]
    exact h.distinct j k (huses j hj) (huses k hk)
  . intro c hc
    rw [hconns]
    exact h.queued_conn c hc
  . intro c hc
    rw [hfds]
    exact h.queued_fd c hc

theorem init_connected (h : s.Connected) : (s.init initial i).Connected := by
  unfold init
  split
  next hphase =>
    apply setSlot_connected h
    . rfl
    . rfl
    . exact fun _ => Or.inl hphase
    . exact fun hspare => by contradiction
  next => exact h

theorem receive_connected (h : s.Connected) (text : τ) : (s.receive i text).Connected := by
  unfold receive
  split
  next hphase =>
    have ⟨fd, hfd, hd⟩ := h.live i (Or.inr hphase)
    have ⟨hreplies, hspare, hlive, hdistinct, hconn, hqueued⟩ := h
    refine ⟨hreplies, hspare, hlive, hdistinct, ?_, ?_⟩
    . intro c hc
      rw [List.mem_append, List.mem_singleton] at hc
      cases hc with
      | inl hc => exact hconn c hc
      | inr hc => rw [hc]
    . intro c hc f hf
      rw [List.mem_append, List.mem_singleton] at hc
      cases hc with
      | inl hc => exact hqueued c hc f hf
      | inr hc =>
        rw [hc] at hf ⊢
        rw [hfd, Option.some.injEq] at hf
        rw [← hf]
        exact Or.inr hd
  next => exact h

theorem close_connected (h : s.Connected) : (s.close i).Connected := by
  unfold close
  split
  next fd hphase hfd =>
    have hset : (s.setSlot i { s.slots i with phase := .closed }).Connected := by
      apply setSlot_connected h
      . rfl
      . rfl
      . exact fun _ => Or.inr hphase
      . exact fun hspare => by contradiction
    have ⟨hreplies, hspare, hlive, hdistinct, hconn, hqueued⟩ := hset
    refine ⟨hreplies, hspare, ?_, hdistinct, hconn, ?_⟩
    . intro j hj
      have ⟨f, hf, hd⟩ := hlive j hj
      have hji : j ≠ i := by
        intro hji
        simp [setSlot, hji, SlotPhase.InUse] at hj
      have hne : f ≠ fd := by
        simp only [setSlot, Function.update_apply, if_neg hji] at hj hf
        intro heq
        apply h.distinct j i hj (Or.inr hphase) hji
        rw [hf, hfd, heq]
      refine ⟨f, hf, ?_⟩
      simp only [Function.update_apply, if_neg hne]
      exact hd
    . intro c hc f hf
      simp only [Function.update_apply]
      split
      next => exact Or.inl rfl
      next => exact hqueued c hc f hf
  next => exact h

theorem vacate_connected (h : s.Connected) : (s.vacate i).Connected := by
  unfold vacate
  split
  next hphase =>
    constructor
    . exact h.replies
    . intro j hj
      simp only [setSlot, Function.update_apply] at hj ⊢
      split
      next => rfl
      next hne =>
        rw [if_neg hne] at hj
        exact h.spare j hj
    . intro j hj
      simp only [setSlot, Function.update_apply] at hj ⊢
      by_cases hji : j = i
      . simp [hji, SlotPhase.InUse] at hj
      . rw [if_neg hji] at hj ⊢
        exact h.live j hj
    . intro j k hj hk
      simp only [setSlot, Function.update_apply] at hj hk ⊢
      by_cases hji : j = i
      . simp [hji, SlotPhase.InUse] at hj
      . by_cases hki : k = i
        . simp [hki, SlotPhase.InUse] at hk
        . rw [if_neg hji] at hj ⊢
          rw [if_neg hki] at hk ⊢
          exact h.distinct j k hj hk
    . intro c hc
      simp only [setSlot, Function.update_apply]
      split
      next hci =>
        rw [← hci]
        exact h.queued_conn c hc
      next => exact h.queued_conn c hc
    . intro c hc f hf
      simp only [setSlot, Function.update_apply] at hf
      split at hf
      next => contradiction
      next => exact h.queued_fd c hc f hf
  next => exact h

-- the replies to one command
def sendResps (i : Fin maxTcpClients) (asker : Nat) (s : CatServer σ δ τ ρ) (replies : List ρ)
    : CatServer σ δ τ ρ :=
  replies.foldl (fun s reply => s.sendResp i asker reply) s

theorem sendResp_connected (h : s.Connected) {asker : Nat} {reply : ρ}
    (hasker : ∀ conn, s.receiver i = some conn → conn = asker)
    : (s.sendResp i asker reply).Connected := by
  unfold sendResp
  split
  next => exact h
  next conn hconn =>
    have ⟨hreplies, hspare, hlive, hdistinct, hqconn, hqueued⟩ := h
    refine ⟨?_, hspare, hlive, hdistinct, hqconn, hqueued⟩
    intro w hw
    rw [List.mem_append, List.mem_singleton] at hw
    cases hw with
    | inl hw => exact hreplies w hw
    | inr hw =>
      rw [hw]
      exact hasker conn hconn

theorem sendResp_receiver {asker : Nat} {reply : ρ}
    : (s.sendResp i asker reply).receiver i = s.receiver i := by
  unfold sendResp
  split <;> rfl

theorem sendResps_connected (h : s.Connected) {asker : Nat} (replies : List ρ)
    (hasker : ∀ conn, s.receiver i = some conn → conn = asker)
    : (sendResps i asker s replies).Connected := by
  induction replies generalizing s with
  | nil => exact h
  | cons reply replies ih =>
    apply ih (sendResp_connected h hasker)
    rw [sendResp_receiver]
    exact hasker

theorem receiver_of_queued (h : s.Connected) {c : QueuedCommand τ} (hc : c ∈ s.queue) {conn : Nat}
    (hconn : s.receiver c.slot = some conn)
    : conn = c.conn := by
  unfold receiver at hconn
  split at hconn
  next => contradiction
  next fd hfd =>
    cases h.queued_fd c hc fd hfd with
    | inl hnone =>
      rw [hnone] at hconn
      contradiction
    | inr hsome =>
      rw [hsome, Option.some.injEq] at hconn
      exact hconn.symm

theorem parseCmd_connected (h : s.Connected) : (s.parseCmd parse).Connected := by
  unfold parseCmd
  split
  next => exact h
  next c queue hqueue =>
    have hc : c ∈ s.queue := by
      rw [hqueue]
      apply List.mem_cons_self
    have hset : ∀ data, (s.setSlot c.slot { s.slots c.slot with data := data }).Connected := by
      intro data
      apply setSlot_connected h
      . rfl
      . rfl
      . exact id
      . exact id
    have ⟨hreplies, hspare, hlive, hdistinct, hqconn, hqueued⟩ :=
      hset (parse s.radio (s.slots c.slot).data c.text).2.1
    apply sendResps_connected
    . refine ⟨hreplies, hspare, hlive, hdistinct, ?_, ?_⟩
      . intro c' hc'
        apply hqconn
        simp only [setSlot, hqueue]
        exact List.mem_cons_of_mem c hc'
      . intro c' hc'
        apply hqueued
        simp only [setSlot, hqueue]
        exact List.mem_cons_of_mem c hc'
    . intro conn hconn
      apply receiver_of_queued h hc
      rw [← hconn]
      simp [receiver, setSlot]

theorem event_connected (h : s.Connected) (e : CatEvent τ) (he : s.AcceptsIdle e)
    : (s.event initial parse e).Connected := by
  match e with
  | .accept i fd => exact accept_connected h he
  | .init i => exact init_connected h
  | .receive i text => exact receive_connected h text
  | .close i => exact close_connected h
  | .vacate i => exact vacate_connected h
  | .execute => exact parseCmd_connected h

theorem runsForAsker_of_connected (h : s.Connected) (e : CatEvent τ) : s.RunsForAsker e := by
  match e with
  | .accept i fd => trivial
  | .init i => trivial
  | .receive i text => trivial
  | .close i => trivial
  | .vacate i => trivial
  | .execute =>
    intro c hc
    exact Or.inl (h.queued_conn c (List.mem_of_mem_head? hc))

/--
In a run that accepts no connection for a slot whose commands still wait, every reply is written to
the connection its command came from or discarded, and no command runs on the data of a later client.
-/
theorem replies_to_asker (initial : δ) (parse : σ → δ → τ → σ × δ × List ρ) (radio : σ)
    (events : List (CatEvent τ))
    (h : Run.Along (event initial parse) AcceptsIdle (listening initial radio) events)
    : (Run.exec (event initial parse) (listening initial radio) events).RepliesToAsker ∧
      Run.Along (event initial parse) RunsForAsker (listening initial radio) events := by
  have hstart : (listening initial radio : CatServer σ δ τ ρ).Connected := listening_connected radio
  have hstep : ∀ (s : CatServer σ δ τ ρ) e, s.Connected → s.AcceptsIdle e →
      (s.event initial parse e).Connected := by
    intro s e hs he
    exact event_connected hs e he
  constructor
  . exact (Run.exec_invariant hstep hstart h).replies
  . apply Run.along_of_invariant hstep _ hstart h
    intro s e hs _
    exact runsForAsker_of_connected hs e

theorem replies_to_asker_autoReport
    : (Run.exec (event 0 parseAutoReport) (listening 0 ())
        [.accept 0 5, .init 0, .receive 0 .read, .execute]).RepliesToAsker := by
  have h : Run.Along (event 0 parseAutoReport) AcceptsIdle (listening 0 ())
      [.accept 0 5, .init 0, .receive 0 .read, .execute] :=
    ⟨fun c hc => absurd hc List.not_mem_nil, trivial, trivial, trivial, trivial⟩
  exact (replies_to_asker 0 parseAutoReport () _ h).1

/--
A client that queues `AI;` and goes away before the command is run: the client that takes over its
slot gets the reply.
-/
theorem reply_to_later_client
    : ¬ ((Run.exec (event 0 parseAutoReport) (listening 0 ())
          [.accept 0 5, .init 0, .receive 0 .read, .close 0, .vacate 0, .accept 0 5, .init 0,
            .execute]).RepliesToAsker ∧
        Run.Along (event 0 parseAutoReport) RunsForAsker (listening 0 ())
          [.accept 0 5, .init 0, .receive 0 .read, .close 0, .vacate 0, .accept 0 5, .init 0,
            .execute]) := by
  intro ⟨hreplies, _⟩
  exact absurd (hreplies ⟨2, 1, "AI0;"⟩ (List.mem_cons_self (l := []))) (by decide)

end CatServer

end Rigctl
