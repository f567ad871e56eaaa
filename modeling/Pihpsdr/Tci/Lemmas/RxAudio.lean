import Pihpsdr.Tci.Impl.RxAudio

/-!
A client gets all samples of a receiver that it asked for, as long as it is the only one that asked, and its queue
takes each frame.
-/

namespace Tci

variable {α : Type}

namespace TciRxAudioRing

variable {ring : TciRxAudioRing α} {q : List (α × α)}

def Holds (ring : TciRxAudioRing α) (q : List (α × α)) : Prop :=
  Ring.Holds tciRxAudioRingFrames ring.samples ring.inpt ring.outpt q

theorem read_eq {newpt n : Nat}
    (h : Ring.Holds tciRxAudioRingFrames ring.samples ring.inpt newpt q) (hn : n ≤ q.length)
    : ring.read newpt n = (q.take n, Ring.slot tciRxAudioRingFrames newpt n) := by
  induction n generalizing newpt q with
  | zero =>
    rw [Ring.slot_zero h.out_lt]
    rfl
  | succ n ih =>
    cases q with
    | nil => contradiction
    | cons x q =>
      rw [read, ih h.pop (Nat.le_of_succ_le_succ hn), h.head_eq, List.take_succ_cons, Ring.slot_succ]

theorem Holds.contents_eq (h : ring.Holds q) : ring.contents = q := by
  have havailable : ring.available = q.length := h.fill_eq
  rw [contents, read_eq h (Nat.le_of_eq havailable), havailable, List.take_length]

theorem Holds.put (h : ring.Holds q) (hroom : q.length + 1 < tciRxAudioRingFrames) (x : α × α)
    : (ring.put x).Holds (q ++ [x]) := by
  apply Ring.Holds.push h
  rw [Ne, h.full_iff]
  omega

theorem Holds.getFrame (h : ring.Holds q) (i : Receiver) {n : Nat} (hn : n ≤ q.length)
    : (ring.tciAudioGetFrame i n).1.audio = q.take n
        ∧ (ring.tciAudioGetFrame i n).2.Holds (q.drop n) := by
  unfold tciAudioGetFrame
  rw [read_eq h hn]
  exact ⟨rfl, h.drop hn⟩

theorem frames_le (h : ring.Holds q) (frameSize : Nat) : ring.frames frameSize ≤ q.length := by
  have havailable : ring.available = q.length := h.fill_eq
  unfold frames
  dsimp only
  split
  . exact Nat.zero_le _
  . rw [havailable]
    exact Nat.min_le_left _ _

end TciRxAudioRing

open TciRxAudioRing

namespace RxAudio

variable {s : RxAudio α} {c : Slot} {i : Receiver}

/--
Of the samples that are due to a client, those that it did not get are still in the ring, unless the ring has
overflowed.
-/
def Lawful (s : RxAudio α) : Prop :=
  ∀ c i, s.subscribed c i = true → s.overflowed i = false →
    s.got c i ++ (s.rings i).contents = s.due c i

-- a frame is taken for the only client that wants the samples, and this one's queue takes it
def Alone (s : RxAudio α) : RxAudioEvent α → Prop
  | .queue => ∀ c i n, s.reading = some (c, i, n) → s.overflowed i = false →
    ∀ c', s.subscribed c' i = true →
      c' = c ∧ (s.server.clients c).takesBinary (frameLen n) = true
  | _ => True

structure Wf (s : RxAudio α) : Prop where
  holds : ∀ i, (s.rings i).Holds (s.rings i).contents
  storing : ∀ i x, s.storing i = some x →
    (s.rings i).contents.length + 1 < tciRxAudioRingFrames
  reading : ∀ c i n, s.reading = some (c, i, n) → 0 < n ∧ n ≤ (s.rings i).contents.length
  lawful : s.Lawful

theorem start_wf (server : Server) (samples : Receiver → Nat → α × α)
    : (start server samples).Wf := by
  have hempty : ∀ i, ((start server samples).rings i).Holds [] := fun i =>
    Ring.Holds.empty (Nat.zero_lt_succ _)
  refine ⟨?_, (fun _ _ h => nomatch h), (fun _ _ _ h => nomatch h), ?_⟩
  . intro i
    rw [(hempty i).contents_eq]
    exact hempty i
  . intro c i _ _
    rw [(hempty i).contents_eq]
    rfl

theorem Wf.serve (h : s.Wf) (server : Server) : (s.serve server).Wf := by
  refine ⟨h.holds, h.storing, h.reading, ?_⟩
  intro c i hsubscribed hoverflowed
  have hlaw := h.lawful c i
  have hafter : ((server.clients c).running && (server.clients c).rxAudioEnabled i) = true :=
    hsubscribed
  show (if (!s.subscribed c i && (server.clients c).running && (server.clients c).rxAudioEnabled i)
      = true then [] else s.got c i) ++ (s.rings i).contents
    = if (!s.subscribed c i && (server.clients c).running && (server.clients c).rxAudioEnabled i)
      = true then (s.rings i).contents else s.due c i
  rw [Bool.and_assoc, hafter, Bool.and_true]
  by_cases hbefore : s.subscribed c i = true
  . rw [hbefore, Bool.not_true, if_neg Bool.false_ne_true, if_neg Bool.false_ne_true]
    exact hlaw hbefore hoverflowed
  . rw [Bool.eq_false_of_not_eq_true hbefore, Bool.not_false, if_pos rfl, if_pos rfl]
    rfl

-- a new sample is due to all clients that want it
theorem lawful_produced {x : α × α} {rings : Receiver → TciRxAudioRing α}
    (hrings : ∀ j, j ≠ i → rings j = s.rings j)
    (hring : s.overflowed i = false → (rings i).contents = (s.rings i).contents ++ [x])
    (h : s.Lawful)
    : ({ s with rings }.produced i x).Lawful := by
  intro c j hsubscribed hoverflowed
  have hlaw := h c j hsubscribed hoverflowed
  show s.got c j ++ (rings j).contents
    = if j = i ∧ s.subscribed c i then s.due c j ++ [x] else s.due c j
  by_cases hj : j = i
  . subst hj
    rw [if_pos ⟨rfl, hsubscribed⟩, hring hoverflowed, ← hlaw, List.append_assoc]
  . rw [if_neg (fun hand => hj hand.1), hrings j hj, hlaw]

theorem Wf.look (h : s.Wf) (id : Int) (x : α × α) : (s.look id x).Wf := by
  unfold RxAudio.look
  split
  next => exact h
  next hid =>
    dsimp only
    generalize (⟨id.toNat, _⟩ : Receiver) = i
    split
    next => exact h
    next hstoring =>
      split
      next hroom =>
        refine ⟨h.holds, ?_, h.reading, h.lawful⟩
        intro j y hy
        by_cases hj : j = i
        . subst hj
          have := (h.holds j).length_lt
          rw [Ne, (h.holds j).full_iff] at hroom
          show (s.rings j).contents.length + 1 < tciRxAudioRingFrames
          omega
        . have hy : Function.update s.storing i (some x) j = some y := hy
          rw [Function.update_of_ne hj] at hy
          exact h.storing j y hy
      next hfull =>
        refine ⟨h.holds, h.storing, h.reading, ?_⟩
        have hlawful : Lawful { s with overflowed := Function.update s.overflowed i true } := by
          intro c j hsubscribed hoverflowed
          refine h.lawful c j hsubscribed ?_
          by_cases hj : j = i
          . subst hj
            simp at hoverflowed
          . simpa [hj] using hoverflowed
        refine lawful_produced (fun _ _ => rfl) (fun hoverflowed => ?_) hlawful
        simp at hoverflowed

theorem holds_update {rings : Receiver → TciRxAudioRing α} (h : ∀ j, (rings j).Holds (rings j).contents)
    {ring : TciRxAudioRing α} {q : List (α × α)} (hring : ring.Holds q) (i j : Receiver)
    : (Function.update rings i ring j).Holds (Function.update rings i ring j).contents := by
  by_cases hj : j = i
  . subst hj
    rw [Function.update_self, hring.contents_eq]
    exact hring
  . rw [Function.update_of_ne hj]
    exact h j

theorem Wf.store (h : s.Wf) (i : Receiver) : (s.store i).Wf := by
  unfold RxAudio.store
  split
  next => exact h
  next x hx =>
    have hput := (h.holds i).put (h.storing i x hx) x
    refine ⟨holds_update h.holds hput i, ?_, ?_, ?_⟩
    . intro j y hy
      have hy : Function.update s.storing i none j = some y := hy
      show (Function.update s.rings i ((s.rings i).put x) j).contents.length + 1 < _
      by_cases hj : j = i
      . subst hj
        simp at hy
      . rw [Function.update_of_ne hj] at hy ⊢
        exact h.storing j y hy
    . intro c j n hreading
      have ⟨hpos, hle⟩ := h.reading c j n hreading
      refine ⟨hpos, ?_⟩
      show n ≤ (Function.update s.rings i ((s.rings i).put x) j).contents.length
      by_cases hj : j = i
      . subst hj
        rw [Function.update_self, hput.contents_eq, List.length_append]
        omega
      . rw [Function.update_of_ne hj]
        exact hle
    . refine lawful_produced (s := { s with storing := Function.update s.storing i none }) ?_ ?_
        h.lawful
      . intro j hj
        exact Function.update_of_ne hj _ _
      . intro _
        rw [Function.update_self, hput.contents_eq]

theorem Wf.count (h : s.Wf) (c : Slot) (i : Receiver) : (s.count c i).Wf := by
  unfold RxAudio.count
  split
  next =>
    dsimp only
    split
    next => exact h
    next hpos =>
      refine ⟨h.holds, h.storing, ?_, h.lawful⟩
      intro c' j n hreading
      cases hreading
      exact ⟨Nat.lt_of_not_le hpos, frames_le (h.holds i) _⟩
  next => exact h

theorem wants_tciQueueBinaryFrame (client : Client) (len : Nat)
    : (client.tciQueueBinaryFrame len).running = client.running
        ∧ (client.tciQueueBinaryFrame len).rxAudioEnabled = client.rxAudioEnabled := by
  unfold Client.tciQueueBinaryFrame
  split
  . exact ⟨rfl, rfl⟩
  . split <;> exact ⟨rfl, rfl⟩

theorem subscribed_queue (s : RxAudio α) (c : Slot) (i : Receiver)
    : s.queue.subscribed c i = s.subscribed c i := by
  unfold RxAudio.queue
  split
  next => rfl
  next c' j n _ =>
    have ⟨hrunning, henabled⟩ := wants_tciQueueBinaryFrame (s.server.clients c') (frameLen n)
    unfold subscribed Server.modify
    dsimp only
    by_cases hc : c = c'
    . subst hc
      rw [Function.update_self, hrunning, henabled]
    . rw [Function.update_of_ne hc]

-- what a frame changes
theorem queue_spec (h : s.Wf) {n : Nat} (hreading : s.reading = some (c, i, n))
    : (∀ j, (s.queue.rings j).Holds (s.queue.rings j).contents)
        ∧ (s.queue.rings i).contents = (s.rings i).contents.drop n
        ∧ (∀ j, j ≠ i → s.queue.rings j = s.rings j)
        ∧ ∀ c' j, s.queue.got c' j
          = if c' = c ∧ j = i ∧ (s.server.clients c).takesBinary (frameLen n) = true then
              s.got c' j ++ (s.rings i).contents.take n
            else
              s.got c' j := by
  have ⟨haudio, hholds⟩ := (h.holds i).getFrame i (h.reading c i n hreading).2
  unfold RxAudio.queue
  rw [hreading]
  dsimp only
  refine ⟨holds_update h.holds hholds i, ?_, ?_, ?_⟩
  . rw [Function.update_self, hholds.contents_eq]
  . intro j hj
    exact Function.update_of_ne hj _ _
  . intro c' j
    rw [haudio]

theorem Wf.queue (h : s.Wf) (halone : s.Alone .queue) : s.queue.Wf := by
  cases hreading : s.reading with
  | none =>
    have hsame : s.queue = s := by
      unfold RxAudio.queue
      rw [hreading]
    rw [hsame]
    exact h
  | some frame =>
    obtain ⟨c, i, n⟩ := frame
    have ⟨hholds, hcontents, hother, hgot⟩ := queue_spec h hreading
    have hrest : s.queue.storing = s.storing ∧ s.queue.reading = none ∧ s.queue.due = s.due
        ∧ s.queue.overflowed = s.overflowed := by
      unfold RxAudio.queue
      rw [hreading]
      exact ⟨rfl, rfl, rfl, rfl⟩
    obtain ⟨hstoring, hnone, hdue, hoverflow⟩ := hrest
    refine ⟨hholds, ?_, ?_, ?_⟩
    . intro j x hx
      rw [hstoring] at hx
      have hroom := h.storing j x hx
      by_cases hj : j = i
      . subst hj
        rw [hcontents, List.length_drop]
        omega
      . rw [hother j hj]
        exact hroom
    . intro c' j m hreading'
      rw [hnone] at hreading'
      contradiction
    . intro c' j hsubscribed hoverflowed
      rw [subscribed_queue] at hsubscribed
      rw [hoverflow] at hoverflowed
      have hlaw := h.lawful c' j hsubscribed hoverflowed
      rw [hdue, hgot]
      by_cases hj : j = i
      . subst hj
        have ⟨hc, htaken⟩ := halone c j n hreading hoverflowed c' hsubscribed
        rw [if_pos ⟨hc, rfl, htaken⟩, hcontents, List.append_assoc, List.take_append_drop]
        exact hlaw
      . rw [if_neg (fun hand => hj hand.2.1), hother j hj]
        exact hlaw

theorem Wf.alone (h : s.Wf) (hlawful : s.queue.Lawful) : s.Alone .queue := by
  intro c i n hreading hoverflowed c' hsubscribed
  have ⟨_, hcontents, _, hgot⟩ := queue_spec h hreading
  have hrest : s.queue.due = s.due ∧ s.queue.overflowed = s.overflowed := by
    unfold RxAudio.queue
    rw [hreading]
    exact ⟨rfl, rfl⟩
  have hlaw := h.lawful c' i hsubscribed hoverflowed
  have hlaw' := hlawful c' i (by rw [subscribed_queue]; exact hsubscribed)
    (by rw [hrest.2]; exact hoverflowed)
  rw [hrest.1, ← hlaw, hcontents, hgot] at hlaw'
  by_contra hnot
  rw [if_neg (fun hand => hnot ⟨hand.1, hand.2.2⟩)] at hlaw'
  have hlength := congrArg List.length (List.append_cancel_left hlaw')
  have ⟨hpos, hle⟩ := h.reading c i n hreading
  rw [List.length_drop] at hlength
  omega

/--
Whatever comes in which order: the law holds at all times exactly if each frame is taken for the only client that
wants the samples, and is queued.
-/
theorem sent_lawful_iff (server : Server) (samples : Receiver → Nat → α × α)
    (events : List (RxAudioEvent α))
    : (∀ events', events' <+: events → (Run.exec step (start server samples) events').Lawful)
        ↔ Run.Along step Alone (start server samples) events := by
  apply Run.forall_prefix_iff_along_of (I := Wf) (J := Lawful) (P := Alone)
  . intro s event h halone
    cases event with
    | server event => exact h.serve _
    | look id x => exact h.look id x
    | store i => exact h.store i
    | count c i => exact h.count c i
    | queue => exact h.queue halone
  . intro s event h hlawful
    cases event with
    | queue => exact h.alone hlawful
    | _ => trivial
  . intro s h
    exact h.lawful
  . exact start_wf server samples

def secondSlot : Slot :=
  ⟨1, Nat.one_lt_succ_succ _⟩

def firstReceiver : Receiver :=
  ⟨0, Nat.zero_lt_succ _⟩

-- two clients want the samples of the first receiver
theorem not_shared
    : ¬(Run.exec step (start (Server.start (.receiving true false 2) 0) fun _ _ => (0, 0))
        [.server (.established 1), .server (.established 2),
          .server (.rxAudio Slot.first firstReceiver true),
          .server (.rxAudio secondSlot firstReceiver true), .look 0 (1, 1), .store firstReceiver,
          .count Slot.first firstReceiver, .queue]).Lawful := by
  intro h
  have hlaw := h secondSlot firstReceiver (by decide +kernel) (by decide +kernel)
  exact absurd hlaw (by decide +kernel)

end RxAudio

end Tci
