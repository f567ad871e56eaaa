import Pihpsdr.Tci.Lemmas.Linked

/-!
The table of the clients: the transmitter is owned exactly if one running client is its owner, `cat_control`
counts the clients that are connected, and nothing of a client is left to the next one in its slot. It is so
as long as each client is still running when its connection is closed, leaves nothing in the main loop when
its slot is given away, and is running when it takes the transmitter.
-/

namespace Tci

namespace Server

-- the open connections that were given a slot
def connected (s : Server) : Nat :=
  s.conns.countP fun conn => conn.slot.isSome

structure Sound (s : Server) : Prop where
  owned : s.tciTransmitterOwned = true
    ↔ ∃! c, (s.clients c).running = true ∧ (s.clients c).txOwner = true
  catControl : s.catControl = s.others + s.connected
  payloads : ∀ c, (s.clients c).running = true →
    ∀ n load, .payload c n load ∈ s.idles → n = (s.clients c).session
  reporters : ∀ c, (s.clients c).running = true →
    ∀ t ∈ s.reporters, t.slot = c → t.id = (s.clients c).tciTimer

-- a client starts with nothing that was set for the one before it
def StartsFresh (s : Server) (e : Event) : Prop :=
  ∀ wsi c, e = .established wsi → s.isOpen wsi = false → s.freeSlot? = some c →
    let client := (s.step e).clients c
    client.lwsTxQueue = some [] ∧ client.idleQueued = 0 ∧ client.reports = Reports.none
      ∧ client.rxAudioEnabled = (fun _ => false) ∧ client.txAudioEnabled = false
      ∧ client.txAudioRxCount = 0 ∧ client.binaryRxLen = 0 ∧ client.binaryRxSize = 0

structure KeepsTable (s : Server) (e : Event) : Prop where
  takes : ∀ c, s.Takes e c → (s.clients c).running = true
  closed : ∀ wsi c, e = .closed wsi → s.slot? wsi = some c → (s.clients c).running = true
  established : ∀ wsi c, e = .established wsi → s.isOpen wsi = false → s.freeSlot? = some c →
    (∀ n load, .payload c n load ∉ s.idles) ∧ ∀ t ∈ s.reporters, t.slot ≠ c

theorem startsFresh (s : Server) (e : Event) : s.StartsFresh e := by
  intro wsi c he hopen hfree
  have hjoined : Joined s (s.established wsi) wsi c := by
    cases established_cases s wsi with
    | inl h =>
      rw [h.1] at hfree
      nomatch hfree
    | inr h =>
      have ⟨d, hd, hj⟩ := h
      rw [hd] at hfree
      cases hfree
      exact hj
  have hstep : s.step e = s.established wsi := by
    rw [he]
    unfold step
    simp [hopen]
  rw [hstep]
  dsimp only
  rw [hjoined.client]
  exact ⟨rfl, rfl, rfl, rfl, rfl, rfl, rfl, rfl⟩

-- what carries `Sound` from one step to the next
structure Tabled (s : Server) : Prop where
  linked : s.Linked
  owner_running : ∀ c, (s.clients c).txOwner = true → (s.clients c).running = true
  owner_unique : ∀ c d, (s.clients c).txOwner = true → (s.clients d).txOwner = true → c = d
  owned : s.tciTransmitterOwned = true ↔ ∃ c, (s.clients c).txOwner = true
  catControl : s.catControl = s.others + s.connected
  payloads : ∀ c, (s.clients c).running = true →
    ∀ n load, .payload c n load ∈ s.idles → n = (s.clients c).session
  reporters : ∀ c, (s.clients c).running = true →
    ∀ t ∈ s.reporters, t.slot = c → t.id = (s.clients c).tciTimer

namespace Tabled

variable {s s' : Server}

theorem sound (hs : s.Tabled) : s.Sound where
  owned := by
    rw [hs.owned]
    constructor
    . intro ⟨c, hc⟩
      refine ⟨c, ⟨hs.owner_running c hc, hc⟩, ?_⟩
      intro d hd
      exact hs.owner_unique d c hd.2 hc
    . intro ⟨c, hc, _⟩
      exact ⟨c, hc.2⟩
  catControl := hs.catControl
  payloads := hs.payloads
  reporters := hs.reporters

theorem of_same (hs : s.Tabled) (h : Same s s') : s'.Tabled where
  linked := hs.linked.of_fewer h.fewer
  owner_running c hc := by
    rw [(h.clients c).running]
    rw [(h.clients c).txOwner] at hc
    exact hs.owner_running c hc
  owner_unique c d hc hd := by
    rw [(h.clients c).txOwner] at hc
    rw [(h.clients d).txOwner] at hd
    exact hs.owner_unique c d hc hd
  owned := by
    rw [h.owned, hs.owned]
    simp only [(h.clients _).txOwner]
  catControl := by
    unfold connected
    rw [h.catControl, h.others, h.conns]
    exact hs.catControl
  payloads c hc n load hmem := by
    rw [(h.clients c).running] at hc
    rw [(h.clients c).session]
    exact hs.payloads c hc n load (h.idles hmem)
  reporters c hc t ht hslot := by
    rw [(h.clients c).running] at hc
    rw [(h.clients c).tciTimer hc]
    exact hs.reporters c hc t (h.reporters ht) hslot

-- the owner and the pending sources once a client is gone
theorem of_gone (hs : s.Tabled) {c : Slot} (h : Gone s s' c) (hlinked : s'.Linked)
    (hcat : s'.catControl = s'.others + s'.connected)
    (hidles : ∀ d n load, .payload d n load ∈ s'.idles → .payload d n load ∈ s.idles)
    : s'.Tabled := by
  have hrunning : ∀ d, (s'.clients d).running = true → d ≠ c := by
    intro d hd hdc
    rw [hdc, h.running] at hd
    nomatch hd
  refine ⟨hlinked, ?_, ?_, ?_, hcat, ?_, ?_⟩
  . intro d hd
    have ⟨hdc, hd⟩ := h.of_txOwner hd
    rw [h.clients d hdc]
    exact hs.owner_running d hd
  . intro d e hd he
    exact hs.owner_unique d e (h.of_txOwner hd).2 (h.of_txOwner he).2
  . rw [h.owned, Bool.and_eq_true, hs.owned, Bool.not_eq_true']
    constructor
    . intro ⟨hc, d, hd⟩
      refine ⟨d, ?_⟩
      rw [h.clients d]
      . exact hd
      . intro hdc
        rw [hdc, hc] at hd
        nomatch hd
    . intro ⟨d, hd⟩
      have ⟨hdc, hd⟩ := h.of_txOwner hd
      refine ⟨?_, d, hd⟩
      rw [Bool.eq_false_iff]
      exact fun hc => hdc (hs.owner_unique d c hd hc)
  . intro d hd n load hmem
    have hdc := hrunning d hd
    rw [h.clients d hdc] at hd ⊢
    exact hs.payloads d hd n load (hidles d n load hmem)
  . intro d hd t ht hslot
    have hdc := hrunning d hd
    rw [h.clients d hdc] at hd ⊢
    exact hs.reporters d hd t (h.reporters ht) hslot

theorem leave (hs : s.Tabled) (c : Slot) : (s.leave c).Tabled := by
  have ⟨hgone, hconns, hcat, hidles⟩ := gone_leave s c
  apply hs.of_gone hgone
  . exact hs.linked.of_fewer (fewer_leave s c)
  . unfold connected
    rw [hcat, hgone.others, hconns]
    exact hs.catControl
  . rw [hidles]
    exact fun _ _ _ h => h

theorem takeOwner (hs : s.Tabled) {c : Slot} (hfree : s.tciTransmitterOwned = false)
    (hc : (s.clients c).running = true)
    : (s.takeOwner c true).Tabled := by
  have hlinked := hs.linked.of_fewer (fewer_takeOwner hfree c)
  have howner : ∀ d, (decide (d = c) || (s.clients d).txOwner) = true ↔ d = c := by
    intro d
    rw [Bool.or_eq_true, decide_eq_true_iff, or_iff_left_iff_imp]
    intro hd
    rw [hs.owned.mpr ⟨d, hd⟩] at hfree
    nomatch hfree
  rw [takeOwner_of_free hfree] at hlinked ⊢
  refine ⟨hlinked, ?_, ?_, ?_, hs.catControl, hs.payloads, hs.reporters⟩
  . intro d hd
    rw [(howner d).mp hd]
    exact hc
  . intro d e hd he
    rw [(howner d).mp hd, (howner e).mp he]
  . exact ⟨fun _ => ⟨c, (howner c).mpr rfl⟩, fun _ => rfl⟩

theorem established (hs : s.Tabled) {wsi : Nat} (hopen : s.isOpen wsi = false)
    (h : ∀ c, s.freeSlot? = some c →
      (∀ n load, .payload c n load ∉ s.idles) ∧ ∀ t ∈ s.reporters, t.slot ≠ c)
    : (s.established wsi).Tabled := by
  have hlinked := linked_established hs.linked hopen
  cases established_cases s wsi with
  | inl hnone =>
    rw [hnone.2] at hlinked ⊢
    refine ⟨hlinked, hs.owner_running, hs.owner_unique, hs.owned, ?_, hs.payloads, hs.reporters⟩
    have hcat := hs.catControl
    unfold connected at hcat ⊢
    simpa using hcat
  | inr hsome =>
    have ⟨c, hfree, hj⟩ := hsome
    have hc := not_running_of_freeSlot? hfree
    have ⟨hpayloads, hreporters⟩ := h c hfree
    have hnew : ((s.established wsi).clients c).txOwner = false := by
      rw [hj.client]
      rfl
    have hold : ∀ d, ((s.established wsi).clients d).txOwner = true
        ↔ (s.clients d).txOwner = true := by
      intro d
      by_cases hd : d = c
      . rw [hd, hnew]
        refine ⟨(nomatch ·), fun howner => ?_⟩
        rw [hs.owner_running c howner] at hc
        nomatch hc
      . rw [hj.clients d hd]
    refine ⟨hlinked, ?_, ?_, ?_, ?_, ?_, ?_⟩
    . intro d hd
      have hdc : d ≠ c := by
        intro hdc
        rw [hdc, hnew] at hd
        nomatch hd
      rw [hj.clients d hdc]
      exact hs.owner_running d ((hold d).mp hd)
    . intro d e hd he
      exact hs.owner_unique d e ((hold d).mp hd) ((hold e).mp he)
    . rw [hj.owned, hs.owned]
      simp only [hold]
    . have hcat := hs.catControl
      unfold connected at hcat ⊢
      rw [hj.catControl, hj.others, hj.conns, List.countP_cons_of_pos rfl, hcat]
      rfl
    . intro d hd n load hmem
      rw [hj.idles] at hmem
      by_cases hdc : d = c
      . rw [hdc] at hmem
        exact absurd hmem (hpayloads n load)
      . rw [hj.clients d hdc] at hd ⊢
        exact hs.payloads d hd n load hmem
    . intro d hd t ht hslot
      rw [hj.reporters, List.mem_append, List.mem_singleton] at ht
      by_cases hdc : d = c
      . cases ht with
        | inl hold => exact absurd (hslot.trans hdc) (hreporters t hold)
        | inr hnew =>
          rw [hdc, hj.client, hnew]
      . rw [hj.clients d hdc] at hd ⊢
        cases ht with
        | inl hold => exact hs.reporters d hd t hold hslot
        | inr hnew =>
          rw [hnew] at hslot
          exact absurd hslot.symm hdc

theorem receive (hs : s.Tabled) (wsi : Nat) (cmd : TciCmd) : (s.receive wsi cmd).Tabled := by
  have hlinked := linked_receive hs.linked wsi cmd
  unfold Server.receive at hlinked ⊢
  cases hslot : s.runningSlot? wsi with
  | none => exact hs
  | some c =>
    rw [hslot] at hlinked
    refine { hs with linked := hlinked, payloads := ?_ }
    intro d hd n load hmem
    rw [List.mem_append, List.mem_singleton] at hmem
    cases hmem with
    | inl hold => exact hs.payloads d hd n load hold
    | inr hnew =>
      cases hnew
      rfl

-- a connection that was given a slot is one less
theorem connected_filter (hs : s.Linked) (wsi : Nat)
    : ({ s with conns := s.conns.filter fun conn => conn.wsi ≠ wsi } : Server).connected
          + (if (s.slot? wsi).isSome then 1 else 0)
        = s.connected := by
  unfold connected
  dsimp only
  by_cases hopen : ∃ conn ∈ s.conns, conn.wsi = wsi
  . have ⟨conn, hconn, hwsi⟩ := hopen
    have herase : s.conns.filter (fun conn => conn.wsi ≠ wsi) = s.conns.erase conn := by
      rw [(List.Nodup.of_map _ hs.wsi_nodup).erase_eq_filter]
      apply List.filter_congr
      intro other hother
      rw [← hwsi, bne, decide_not]
      congr 1
      rw [Bool.eq_iff_iff, decide_eq_true_iff, beq_iff_eq]
      constructor
      . exact List.inj_on_of_nodup_map hs.wsi_nodup hother hconn
      . intro heq
        rw [heq]
    have hpos : conn.slot.isSome = true → 0 < s.conns.countP fun conn => conn.slot.isSome :=
      fun h => List.countP_pos_iff.mpr ⟨conn, hconn, h⟩
    rw [herase, List.countP_erase, ← hwsi, slot?_of_mem hs hconn]
    simp only [hconn, true_and]
    split
    next hslot =>
      have := hpos hslot
      omega
    next => rfl
  . have hself : s.conns.filter (fun conn => conn.wsi ≠ wsi) = s.conns := by
      rw [List.filter_eq_self]
      intro conn hconn
      rw [decide_eq_true_iff]
      exact fun hwsi => hopen ⟨conn, hconn, hwsi⟩
    have hslot : s.slot? wsi = none := by
      unfold slot?
      rw [Option.bind_eq_none_iff]
      intro conn hfind
      have hwsi : conn.wsi = wsi := by simpa using List.find?_some hfind
      exact absurd ⟨conn, List.mem_of_find?_eq_some hfind, hwsi⟩ hopen
    rw [hself, hslot]
    rfl

theorem closed (hs : s.Tabled) {wsi : Nat}
    (h : ∀ c, s.slot? wsi = some c → (s.clients c).running = true)
    : (s.closed wsi).Tabled := by
  have hlinked := linked_closed hs.linked wsi
  have hcount := connected_filter hs.linked wsi
  cases closed_cases s wsi with
  | inl hnone =>
    have hslot : s.slot? wsi = none := by
      cases hslot : s.slot? wsi with
      | none => rfl
      | some c =>
        have hrunning := runningSlot?_eq_some.mpr ⟨hslot, h c hslot⟩
        rw [hnone.1] at hrunning
        nomatch hrunning
    rw [hnone.2] at hlinked ⊢
    refine { hs with linked := hlinked, catControl := ?_ }
    have hcat := hs.catControl
    rw [hslot] at hcount
    simp only [Option.isSome_none, Bool.false_eq_true, if_false, Nat.add_zero] at hcount
    rw [hcount]
    exact hcat
  | inr hsome =>
    have ⟨c, hrunning, heq⟩ := hsome
    have ⟨hgone, _, hcat, hidles⟩ := gone_cleanUp s c
    have ⟨hslot, _⟩ := runningSlot?_eq_some.mp hrunning
    rw [heq] at hlinked ⊢
    have hgone' : Gone s
        { s.cleanUp c with conns := s.conns.filter fun conn => conn.wsi ≠ wsi } c := { hgone with }
    apply hs.of_gone hgone' hlinked
    . have hold := hs.catControl
      rw [hslot] at hcount
      unfold connected at hcount hold ⊢
      simp only [Option.isSome_some, reduceIte] at hcount
      dsimp only at hcount ⊢
      rw [hcat, hgone.others]
      omega
    . exact (fewer_cleanUp s c).payloads

theorem launch (hs : s.Tabled) : s.launch.Tabled := by
  have hlinked := linked_launch hs.linked
  unfold Server.launch at hlinked ⊢
  by_cases hconns : s.conns = []
  . rw [if_pos hconns] at hlinked ⊢
    refine ⟨hlinked, ?_, ?_, ?_, hs.catControl, ?_, ?_⟩
    . exact fun c hc => absurd hc Bool.false_ne_true
    . exact fun c d hc _ => absurd hc Bool.false_ne_true
    . dsimp only
      rw [hs.owned]
      constructor
      . intro ⟨c, hc⟩
        have ⟨conn, hconn, _⟩ := hs.linked.running c (hs.owner_running c hc)
        rw [hconns] at hconn
        exact absurd hconn List.not_mem_nil
      . exact fun ⟨c, hc⟩ => absurd hc Bool.false_ne_true
    . exact fun c hc => absurd hc Bool.false_ne_true
    . exact fun c hc => absurd hc Bool.false_ne_true
  . rw [if_neg hconns]
    exact hs

theorem other (hs : s.Tabled) (connects : Bool) : (s.step (.other connects)).Tabled := by
  have hcat := hs.catControl
  have hlinked := linked_step (.other connects) hs.linked
  unfold step at hlinked ⊢
  cases connects with
  | true =>
    refine { hs with linked := hlinked, catControl := ?_ }
    unfold connected at hcat ⊢
    dsimp only
    omega
  | false =>
    dsimp only at hlinked ⊢
    by_cases hothers : s.others = 0
    . rw [if_pos hothers]
      exact hs
    . rw [if_neg hothers] at hlinked ⊢
      refine { hs with linked := hlinked, catControl := ?_ }
      unfold connected at hcat ⊢
      dsimp only
      omega

theorem step (hs : s.Tabled) {e : Event} (h : s.KeepsTable e) : (s.step e).Tabled := by
  apply step_invariant hs
  . exact fun t u ht htu => ht.of_same htu
  . exact fun t c ht => ht.leave c
  . intro t c htakes hst
    apply (hs.of_same hst).takeOwner
    . rw [hst.owned]
      exact htakes.1
    . rw [(hst.clients c).running]
      exact h.takes c htakes
  . intro env idles he hidles
    have hmem : ∀ i, i ∈ idles → i ∈ s.idles := by
      rw [hidles]
      exact fun i hi => List.mem_cons_of_mem _ hi
    refine { hs with linked := ?_, payloads := ?_ }
    . exact { hs.linked with payload_lt := fun c n load hi => hs.linked.payload_lt c n load (hmem _ hi) }
    . exact fun c hc n load hi => hs.payloads c hc n load (hmem _ hi)
  . exact fun wsi he hopen => hs.established hopen fun c => h.established wsi c he hopen
  . exact fun wsi cmd _ => hs.receive wsi cmd
  . exact fun wsi he => hs.closed fun c => h.closed wsi c he
  . exact fun connects _ => hs.other connects
  . exact fun _ => hs.launch

theorem start (radio : Transmit.RxTx) (others : Nat) : (start radio others).Tabled where
  linked := linked_start radio others
  owner_running _ h := absurd h Bool.false_ne_true
  owner_unique _ _ h := absurd h Bool.false_ne_true
  owned := ⟨(nomatch ·), fun ⟨_, h⟩ => nomatch h⟩
  catControl := rfl
  payloads _ h := absurd h Bool.false_ne_true
  reporters _ h := absurd h Bool.false_ne_true

end Tabled

theorem keepsTable_of_sound {s : Server} {e : Event} (hs : s.Tabled) (h : (s.step e).Sound)
    : s.KeepsTable e where
  takes c htakes := by
    have ⟨t, hst, htu⟩ := step_of_takes htakes
    have hfree : t.tciTransmitterOwned = false := by rw [hst.owned, htakes.1]
    rw [takeOwner_of_free hfree] at htu
    have howned : (s.step e).tciTransmitterOwned = true := htu.owned
    have ⟨d, ⟨hrunning, howner⟩, _⟩ := h.owned.mp howned
    rw [(htu.clients d).txOwner, Bool.or_eq_true, decide_eq_true_iff, (hst.clients d).txOwner]
      at howner
    cases howner with
    | inl hd =>
      rw [← hd, ← (hst.clients d).running, ← hrunning, (htu.clients d).running]
    | inr hd =>
      have := hs.owned.mpr ⟨d, hd⟩
      rw [htakes.1] at this
      nomatch this
  closed wsi c he hslot := by
    rw [← Bool.not_eq_false]
    intro hc
    have hnone : s.runningSlot? wsi = none := by
      unfold runningSlot?
      rw [hslot]
      simp [Option.filter, hc]
    have hstep : s.step e = { s with conns := s.conns.filter fun conn => conn.wsi ≠ wsi } := by
      rw [he]
      cases closed_cases s wsi with
      | inl h => exact h.2
      | inr h =>
        have ⟨d, hd, _⟩ := h
        rw [hnone] at hd
        nomatch hd
    have hcat := h.catControl
    rw [hstep] at hcat
    have hold := hs.catControl
    have hcount := Tabled.connected_filter hs.linked wsi
    rw [hslot] at hcount
    simp only [Option.isSome_some, reduceIte] at hcount
    dsimp only at hcat
    omega
  established wsi c he hopen hfree := by
    have hstep : s.step e = s.established wsi := by
      rw [he]
      unfold step
      simp [hopen]
    rw [hstep] at h
    cases established_cases s wsi with
    | inl hnone =>
      rw [hnone.1] at hfree
      nomatch hfree
    | inr hsome =>
      have ⟨d, hd, hj⟩ := hsome
      rw [hd] at hfree
      cases hfree
      have hrunning : ((s.established wsi).clients c).running = true := by
        rw [hj.client]
        rfl
      constructor
      . intro n load hmem
        have hlt := hs.linked.payload_lt c n load hmem
        rw [← hj.idles] at hmem
        have heq := h.payloads c hrunning n load hmem
        rw [hj.client] at heq
        dsimp only [Client.tciInitClient] at heq
        omega
      . intro t ht hslot
        have hlt := hs.linked.reporter_lt t ht
        have hmem : t ∈ (s.established wsi).reporters := by
          rw [hj.reporters]
          exact List.mem_append_left _ ht
        have heq := h.reporters c hrunning t hmem hslot
        rw [hj.client] at heq
        dsimp only at heq
        omega

theorem table_iff (radio : Transmit.RxTx) (others : Nat) (es : List Event)
    : (∀ es', es' <+: es → ((start radio others).run es').Sound)
          ∧ Run.Along step StartsFresh (start radio others) es
        ↔ Run.Along step KeepsTable (start radio others) es := by
  have hsound := Run.forall_prefix_iff_along_of (I := Tabled) (J := Sound) (P := KeepsTable)
    (fun _ _ hs h => hs.step h) (fun _ _ hs h => keepsTable_of_sound hs h) (fun _ hs => hs.sound)
    (Tabled.start radio others) es
  have hfresh : Run.Along step StartsFresh (start radio others) es :=
    (Run.along_true _ es).mono fun s e _ => startsFresh s e
  rw [← hsound]
  exact and_iff_left hfresh

-- a write fails before the connection is closed
def failedWrite : List Event :=
  [.launch, .established 1, .queueFrame .first .text true, .writeable 1 (-1), .closed 1]

-- the client is not cleaned up and stays counted
theorem not_table
    : let s := start (.receiving true false 1) 0
      ¬((∀ es', es' <+: failedWrite → (s.run es').Sound) ∧ Run.Along step StartsFresh s failedWrite) := by
  intro s h
  have hcat := (h.1 failedWrite List.prefix_rfl).catControl
  revert hcat
  decide

end Server

end Tci
