import Pihpsdr.Tci.Lemmas.ClearMox
import Pihpsdr.Tci.Lemmas.Linked

/-!
When the client that has put the radio into transmit is no longer connected, MOX is gone or its removal waits
in the main loop, and the transmitter is not owned by a client that is gone. The steps on which this depends
are those that take the transmitter or MOX, close a connection or give a slot away.
-/

namespace Tci

namespace Server

-- the connection of the session is open
def HasSession (s : Server) (session : Nat) : Prop :=
  ∃ conn ∈ s.conns, conn.session = session

def Held (s : Server) (session : Nat) : Prop :=
  s.HasSession session ∨ .setMoxOff ∈ s.idles

structure Released (s : Server) : Prop where
  mox : ∀ session, s.keyedBy = some session → s.Held session
  owned : s.tciTransmitterOwned = true →
    ∃ c, (s.clients c).txOwner = true ∧ s.HasSession (s.clients c).session

-- a `trx:0,true` of `session` is accepted, and the radio does transmit
def Keys (s : Server) (e : Event) (session : Nat) : Prop :=
  ∃ env c argv idles, e = .idle env ∧ s.idles = .payload c session (.text (.trx argv)) :: idles
    ∧ s.KeysOn c argv ∧ s.radio.hasTransmitter = true ∧ env.transmitAllowed = true
    ∧ env.txInhibit = false

/--
The transmitter and MOX are taken for sessions that are connected. When a connection is closed, the clean-up
sees to MOX if its session has put the radio into transmit, and to the transmitter if its client is the owner.
The slot of an owner is not given away.
-/
structure Releases (s : Server) (e : Event) : Prop where
  keys : ∀ session, s.Keys e session → s.Held session
  takes : ∀ c, s.Takes e c → s.HasSession (s.clients c).session
  closed_mox : ∀ conn ∈ s.conns, e = .closed conn.wsi → s.keyedBy = some conn.session →
    .setMoxOff ∈ s.idles ∨ ∃ c, conn.slot = some c ∧ (s.clients c).running = true
      ∧ (s.clients c).txOwner = true ∧ (s.clients c).lastTrx = true
  closed_owner : ∀ conn ∈ s.conns, e = .closed conn.wsi → ∀ c, (s.clients c).txOwner = true →
    (s.clients c).session = conn.session → (s.clients c).running = true
  established : ∀ wsi c, e = .established wsi → s.isOpen wsi = false → s.freeSlot? = some c →
    (s.clients c).txOwner = false

-- the part of the invariant about the owner
structure Owning (s : Server) : Prop where
  linked : s.Linked
  owner_unique : ∀ c d, (s.clients c).txOwner = true → (s.clients d).txOwner = true → c = d
  owner_owned : ∀ c, (s.clients c).txOwner = true → s.tciTransmitterOwned = true
  owned : s.tciTransmitterOwned = true →
    ∃ c, (s.clients c).txOwner = true ∧ s.HasSession (s.clients c).session

namespace Owning

variable {s s' : Server}

theorem of_same (hs : s.Owning) (h : Same s s') : s'.Owning where
  linked := hs.linked.of_fewer h.fewer
  owner_unique c d hc hd := by
    rw [(h.clients c).txOwner] at hc
    rw [(h.clients d).txOwner] at hd
    exact hs.owner_unique c d hc hd
  owner_owned c hc := by
    rw [(h.clients c).txOwner] at hc
    rw [h.owned]
    exact hs.owner_owned c hc
  owned howned := by
    rw [h.owned] at howned
    have ⟨c, hc, hsession⟩ := hs.owned howned
    refine ⟨c, ?_, ?_⟩
    . rw [(h.clients c).txOwner]
      exact hc
    . unfold HasSession
      rw [(h.clients c).session, h.conns]
      exact hsession

theorem of_gone (hs : s.Owning) {c : Slot} (h : Gone s s' c) (hlinked : s'.Linked)
    (hsession : ∀ d, d ≠ c → (s.clients d).txOwner = true → s.HasSession (s.clients d).session →
      s'.HasSession (s.clients d).session)
    : s'.Owning := by
  refine ⟨hlinked, ?_, ?_, ?_⟩
  . intro d e hd he
    exact hs.owner_unique d e (h.of_txOwner hd).2 (h.of_txOwner he).2
  . intro d hd
    have ⟨hdc, hd⟩ := h.of_txOwner hd
    have hc : (s.clients c).txOwner = false := by
      rw [Bool.eq_false_iff]
      exact fun hc => hdc (hs.owner_unique d c hd hc)
    rw [h.owned, hc, hs.owner_owned d hd]
    rfl
  . intro howned
    rw [h.owned, Bool.and_eq_true, Bool.not_eq_true'] at howned
    have ⟨d, hd, hs⟩ := hs.owned howned.2
    have hdc : d ≠ c := by
      intro hdc
      rw [hdc, howned.1] at hd
      nomatch hd
    refine ⟨d, ?_, ?_⟩
    . rw [h.clients d hdc]
      exact hd
    . rw [h.clients d hdc]
      exact hsession d hdc hd hs

theorem leave (hs : s.Owning) (c : Slot) : (s.leave c).Owning := by
  have ⟨hgone, hconns, _⟩ := gone_leave s c
  apply hs.of_gone hgone (hs.linked.of_fewer (fewer_leave s c))
  intro d _ _ h
  unfold HasSession
  rw [hconns]
  exact h

theorem takeOwner (hs : s.Owning) {c : Slot} (hfree : s.tciTransmitterOwned = false)
    (hc : s.HasSession (s.clients c).session)
    : (s.takeOwner c true).Owning := by
  have hlinked := hs.linked.of_fewer (fewer_takeOwner hfree c)
  have howner : ∀ d, (decide (d = c) || (s.clients d).txOwner) = true ↔ d = c := by
    intro d
    rw [Bool.or_eq_true, decide_eq_true_iff, or_iff_left_iff_imp]
    intro hd
    rw [hs.owner_owned d hd] at hfree
    nomatch hfree
  rw [takeOwner_of_free hfree] at hlinked ⊢
  refine ⟨hlinked, ?_, fun _ _ => rfl, ?_⟩
  . intro d e hd he
    rw [(howner d).mp hd, (howner e).mp he]
  . exact fun _ => ⟨c, (howner c).mpr rfl, hc⟩

theorem established (hs : s.Owning) {wsi : Nat} (hopen : s.isOpen wsi = false)
    (h : ∀ c, s.freeSlot? = some c → (s.clients c).txOwner = false)
    : (s.established wsi).Owning := by
  have hlinked := linked_established hs.linked hopen
  cases established_cases s wsi with
  | inl hnone =>
    rw [hnone.2] at hlinked ⊢
    refine ⟨hlinked, hs.owner_unique, hs.owner_owned, ?_⟩
    intro howned
    have ⟨c, hc, conn, hconn, hsession⟩ := hs.owned howned
    exact ⟨c, hc, conn, List.mem_cons_of_mem _ hconn, hsession⟩
  | inr hsome =>
    have ⟨c, hfree, hj⟩ := hsome
    have hc := h c hfree
    have hold : ∀ d, ((s.established wsi).clients d).txOwner = (s.clients d).txOwner := by
      intro d
      by_cases hd : d = c
      . rw [hd, hj.client, hc]
        rfl
      . rw [hj.clients d hd]
    refine ⟨hlinked, ?_, ?_, ?_⟩
    . intro d e hd he
      rw [hold] at hd he
      exact hs.owner_unique d e hd he
    . intro d hd
      rw [hold] at hd
      rw [hj.owned]
      exact hs.owner_owned d hd
    . intro howned
      rw [hj.owned] at howned
      have ⟨d, hd, conn, hconn, hsession⟩ := hs.owned howned
      refine ⟨d, (hold d).trans hd, conn, ?_, ?_⟩
      . rw [hj.conns]
        exact List.mem_cons_of_mem _ hconn
      . rw [hsession, hj.clients d]
        intro hdc
        rw [hdc, hc] at hd
        nomatch hd

theorem receive (hs : s.Owning) (wsi : Nat) (cmd : TciCmd) : (s.receive wsi cmd).Owning := by
  have hlinked := linked_receive hs.linked wsi cmd
  unfold Server.receive at hlinked ⊢
  cases hslot : s.runningSlot? wsi with
  | none => exact hs
  | some c =>
    rw [hslot] at hlinked
    exact { hs with linked := hlinked }

theorem closed (hs : s.Owning) {wsi : Nat}
    (h : ∀ conn ∈ s.conns, conn.wsi = wsi → ∀ c, (s.clients c).txOwner = true →
      (s.clients c).session = conn.session → (s.clients c).running = true)
    : (s.closed wsi).Owning := by
  have hlinked := linked_closed hs.linked wsi
  -- an owner whose connection this is would be cleaned up
  have hstays : ∀ d, s.runningSlot? wsi ≠ some d → (s.clients d).txOwner = true →
      s.HasSession (s.clients d).session →
      ∃ conn ∈ s.conns.filter (fun conn => conn.wsi ≠ wsi), conn.session = (s.clients d).session := by
    intro d hne hd ⟨conn, hconn, hsession⟩
    refine ⟨conn, ?_, hsession⟩
    rw [List.mem_filter, decide_eq_true_iff]
    refine ⟨hconn, ?_⟩
    intro hwsi
    apply hne
    rw [runningSlot?_eq_some, ← hwsi, slot?_of_mem hs.linked hconn]
    exact ⟨hs.linked.slot_eq conn hconn d hsession.symm, h conn hconn hwsi d hd hsession.symm⟩
  cases closed_cases s wsi with
  | inl hnone =>
    rw [hnone.2] at hlinked ⊢
    refine ⟨hlinked, hs.owner_unique, hs.owner_owned, ?_⟩
    intro howned
    have ⟨d, hd, hsession⟩ := hs.owned howned
    refine ⟨d, hd, hstays d ?_ hd hsession⟩
    rw [hnone.1]
    exact (nomatch ·)
  | inr hsome =>
    have ⟨c, hrunning, heq⟩ := hsome
    rw [heq] at hlinked ⊢
    have hgone : Gone s { s.cleanUp c with conns := s.conns.filter fun conn => conn.wsi ≠ wsi } c :=
      { (gone_cleanUp s c).1 with }
    apply hs.of_gone hgone hlinked
    intro d hdc
    apply hstays d
    rw [hrunning]
    intro heq
    cases heq
    exact hdc rfl

theorem launch (hs : s.Owning) : s.launch.Owning := by
  have hlinked := linked_launch hs.linked
  unfold Server.launch at hlinked ⊢
  by_cases hconns : s.conns = []
  . rw [if_pos hconns] at hlinked ⊢
    refine ⟨hlinked, ?_, ?_, ?_⟩
    . exact fun c d hc _ => absurd hc Bool.false_ne_true
    . exact fun c hc => absurd hc Bool.false_ne_true
    . intro howned
      have ⟨c, _, conn, hconn, _⟩ := hs.owned howned
      rw [hconns] at hconn
      exact absurd hconn List.not_mem_nil
  . rw [if_neg hconns]
    exact hs

theorem step (hs : s.Owning) {e : Event} (h : s.Releases e) : (s.step e).Owning := by
  have hlinked := linked_step e hs.linked
  apply step_invariant (I := fun t => t.Owning) hs
  . exact fun t u ht htu => ht.of_same htu
  . exact fun t c ht => ht.leave c
  . intro t c htakes hst
    apply (hs.of_same hst).takeOwner
    . rw [hst.owned]
      exact htakes.1
    . unfold HasSession
      rw [(hst.clients c).session, hst.conns]
      exact h.takes c htakes
  . intro env idles he hidles
    refine { hs with linked := { hs.linked with payload_lt := ?_ } }
    intro c n load hi
    apply hs.linked.payload_lt c n load
    rw [hidles]
    exact List.mem_cons_of_mem _ hi
  . exact fun wsi he hopen => hs.established hopen fun c => h.established wsi c he hopen
  . exact fun wsi cmd _ => hs.receive wsi cmd
  . intro wsi he
    apply hs.closed
    intro conn hconn hwsi
    apply h.closed_owner conn hconn
    rw [he, hwsi]
  . intro connects he
    rw [he] at hlinked
    unfold Server.step at hlinked ⊢
    cases connects with
    | true => exact { hs with linked := hlinked }
    | false =>
      dsimp only at hlinked ⊢
      split
      . exact hs
      . exact { hs with linked := { hs.linked with } }
  . exact fun _ => hs.launch

end Owning

theorem held_of_same {s s' : Server} (h : Same s s') {session : Nat} (hs : s.Held session)
    : s'.Held session := by
  unfold Held HasSession at hs ⊢
  rw [h.conns]
  exact hs.imp_right h.setMoxOff

-- what a session has left with the server stays there until its connection is closed
theorem held_step {s : Server} {e : Event} {session : Nat} (hs : s.Held session)
    (hclosed : ∀ wsi, e ≠ .closed wsi)
    (hpop : ∀ env idles, e = .idle env → s.idles ≠ .setMoxOff :: idles)
    : (s.step e).Held session := by
  apply step_invariant (I := fun t => t.Held session) hs
  . exact fun t u ht htu => held_of_same htu ht
  . intro t c ht
    have ⟨_, hconns, _, hidles⟩ := gone_leave t c
    unfold Held HasSession at ht ⊢
    rw [hconns, hidles]
    exact ht
  . intro t c htakes hst
    have hfree : t.tciTransmitterOwned = false := by rw [hst.owned, htakes.1]
    rw [takeOwner_of_free hfree]
    exact held_of_same hst hs
  . exact fun env idles he hidles => absurd hidles (hpop env idles he)
  . intro wsi _ _
    cases established_cases s wsi with
    | inl h =>
      rw [h.2]
      exact hs.imp_left fun ⟨conn, hconn, h⟩ => ⟨conn, List.mem_cons_of_mem _ hconn, h⟩
    | inr h =>
      have ⟨c, _, hj⟩ := h
      unfold Held HasSession at hs ⊢
      rw [hj.conns, hj.idles]
      exact hs.imp_left fun ⟨conn, hconn, h⟩ => ⟨conn, List.mem_cons_of_mem _ hconn, h⟩
  . intro wsi cmd _
    unfold receive
    split
    . exact hs
    . exact hs.imp_right fun h => List.mem_append_left _ h
  . exact fun wsi he => absurd he (hclosed wsi)
  . intro connects _
    unfold step
    cases connects with
    | true => exact hs
    | false =>
      dsimp only
      split <;> exact hs
  . intro _
    unfold launch
    split <;> exact hs

theorem removeClearMox_radio (s : Server) (c : Slot)
    : (s.removeClearMox c).radio = s.radio ∧ (s.removeClearMox c).keyedBy = s.keyedBy := by
  unfold removeClearMox
  dsimp only
  split <;> exact ⟨rfl, rfl⟩

theorem keyOn_keyedBy (env : Transmit.TxEnv) (s : Server) (c : Slot) (session : Nat)
    (source : Bool)
    : (s.keyOn env c session source).keyedBy
        = if s.radio.hasTransmitter ∧ env.transmitAllowed ∧ ¬env.txInhibit then some session
          else if (s.radio.radioSetMox env 1).mox = 0 then none else s.keyedBy := by
  have ⟨hradio, hkeyedBy⟩ := removeClearMox_radio s c
  unfold keyOn setRadio modify
  cases source with
  | false =>
    dsimp only
    simp only [Bool.false_eq_true, if_false, Transmit.RxTx.radioSetMox_hasTransmitter]
  | true =>
    dsimp only
    simp only [if_true, hradio, hkeyedBy, Transmit.RxTx.radioSetMox_hasTransmitter]

theorem keyOn_hasTransmitter (env : Transmit.TxEnv) (s : Server) (c : Slot) (session : Nat)
    (source : Bool)
    : (s.keyOn env c session source).radio.hasTransmitter = s.radio.hasTransmitter := by
  have ⟨hradio, _⟩ := removeClearMox_radio s c
  unfold keyOn setRadio modify
  cases source with
  | false => exact Transmit.RxTx.radioSetMox_hasTransmitter
  | true =>
    dsimp only
    simp only [if_true, hradio, Transmit.RxTx.radioSetMox_hasTransmitter]

theorem takeOwner_radio (s : Server) (c : Slot)
    : (s.takeOwner c true).radio = s.radio ∧ (s.takeOwner c true).keyedBy = s.keyedBy := by
  unfold takeOwner
  split <;> exact ⟨rfl, rfl⟩

theorem keyedBy_of_keys {s : Server} {e : Event} {session : Nat} (h : s.Keys e session)
    : (s.step e).keyedBy = some session := by
  have ⟨env, c, argv, idles, he, hidles, hkeys, hradio, hallowed, hinhibit⟩ := h
  rw [he, step_of_keysOn hidles hkeys, keyOn_keyedBy, (takeOwner_radio _ c).1]
  simp [hradio, hallowed, hinhibit]

theorem keyedBy_of_step {s : Server} {e : Event} {session : Nat}
    (h : (s.step e).keyedBy = some session)
    : s.keyedBy = some session ∨ s.Keys e session := by
  by_cases haccepts : ∃ c argv, s.Accepts e c argv
  . have ⟨c, argv, ⟨env, n, idles, he, hidles⟩, hkeys⟩ := haccepts
    rw [he, step_of_keysOn hidles hkeys, keyOn_keyedBy, (takeOwner_radio _ c).1,
      (takeOwner_radio _ c).2] at h
    split at h
    next hgrants =>
      cases h
      refine .inr ⟨env, c, argv, idles, he, hidles, hkeys, hgrants.1, hgrants.2.1, ?_⟩
      simpa using hgrants.2.2
    next =>
      split at h
      . nomatch h
      . exact .inl h
  . rw [not_exists] at haccepts
    have hquiet : Quiet s (s.step e) := by
      apply quiet_step
      exact fun c argv hcmd => haccepts c ⟨argv, hcmd⟩
    cases hquiet.keyedBy with
    | inl heq =>
      rw [heq] at h
      exact .inl h
    | inr hnone =>
      rw [hnone] at h
      nomatch h

theorem hasTransmitter_step (s : Server) (e : Event)
    : (s.step e).radio.hasTransmitter = s.radio.hasTransmitter := by
  by_cases haccepts : ∃ c argv, s.Accepts e c argv
  . have ⟨c, argv, ⟨env, n, idles, he, hidles⟩, hkeys⟩ := haccepts
    rw [he, step_of_keysOn hidles hkeys, keyOn_hasTransmitter, (takeOwner_radio _ c).1]
  . rw [not_exists] at haccepts
    have hquiet : Quiet s (s.step e) := by
      apply quiet_step
      exact fun c argv hcmd => haccepts c ⟨argv, hcmd⟩
    exact hquiet.hasTransmitter

-- the removal of MOX is run
theorem keyedBy_of_pop {s : Server} {idles : List Idle} (hidles : s.idles = .setMoxOff :: idles)
    (hradio : s.radio.hasTransmitter = true) (env : Transmit.TxEnv)
    : (s.step (.idle env)).keyedBy = none := by
  have hmox : (s.radio.radioSetMox env 0).mox = 0 := by
    rw [Transmit.RxTx.radioSetMox_mox]
    simp [hradio]
  unfold step runIdle
  simp only [hidles]
  unfold setRadio
  exact if_pos hmox

theorem closed_conns (s : Server) (wsi : Nat)
    : (s.closed wsi).conns = s.conns.filter fun conn => conn.wsi ≠ wsi := by
  cases closed_cases s wsi with
  | inl hnone => rw [hnone.2]
  | inr hsome =>
    have ⟨c, _, heq⟩ := hsome
    rw [heq]

theorem closed_keyedBy (s : Server) (wsi : Nat) : (s.closed wsi).keyedBy = s.keyedBy := by
  cases closed_cases s wsi with
  | inl hnone => rw [hnone.2]
  | inr hsome =>
    have ⟨c, _, heq⟩ := hsome
    rw [heq]
    exact (gone_cleanUp s c).1.keyedBy

-- the removal of MOX waits afterwards if it did before, or the clean-up has added it
theorem setMoxOff_closed {s : Server} (hlinked : s.Linked) {conn : Conn} (hconn : conn ∈ s.conns)
    : .setMoxOff ∈ (s.closed conn.wsi).idles ↔
        .setMoxOff ∈ s.idles ∨ ∃ c, conn.slot = some c ∧ (s.clients c).running = true
          ∧ (s.clients c).txOwner = true ∧ (s.clients c).lastTrx = true := by
  have hslot := slot?_of_mem hlinked hconn
  cases closed_cases s conn.wsi with
  | inl hnone =>
    rw [hnone.2]
    refine ⟨.inl, fun h => h.resolve_right ?_⟩
    intro ⟨c, hc, hrunning, _⟩
    have hsome := runningSlot?_eq_some.mpr ⟨hslot.trans hc, hrunning⟩
    rw [hnone.1] at hsome
    nomatch hsome
  | inr hsome =>
    have ⟨c, hrunning, heq⟩ := hsome
    have ⟨hc, hrunning⟩ := runningSlot?_eq_some.mp hrunning
    rw [heq]
    dsimp only
    rw [(gone_cleanUp s c).2.2.2, List.mem_append]
    apply or_congr_right
    constructor
    . intro hmem
      split at hmem
      next howner => exact ⟨c, hslot.symm.trans hc, hrunning, howner⟩
      next => exact absurd hmem List.not_mem_nil
    . intro ⟨d, hd, _, howner⟩
      rw [← hslot, hc] at hd
      cases hd
      rw [if_pos howner]
      exact List.mem_singleton_self _

theorem held_closed {s : Server} (hlinked : s.Linked) {wsi session : Nat} (hs : s.Held session)
    (h : ∀ conn ∈ s.conns, conn.wsi = wsi → conn.session = session →
      .setMoxOff ∈ s.idles ∨ ∃ c, conn.slot = some c ∧ (s.clients c).running = true
        ∧ (s.clients c).txOwner = true ∧ (s.clients c).lastTrx = true)
    : (s.closed wsi).Held session := by
  cases hs with
  | inr hmem =>
    right
    cases closed_cases s wsi with
    | inl hnone =>
      rw [hnone.2]
      exact hmem
    | inr hsome =>
      have ⟨c, _, heq⟩ := hsome
      rw [heq]
      dsimp only
      rw [(gone_cleanUp s c).2.2.2]
      exact List.mem_append_left _ hmem
  | inl hsession =>
    have ⟨conn, hconn, hsession⟩ := hsession
    by_cases hwsi : conn.wsi = wsi
    . right
      rw [← hwsi, setMoxOff_closed hlinked hconn]
      exact h conn hconn hwsi hsession
    . left
      refine ⟨conn, ?_, hsession⟩
      rw [closed_conns, List.mem_filter, decide_eq_true_iff]
      exact ⟨hconn, hwsi⟩

-- what carries `Released` from one step to the next
structure Watched (s : Server) : Prop where
  owning : s.Owning
  mox : ∀ session, s.keyedBy = some session → s.Held session
  transmitter : ∀ session, s.keyedBy = some session → s.radio.hasTransmitter = true

theorem Watched.released {s : Server} (hs : s.Watched) : s.Released := ⟨hs.mox, hs.owning.owned⟩

theorem Watched.step {s : Server} {e : Event} (hs : s.Watched) (h : s.Releases e)
    : (s.step e).Watched where
  owning := hs.owning.step h
  transmitter session hkeyed := by
    rw [hasTransmitter_step]
    cases keyedBy_of_step hkeyed with
    | inl hold => exact hs.transmitter session hold
    | inr hkeys =>
      have ⟨_, _, _, _, _, _, _, hradio, _⟩ := hkeys
      exact hradio
  mox session hkeyed := by
    cases keyedBy_of_step hkeyed with
    | inl hold =>
      have hheld := hs.mox session hold
      by_cases hclosed : ∃ wsi, e = .closed wsi
      . have ⟨wsi, he⟩ := hclosed
        rw [he]
        apply held_closed hs.owning.linked hheld
        intro conn hconn hwsi hsession
        apply h.closed_mox conn hconn
        . rw [he, hwsi]
        . rw [hsession]
          exact hold
      . apply held_step hheld
        . exact fun wsi he => hclosed ⟨wsi, he⟩
        . intro env idles he hidles
          rw [he, keyedBy_of_pop hidles (hs.transmitter session hold) env] at hkeyed
          nomatch hkeyed
    | inr hkeys =>
      apply held_step (h.keys session hkeys)
      all_goals
        have ⟨env, c, argv, idles, he, hidles, _⟩ := hkeys
        rw [he]
      . exact fun _ => (nomatch ·)
      . intro _ _ _ hpop
        rw [hidles] at hpop
        nomatch hpop

-- what is left of a session when its connection is closed
theorem not_hasSession_closed {s : Server} (hlinked : s.Linked) {conn : Conn}
    (hconn : conn ∈ s.conns)
    : ¬(s.closed conn.wsi).HasSession conn.session := by
  intro ⟨other, hother, hsession⟩
  rw [closed_conns, List.mem_filter, decide_eq_true_iff] at hother
  apply hother.2
  rw [List.inj_on_of_nodup_map hlinked.session_nodup hother.1 hconn hsession]

section Released

variable {s : Server} {e : Event} (hs : s.Watched) (h : (s.step e).Released)
include h

theorem held_of_keys (session : Nat) (hkeys : s.Keys e session) : s.Held session := by
  have hheld := h.mox session (keyedBy_of_keys hkeys)
  have ⟨env, c, argv, idles, he, hidles, hkeysOn, _⟩ := hkeys
  rw [he, step_of_keysOn hidles hkeysOn] at hheld
  have hsame := same_keyOn env (({ s with idles } : Server).takeOwner c true) c session
    (sourceTci argv)
  have htake : (({ s with idles } : Server).takeOwner c true).conns = s.conns
      ∧ (({ s with idles } : Server).takeOwner c true).idles = idles := by
    unfold takeOwner
    split <;> exact ⟨rfl, rfl⟩
  unfold Held HasSession at hheld ⊢
  rw [hsame.conns, htake.1] at hheld
  apply hheld.imp_right
  intro hmem
  have hmem := hsame.idles hmem
  rw [htake.2] at hmem
  rw [hidles]
  exact List.mem_cons_of_mem _ hmem

include hs

-- the new owner is the only one that there can be
theorem hasSession_of_takes (c : Slot) (htakes : s.Takes e c)
    : s.HasSession (s.clients c).session := by
  have ⟨t, hst, htu⟩ := step_of_takes htakes
  have hfree : t.tciTransmitterOwned = false := by rw [hst.owned, htakes.1]
  rw [takeOwner_of_free hfree] at htu
  have ⟨d, howner, hsession⟩ := h.owned htu.owned
  rw [(htu.clients d).txOwner, Bool.or_eq_true, decide_eq_true_iff, (hst.clients d).txOwner]
    at howner
  have hd : d = c := by
    apply howner.resolve_right
    intro hd
    have howned := hs.owning.owner_owned d hd
    rw [htakes.1] at howned
    nomatch howned
  unfold HasSession at hsession
  rw [(htu.clients d).session, hd, htu.conns] at hsession
  rw [← (hst.clients c).session]
  unfold HasSession
  rw [← hst.conns]
  exact hsession

-- otherwise the connection would be closed without a clean-up
theorem running_of_closed (conn : Conn) (hconn : conn ∈ s.conns) (he : e = .closed conn.wsi)
    (c : Slot) (howner : (s.clients c).txOwner = true)
    (hsession : (s.clients c).session = conn.session) : (s.clients c).running = true := by
  rw [← Bool.not_eq_false]
  intro hc
  have hslot := hs.owning.linked.slot_eq conn hconn c hsession
  have hclosed : s.closed conn.wsi
      = { s with conns := s.conns.filter fun other => other.wsi ≠ conn.wsi } := by
    cases closed_cases s conn.wsi with
    | inl hnone => exact hnone.2
    | inr hsome =>
      have ⟨d, hd, _⟩ := hsome
      rw [runningSlot?_eq_some, slot?_of_mem hs.owning.linked hconn, hslot] at hd
      cases hd.1
      rw [hc] at hd
      nomatch hd.2
  have hgone := not_hasSession_closed hs.owning.linked hconn
  rw [he] at h
  have howned := h.owned
  change (s.closed conn.wsi).tciTransmitterOwned = true → ∃ c,
    ((s.closed conn.wsi).clients c).txOwner = true
      ∧ (s.closed conn.wsi).HasSession ((s.closed conn.wsi).clients c).session at howned
  rw [hclosed] at howned hgone
  have ⟨d, hd, hleft⟩ := howned (hs.owning.owner_owned c howner)
  rw [hs.owning.owner_unique d c hd howner] at hleft
  dsimp only at hleft
  rw [hsession] at hleft
  exact hgone hleft

theorem not_txOwner_of_established (wsi : Nat) (c : Slot) (he : e = .established wsi)
    (hopen : s.isOpen wsi = false) (hfree : s.freeSlot? = some c)
    : (s.clients c).txOwner = false := by
  rw [Bool.eq_false_iff]
  intro howner
  have hstep : s.step e = s.established wsi := by
    rw [he]
    unfold step
    simp [hopen]
  rw [hstep] at h
  cases established_cases s wsi with
  | inl hnone =>
    rw [hnone.1] at hfree
    nomatch hfree
  | inr hsome =>
    have ⟨d, hd, hj⟩ := hsome
    rw [hd] at hfree
    cases hfree
    have howned : (s.established wsi).tciTransmitterOwned = true := by
      rw [hj.owned]
      exact hs.owning.owner_owned c howner
    have ⟨d, hd, _⟩ := h.owned howned
    by_cases hdc : d = c
    . rw [hdc, hj.client] at hd
      nomatch hd
    . rw [hj.clients d hdc] at hd
      exact hdc (hs.owning.owner_unique d c hd howner)

theorem releases_of_released : s.Releases e where
  keys := held_of_keys h
  takes := hasSession_of_takes hs h
  closed_mox conn hconn he hkeyed := by
    rw [he] at h
    have hheld := h.mox conn.session ((closed_keyedBy s conn.wsi).trans hkeyed)
    have hmem := hheld.resolve_left (not_hasSession_closed hs.owning.linked hconn)
    exact (setMoxOff_closed hs.owning.linked hconn).mp hmem
  closed_owner := running_of_closed hs h
  established := not_txOwner_of_established hs h

end Released

theorem watched_start (radio : Transmit.RxTx) (others : Nat) : (start radio others).Watched where
  owning :=
    { linked := linked_start radio others
      owner_unique := fun _ _ h => absurd h Bool.false_ne_true
      owner_owned := fun _ h => absurd h Bool.false_ne_true
      owned := fun h => absurd h Bool.false_ne_true }
  mox _ h := nomatch h
  transmitter _ h := nomatch h

theorem released_iff (radio : Transmit.RxTx) (others : Nat) (es : List Event)
    : (∀ es', es' <+: es → ((start radio others).run es').Released)
        ↔ Run.Along step Releases (start radio others) es :=
  Run.forall_prefix_iff_along_of (I := Watched) (J := Released) (P := Releases)
    (fun _ _ hs h => hs.step h) (fun _ _ hs h => releases_of_released hs h)
    (fun _ hs => hs.released) (watched_start radio others) es

-- `trx:0,1`, and then a write fails
def keyedAndGone : List Event :=
  let env : Transmit.TxEnv := ⟨true, false⟩
  [.launch, .established 1, .receive 1 (.trx [[48], [49]]), .idle env,
    .queueFrame .first .text true, .writeable 1 (-1), .closed 1]

theorem mox_left
    : let s := start (.receiving true false 1) 0
      ¬(∀ es', es' <+: keyedAndGone → (s.run es').Released)
        ∧ (s.run keyedAndGone).radio.mox = 1 ∧ (s.run keyedAndGone).conns = [] := by
  refine ⟨?_, by decide, by decide⟩
  intro h
  have hheld := (h keyedAndGone List.prefix_rfl).mox 1 (by decide)
  revert hheld
  unfold Held HasSession
  decide

end Server

end Tci
