import Pihpsdr.Tci.Lemmas.Roster

/-!
The links between the clients, the connections and what is pending in the main loop, as they are in every run
of the server.
-/

namespace Tci

namespace Server

/--
Each client that is running has its connection, with its session. What is pending in the main loop has a
number that has been given.
-/
structure Linked (s : Server) : Prop where
  wsi_nodup : (s.conns.map Conn.wsi).Nodup
  session_nodup : (s.conns.map Conn.session).Nodup
  session_pos : ∀ conn ∈ s.conns, 1 ≤ conn.session
  session_lt : ∀ conn ∈ s.conns, conn.session < s.nextSession
  client_lt : ∀ c, (s.clients c).session < s.nextSession
  slot_eq : ∀ conn ∈ s.conns, ∀ c, (s.clients c).session = conn.session → conn.slot = some c
  running : ∀ c, (s.clients c).running = true →
    ∃ conn ∈ s.conns, conn.slot = some c ∧ conn.session = (s.clients c).session
  payload_lt : ∀ c n load, .payload c n load ∈ s.idles → n < s.nextSession
  reporter_lt : ∀ t ∈ s.reporters, t.id < s.nextSource

-- no client and nothing pending is added
structure Fewer (s s' : Server) : Prop where
  session : ∀ c, (s'.clients c).session = (s.clients c).session
  running : ∀ c, (s'.clients c).running = true → (s.clients c).running = true
  conns : s'.conns = s.conns
  nextSession : s'.nextSession = s.nextSession
  nextSource : s.nextSource ≤ s'.nextSource
  payloads : ∀ c n load, .payload c n load ∈ s'.idles → .payload c n load ∈ s.idles
  reporters : s'.reporters ⊆ s.reporters

theorem Linked.of_fewer {s s' : Server} (hs : s.Linked) (h : Fewer s s') : s'.Linked where
  wsi_nodup := by
    rw [h.conns]
    exact hs.wsi_nodup
  session_nodup := by
    rw [h.conns]
    exact hs.session_nodup
  session_pos := by
    rw [h.conns]
    exact hs.session_pos
  session_lt := by
    rw [h.conns, h.nextSession]
    exact hs.session_lt
  client_lt c := by
    rw [h.session, h.nextSession]
    exact hs.client_lt c
  slot_eq := by
    rw [h.conns]
    intro conn hconn c
    rw [h.session]
    exact hs.slot_eq conn hconn c
  running c hc := by
    rw [h.conns, h.session]
    exact hs.running c (h.running c hc)
  payload_lt c n load hmem := by
    rw [h.nextSession]
    exact hs.payload_lt c n load (h.payloads c n load hmem)
  reporter_lt t ht := Nat.lt_of_lt_of_le (hs.reporter_lt t (h.reporters ht)) h.nextSource

theorem Same.fewer {s s' : Server} (h : Same s s') : Fewer s s' where
  session c := (h.clients c).session
  running c hc := by rw [← (h.clients c).running, hc]
  conns := h.conns
  nextSession := h.nextSession
  nextSource := h.nextSource
  payloads _ _ _ hmem := h.idles hmem
  reporters := h.reporters

theorem Gone.fewer {s s' : Server} {c : Slot} (h : Gone s s' c) (hconns : s'.conns = s.conns)
    (hidles : ∀ d n load, .payload d n load ∈ s'.idles → .payload d n load ∈ s.idles)
    : Fewer s s' where
  session d := by
    by_cases hd : d = c
    . rw [hd, h.session]
    . rw [h.clients d hd]
  running d hrunning := by
    by_cases hd : d = c
    . rw [hd, h.running] at hrunning
      exact absurd hrunning Bool.false_ne_true
    . rw [← h.clients d hd]
      exact hrunning
  conns := hconns
  nextSession := h.nextSession
  nextSource := Nat.le_of_eq h.nextSource.symm
  payloads := hidles
  reporters := h.reporters

theorem fewer_leave (s : Server) (c : Slot) : Fewer s (s.leave c) := by
  have ⟨hgone, hconns, _, hidles⟩ := gone_leave s c
  apply hgone.fewer hconns
  intro d n load hmem
  rw [← hidles]
  exact hmem

theorem fewer_cleanUp (s : Server) (c : Slot) : Fewer s (s.cleanUp c) := by
  have ⟨hgone, hconns, _, hidles⟩ := gone_cleanUp s c
  apply hgone.fewer hconns
  intro d n load hmem
  rw [hidles, List.mem_append] at hmem
  cases hmem with
  | inl hold => exact hold
  | inr hnew =>
    split at hnew
    . nomatch List.mem_singleton.mp hnew
    . exact absurd hnew List.not_mem_nil

theorem fewer_takeOwner {s : Server} (h : s.tciTransmitterOwned = false) (c : Slot)
    : Fewer s (s.takeOwner c true) := by
  rw [takeOwner_of_free h]
  exact { (Same.refl s).fewer with }

-- a new connection has a number of its own
theorem fresh_conn {s : Server} (hs : s.Linked) {wsi : Nat} (hopen : s.isOpen wsi = false)
    (slot : Option Slot)
    : ((⟨wsi, slot, s.nextSession⟩ :: s.conns).map Conn.wsi).Nodup ∧
      ((⟨wsi, slot, s.nextSession⟩ :: s.conns).map Conn.session).Nodup ∧
      (∀ conn ∈ ⟨wsi, slot, s.nextSession⟩ :: s.conns, 1 ≤ conn.session) ∧
      ∀ conn ∈ ⟨wsi, slot, s.nextSession⟩ :: s.conns, conn.session < s.nextSession + 1 := by
  have hwsi : wsi ∉ s.conns.map Conn.wsi := by
    intro hmem
    have ⟨conn, hconn, heq⟩ := List.mem_map.mp hmem
    unfold isOpen at hopen
    rw [List.any_eq_false] at hopen
    exact hopen conn hconn (decide_eq_true heq)
  have hsession : s.nextSession ∉ s.conns.map Conn.session := by
    intro hmem
    have ⟨conn, hconn, heq⟩ := List.mem_map.mp hmem
    have := hs.session_lt conn hconn
    omega
  have hpos : 1 ≤ s.nextSession := Nat.lt_of_le_of_lt (Nat.zero_le _) (hs.client_lt .first)
  refine ⟨List.nodup_cons.mpr ⟨hwsi, hs.wsi_nodup⟩, List.nodup_cons.mpr ⟨hsession, hs.session_nodup⟩,
    List.forall_mem_cons.mpr ⟨hpos, hs.session_pos⟩, List.forall_mem_cons.mpr ⟨?_, ?_⟩⟩
  . exact Nat.lt_succ_self _
  . exact fun conn hconn => Nat.lt_succ_of_lt (hs.session_lt conn hconn)

-- a connection that finds no slot free
theorem linked_refused {s : Server} (hs : s.Linked) {wsi : Nat} (hopen : s.isOpen wsi = false)
    : Linked
        { s with
          conns := ⟨wsi, none, s.nextSession⟩ :: s.conns, nextSession := s.nextSession + 1 } := by
  have ⟨hwsi, hsession, hpos, hlt⟩ := fresh_conn hs hopen none
  exact
    { wsi_nodup := hwsi
      session_nodup := hsession
      session_pos := hpos
      session_lt := hlt
      client_lt := fun c => Nat.lt_succ_of_lt (hs.client_lt c)
      slot_eq := by
        refine List.forall_mem_cons.mpr ⟨?_, hs.slot_eq⟩
        intro c hc
        have := hs.client_lt c
        dsimp only at hc
        omega
      running := by
        intro c hc
        have ⟨conn, hconn, h⟩ := hs.running c hc
        exact ⟨conn, List.mem_cons_of_mem _ hconn, h⟩
      payload_lt := fun c n load hmem => Nat.lt_succ_of_lt (hs.payload_lt c n load hmem)
      reporter_lt := hs.reporter_lt }

theorem linked_joined {s s' : Server} (hs : s.Linked) {wsi : Nat} (hopen : s.isOpen wsi = false)
    {c : Slot} (hj : Joined s s' wsi c) : s'.Linked := by
  have ⟨hwsi, hsession, hpos, hlt⟩ := fresh_conn hs hopen (some c)
  have hnew : (s'.clients c).session = s.nextSession := by
    rw [hj.client]
    rfl
  rw [← hj.conns] at hwsi hsession hpos hlt
  rw [← hj.nextSession] at hlt
  exact
    { wsi_nodup := hwsi
      session_nodup := hsession
      session_pos := hpos
      session_lt := hlt
      client_lt := by
        intro d
        rw [hj.nextSession]
        by_cases hd : d = c
        . rw [hd, hnew]
          exact Nat.lt_succ_self _
        . rw [hj.clients d hd]
          exact Nat.lt_succ_of_lt (hs.client_lt d)
      slot_eq := by
        rw [hj.conns]
        refine List.forall_mem_cons.mpr ⟨?_, ?_⟩
        . intro d hsame
          by_cases hd : d = c
          . rw [hd]
          . rw [hj.clients d hd] at hsame
            have := hs.client_lt d
            dsimp only at hsame
            omega
        . intro conn hconn d hsame
          by_cases hd : d = c
          . rw [hd, hnew] at hsame
            have := hs.session_lt conn hconn
            omega
          . rw [hj.clients d hd] at hsame
            exact hs.slot_eq conn hconn d hsame
      running := by
        intro d hd
        rw [hj.conns]
        by_cases hdc : d = c
        . refine ⟨_, List.mem_cons_self, ?_⟩
          rw [hdc, hnew]
          exact ⟨rfl, rfl⟩
        . rw [hj.clients d hdc] at hd ⊢
          have ⟨conn, hconn, h⟩ := hs.running d hd
          exact ⟨conn, List.mem_cons_of_mem _ hconn, h⟩
      payload_lt := by
        rw [hj.idles, hj.nextSession]
        exact fun c n load hmem => Nat.lt_succ_of_lt (hs.payload_lt c n load hmem)
      reporter_lt := by
        rw [hj.reporters, hj.nextSource]
        intro t ht
        rw [List.mem_append, List.mem_singleton] at ht
        cases ht with
        | inl hold => exact Nat.lt_succ_of_lt (hs.reporter_lt t hold)
        | inr hnew =>
          rw [hnew]
          exact Nat.lt_succ_self _ }

theorem linked_established {s : Server} (hs : s.Linked) {wsi : Nat} (hopen : s.isOpen wsi = false)
    : (s.established wsi).Linked := by
  cases established_cases s wsi with
  | inl h =>
    rw [h.2]
    exact linked_refused hs hopen
  | inr h =>
    have ⟨c, _, hj⟩ := h
    exact linked_joined hs hopen hj

theorem linked_receive {s : Server} (hs : s.Linked) (wsi : Nat) (cmd : TciCmd)
    : (s.receive wsi cmd).Linked := by
  unfold receive
  split
  . exact hs
  next c hc =>
    refine { hs with payload_lt := ?_ }
    intro d n load hmem
    rw [List.mem_append, List.mem_singleton] at hmem
    cases hmem with
    | inl hold => exact hs.payload_lt d n load hold
    | inr hnew =>
      cases hnew
      exact hs.client_lt c

theorem linked_filter {s : Server} (hs : s.Linked) {wsi : Nat}
    (h : ∀ conn ∈ s.conns, conn.wsi = wsi → ∀ c, conn.slot = some c → (s.clients c).running = false)
    : ({ s with conns := s.conns.filter fun conn => conn.wsi ≠ wsi } : Server).Linked where
  wsi_nodup := hs.wsi_nodup.sublist (List.filter_sublist.map _)
  session_nodup := hs.session_nodup.sublist (List.filter_sublist.map _)
  session_pos conn hconn := hs.session_pos conn (List.mem_of_mem_filter hconn)
  session_lt conn hconn := hs.session_lt conn (List.mem_of_mem_filter hconn)
  client_lt := hs.client_lt
  slot_eq conn hconn := hs.slot_eq conn (List.mem_of_mem_filter hconn)
  running c hc := by
    have ⟨conn, hconn, hslot, hsession⟩ := hs.running c hc
    refine ⟨conn, ?_, hslot, hsession⟩
    rw [List.mem_filter]
    refine ⟨hconn, ?_⟩
    rw [decide_eq_true_iff]
    intro hwsi
    have hfalse := h conn hconn hwsi c hslot
    rw [hc] at hfalse
    nomatch hfalse
  payload_lt := hs.payload_lt
  reporter_lt := hs.reporter_lt

theorem slot?_of_mem {s : Server} (hs : s.Linked) {conn : Conn} (hconn : conn ∈ s.conns)
    : s.slot? conn.wsi = conn.slot := by
  unfold slot?
  cases hfind : s.conns.find? fun other => other.wsi = conn.wsi with
  | none =>
    rw [List.find?_eq_none] at hfind
    exact absurd (decide_eq_true rfl) (hfind conn hconn)
  | some other =>
    have hwsi : other.wsi = conn.wsi := by simpa using List.find?_some hfind
    have heq : other = conn :=
      List.inj_on_of_nodup_map hs.wsi_nodup (List.mem_of_find?_eq_some hfind) hconn hwsi
    rw [heq]
    rfl

theorem linked_closed {s : Server} (hs : s.Linked) (wsi : Nat) : (s.closed wsi).Linked := by
  cases closed_cases s wsi with
  | inl h =>
    rw [h.2]
    apply linked_filter hs
    intro conn hconn hwsi c hslot
    have hnone := h.1
    unfold runningSlot? at hnone
    rw [← hwsi, slot?_of_mem hs hconn, hslot] at hnone
    simpa [Option.filter] using hnone
  | inr h =>
    have ⟨c, hslot, heq⟩ := h
    have ⟨hgone, hconns, _⟩ := gone_cleanUp s c
    have ht := hs.of_fewer (fewer_cleanUp s c)
    rw [heq, ← hconns]
    apply linked_filter ht
    intro conn hconn hwsi d hd
    have ⟨hslot', _⟩ := runningSlot?_eq_some.mp hslot
    rw [hconns] at hconn
    rw [← hwsi, slot?_of_mem hs hconn, hd] at hslot'
    cases hslot'
    exact hgone.running

theorem linked_launch {s : Server} (hs : s.Linked) : s.launch.Linked := by
  unfold launch
  split
  next hconns =>
    refine { hs with client_lt := ?_, slot_eq := ?_, running := ?_ }
    . intro c
      exact Nat.lt_of_le_of_lt (Nat.zero_le _) (hs.client_lt c)
    . intro conn hconn
      dsimp only at hconn
      rw [hconns] at hconn
      exact absurd hconn List.not_mem_nil
    . intro c hc
      exact absurd hc Bool.false_ne_true
  next => exact hs

theorem linked_step {s : Server} (e : Event) (hs : s.Linked) : (s.step e).Linked := by
  apply step_invariant hs
  . exact fun t u ht h => ht.of_fewer h.fewer
  . exact fun t c ht => ht.of_fewer (fewer_leave t c)
  . intro t c htakes h
    apply (hs.of_fewer h.fewer).of_fewer
    apply fewer_takeOwner
    rw [h.owned]
    exact htakes.1
  . intro env idles he hidles
    refine { hs with payload_lt := ?_ }
    intro c n load hmem
    apply hs.payload_lt c n load
    rw [hidles]
    exact List.mem_cons_of_mem _ hmem
  . exact fun wsi _ hopen => linked_established hs hopen
  . exact fun wsi cmd _ => linked_receive hs wsi cmd
  . exact fun wsi _ => linked_closed hs wsi
  . intro connects _
    unfold step
    cases connects with
    | true => exact { hs with }
    | false =>
      dsimp only
      split
      . exact hs
      . exact { hs with }
  . exact fun _ => linked_launch hs

theorem linked_start (radio : Transmit.RxTx) (others : Nat) : (start radio others).Linked where
  wsi_nodup := List.nodup_nil
  session_nodup := List.nodup_nil
  session_pos _ h := absurd h List.not_mem_nil
  session_lt _ h := absurd h List.not_mem_nil
  client_lt _ := Nat.zero_lt_one
  slot_eq _ h := absurd h List.not_mem_nil
  running _ h := absurd h Bool.false_ne_true
  payload_lt _ _ _ h := absurd h List.not_mem_nil
  reporter_lt _ h := absurd h List.not_mem_nil

end Server

end Tci
