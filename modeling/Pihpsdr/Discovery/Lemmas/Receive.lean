import Pihpsdr.Lib.Run
import Pihpsdr.Discovery.Impl.Receive

/-!
Which datagrams become radios in the table: the threads look at their buffer, which may hold bytes of an earlier
datagram.
-/

namespace Discovery

open Run

namespace Protocol

variable {p : Protocol} {b b' : Buffer}

-- the bytes of a reply that are used for its entry
def needed : Protocol → Buffer → Nat
  | .p1, buffer => if (buffer 10).toNat = deviceHermesLite then 22 else 11
  | .p2, _ => 14

-- a datagram without anything else in the buffer
def own (bytes : List (BitVec 8)) : Buffer :=
  fun i => bytes.getD i 0

/--
The entry that a datagram should give: it is a reply by its own bytes and contains all bytes that are used.
-/
def reply (p : Protocol) (d : Datagram) : Option Discovered :=
  if p.needed (own d.bytes) ≤ d.bytes.length ∧ p.accepts d.bytes.length (own d.bytes) then
    some (p.entry (own d.bytes) d.addr)
  else
    none

theorem le_needed (p : Protocol) (b : Buffer) : 11 ≤ p.needed b := by
  cases p with
  | p1 =>
    unfold needed
    dsimp only
    split
    all_goals omega
  | p2 => exact Nat.le_of_ble_eq_true rfl

theorem needed_congr (h : ∀ i < 11, b i = b' i) : p.needed b = p.needed b' := by
  cases p with
  | p1 => rw [needed, needed, h 10 (by omega)]
  | p2 => rfl

theorem accepts_congr {n : Nat} (h : ∀ i < 11, b i = b' i) : p.accepts n b = p.accepts n b' := by
  cases p with
  | p1 => rw [accepts, accepts, h 0 (by omega), h 1 (by omega), h 2 (by omega)]
  | p2 =>
    rw [accepts, accepts, h 0 (by omega), h 1 (by omega), h 2 (by omega), h 3 (by omega),
      h 4 (by omega)]

theorem macAddress_congr {n : Nat} (k : Nat) (h : ∀ i < n, b i = b' i) (hk : k + 6 ≤ n)
    : (List.range 6).map (fun i => b (i + k)) = (List.range 6).map fun i => b' (i + k) := by
  apply List.map_congr_left
  intro i hi
  have hlt := List.mem_range.mp hi
  exact h (i + k) (by omega)

theorem p1SoftwareVersion_congr (h : ∀ i < Protocol.p1.needed b, b i = b' i)
    : p1SoftwareVersion b = p1SoftwareVersion b' := by
  have hle := le_needed .p1 b
  have hdevice : b 10 = b' 10 := h 10 (by omega)
  have hmajor : b 9 = b' 9 := h 9 (by omega)
  unfold p1SoftwareVersion
  rw [← hdevice, ← hmajor]
  split
  next hlite =>
    have hneeded : Protocol.p1.needed b = 22 := if_pos hlite
    rw [h 21 (by omega)]
  . rfl

theorem entry_congr (h : ∀ i < p.needed b, b i = b' i) (addr : SockAddr)
    : p.entry b addr = p.entry b' addr := by
  have hle := le_needed p b
  cases p with
  | p1 =>
    rw [entry, entry, p1SoftwareVersion_congr h, h 10 (by omega), h 2 (by omega),
      macAddress_congr 3 h (by omega)]
  | p2 =>
    have hneeded : Protocol.p2.needed b = 14 := rfl
    rw [entry, entry, h 13 (by omega), h 11 (by omega), h 4 (by omega),
      macAddress_congr 5 h (by omega)]

theorem receive_eq_own (bytes : List (BitVec 8)) {i : Nat} (h : i < bytes.length)
    : b.receive bytes i = own bytes i := by
  unfold Buffer.receive own
  rw [List.getD_eq_getElem?_getD, List.getD_eq_getElem?_getD, List.getElem?_eq_getElem h]
  rfl

-- A datagram that is long enough gives the entry of its own bytes.
theorem reply_of_le {d : Datagram} (h : p.needed (b.receive d.bytes) ≤ d.bytes.length)
    : p.reply d
        = if p.accepts d.bytes.length (b.receive d.bytes) then
            some (p.entry (b.receive d.bytes) d.addr)
          else
            none := by
  have hle := le_needed p (b.receive d.bytes)
  have hfirst : ∀ i < 11, b.receive d.bytes i = own d.bytes i :=
    fun i hi => receive_eq_own d.bytes (by omega)
  have hall : ∀ i < p.needed (b.receive d.bytes), b.receive d.bytes i = own d.bytes i :=
    fun i hi => receive_eq_own d.bytes (by omega)
  have hneeded := needed_congr (p := p) hfirst
  unfold reply
  rw [← hneeded, ← accepts_congr hfirst, entry_congr hall]
  simp only [h, true_and]

-- A datagram that is too short is no reply, whatever the buffer holds.
theorem reply_of_lt {d : Datagram} (h : d.bytes.length < p.needed (b.receive d.bytes))
    : p.reply d = none := by
  apply if_neg
  rintro ⟨hle, _⟩
  have hmin := le_needed p (own d.bytes)
  have hfirst : ∀ i < 11, b.receive d.bytes i = own d.bytes i :=
    fun i hi => receive_eq_own d.bytes (by omega)
  have hneeded := needed_congr (p := p) hfirst
  omega

end Protocol

-- Nothing follows 16 datagrams in a row that are no replies, `count` of which came before.
def Limited : Nat → List (Option Discovered) → Prop
  | _, [] => True
  | count, none :: replies => count < 16 ∧ Limited (count + 1) replies
  | count, some _ :: replies => count < 16 ∧ Limited 0 replies

namespace ReceiveThread

variable (p : Protocol)

-- the datagrams that the loop handles before it ends
def handled : ReceiveThread → List Received → List Datagram
  | _, [] => []
  | s, e :: es =>
    match e with
    | .datagram d =>
      if s.handles p d then d :: handled (s.step p e) es else handled (s.step p e) es
    | .error => handled (s.step p e) es

/--
Each datagram that the loop handles adds the entry that it should give, and no other; the table is large enough; and
the loop ends after 16 datagrams in a row that are no replies.
-/
def AcceptsExactly (s : ReceiveThread) (es : List Received) : Prop :=
  (exec (step p) s es).discovered = s.discovered ++ (s.handled p es).filterMap p.reply
    ∧ (exec (step p) s es).discovered.length ≤ maxDevices
    ∧ Limited s.count ((s.handled p es).map p.reply)

-- The buffer looks like a reply, but some of the bytes that are used are older than the datagram.
def Phantom (s : ReceiveThread) : Received → Prop
  | .datagram d =>
    s.handles p d ∧ p.accepts d.bytes.length (s.buffer.receive d.bytes)
      ∧ d.bytes.length < p.needed (s.buffer.receive d.bytes)
  | .error => False

instance (s : ReceiveThread) : (e : Received) → Decidable (s.Phantom p e)
  | .datagram _ => inferInstanceAs (Decidable (_ ∧ _))
  | .error => isFalse id

variable {p} {s : ReceiveThread} {d : Datagram}

theorem discovered_handle
    : (s.handle p d).discovered
        = s.discovered
          ++ if p.accepts d.bytes.length (s.buffer.receive d.bytes) then
            [p.entry (s.buffer.receive d.bytes) d.addr]
          else
            [] := by
  unfold handle
  dsimp only
  split
  . rfl
  . rw [List.append_nil]

theorem count_handle
    : (s.handle p d).count
        = if p.accepts d.bytes.length (s.buffer.receive d.bytes) then 0 else s.count + 1 := by
  unfold handle
  dsimp only
  split
  . rfl
  . rfl

theorem handle_of_not_phantom (h : s.handles p d) (hphantom : ¬ s.Phantom p (.datagram d))
    : (s.handle p d).discovered = s.discovered ++ (p.reply d).toList
        ∧ (s.handle p d).count = match p.reply d with
          | none => s.count + 1
          | some _ => 0 := by
  rw [discovered_handle, count_handle]
  by_cases hlen : p.needed (s.buffer.receive d.bytes) ≤ d.bytes.length
  . rw [Protocol.reply_of_le hlen]
    split
    . exact ⟨rfl, rfl⟩
    . exact ⟨rfl, rfl⟩
  . rw [Nat.not_le] at hlen
    have haccepts : ¬ p.accepts d.bytes.length (s.buffer.receive d.bytes) :=
      fun haccepts => hphantom ⟨h, haccepts, hlen⟩
    rw [Protocol.reply_of_lt hlen, if_neg haccepts, if_neg haccepts]
    exact ⟨rfl, rfl⟩

theorem length_handle_of_phantom (hphantom : s.Phantom p (.datagram d))
    : (s.handle p d).discovered.length = s.discovered.length + 1 ∧ p.reply d = none := by
  obtain ⟨_, haccepts, hlen⟩ := hphantom
  rw [discovered_handle, if_pos haccepts, List.length_append]
  exact ⟨rfl, Protocol.reply_of_lt hlen⟩

theorem length_handle_ge
    : s.discovered.length + (p.reply d).toList.length ≤ (s.handle p d).discovered.length := by
  rw [discovered_handle, List.length_append]
  by_cases hlen : p.needed (s.buffer.receive d.bytes) ≤ d.bytes.length
  . rw [Protocol.reply_of_le hlen]
    split
    . exact Nat.le_refl _
    . exact Nat.le_refl _
  . rw [Protocol.reply_of_lt (Nat.not_le.mp hlen)]
    exact Nat.le_add_right _ _

theorem step_of_handles (h : s.handles p d) : s.step p (.datagram d) = s.handle p d :=
  if_pos h

theorem step_of_not_handles (h : ¬ s.handles p d)
    : s.step p (.datagram d) = { s with ended := true } :=
  if_neg h

theorem handled_cons_of_handles (h : s.handles p d) (es : List Received)
    : s.handled p (.datagram d :: es) = d :: (s.handle p d).handled p es := by
  rw [handled, if_pos h, step_of_handles h]

theorem handled_cons_of_not_handles (h : ¬ s.handles p d) (es : List Received)
    : s.handled p (.datagram d :: es) = { s with ended := true }.handled p es := by
  rw [handled, if_neg h, step_of_not_handles h]

theorem length_filterMap_cons (d : Datagram) (ds : List Datagram)
    : ((d :: ds).filterMap p.reply).length
        = (p.reply d).toList.length + (ds.filterMap p.reply).length := by
  rw [List.filterMap_cons]
  cases p.reply d with
  | none => exact (Nat.zero_add _).symm
  | some x => exact Nat.add_comm _ 1

-- There is an entry for each reply at least.
theorem length_ge (es : List Received)
    : s.discovered.length + ((s.handled p es).filterMap p.reply).length
        ≤ (exec (step p) s es).discovered.length := by
  induction es generalizing s with
  | nil => exact Nat.le_refl _
  | cons e es ih =>
    rw [exec_cons]
    cases e with
    | error => exact ih (s := { s with ended := true })
    | datagram d =>
      by_cases h : s.handles p d
      . have hrest := ih (s := s.handle p d)
        have hhere := length_handle_ge (p := p) (s := s) (d := d)
        rw [step_of_handles h, handled_cons_of_handles h, length_filterMap_cons]
        omega
      . rw [step_of_not_handles h, handled_cons_of_not_handles h]
        exact ih (s := { s with ended := true })

theorem discovered_iff (es : List Received)
    : (exec (step p) s es).discovered = s.discovered ++ (s.handled p es).filterMap p.reply
        ↔ Along (step p) (fun s e => ¬ s.Phantom p e) s es := by
  induction es generalizing s with
  | nil => exact iff_of_true (List.append_nil _).symm trivial
  | cons e es ih =>
    rw [exec_cons, along_cons]
    cases e with
    | error =>
      have hrest := ih (s := { s with ended := true })
      exact hrest.trans (and_iff_right id).symm
    | datagram d =>
      by_cases h : s.handles p d
      . rw [step_of_handles h, handled_cons_of_handles h]
        by_cases hphantom : s.Phantom p (.datagram d)
        . obtain ⟨hlength, hnone⟩ := length_handle_of_phantom hphantom
          refine iff_of_false ?_ fun hsteps => hsteps.1 hphantom
          intro heq
          have hge := length_ge (p := p) (s := s.handle p d) es
          have hlt := congrArg List.length heq
          rw [List.length_append, length_filterMap_cons, hnone] at hlt
          change _ = _ + (0 + _) at hlt
          omega
        . have hhere := (handle_of_not_phantom h hphantom).1
          rw [← ih, and_iff_right hphantom, hhere, List.append_assoc]
          have hcons : (d :: (s.handle p d).handled p es).filterMap p.reply
              = (p.reply d).toList ++ ((s.handle p d).handled p es).filterMap p.reply := by
            rw [List.filterMap_cons]
            cases p.reply d with
            | none => rfl
            | some x => rfl
          rw [hcons]
      . have hnot : ¬ s.Phantom p (.datagram d) := fun hphantom => h hphantom.1
        rw [step_of_not_handles h, handled_cons_of_not_handles h, and_iff_right hnot]
        exact ih (s := { s with ended := true })

theorem count_lt_of_handles (h : s.handles p d) : s.count < 16 := by
  have hcount := (of_decide_eq_true h).2.2
  omega

theorem length_lt_of_handles (h : s.handles p d) : s.discovered.length < maxDevices :=
  (of_decide_eq_true (of_decide_eq_true h).1).2.1

theorem limited_of_along {es : List Received}
    (h : Along (step p) (fun s e => ¬ s.Phantom p e) s es)
    : Limited s.count ((s.handled p es).map p.reply) := by
  induction es generalizing s with
  | nil => exact trivial
  | cons e es ih =>
    cases e with
    | error => exact ih (s := { s with ended := true }) h.2
    | datagram d =>
      have hrest := ih h.2
      by_cases hhandles : s.handles p d
      . have hhere := (handle_of_not_phantom hhandles h.1).2
        rw [step_of_handles hhandles, hhere] at hrest
        rw [handled_cons_of_handles hhandles, List.map_cons]
        cases hreply : p.reply d with
        | none =>
          rw [hreply] at hrest
          exact ⟨count_lt_of_handles hhandles, hrest⟩
        | some x =>
          rw [hreply] at hrest
          exact ⟨count_lt_of_handles hhandles, hrest⟩
      . rw [step_of_not_handles hhandles] at hrest
        rw [handled_cons_of_not_handles hhandles]
        exact hrest

theorem length_step (e : Received) (h : s.discovered.length ≤ maxDevices)
    : (s.step p e).discovered.length ≤ maxDevices := by
  cases e with
  | error => exact h
  | datagram d =>
    by_cases hhandles : s.handles p d
    . have hlt := length_lt_of_handles hhandles
      rw [step_of_handles hhandles, discovered_handle, List.length_append]
      split
      . exact hlt
      . exact h
    . rw [step_of_not_handles hhandles]
      exact h

theorem length_exec (es : List Received) (h : s.discovered.length ≤ maxDevices)
    : (exec (step p) s es).discovered.length ≤ maxDevices :=
  exec_invariant (I := fun s => s.discovered.length ≤ maxDevices)
    (fun _ e hle _ => length_step e hle) h (along_true s es)

/--
The threads accept exactly the replies if and only if no datagram that is too short looks like a reply, completed by
what the buffer holds.
-/
theorem acceptsExactly_iff (p : Protocol) (s : ReceiveThread) (es : List Received)
    (hdevices : s.discovered.length ≤ maxDevices)
    : s.AcceptsExactly p es ↔ Along (step p) (fun s e => ¬ s.Phantom p e) s es := by
  constructor
  . intro h
    exact (discovered_iff es).mp h.1
  . intro h
    exact ⟨(discovered_iff es).mpr h, length_exec es hdevices, limited_of_along h⟩

-- a reply of a HermesLite V2 with gateware 73.2, of 60 bytes
def hermesLiteReply : Datagram where
  bytes := [0xEF, 0xFE, 2, 0x00, 0x1C, 0xC0, 0xA2, 0x22, 0x5E, 73, 6] ++ List.replicate 10 0
    ++ [2] ++ List.replicate 38 0
  le := by decide
  addr := ⟨0xC0A80064, 1024⟩

-- a reply of a radio of the type Saturn, of 60 bytes
def saturnReply : Datagram where
  bytes := [0, 0, 0, 0, 2, 0x00, 0x1C, 0xC0, 0xA2, 0x22, 0x5E, 10, 43, 27] ++ List.replicate 46 0
  le := by decide
  addr := ⟨0xC0A80065, 1024⟩

theorem acceptsExactly_hermesLite
    : (ReceiveThread.start 1 (fun _ => 0) []).AcceptsExactly .p1
        [.datagram hermesLiteReply, .datagram saturnReply, .error] := by
  refine (acceptsExactly_iff .p1 (ReceiveThread.start 1 (fun _ => 0) [])
    [.datagram hermesLiteReply, .datagram saturnReply, .error] ?_).mpr ?_
  . exact Nat.zero_le _
  . decide

-- An empty datagram after a reply is a second radio.
theorem not_acceptsExactly
    : ¬ ∀ (p : Protocol) (s : ReceiveThread) (es : List Received),
        s.discovered.length ≤ maxDevices → s.AcceptsExactly p es := by
  intro h
  have hentries := (h .p2 (.start 1 (fun _ => 0) [])
    [.datagram saturnReply, .datagram ⟨[], Nat.zero_le _, ⟨0xC0A80066, 1024⟩⟩]
    (Nat.zero_le _)).1
  have hlength := congrArg List.length hentries
  revert hlength
  decide

end ReceiveThread

end Discovery
