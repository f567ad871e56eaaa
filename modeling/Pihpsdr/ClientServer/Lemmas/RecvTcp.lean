import Pihpsdr.ClientServer.Lemmas.Framing
import Pihpsdr.OldProtocol.Lemmas.MetisRead

/-!
When `recv_tcp` returns the bytes that arrive, and the two loops that read a number of bytes from a
TCP connection side by side.
-/

namespace ClientServer

namespace Socket

-- how many calls of `recv` it takes to get that many bytes; `none` if one of them fails
def callsFor : List Recv → Nat → Option Nat
  | _, 0 => some 0
  | [], _ + 1 => some 1
  | .error :: _, _ + 1 => none
  | .bunch n :: recvs, bytes + 1 => (callsFor recvs (bytes + 1 - n)).map (· + 1)

/-- That many bytes arrive before a call fails and before the connection is closed. -/
def Arrives (sock : Socket) (bytes : Nat) : Prop :=
  bytes ≤ sock.data.length ∧ (callsFor sock.recvs bytes).isSome = true

instance (sock : Socket) (bytes : Nat) : Decidable (sock.Arrives bytes) :=
  inferInstanceAs (Decidable (_ ∧ _))

/-- `recv_tcp` returns the bytes that come next if that many arrive, and fails otherwise. -/
def ReadsExactly (sock : Socket) (bytes : Nat) : Prop :=
  (sock.Arrives bytes
    → ∃ recvs, sock.recvTcp bytes = some (sock.data.take bytes, ⟨sock.data.drop bytes, recvs⟩))
  ∧ (¬ sock.Arrives bytes → sock.recvTcp bytes = none)

@[simp]
theorem callsFor_zero (recvs : List Recv) : callsFor recvs 0 = some 0 := by
  unfold callsFor
  rfl

theorem callsFor_nil {bytes : Nat} (h : bytes ≠ 0) : callsFor [] bytes = some 1 := by
  cases bytes with
  | zero => contradiction
  | succ bytes => rfl

theorem callsFor_error (recvs : List Recv) {bytes : Nat} (h : bytes ≠ 0)
    : callsFor (.error :: recvs) bytes = none := by
  cases bytes with
  | zero => contradiction
  | succ bytes => rfl

theorem callsFor_bunch (n : Nat) (recvs : List Recv) {bytes : Nat} (h : bytes ≠ 0)
    : callsFor (.bunch n :: recvs) bytes = (callsFor recvs (bytes - n)).map (· + 1) := by
  cases bytes with
  | zero => contradiction
  | succ bytes => rfl

theorem callsFor_pos {recvs : List Recv} {bytes calls : Nat} (h : callsFor recvs bytes = some calls)
    (hbytes : bytes ≠ 0)
    : 0 < calls := by
  cases recvs with
  | nil =>
    rw [callsFor_nil hbytes] at h
    injection h with h
    omega
  | cons r recvs =>
    cases r with
    | error =>
      rw [callsFor_error recvs hbytes] at h
      contradiction
    | bunch n =>
      rw [callsFor_bunch n recvs hbytes, Option.map_eq_some_iff] at h
      have ⟨_, _, h⟩ := h
      omega

-- a call that returns bytes leaves the rest to the next ones
theorem isSome_recvBunches_bunch (left n : Nat) (data : List Byte) (recvs : List Recv) {bytes : Nat}
    (hbytes : bytes ≠ 0) (hlen : bytes ≤ data.length)
    : (recvBunches ⟨data, .bunch n :: recvs⟩ (left + 2) bytes).isSome
        =
      (recvBunches ⟨data.drop (min n bytes), recvs⟩ (left + 1) (bytes - n)).isSome := by
  have hrest : bytes - (data.take (min n bytes)).length = bytes - n := by
    rw [List.length_take]
    omega
  rw [recvBunches, if_neg hbytes]
  simp only [recv, hrest]
  rw [if_neg (Nat.succ_ne_zero left)]
  cases recvBunches ⟨data.drop (min n bytes), recvs⟩ (left + 1) (bytes - n) with
  | none => rfl
  | some result => rfl

-- Of `left + 1` calls of `recv` only `left` count.
theorem recvBunches_isSome_iff (left : Nat) (sock : Socket) {bytes : Nat}
    (hlen : bytes ≤ sock.data.length)
    : (sock.recvBunches (left + 1) bytes).isSome = true
      ↔ ∃ calls, callsFor sock.recvs bytes = some calls ∧ calls ≤ left := by
  induction left generalizing sock bytes with
  | zero =>
    unfold recvBunches
    by_cases hbytes : bytes = 0
    . simp [hbytes]
    . rw [if_neg hbytes]
      constructor
      . intro h
        split at h <;> simp at h
      . rintro ⟨calls, hcalls, hle⟩
        have := callsFor_pos hcalls hbytes
        omega
  | succ left ih =>
    by_cases hbytes : bytes = 0
    . unfold recvBunches
      simp [hbytes]
    . have ⟨data, recvs⟩ := sock
      dsimp only at hlen
      cases recvs with
      | nil =>
        have hrest : bytes - min bytes data.length = 0 := by omega
        simp [recvBunches, hbytes, recv, hrest, callsFor_nil hbytes]
      | cons r recvs =>
        cases r with
        | error => simp [recvBunches, hbytes, recv, callsFor_error recvs hbytes]
        | bunch n =>
          have hlen' : bytes - n ≤ (data.drop (min n bytes)).length := by
            rw [List.length_drop]
            omega
          rw [isSome_recvBunches_bunch left n data recvs hbytes hlen, ih _ hlen',
            callsFor_bunch n recvs hbytes]
          simp only [Option.map_eq_some_iff]
          constructor
          . rintro ⟨calls, hcalls, hle⟩
            exact ⟨calls + 1, ⟨calls, hcalls, rfl⟩, by omega⟩
          . rintro ⟨_, ⟨calls, hcalls, rfl⟩, hle⟩
            exact ⟨calls, hcalls, by omega⟩

theorem recvTcp_isSome_iff (sock : Socket) {bytes : Nat} (hlen : bytes ≤ sock.data.length)
    : (sock.recvTcp bytes).isSome = true
      ↔ ∃ calls, callsFor sock.recvs bytes = some calls ∧ calls ≤ 9 :=
  recvBunches_isSome_iff 9 sock hlen

theorem recvTcp_eq_take {sock : Socket} {bytes : Nat} (h : (sock.recvTcp bytes).isSome = true)
    : ∃ recvs, sock.recvTcp bytes = some (sock.data.take bytes, ⟨sock.data.drop bytes, recvs⟩) := by
  have ⟨⟨buffer, data, recvs⟩, heq⟩ := Option.isSome_iff_exists.mp h
  have ⟨hdata, hlen⟩ := recvTcp_eq_some heq
  refine ⟨recvs, ?_⟩
  rw [heq, ← hdata, ← hlen, List.take_left, List.drop_left]

theorem readsExactly_iff (sock : Socket) (bytes : Nat)
    : sock.ReadsExactly bytes
      ↔ (bytes ≤ sock.data.length
        → ∀ calls, callsFor sock.recvs bytes = some calls → calls ≤ 9) := by
  constructor
  . rintro ⟨h, _⟩ hlen calls hcalls
    have ⟨recvs, hsome⟩ := h ⟨hlen, by rw [hcalls]; rfl⟩
    have ⟨calls', hcalls', hle⟩ := (recvTcp_isSome_iff sock hlen).mp (by rw [hsome]; rfl)
    rw [hcalls] at hcalls'
    injection hcalls' with heq
    omega
  . intro h
    constructor
    . rintro ⟨hlen, hsome⟩
      have ⟨calls, hcalls⟩ := Option.isSome_iff_exists.mp hsome
      apply recvTcp_eq_take
      exact (recvTcp_isSome_iff sock hlen).mpr ⟨calls, hcalls, h hlen calls hcalls⟩
    . intro harrives
      by_cases hlen : bytes ≤ sock.data.length
      . rw [← Option.not_isSome_iff_eq_none, recvTcp_isSome_iff sock hlen]
        rintro ⟨calls, hcalls, _⟩
        exact harrives ⟨hlen, by rw [hcalls]; rfl⟩
      . exact recvTcp_eq_none (by omega)

end Socket

open OldProtocol in
/--
Both loops are done after some number of calls of `recv`, that of `recv_tcp` with exactly the bytes
it was asked for when they arrive and with an error when they do not.
-/
def HelpersExact (s : TcpStream) (sock : Socket) (bytes : Nat) : Prop :=
  (∃ passes result, s.readLoop passes (-1) [] metisBufferSize = some result)
  ∧ sock.ReadsExactly bytes

open OldProtocol in
-- `metis_read` waits for ever after the close; the tenth call counts as a failure in `recv_tcp`.
theorem helpersExact_iff (s : TcpStream) (sock : Socket) (bytes : Nat)
    : HelpersExact s sock bytes
      ↔ (metisBufferSize ≤ s.data.length ∨ .error ∈ s.calls)
        ∧ (bytes ≤ sock.data.length
          → ∀ calls, Socket.callsFor sock.recvs bytes = some calls → calls ≤ 9) := by
  unfold HelpersExact
  rw [TcpStream.readLoop_ends_iff, Socket.readsExactly_iff]

-- The radio closes the connection in the middle of a packet, or ten bytes come one by one.
theorem not_helpersExact
    : ¬ HelpersExact ⟨[0xEF], []⟩ ⟨[], []⟩ 1
      ∧ ¬ HelpersExact ⟨[], [.error]⟩ ⟨List.replicate 10 0, List.replicate 10 (.bunch 1)⟩ 10 := by
  constructor
  . rintro ⟨⟨passes, result, h⟩, _⟩
    rw [OldProtocol.TcpStream.readLoop_eq_none passes _ _ (by decide) (by simp)] at h
    contradiction
  . rintro ⟨_, h, _⟩
    have ⟨recvs, hsome⟩ := h (by decide)
    have hnone : (Socket.mk (List.replicate 10 0) (List.replicate 10 (.bunch 1))).recvTcp 10
        = none := by rfl
    rw [hnone] at hsome
    contradiction

end ClientServer
