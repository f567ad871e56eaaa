import Pihpsdr.Lib.Matcher
import Pihpsdr.ClientServer.Impl.Framing
import Pihpsdr.ClientServer.Lemmas.Wire

/-!
The read loops take the messages apart where the other peer put them together. After bytes that do
not belong to a message they find the next one only in some cases.
-/

namespace ClientServer

namespace Socket

theorem recv_eq_some {sock sock' : Socket} {bytes : Nat} {bunch : List Byte}
    (h : sock.recv bytes = some (bunch, sock'))
    : bunch ++ sock'.data = sock.data ∧ bunch.length ≤ bytes := by
  unfold recv at h
  split at h
  next =>
    injection h with h
    injection h with hbunch hsock
    rw [← hbunch, ← hsock]
    exact ⟨List.take_append_drop _ _, List.length_take_le _ _⟩
  next => simp at h
  next n _ _ =>
    injection h with h
    injection h with hbunch hsock
    rw [← hbunch, ← hsock]
    refine ⟨List.take_append_drop _ _, ?_⟩
    have := List.length_take_le (min n bytes) sock.data
    omega

theorem recvBunches_eq_some {left : Nat} {sock sock' : Socket} {bytes : Nat} {buffer : List Byte}
    (h : sock.recvBunches left bytes = some (buffer, sock'))
    : buffer ++ sock'.data = sock.data ∧ buffer.length = bytes := by
  induction left generalizing sock sock' bytes buffer with
  | zero => simp [recvBunches] at h
  | succ left ih =>
    unfold recvBunches at h
    split at h
    next hbytes =>
      injection h with h
      injection h with hbuffer hsock
      rw [← hbuffer, ← hsock]
      exact ⟨rfl, hbytes.symm⟩
    next =>
      split at h
      next => simp at h
      next bunch sock₁ hrecv =>
        have ⟨hdata, hlen⟩ := recv_eq_some hrecv
        split at h
        next => simp at h
        next =>
          split at h
          next => simp at h
          next buffer₁ sock₂ hrest =>
            have ⟨hdata₁, hlen₁⟩ := ih hrest
            injection h with h
            injection h with hbuffer hsock
            rw [← hbuffer, ← hsock, List.append_assoc, hdata₁, hdata, List.length_append, hlen₁]
            exact ⟨rfl, by omega⟩

-- `recv_tcp` fails, or it returns exactly the bytes that come next.
theorem recvTcp_eq_some {sock sock' : Socket} {bytes : Nat} {buffer : List Byte}
    (h : sock.recvTcp bytes = some (buffer, sock'))
    : buffer ++ sock'.data = sock.data ∧ buffer.length = bytes := by
  apply recvBunches_eq_some h

theorem recvTcp_append {sock sock' : Socket} {xs rest buffer : List Byte}
    (hdata : sock.data = xs ++ rest) (h : sock.recvTcp xs.length = some (buffer, sock'))
    : buffer = xs ∧ sock'.data = rest := by
  have ⟨hbuffer, hlen⟩ := recvTcp_eq_some h
  rw [hdata] at hbuffer
  apply List.append_inj hbuffer hlen

theorem recvTcp_eq_none {sock : Socket} {bytes : Nat} (h : sock.data.length < bytes)
    : sock.recvTcp bytes = none := by
  cases hrecv : sock.recvTcp bytes with
  | none => rfl
  | some result =>
    have ⟨hdata, hlen⟩ := recvTcp_eq_some hrecv
    have := congrArg List.length hdata
    rw [List.length_append] at this
    omega

theorem recvTcp_prompt (xs rest : List Byte)
    : (Socket.mk (xs ++ rest) []).recvTcp xs.length = some (xs, ⟨rest, []⟩) := by
  unfold recvTcp recvBunches
  split
  next h => rw [List.length_eq_zero_iff.mp h, List.nil_append]
  next h => simp [recv, recvBunches]

end Socket

theorem field16_bytes16 (x : BitVec 16) (rest : List Byte)
    : field16 (bytes16 x ++ rest) = x := by
  simp only [bytes16, List.cons_append, List.nil_append, field16]
  apply BitVec.eq_of_getLsbD_eq
  intro i hi
  simp only [BitVec.getLsbD_or, BitVec.getLsbD_shiftLeft, BitVec.getLsbD_setWidth,
    BitVec.getLsbD_ushiftRight]
  by_cases h : i < 8
  . simp [h, hi]
  . have hlt : i - 8 < 8 := by omega
    have hadd : 8 + (i - 8) = i := by omega
    simp [h, hi, hlt, hadd, Nat.lt_trans hlt]

theorem DataType.getElem?_all_code (t : DataType)
    : DataType.all[t.code]? = some t := by
  cases t <;> rfl

theorem DataType.code_lt (t : DataType)
    : t.code < 114 := by
  have ⟨hlt, _⟩ := List.getElem?_eq_some_iff.mp t.getElem?_all_code
  exact hlt

theorem DataType.ofCode_code (t : DataType)
    : DataType.ofCode t.code = some t := by
  rw [ofCode, if_pos (by omega), Int.toNat_natCast, getElem?_all_code]

-- The read loop of a peer knows every message that the peer is sent, with its size.
theorem Peer.reading_of_sentTo {peer : Peer} {t : DataType} (h : t.sentTo peer = true)
    : ∃ s, t.struct = some s ∧ peer.reading (some t) = .rest s := by
  cases peer <;> cases t <;> first | contradiction | exact ⟨_, rfl, rfl⟩

namespace Message

variable {peer : Peer}

theorem dataType_toRaw (m : Message peer)
    : dataType m.toRaw.header = some m.type := by
  have := m.type.code_lt
  rw [dataType, toRaw, field16_bytes16, from16_to16 ⟨by omega, by omega⟩, DataType.ofCode_code]

theorem length_header_toRaw (m : Message peer)
    : m.toRaw.header.length = 8 := by
  rw [toRaw, List.length_append, m.length_fields]
  rfl

theorem reading (m : Message peer)
    : ∃ s, peer.reading (dataType m.toRaw.header) = .rest s ∧ s.bodySize = m.body.length := by
  have ⟨s, hs, hreading⟩ := Peer.reading_of_sentTo m.sentTo_type
  have hbody := m.length_body
  rw [hs, Option.map_some] at hbody
  exact ⟨s, by rw [dataType_toRaw, hreading], Option.some.inj hbody⟩

theorem stream_cons (m : Message peer) (messages : List (Message peer))
    : stream (m :: messages) = m.bytes ++ stream messages := by
  rw [stream, List.flatMap_cons, stream]

end Message

theorem readHeader_eq_some {sock sock' : Socket} {header header' rest : List Byte}
    (hlen : header.length = 8) (hdata : sock.data = syncBytes ++ header ++ rest)
    (h : readHeader sock = some (header', sock'))
    : header' = header ∧ sock'.data = rest := by
  have hsize : headerSize = (syncBytes ++ header).length := by
    rw [List.length_append, hlen]
    rfl
  unfold readHeader at h
  rw [hsize] at h
  split at h
  next => simp at h
  next buffer sock₁ hrecv =>
    have ⟨hbuffer, hrest⟩ := Socket.recvTcp_append hdata hrecv
    rw [hbuffer, if_pos (List.take_left), List.drop_left] at h
    injection h with h
    injection h with hheader hsock
    rw [← hheader, ← hsock]
    exact ⟨rfl, hrest⟩

theorem readHeader_prompt {header : List Byte} (hlen : header.length = 8) (rest : List Byte)
    : readHeader ⟨syncBytes ++ header ++ rest, []⟩ = some (header, ⟨rest, []⟩) := by
  have hsize : headerSize = (syncBytes ++ header).length := by
    rw [List.length_append, hlen]
    rfl
  unfold readHeader
  rw [hsize, Socket.recvTcp_prompt]
  dsimp only
  rw [if_pos (List.take_left), List.drop_left]

namespace Peer

variable {peer : Peer}

theorem readMessage_eq_some {m : Message peer} {sock sock' : Socket} {message : RawMessage}
    {rest : List Byte} (hdata : sock.data = m.bytes ++ rest)
    (h : peer.readMessage sock = some (message, sock'))
    : message = m.toRaw ∧ sock'.data = rest := by
  rw [Message.bytes, List.append_assoc] at hdata
  unfold readMessage at h
  split at h
  next => simp at h
  next header sock₁ hread =>
    have ⟨hheader, hbody⟩ := readHeader_eq_some m.length_header_toRaw hdata hread
    have ⟨s, hreading, hsize⟩ := m.reading
    rw [hheader, hreading] at h
    dsimp only at h
    rw [hsize] at h
    split at h
    next => simp at h
    next body sock₂ hrecv =>
      have ⟨hbody', hrest⟩ := Socket.recvTcp_append hbody hrecv
      injection h with h
      injection h with hmessage hsock
      rw [← hmessage, ← hsock, hbody']
      exact ⟨rfl, hrest⟩

theorem readMessage_prompt (m : Message peer) (rest : List Byte)
    : peer.readMessage ⟨m.bytes ++ rest, []⟩ = some (m.toRaw, ⟨rest, []⟩) := by
  have ⟨s, hreading, hsize⟩ := m.reading
  unfold readMessage
  rw [Message.bytes, List.append_assoc, readHeader_prompt m.length_header_toRaw]
  dsimp only
  rw [hreading]
  dsimp only
  rw [hsize, show m.toRaw.body = m.body from rfl, Socket.recvTcp_prompt]
  rfl

theorem readMessage_nil {sock : Socket} (h : sock.data = [])
    : peer.readMessage sock = none := by
  rw [readMessage, readHeader, Socket.recvTcp_eq_none]
  rw [h]
  decide

theorem readLoop_stream (messages : List (Message peer)) (passes : Nat) {sock : Socket}
    (hdata : sock.data = Message.stream messages)
    : (peer.readLoop passes sock).1 <+: messages.map Message.toRaw
        ∧ ∀ sock', (peer.readLoop passes sock).2 = some sock' →
            (peer.readLoop passes sock).1 = (messages.take passes).map Message.toRaw
              ∧ sock'.data = Message.stream (messages.drop passes) := by
  induction passes generalizing messages sock with
  | zero =>
    refine ⟨List.nil_prefix, ?_⟩
    intro sock' h
    injection h with h
    rw [← h, List.take_zero, List.drop_zero]
    exact ⟨rfl, hdata⟩
  | succ passes ih =>
    unfold readLoop
    split
    next => exact ⟨List.nil_prefix, by simp⟩
    next message sock₁ hread =>
      cases messages with
      | nil => simp [readMessage_nil hdata] at hread
      | cons m messages =>
        rw [Message.stream_cons] at hdata
        have ⟨hmessage, hrest⟩ := readMessage_eq_some hdata hread
        have ⟨hpre, hall⟩ := ih messages hrest
        dsimp only
        rw [hmessage, List.map_cons, List.take_succ_cons, List.drop_succ_cons, List.map_cons]
        refine ⟨List.cons_prefix_cons.mpr ⟨rfl, hpre⟩, ?_⟩
        intro sock' h
        have ⟨hmessages, hsock⟩ := hall sock' h
        rw [hmessages]
        exact ⟨rfl, hsock⟩

theorem readLoop_prompt (messages : List (Message peer)) (rest : List Byte)
    : peer.readLoop messages.length ⟨Message.stream messages ++ rest, []⟩
        =
      (messages.map Message.toRaw, some ⟨rest, []⟩) := by
  induction messages with
  | nil => rfl
  | cons m messages ih =>
    rw [List.length_cons, readLoop, Message.stream_cons, List.append_assoc, readMessage_prompt]
    dsimp only
    rw [ih, List.map_cons]

/--
However the bytes of the messages arrive, the read loop processes these messages in their order,
none of them changed, and all of them unless the connection is given up because `recv_tcp` failed.
-/
theorem readLoop_framing (peer : Peer) (messages : List (Message peer))
    : (∀ recvs passes,
          (peer.readLoop passes ⟨Message.stream messages, recvs⟩).1
              <+: messages.map Message.toRaw
            ∧ ∀ sock, (peer.readLoop passes ⟨Message.stream messages, recvs⟩).2 = some sock →
                (peer.readLoop passes ⟨Message.stream messages, recvs⟩).1
                    = (messages.take passes).map Message.toRaw
                  ∧ sock.data = Message.stream (messages.drop passes))
        ∧ peer.readLoop messages.length ⟨Message.stream messages, []⟩
            = (messages.map Message.toRaw, some ⟨[], []⟩) := by
  constructor
  . intro recvs passes
    apply readLoop_stream messages passes rfl
  . have h := readLoop_prompt messages []
    rw [List.append_nil] at h
    exact h

end Peer

theorem search_of_resync {limit syncs : Nat} {sock sock' : Socket}
    (h : resync syncs sock limit = some sock')
    : Matcher.search syncBytes syncs sock.data = some sock'.data := by
  induction limit generalizing syncs sock with
  | zero => simp [resync] at h
  | succ limit ih =>
    unfold resync at h
    split at h
    next hsyncs =>
      rw [Matcher.search_of_length_eq _ hsyncs, Option.some.inj h]
    next hsyncs =>
      split at h
      next => simp at h
      next buffer sock₁ hrecv =>
        have ⟨hdata, hlen⟩ := Socket.recvTcp_eq_some hrecv
        match buffer, hlen with
        | [c], _ =>
          rw [← hdata, List.singleton_append, Matcher.search_cons hsyncs]
          rw [List.head?_cons] at h
          split at h
          next hc =>
            rw [if_pos hc.symm]
            apply ih h
          next hc =>
            rw [if_neg (Ne.symm hc)]
            apply ih h

theorem resync_prompt {syncs : Nat} {data rest : List Byte}
    (h : Matcher.search syncBytes syncs data = some rest)
    : resync syncs ⟨data, []⟩ (data.length + 1) = some ⟨rest, []⟩ := by
  induction data generalizing syncs with
  | nil =>
    unfold Matcher.search at h
    unfold resync
    split at h
    next hsyncs => rw [if_pos hsyncs, Option.some.inj h]
    next => simp at h
  | cons c data ih =>
    unfold resync
    split
    next hsyncs =>
      rw [Matcher.search_of_length_eq _ hsyncs] at h
      rw [Option.some.inj h]
    next hsyncs =>
      have hrecv : (Socket.mk (c :: data) []).recvTcp 1 = some ([c], ⟨data, []⟩) := by
        apply Socket.recvTcp_prompt [c]
      rw [Matcher.search_cons hsyncs] at h
      rw [hrecv]
      dsimp only
      rw [List.head?_cons, List.length_cons]
      split at h
      next hc =>
        rw [if_pos hc.symm]
        apply ih h
      next hc =>
        rw [if_neg (Ne.symm hc)]
        apply ih h

/--
The bytes that the read loop drops before a message: none, or those of a whole header and the
abandoned attempts of the search after it.
-/
def Skippable (skipped : List Byte) : Prop :=
  skipped = []
    ∨ headerSize ≤ skipped.length ∧ Matcher.Abandoned syncBytes (skipped.drop headerSize)

theorem readHeader_skips {sock sock' : Socket} {header : List Byte}
    (h : readHeader sock = some (header, sock'))
    : ∃ skipped, Skippable skipped
        ∧ sock.data = skipped ++ (syncBytes ++ header ++ sock'.data) := by
  unfold readHeader at h
  split at h
  next => simp at h
  next buffer sock₁ hrecv =>
    have ⟨hdata, hlen⟩ := Socket.recvTcp_eq_some hrecv
    split at h
    next hsync =>
      injection h with h
      injection h with hheader hsock
      have hbuffer := List.take_append_drop syncBytes.length buffer
      rw [hsync] at hbuffer
      refine ⟨[], .inl rfl, ?_⟩
      rw [← hheader, ← hsock, ← hdata, List.nil_append, hbuffer]
    next hsync =>
      split at h
      next => simp at h
      next sock₂ hresync =>
        have hsearch := search_of_resync hresync
        have ⟨w, hw, hsplit⟩ := Matcher.abandoned_of_search (Nat.zero_le _) hsearch
        have ⟨hdata₂, _⟩ := Socket.recvTcp_eq_some h
        rw [List.take_zero, List.nil_append] at hsplit
        refine ⟨buffer ++ w, .inr ⟨?_, ?_⟩, ?_⟩
        . rw [List.length_append, hlen]
          apply Nat.le_add_right
        . rw [← hlen, List.drop_left]
          exact hw
        . rw [← hdata, hsplit, ← hdata₂]
          simp only [List.append_assoc]

theorem readHeader_skippable {skipped header : List Byte} (hsync : ¬ syncBytes <:+: skipped)
    (hskipped : Skippable skipped) (hlen : header.length = 8) (rest : List Byte)
    : readHeader ⟨skipped ++ (syncBytes ++ header ++ rest), []⟩ = some (header, ⟨rest, []⟩) := by
  cases hskipped with
  | inl hnil =>
    rw [hnil, List.nil_append]
    apply readHeader_prompt hlen
  | inr hgarbage =>
    have ⟨hle, habandoned⟩ := hgarbage
    have htake : (skipped.take headerSize).length = headerSize := by
      rw [List.length_take, Nat.min_eq_left hle]
    have hsplit : skipped ++ (syncBytes ++ header ++ rest)
        =
      skipped.take headerSize
        ++ (skipped.drop headerSize ++ syncBytes ++ (header ++ rest)) := by
      nth_rewrite 1 [← List.take_append_drop headerSize skipped]
      simp only [List.append_assoc]
    have hmismatch : (skipped.take headerSize).take syncBytes.length ≠ syncBytes := by
      intro h
      apply hsync
      rw [List.take_take] at h
      rw [← h]
      apply (List.take_prefix _ _).isInfix
    have hrecv := Socket.recvTcp_prompt (skipped.take headerSize)
      (skipped.drop headerSize ++ syncBytes ++ (header ++ rest))
    have hsearch : Matcher.search syncBytes 0
        (skipped.drop headerSize ++ syncBytes ++ (header ++ rest)) = some (header ++ rest) :=
      Matcher.search_append_iff.mpr habandoned
    rw [htake] at hrecv
    rw [hsplit, readHeader, hrecv]
    dsimp only
    rw [if_neg hmismatch, resync_prompt hsearch]
    dsimp only
    have h := Socket.recvTcp_prompt header rest
    rw [hlen] at h
    exact h

namespace Peer

variable {peer : Peer}

theorem readMessage_skips {sock sock' : Socket} {message : RawMessage}
    (h : peer.readMessage sock = some (message, sock'))
    : ∃ skipped, Skippable skipped
        ∧ sock.data = skipped ++ (syncBytes ++ message.header ++ message.body ++ sock'.data) := by
  unfold readMessage at h
  split at h
  next => simp at h
  next header sock₁ hread =>
    have ⟨skipped, hskipped, hdata⟩ := readHeader_skips hread
    split at h
    next => simp at h
    next s _ =>
      split at h
      next => simp at h
      next body sock₂ hrecv =>
        have ⟨hbody, _⟩ := Socket.recvTcp_eq_some hrecv
        injection h with h
        injection h with hmessage hsock
        refine ⟨skipped, hskipped, ?_⟩
        rw [hdata, ← hmessage, ← hsock, ← hbody]
        simp only [List.append_assoc]

theorem readMessage_skippable {skipped : List Byte} (hsync : ¬ syncBytes <:+: skipped)
    (hskipped : Skippable skipped) (m : Message peer) (rest : List Byte)
    : peer.readMessage ⟨skipped ++ m.bytes ++ rest, []⟩ = some (m.toRaw, ⟨rest, []⟩) := by
  have hprompt := readMessage_prompt m rest
  have hheader := readHeader_skippable hsync hskipped m.length_header_toRaw (m.toRaw.body ++ rest)
  rw [readMessage, Message.bytes, List.append_assoc, readHeader_prompt m.length_header_toRaw]
    at hprompt
  rw [readMessage, Message.bytes, List.append_assoc, List.append_assoc _ _ rest, hheader]
  exact hprompt

theorem skippable_of_readMessage {garbage : List Byte} {m : Message peer} {rest : List Byte}
    (h : peer.readMessage ⟨garbage ++ m.bytes ++ rest, []⟩ = some (m.toRaw, ⟨rest, []⟩))
    : Skippable garbage := by
  have ⟨skipped, hskipped, hdata⟩ := readMessage_skips h
  dsimp only at hdata
  rw [Message.bytes, List.append_assoc] at hdata
  rw [List.append_cancel_right hdata]
  exact hskipped

/--
A message after bytes that do not have the sync word is read as it was sent if and only if there are
no such bytes, or a whole header of them, which is taken without a look for the sync word, and the
remaining ones keep the search idle.
-/
theorem readMessage_garbage_iff (peer : Peer) (garbage : List Byte)
    (hsync : ¬ syncBytes <:+: garbage) (m : Message peer) (rest : List Byte)
    : peer.readMessage ⟨garbage ++ m.bytes ++ rest, []⟩ = some (m.toRaw, ⟨rest, []⟩)
        ↔
      Skippable garbage := by
  constructor
  . intro h
    apply skippable_of_readMessage h
  . intro h
    apply readMessage_skippable hsync h

def ping : Message .server where
  type := .cmdPing
  fields := [0, 0, 0, 0, 0, 0]
  body := []
  sentTo_type := rfl
  length_fields := rfl
  length_body := rfl

theorem readMessage_garbage_ping
    : server.readMessage ⟨List.replicate 12 0 ++ ping.bytes ++ [], []⟩
        =
      some (ping.toRaw, ⟨[], []⟩) := by
  apply (readMessage_garbage_iff server (List.replicate 12 0) (by decide) ping []).mpr
  exact .inr ⟨by decide, .nil⟩

-- A single byte is enough to miss the message after it, and so is an `FA` after twelve bytes.
theorem not_readMessage_garbage
    : server.readMessage ⟨[0] ++ ping.bytes ++ [], []⟩ ≠ some (ping.toRaw, ⟨[], []⟩)
        ∧ server.readMessage ⟨List.replicate 12 0 ++ [0xFA] ++ ping.bytes ++ [], []⟩
            ≠ some (ping.toRaw, ⟨[], []⟩) := by
  constructor
  . intro h
    cases skippable_of_readMessage h with
    | inl hnil => simp at hnil
    | inr hgarbage => simp [headerSize] at hgarbage
  . intro h
    cases skippable_of_readMessage h with
    | inl hnil => simp at hnil
    | inr hgarbage =>
      have hsearch : Matcher.search syncBytes 0
          ((List.replicate 12 (0 : Byte) ++ [0xFA]).drop headerSize ++ syncBytes ++ []) = some [] :=
        Matcher.search_append_iff.mpr hgarbage.2
      revert hsearch
      decide

end Peer

end ClientServer
