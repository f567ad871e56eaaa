import Pihpsdr.OldProtocol.Impl.Buffers

/-!
Which packets `metis_read` accepts, and when its loop over TCP ends.
-/

namespace OldProtocol

namespace TcpStream

@[simp]
theorem inTime_zero (calls : List TcpCall) : inTime calls 0 = true := by
  unfold inTime
  rfl

@[simp]
theorem inTime_nil (left : Nat) : inTime [] left = true := by
  cases left with
  | zero => rfl
  | succ left => rfl

theorem inTime_chunk (n : Nat) (calls : List TcpCall) (left : Nat)
    : inTime (.chunk n :: calls) left = inTime calls (left - (n + 1)) := by
  cases left with
  | zero => simp
  | succ left => rw [inTime, Nat.add_sub_add_right]

theorem delivers_zero (s : TcpStream) : s.Delivers 0 :=
  ⟨Nat.zero_le _, inTime_zero _⟩

theorem recvfrom_again {s s' : TcpStream} {size : Nat} (h : s.recvfrom size = (.again, s'))
    : s.calls = .timeout :: s'.calls ∧ s.data = s'.data := by
  unfold recvfrom at h
  split at h
  next => simp at h
  next hcalls =>
    injection h with _ h
    rw [← h]
    exact ⟨hcalls, rfl⟩
  next => simp at h
  next => simp at h

theorem recvfrom_failed {s s' : TcpStream} {size : Nat} (h : s.recvfrom size = (.failed, s'))
    : ∃ calls, s.calls = .error :: calls := by
  unfold recvfrom at h
  split at h
  next => simp at h
  next => simp at h
  next calls hcalls => exact ⟨calls, hcalls⟩
  next => simp at h

theorem recvfrom_received {s s' : TcpStream} {size : Nat} {bytes : List Byte}
    (h : s.recvfrom size = (.received bytes, s'))
    : s.data = bytes ++ s'.data ∧ bytes.length ≤ size
      ∧ (s.Delivers size ↔ s'.Delivers (size - bytes.length))
      ∧ (.error ∈ s'.calls ↔ .error ∈ s.calls) := by
  unfold recvfrom at h
  split at h
  next hcalls =>
    injection h with hbytes hs
    injection hbytes with hbytes
    rw [← hbytes, ← hs]
    refine ⟨(List.take_append_drop _ _).symm, List.length_take_le _ _, ?_, by simp [hcalls]⟩
    rw [Delivers, Delivers, hcalls]
    simp only [List.length_take, List.length_drop, inTime_nil, and_true]
    omega
  next => simp at h
  next => simp at h
  next n calls hcalls =>
    injection h with hbytes hs
    injection hbytes with hbytes
    rw [← hbytes, ← hs]
    refine ⟨(List.take_append_drop _ _).symm, ?_, ?_, by simp [hcalls]⟩
    . have := List.length_take_le (min (n + 1) size) s.data
      omega
    . rw [Delivers, Delivers, hcalls, inTime_chunk]
      simp only [List.length_take, List.length_drop]
      constructor
      . rintro ⟨hlen, htime⟩
        refine ⟨by omega, ?_⟩
        have : size - min (min (n + 1) size) s.data.length = size - (n + 1) := by omega
        rw [this]
        exact htime
      . rintro ⟨hlen, htime⟩
        have hle : size ≤ s.data.length := by omega
        refine ⟨hle, ?_⟩
        have : size - min (min (n + 1) size) s.data.length = size - (n + 1) := by omega
        rw [← this]
        exact htime

theorem not_delivers_of_failed {s s' : TcpStream} {left : Nat} (hleft : 0 < left)
    (h : s.recvfrom left = (.failed, s'))
    : ¬ s.Delivers left := by
  rintro ⟨_, htime⟩
  have ⟨calls, hcalls⟩ := recvfrom_failed h
  cases left with
  | zero => contradiction
  | succ left => simp [hcalls, inTime] at htime

theorem delivers_again {s s' : TcpStream} {left : Nat} (hleft : 0 < left)
    (h : s.recvfrom left = (.again, s'))
    : s.Delivers left ↔ s'.Delivers left := by
  have ⟨hcalls, hdata⟩ := recvfrom_again h
  cases left with
  | zero => contradiction
  | succ left => rw [Delivers, Delivers, hcalls, hdata, inTime]

-- With bytes left to be read, the loop ends with all of them or after a call that fails.
theorem readLoop_eq_some {passes : Nat} {s : TcpStream} {ret ret' : Int}
    {buffer buffer' : List Byte} {left : Nat} (hleft : 0 < left)
    (h : s.readLoop passes ret buffer left = some (ret', buffer'))
    : (s.Delivers left ∧ 0 < ret' ∧ buffer' = buffer ++ s.data.take left)
      ∨ (¬ s.Delivers left ∧ ret' = -1) := by
  induction passes generalizing s ret buffer left with
  | zero => simp [readLoop] at h
  | succ passes ih =>
    rw [readLoop, if_pos hleft] at h
    split at h
    next s' hrecv =>
      have ⟨_, hdata⟩ := recvfrom_again hrecv
      rw [delivers_again hleft hrecv, hdata]
      exact ih hleft h
    next hrecv =>
      injection h with h
      injection h with hret _
      exact .inr ⟨not_delivers_of_failed hleft hrecv, hret.symm⟩
    next bytes s' hrecv =>
      have ⟨hdata, hlen, hdel, _⟩ := recvfrom_received hrecv
      rw [hdel, hdata, List.take_append, List.take_of_length_le hlen, ← List.append_assoc]
      by_cases hrest : 0 < left - bytes.length
      . exact ih hrest h
      . have hzero : left - bytes.length = 0 := by omega
        rw [hzero] at h ⊢
        cases passes with
        | zero => simp [readLoop] at h
        | succ passes =>
          rw [readLoop, if_neg (Nat.lt_irrefl 0)] at h
          injection h with h
          injection h with hret hbuffer
          refine .inl ⟨delivers_zero s', by omega, ?_⟩
          rw [← hbuffer, List.take_zero, List.append_nil]

-- On each pass a call of the list is made; when there are none, the rest comes at once.
theorem readLoop_ends (s : TcpStream) (ret : Int) (buffer : List Byte) (left : Nat)
    (h : left ≤ s.data.length ∨ .error ∈ s.calls)
    : ∃ passes result, s.readLoop passes ret buffer left = some result := by
  have ⟨data, calls⟩ := s
  induction calls generalizing data ret buffer left with
  | nil =>
    have hlen : left ≤ data.length := by simpa using h
    by_cases hleft : 0 < left
    . refine ⟨2, (left, buffer ++ data.take left), ?_⟩
      simp [readLoop, hleft, recvfrom, hlen]
    . exact ⟨1, (ret, buffer), by simp [readLoop, hleft]⟩
  | cons call calls ih =>
    by_cases hleft : 0 < left
    . cases call with
      | timeout =>
        have ⟨passes, result, hresult⟩ := ih (-1) buffer left data (by simpa using h)
        refine ⟨passes + 1, result, ?_⟩
        rw [readLoop, if_pos hleft]
        exact hresult
      | error => exact ⟨1, (-1, buffer), by rw [readLoop, if_pos hleft]; rfl⟩
      | chunk n =>
        have hrecv : (TcpStream.mk data (.chunk n :: calls)).recvfrom left
            = (.received (data.take (min (n + 1) left)),
              ⟨data.drop (min (n + 1) left), calls⟩) := rfl
        have ⟨passes, result, hresult⟩ := ih (data.take (min (n + 1) left)).length
          (buffer ++ data.take (min (n + 1) left)) (left - (data.take (min (n + 1) left)).length)
          (data.drop (min (n + 1) left)) (by grind)
        refine ⟨passes + 1, result, ?_⟩
        rw [readLoop, if_pos hleft, hrecv]
        exact hresult
    . exact ⟨1, (ret, buffer), by rw [readLoop, if_neg hleft]⟩

-- After the last byte of the connection every further call returns 0.
theorem readLoop_eq_none (passes : Nat) {s : TcpStream} (ret : Int) (buffer : List Byte)
    {left : Nat} (hlen : s.data.length < left) (herror : .error ∉ s.calls)
    : s.readLoop passes ret buffer left = none := by
  induction passes generalizing s ret buffer left with
  | zero => rfl
  | succ passes ih =>
    rw [readLoop, if_pos (by omega)]
    split
    next s' hrecv =>
      have ⟨hcalls, hdata⟩ := recvfrom_again hrecv
      apply ih
      . rw [← hdata]
        exact hlen
      . rw [hcalls] at herror
        simpa using herror
    next hrecv =>
      have ⟨calls, hcalls⟩ := recvfrom_failed hrecv
      simp [hcalls] at herror
    next bytes s' hrecv =>
      have ⟨hdata, hle, _, hmem⟩ := recvfrom_received hrecv
      apply ih
      . rw [hdata, List.length_append] at hlen
        omega
      . rw [hmem]
        exact herror

theorem readLoop_ends_iff (s : TcpStream) (ret : Int) (buffer : List Byte) (left : Nat)
    : (∃ passes result, s.readLoop passes ret buffer left = some result)
      ↔ left ≤ s.data.length ∨ .error ∈ s.calls := by
  constructor
  . rintro ⟨passes, result, h⟩
    by_cases hlen : left ≤ s.data.length
    . exact .inl hlen
    . by_cases herror : .error ∈ s.calls
      . exact .inr herror
      . rw [readLoop_eq_none passes ret buffer (by omega) herror] at h
        contradiction
  . apply readLoop_ends

end TcpStream

theorem metisReceive_tcp {passes : Nat} {s : TcpStream} {q : MetisSequence} {buffer : List Byte}
    (h : metisReceive passes (.tcp s) q = some buffer)
    : (MetisSocket.tcp s).Reads buffer := by
  unfold metisReceive metisRead metisBytes at h
  cases hloop : s.readLoop passes (-1) [] metisBufferSize with
  | none => simp [hloop] at h
  | some result =>
    obtain ⟨ret, read⟩ := result
    simp only [hloop] at h
    have hsize : (metisBufferSize : Int) = 1032 := rfl
    obtain ⟨hdel, hret, hread⟩ | ⟨_, hret⟩ := TcpStream.readLoop_eq_some (by decide) hloop
    . refine ⟨hdel, ?_⟩
      rw [List.nil_append] at hread
      rw [← hread]
      grind
    . grind

theorem metisReceive_of_delivers {s : TcpStream} (q : MetisSequence)
    (h : s.Delivers metisBufferSize)
    : ∃ passes, metisReceive passes (.tcp s) q = some (s.data.take metisBufferSize) := by
  have ⟨passes, result, hloop⟩ := s.readLoop_ends (-1) [] metisBufferSize (.inl h.1)
  obtain ⟨ret, read⟩ := result
  refine ⟨passes, ?_⟩
  obtain ⟨_, hret, hread⟩ | ⟨hdel, _⟩ := TcpStream.readLoop_eq_some (by decide) hloop
  . rw [List.nil_append] at hread
    unfold metisReceive metisRead metisBytes
    simp only [hloop, hread]
    grind
  . contradiction

theorem metisReceive_udp_iff (passes : Nat) (datagram : Option (List Byte)) (q : MetisSequence)
    (buffer : List Byte)
    : metisReceive passes (.udp datagram) q = some buffer
      ↔ (MetisSocket.udp datagram).Reads buffer ∧ iqHeader buffer = true := by
  cases datagram with
  | none => simp [metisReceive, metisRead, metisBytes, metisBufferSize, MetisSocket.Reads]
  | some datagram =>
    unfold metisReceive metisRead metisBytes MetisSocket.Reads
    have hlen := List.length_take (i := metisBufferSize) (l := datagram)
    grind

theorem not_metisReceive_closed (passes : Nat) (q : MetisSequence)
    : metisReceive passes .closed q = none := by
  simp [metisReceive, metisRead, metisBytes, metisBufferSize]

theorem metisReceive_iff (socket : MetisSocket) (q : MetisSequence) (buffer : List Byte)
    : (∃ passes, metisReceive passes socket q = some buffer)
      ↔ socket.Reads buffer ∧ (iqHeader buffer = true ∨ ∃ s, socket = .tcp s) := by
  cases socket with
  | tcp s =>
    constructor
    . rintro ⟨passes, h⟩
      exact ⟨metisReceive_tcp h, .inr ⟨s, rfl⟩⟩
    . rintro ⟨⟨hdel, hbuffer⟩, _⟩
      rw [hbuffer]
      exact metisReceive_of_delivers q hdel
  | udp datagram => simp [metisReceive_udp_iff]
  | closed => simp [not_metisReceive_closed, MetisSocket.Reads]

theorem metisRead_ret_iff (socket : MetisSocket) (q : MetisSequence)
    : (∃ passes r, metisRead passes socket metisBufferSize q = some r ∧ 0 ≤ r.ret)
      ↔ ∃ buffer passes, metisReceive passes socket q = some buffer := by
  constructor
  . rintro ⟨passes, r, hr, hret⟩
    exact ⟨r.buffer, passes, by simp [metisReceive, hr, hret]⟩
  . rintro ⟨buffer, passes, h⟩
    unfold metisReceive at h
    split at h
    . contradiction
    next r hr =>
      split at h
      next hret => exact ⟨passes, r, hr, hret⟩
      next => contradiction

/-- `metis_read` succeeds for a valid packet in the buffer, which is queued, and for nothing else. -/
def AcceptsExactly (socket : MetisSocket) (q : MetisSequence) : Prop :=
  ((∃ passes r, metisRead passes socket metisBufferSize q = some r ∧ 0 ≤ r.ret)
    ↔ ∃ packet, socket.Reads packet ∧ iqHeader packet = true)
  ∧ ∀ buffer, (∃ passes, metisReceive passes socket q = some buffer)
    ↔ socket.Reads buffer ∧ iqHeader buffer = true

-- Over TCP the size of the last piece stays in `ret` when the header is not the right one.
theorem metisRead_acceptsExactly_iff (socket : MetisSocket) (q : MetisSequence)
    : AcceptsExactly socket q
      ↔ ∀ s, socket = .tcp s → s.Delivers metisBufferSize
        → iqHeader (s.data.take metisBufferSize) = true := by
  constructor
  . rintro ⟨_, hqueue⟩ s rfl hdel
    have hreads := (hqueue (s.data.take metisBufferSize)).mp (metisReceive_of_delivers q hdel)
    exact hreads.2
  . intro h
    have hheader (buffer : List Byte)
        : socket.Reads buffer ∧ (iqHeader buffer = true ∨ ∃ s, socket = .tcp s)
          ↔ socket.Reads buffer ∧ iqHeader buffer = true := by
      refine and_congr_right fun hreads => ⟨?_, .inl⟩
      rintro (hvalid | ⟨s, rfl⟩)
      . exact hvalid
      . rw [hreads.2]
        exact h s rfl hreads.1
    refine ⟨?_, fun buffer => ?_⟩
    . rw [metisRead_ret_iff]
      refine exists_congr fun buffer => ?_
      rw [metisReceive_iff, hheader]
    . rw [metisReceive_iff, hheader]

theorem iqHeader_zeros (n : Nat) : iqHeader (List.replicate n 0) = false := by
  rw [iqHeader, List.getElem?_replicate]
  by_cases h : 0 < n
  . rw [if_pos h]
    rfl
  . rw [if_neg h]
    rfl

-- A TCP packet without any header is queued.
theorem not_acceptsExactly_zeros
    : ¬ AcceptsExactly (.tcp ⟨List.replicate metisBufferSize 0, []⟩) ⟨0, 0⟩ := by
  rintro ⟨_, hqueue⟩
  have hdel : (TcpStream.mk (List.replicate metisBufferSize 0) []).Delivers metisBufferSize :=
    ⟨Nat.le_of_eq List.length_replicate.symm, TcpStream.inTime_nil _⟩
  have hheader := ((hqueue _).mp (metisReceive_of_delivers ⟨0, 0⟩ hdel)).2
  rw [List.take_replicate, iqHeader_zeros] at hheader
  exact Bool.false_ne_true hheader

end OldProtocol
