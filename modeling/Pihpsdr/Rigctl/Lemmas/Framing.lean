import Pihpsdr.Rigctl.Impl.Clients

/-!
Which commands the loops of `rigctl_client` and `serial_server` hand over, and when they stay inside
of the command buffer.
-/

namespace Rigctl

def isTerminator (c : CChar) : Bool :=
  c == semicolon

-- the characters of a stream that are not filtered out
def printable (stream : List CChar) : List CChar :=
  stream.filter (32 ≤ ·)

-- the printable characters before each `;`, and last those after the final one
def segments (stream : List CChar) : List (List CChar) :=
  (printable stream).splitOnP isTerminator

/--
The commands of a stream: each is terminated by `;`, and what follows the last `;` is none.
-/
def commands (stream : List CChar) : List (List CChar) :=
  (segments stream).dropLast.map (· ++ [semicolon])

/--
The segments fit into the buffer: a command with the null that is written behind its `;`, the
unfinished one at the end without it.
-/
def SegmentsFit (segs : List (List CChar)) : Prop :=
  (∀ seg ∈ segs.dropLast, seg.length + 2 ≤ maxDataSize) ∧ (segs.getLastD []).length ≤ maxDataSize

def CommandsFit (stream : List CChar) : Prop :=
  SegmentsFit (segments stream)

instance (segs : List (List CChar)) : Decidable (SegmentsFit segs) :=
  inferInstanceAs (Decidable (_ ∧ _))

instance (stream : List CChar) : Decidable (CommandsFit stream) :=
  inferInstanceAs (Decidable (SegmentsFit _))

-- the bytes that `rigctl_client` processes
def tcpReceived : List TcpRecv → List CChar
  | [] => []
  | .stopped :: _ => []
  | .closed :: _ => []
  | .bytes cmdInput :: recvs => cmdInput ++ tcpReceived recvs

-- the bytes that `serial_server` processes
def serialReceived : List SerialRead → List CChar
  | [] => []
  | .stopped :: _ => []
  | .timeout :: reads => serialReceived reads
  | .failed :: reads => serialReceived reads
  | .bytes cmdInput :: reads => cmdInput ++ serialReceived reads

section Segments

variable {p : CChar → Bool} {xs acc : List CChar} {segs : List (List CChar)} {seg : List CChar}

theorem segmentsFit_cons (h : segs ≠ [])
    : SegmentsFit (seg :: segs) ↔ seg.length + 2 ≤ maxDataSize ∧ SegmentsFit segs := by
  unfold SegmentsFit
  rw [List.dropLast_cons_of_ne_nil h]
  have hlast : (seg :: segs).getLastD [] = segs.getLastD [] := by
    cases segs with
    | nil => contradiction
    | cons s segs => rfl
  rw [hlast]
  simp [and_assoc]

-- the first segment is at least as long as what is already known of it
theorem length_le_of_segmentsFit (h : SegmentsFit (List.splitOnPPrepend p xs acc))
    : acc.length ≤ maxDataSize := by
  induction xs generalizing acc with
  | nil =>
    simp [SegmentsFit] at h
    exact h
  | cons x xs ih =>
    rw [List.splitOnPPrepend_cons_eq_if] at h
    split at h
    next =>
      rw [segmentsFit_cons (List.splitOnP_ne_nil p xs)] at h
      have := h.1
      rw [List.length_reverse] at this
      omega
    next =>
      have := ih h
      rw [List.length_cons] at this
      omega

end Segments

theorem CommandBuffer.store_eq_some (command : CommandBuffer) (c : CChar) {i : Nat}
    (h : i < maxDataSize)
    : ∃ command', command.store i c = some command' ∧
        command'.toList = command.toList.take i ++ c :: command.toList.drop (i + 1) := by
  unfold CommandBuffer.store
  rw [dif_pos h]
  refine ⟨_, rfl, ?_⟩
  rw [Vector.toList_set, List.set_eq_take_append_cons_drop]
  have : i < command.toList.length := by simpa using h
  rw [if_pos this]

theorem CommandBuffer.store_eq_none {command : CommandBuffer} {i : Nat} {c : CChar}
    (h : ¬ i < maxDataSize)
    : command.store i c = none := by
  unfold CommandBuffer.store
  rw [dif_neg h]

namespace Assembler

/--
The buffer holds the characters `cur` of the command that is being received.
-/
structure Holds (s : Assembler) (cur : List CChar) : Prop where
  index : s.commandIndex = cur.length
  contents : s.command.toList.take cur.length = cur
  fits : cur.length ≤ maxDataSize
  printable : ∀ c ∈ cur, 32 ≤ c

variable {fresh : Nat → CommandBuffer} {s s' : Assembler} {cur : List CChar}

theorem start_holds : (start fresh).Holds [] := by
  constructor
  . rfl
  . rfl
  . exact Nat.zero_le _
  . simp

theorem byteIn_filtered {c : CChar} (hc : c < 32) : s.byteIn fresh c = some s := by
  unfold byteIn
  rw [if_pos hc]

theorem byteIn_eq_none {c : CChar} (h : s.Holds cur) (hc : ¬ c < 32)
    (hfull : ¬ cur.length < maxDataSize)
    : s.byteIn fresh c = none := by
  unfold byteIn
  rw [if_neg hc, h.index, CommandBuffer.store_eq_none hfull]

theorem Holds.store {c : CChar} (h : s.Holds cur) (hlen : cur.length < maxDataSize)
    : ∃ command, s.command.store s.commandIndex c = some command ∧
        command.toList.take (cur ++ [c]).length = cur ++ [c] := by
  have ⟨command, hstore, hlist⟩ := CommandBuffer.store_eq_some s.command c hlen
  refine ⟨command, ?_, ?_⟩
  . rw [h.index]
    exact hstore
  . rw [hlist, h.contents, List.append_cons cur c (List.drop _ _)]
    apply List.take_left

theorem byteIn_character (fresh : Nat → CommandBuffer) {c : CChar} (h : s.Holds cur) (hc : ¬ c < 32) (hterm : c ≠ semicolon)
    (hlen : cur.length < maxDataSize)
    : ∃ s', s.byteIn fresh c = some s' ∧ s'.Holds (cur ++ [c]) ∧ s'.queued = s.queued := by
  have ⟨command, hstore, htake⟩ := h.store (c := c) hlen
  unfold byteIn
  rw [if_neg hc, hstore]
  simp only [if_neg hterm]
  refine ⟨_, rfl, ?_, rfl⟩
  constructor
  . simp [h.index]
  . exact htake
  . rw [List.length_append, List.length_singleton]
    omega
  . intro d hd
    rw [List.mem_append, List.mem_singleton] at hd
    cases hd with
    | inl hd => exact h.printable d hd
    | inr hd =>
      rw [hd]
      exact Int.not_lt.mp hc

theorem byteIn_terminator_eq_none (h : s.Holds cur) (hlen : ¬ cur.length + 2 ≤ maxDataSize)
    : s.byteIn fresh semicolon = none := by
  by_cases hfull : cur.length < maxDataSize
  . have ⟨command, hstore, _⟩ := h.store (c := semicolon) hfull
    unfold byteIn
    rw [if_neg (by decide), hstore]
    simp only [if_true]
    rw [h.index, CommandBuffer.store_eq_none (by omega)]
  . apply byteIn_eq_none h (by decide) hfull

-- none of the characters of a command ends the string
theorem text_of_toList {command : CommandBuffer} {rest : List CChar} (h : ∀ c ∈ cur, 32 ≤ c)
    (hlist : command.toList = cur ++ [semicolon] ++ 0 :: rest)
    : command.text = cur ++ [semicolon] := by
  unfold CommandBuffer.text
  rw [hlist, List.takeWhile_append_of_pos]
  . simp
  . intro c hc
    rw [List.mem_append, List.mem_singleton] at hc
    cases hc with
    | inl hc =>
      have hne : c ≠ 0 := by
        intro hzero
        have := h c hc
        rw [hzero] at this
        contradiction
      simpa using hne
    | inr hc => rw [hc]; decide

theorem byteIn_terminator (fresh : Nat → CommandBuffer) (h : s.Holds cur) (hlen : cur.length + 2 ≤ maxDataSize)
    : ∃ s' command, s.byteIn fresh semicolon = some s' ∧ s'.Holds [] ∧
        s'.queued = s.queued ++ [command] ∧ command.text = cur ++ [semicolon] := by
  have ⟨first, hfirst, htake⟩ := h.store (c := semicolon) (by omega)
  have hlen' : s.commandIndex + 1 < maxDataSize := by
    rw [h.index]
    omega
  have ⟨command, hstore, hlist⟩ := first.store_eq_some 0 hlen'
  unfold byteIn
  rw [if_neg (by decide), hfirst]
  simp only [if_true, hstore]
  refine ⟨_, command, rfl, ?_, rfl, ?_⟩
  . constructor
    . rfl
    . rfl
    . exact Nat.zero_le _
    . simp
  . apply text_of_toList h.printable
    rw [hlist, h.index]
    rw [List.length_append, List.length_singleton] at htake
    rw [htake]

theorem bytesIn_append (s : Assembler) (cs ds : List CChar)
    : s.bytesIn fresh (cs ++ ds) = (s.bytesIn fresh cs).bind (·.bytesIn fresh ds) := by
  induction cs generalizing s with
  | nil => rfl
  | cons c cs ih =>
    rw [List.cons_append, bytesIn, bytesIn]
    cases s.byteIn fresh c with
    | none => rfl
    | some s => exact ih s

/--
As long as the segments fit, the loop stays inside of its buffers and queues the commands. The
induction is on the stream, with the first segment split into what the buffer holds and the rest.
-/
theorem bytesIn_of_segmentsFit {stream : List CChar} (h : s.Holds cur)
    (hfit : SegmentsFit (List.splitOnPPrepend isTerminator (printable stream) cur.reverse))
    : ∃ s', s.bytesIn fresh stream = some s' ∧
        s'.queued.map CommandBuffer.text = s.queued.map CommandBuffer.text ++
          (List.splitOnPPrepend isTerminator (printable stream) cur.reverse).dropLast.map
            (· ++ [semicolon]) := by
  induction stream generalizing s cur with
  | nil => exact ⟨s, rfl, by simp [Rigctl.printable]⟩
  | cons c stream ih =>
    unfold bytesIn
    by_cases hc : c < 32
    . have hfilter : Rigctl.printable (c :: stream) = Rigctl.printable stream := by
        unfold Rigctl.printable
        rw [List.filter_cons_of_neg (by simpa using hc)]
      rw [hfilter] at hfit ⊢
      rw [byteIn_filtered hc]
      apply ih h hfit
    . have hfilter : Rigctl.printable (c :: stream) = c :: Rigctl.printable stream := by
        unfold Rigctl.printable
        rw [List.filter_cons_of_pos (by simpa using hc)]
      rw [hfilter, List.splitOnPPrepend_cons_eq_if] at hfit ⊢
      by_cases hterm : c = semicolon
      . subst hterm
        rw [if_pos (by decide)] at hfit ⊢
        rw [segmentsFit_cons (List.splitOnP_ne_nil _ _), List.reverse_reverse] at hfit
        have ⟨s', command, hbyte, hholds, hqueued, htext⟩ :=
          byteIn_terminator fresh h hfit.1
        have ⟨s'', hbytes, htexts⟩ := ih hholds hfit.2
        refine ⟨s'', by rw [hbyte]; exact hbytes, ?_⟩
        rw [htexts, hqueued, List.dropLast_cons_of_ne_nil (List.splitOnP_ne_nil _ _)]
        simp [htext]
      . rw [if_neg (by simpa [isTerminator] using hterm)] at hfit ⊢
        have hlen := length_le_of_segmentsFit hfit
        rw [List.length_cons, List.length_reverse] at hlen
        have ⟨s', hbyte, hholds, hqueued⟩ :=
          byteIn_character fresh h hc hterm (by omega)
        have hcur : c :: cur.reverse = (cur ++ [c]).reverse := by simp
        rw [hcur] at hfit ⊢
        rw [hbyte, ← hqueued]
        apply ih hholds hfit

-- where a segment does not fit, the loop writes outside of the buffer
theorem bytesIn_eq_none {stream : List CChar} (h : s.Holds cur)
    (hfit : ¬ SegmentsFit (List.splitOnPPrepend isTerminator (printable stream) cur.reverse))
    : s.bytesIn fresh stream = none := by
  induction stream generalizing s cur with
  | nil =>
    exfalso
    apply hfit
    simp [SegmentsFit, Rigctl.printable]
    exact h.fits
  | cons c stream ih =>
    unfold bytesIn
    by_cases hc : c < 32
    . have hfilter : Rigctl.printable (c :: stream) = Rigctl.printable stream := by
        unfold Rigctl.printable
        rw [List.filter_cons_of_neg (by simpa using hc)]
      rw [hfilter] at hfit
      rw [byteIn_filtered hc]
      apply ih h hfit
    . have hfilter : Rigctl.printable (c :: stream) = c :: Rigctl.printable stream := by
        unfold Rigctl.printable
        rw [List.filter_cons_of_pos (by simpa using hc)]
      rw [hfilter, List.splitOnPPrepend_cons_eq_if] at hfit
      by_cases hterm : c = semicolon
      . subst hterm
        rw [if_pos (by decide), segmentsFit_cons (List.splitOnP_ne_nil _ _), List.reverse_reverse]
          at hfit
        by_cases hlen : cur.length + 2 ≤ maxDataSize
        . have ⟨s', command, hbyte, hholds, _, _⟩ := byteIn_terminator fresh h hlen
          rw [hbyte]
          exact ih hholds (fun hrest => hfit ⟨hlen, hrest⟩)
        . rw [byteIn_terminator_eq_none h hlen]
      . rw [if_neg (by simpa [isTerminator] using hterm)] at hfit
        by_cases hlen : cur.length < maxDataSize
        . have ⟨s', hbyte, hholds, _⟩ := byteIn_character fresh h hc hterm hlen
          have hcur : c :: cur.reverse = (cur ++ [c]).reverse := by simp
          rw [hcur] at hfit
          rw [hbyte]
          apply ih hholds hfit
        . rw [byteIn_eq_none h hc hlen]

theorem bytesIn_iff (stream : List CChar)
    : (∃ s, (start fresh).bytesIn fresh stream = some s ∧
        s.queued.map CommandBuffer.text = commands stream) ↔ CommandsFit stream := by
  constructor
  . intro ⟨s, hs, _⟩
    by_cases hfit : CommandsFit stream
    . exact hfit
    . rw [bytesIn_eq_none start_holds hfit] at hs
      contradiction
  . intro hfit
    apply bytesIn_of_segmentsFit start_holds hfit

end Assembler

-- how the bytes are cut into pieces makes no difference
theorem rigctlClient_eq (fresh : Nat → CommandBuffer) (s : Assembler) (recvs : List TcpRecv)
    : rigctlClient fresh s recvs = s.bytesIn fresh (tcpReceived recvs) := by
  induction recvs generalizing s with
  | nil => rfl
  | cons recv recvs ih =>
    cases recv with
    | stopped => rfl
    | closed => rfl
    | bytes cmdInput =>
      unfold rigctlClient tcpReceived
      rw [Assembler.bytesIn_append]
      cases s.bytesIn fresh cmdInput with
      | none => rfl
      | some s => exact ih s

theorem serialServer_eq (fresh : Nat → CommandBuffer) (s : Assembler) (reads : List SerialRead)
    : serialServer fresh s reads = s.bytesIn fresh (serialReceived reads) := by
  induction reads generalizing s with
  | nil => rfl
  | cons read reads ih =>
    cases read with
    | stopped => rfl
    | timeout => exact ih s
    | failed => exact ih s
    | bytes cmdInput =>
      unfold serialServer serialReceived
      rw [Assembler.bytesIn_append]
      cases s.bytesIn fresh cmdInput with
      | none => rfl
      | some s => exact ih s

/--
Both loops stay inside of the buffer and queue exactly the commands of the stream, each as its own
text, if and only if the commands fit into the buffer.
-/
theorem framing_iff_commandsFit (fresh : Nat → CommandBuffer)
    : (∀ recvs,
        (∃ s, rigctlClient fresh (Assembler.start fresh) recvs = some s ∧
          s.queued.map CommandBuffer.text = commands (tcpReceived recvs))
        ↔ CommandsFit (tcpReceived recvs)) ∧
      (∀ reads,
        (∃ s, serialServer fresh (Assembler.start fresh) reads = some s ∧
          s.queued.map CommandBuffer.text = commands (serialReceived reads))
        ↔ CommandsFit (serialReceived reads)) := by
  constructor
  . intro recvs
    rw [rigctlClient_eq]
    apply Assembler.bytesIn_iff
  . intro reads
    rw [serialServer_eq]
    apply Assembler.bytesIn_iff

theorem not_commandsFit_replicate {n : Nat} {c : CChar} (hc : 32 ≤ c) (hterm : c ≠ semicolon)
    (hn : maxDataSize < n)
    : ¬ CommandsFit (List.replicate n c) := by
  have hsegs : segments (List.replicate n c) = [List.replicate n c] := by
    unfold segments printable
    rw [List.filter_replicate_of_pos (by simpa using hc), List.splitOnP_eq_singleton]
    intro d hd
    rw [List.eq_of_mem_replicate hd]
    simpa [isTerminator] using hterm
  intro h
  unfold CommandsFit at h
  rw [hsegs] at h
  have := h.2
  simp at this
  omega

/--
A peer that sends `A` 2001 times, in two pieces and without a `;`: both loops write behind the
buffer.
-/
theorem framing_of_unterminated
    : ¬ (∃ s, rigctlClient (fun _ => Vector.replicate maxDataSize 0)
          (Assembler.start (fun _ => Vector.replicate maxDataSize 0))
          [.bytes (List.replicate 1998 65), .bytes (List.replicate 3 65)] = some s ∧
        s.queued.map CommandBuffer.text =
          commands (tcpReceived [.bytes (List.replicate 1998 65), .bytes (List.replicate 3 65)])) ∧
      ¬ (∃ s, serialServer (fun _ => Vector.replicate maxDataSize 0)
          (Assembler.start (fun _ => Vector.replicate maxDataSize 0))
          [.bytes (List.replicate 1998 65), .bytes (List.replicate 3 65)] = some s ∧
        s.queued.map CommandBuffer.text =
          commands
            (serialReceived [.bytes (List.replicate 1998 65), .bytes (List.replicate 3 65)])) := by
  have hfit : ¬ CommandsFit (List.replicate 1998 65 ++ (List.replicate 3 65 ++ [])) := by
    rw [List.append_nil, List.replicate_append_replicate]
    apply not_commandsFit_replicate (by decide) (by decide) (by decide)
  constructor
  . rw [rigctlClient_eq, Assembler.bytesIn_iff]
    exact hfit
  . rw [serialServer_eq, Assembler.bytesIn_iff]
    exact hfit

end Rigctl
