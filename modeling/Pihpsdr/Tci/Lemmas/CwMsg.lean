import Mathlib.Logic.Function.Iterate
import Pihpsdr.Lib.Run
import Pihpsdr.Tci.Lemmas.CwText

/-!
A message of `cw_msg`: what is due of it, what a call of `tci_cw_msg_queue_next` queues, and that the
rest of it is left behind, as nothing makes this call again.
-/

namespace Tci

/-- There is neither a prefix nor a callsign nor a suffix. -/
def SendsNothing (pre call suf : List Char) : Prop :=
  isBlank (tciCwDecodeText pre) = true ∧ (extractCallsign (tciCwDecodeText call)).1 = []
    ∧ isBlank (tciCwDecodeText suf) = true

instance (pre call suf : List Char) : Decidable (SendsNothing pre call suf) :=
  inferInstanceAs (Decidable (_ ∧ _ ∧ _))

theorem appendPart_nil (part : List Char)
    : appendPart [] part = if isBlank part then [] else part := by
  unfold appendPart
  simp

theorem length_appendPart_pos_iff (part : List Char)
    : 0 < (appendPart [] part).length ↔ isBlank part = false := by
  rw [appendPart_nil]
  cases part with
  | nil => simp [isBlank]
  | cons c part => split <;> simp_all

theorem strlcpy_eq_nil_iff (src : List Char) : strlcpy src = [] ↔ src = [] := by
  unfold strlcpy
  rw [List.take_eq_nil_iff]
  simp [maxMsgSize]

theorem ne_nil_of_not_blank {part : List Char} (h : isBlank part = false) : part ≠ [] := by
  rintro rfl
  contradiction

namespace CwMsg

-- the repetitions from the present character of the callsign on
def callText (m : CwMsg) : List Char :=
  if m.activeCallsign.length > 0 ∧ m.callRepeatIndex < m.callRepeat then
    m.activeCallsign.drop m.callPos
      ++ (List.replicate (m.callRepeat - m.callRepeatIndex - 1).toNat
          (' ' :: m.activeCallsign)).flatten
  else
    []

def suffixText (m : CwMsg) : List Char :=
  if m.suffixPending ∧ m.activeSuffix ≠ [] then strlcpy (' ' :: m.activeSuffix) else []

/-- The part of the message that is not yet queued. -/
def remaining (m : CwMsg) : List Char :=
  if m.active then m.callText ++ m.suffixText else []

-- A call of `tci_cw_msg_queue_next` queues a character at least, the last one ends the message.
def calls (m : CwMsg) : Nat :=
  if m.active then m.remaining.length + 1 else 0

theorem remaining_of_active {m : CwMsg} (h : m.active) : m.remaining = m.callText ++ m.suffixText :=
  if_pos h

theorem remaining_of_not_active {m : CwMsg} (h : m.active = false) : m.remaining = [] := by
  unfold remaining
  rw [h]
  exact if_neg Bool.false_ne_true

variable {m : CwMsg}

theorem callText_of_char (hcall : m.activeCallsign.length > 0 ∧ m.callRepeatIndex < m.callRepeat)
    (hpos : m.callPos < m.activeCallsign.length)
    : m.callText
        = m.activeCallsign.getD m.callPos ' ' :: { m with callPos := m.callPos + 1 }.callText := by
  unfold callText
  dsimp only
  rw [if_pos hcall, if_pos hcall, List.drop_eq_getElem_cons hpos, List.getD_eq_getElem?_getD,
    List.getElem?_eq_getElem hpos]
  rfl

theorem callText_of_blank (hcall : m.activeCallsign.length > 0)
    (hrepeat : m.callRepeatIndex + 1 < m.callRepeat) (hpos : m.activeCallsign.length ≤ m.callPos)
    : m.callText
        = ' ' :: { m with
            callRepeatIndex := m.callRepeatIndex + 1
            callPos := 0 }.callText := by
  have hleft : (m.callRepeat - m.callRepeatIndex - 1).toNat
      = (m.callRepeat - (m.callRepeatIndex + 1) - 1).toNat + 1 := by
    omega
  unfold callText
  dsimp only
  rw [if_pos ⟨hcall, by omega⟩, if_pos ⟨hcall, hrepeat⟩, List.drop_eq_nil_of_le hpos, hleft,
    List.replicate_succ]
  rfl

theorem callText_of_end (hrepeat : m.callRepeat ≤ m.callRepeatIndex + 1)
    (hpos : m.activeCallsign.length ≤ m.callPos)
    : m.callText = [] := by
  have hleft : (m.callRepeat - m.callRepeatIndex - 1).toNat = 0 := by omega
  unfold callText
  rw [List.drop_eq_nil_of_le hpos, hleft, List.replicate_zero, List.flatten_nil, List.append_nil,
    ite_self]

end CwMsg

namespace CwSender

variable (signed : Bool)

theorem active_correctCallsign (s : CwSender) (arg : List Char)
    : (s.correctCallsign arg).msg.active = s.msg.active := by
  unfold correctCallsign
  split
  . rfl
  . dsimp only
    split <;> rfl

theorem active_step (s : CwSender) (e : CwMsgEvent)
    : (s.step signed e).msg.active = s.msg.active := by
  cases e with
  | tick => rfl
  | correction arg => exact active_correctCallsign s arg

theorem active_exec (s : CwSender) (es : List CwMsgEvent)
    : (Run.exec (step signed) s es).msg.active = s.msg.active := by
  induction es generalizing s with
  | nil => rfl
  | cons e es ih => rw [Run.exec_cons, ih, active_step]

theorem queued_take (b : CwBuffer) : b.take.queued = b.queued := by
  unfold CwBuffer.take
  split <;> rfl

-- While no message is sent, corrections are ignored.
theorem queued_step {s : CwSender} (h : s.msg.active = false) (e : CwMsgEvent)
    : (s.step signed e).ring.queued = s.ring.queued := by
  cases e with
  | tick => exact queued_take s.ring
  | correction arg =>
    have hignored : s.correctCallsign arg = s := by
      unfold correctCallsign
      rw [if_pos]
      exact .inl (by rw [h]; decide)
    exact congrArg (fun s : CwSender => s.ring.queued) hignored

theorem queued_exec {s : CwSender} (h : s.msg.active = false) (es : List CwMsgEvent)
    : (Run.exec (step signed) s es).ring.queued = s.ring.queued := by
  induction es generalizing s with
  | nil => rfl
  | cons e es ih =>
    rw [Run.exec_cons, ih (by rw [active_step, h]), queued_step signed h]

theorem one_le_times (src : List Char) : 1 ≤ (extractCallsign src).2 := by
  unfold extractCallsign
  dsimp only
  split
  . split <;> omega
  . exact Int.le_refl 1

theorem active_prepareMsg (s : CwSender) (call suf : List Char)
    : ¬ ¬ (s.prepareMsg call suf).msg.active :=
  not_not.mpr rfl

theorem queueNext_of_callsign {s : CwSender} {call suf : List Char}
    (h : (extractCallsign (tciCwDecodeText call)).1 ≠ [])
    : ((s.prepareMsg call suf).queueNext signed).msg.active = true := by
  have hlen : 0 < (s.prepareMsg call suf).msg.activeCallsign.length := by
    rw [List.length_pos_iff]
    exact mt (strlcpy_eq_nil_iff _).mp h
  have htimes : (s.prepareMsg call suf).msg.callRepeatIndex
      < (s.prepareMsg call suf).msg.callRepeat :=
    one_le_times (tciCwDecodeText call)
  have hpos : (s.prepareMsg call suf).msg.callPos
      < (s.prepareMsg call suf).msg.activeCallsign.length :=
    hlen
  unfold queueNext
  rw [if_neg (active_prepareMsg s call suf), if_pos ⟨hlen, htimes⟩, if_pos hpos]
  rfl

theorem queueNext_of_no_callsign {s : CwSender} {call suf : List Char}
    (h : (extractCallsign (tciCwDecodeText call)).1 = [])
    : (s.prepareMsg call suf).queueNext signed = (s.prepareMsg call suf).queueSuffix signed := by
  have hcall : (s.prepareMsg call suf).msg.activeCallsign = [] := (strlcpy_eq_nil_iff _).mpr h
  unfold queueNext
  rw [if_neg (active_prepareMsg s call suf), if_neg]
  rw [hcall]
  simp

theorem queueSuffix_prepareMsg {s : CwSender} {call suf : List Char}
    (h : (extractCallsign (tciCwDecodeText call)).1 = [])
    : (s.prepareMsg call suf).queueSuffix signed
        = if isBlank (tciCwDecodeText suf) then
            { s with msg := .reset }
          else
            { s.prepareMsg call suf with
              msg := { (s.prepareMsg call suf).msg with suffixPending := false } }.queueString
                signed (strlcpy (' ' :: strlcpy (tciCwDecodeText suf))) := by
  have hpending : ¬ (s.prepareMsg call suf).msg.pendingCallsign ≠ [] :=
    not_not.mpr ((strlcpy_eq_nil_iff _).mpr h)
  unfold queueSuffix
  dsimp only
  rw [if_neg hpending]
  cases hsuf : isBlank (tciCwDecodeText suf) with
  | false =>
    have hne : strlcpy (tciCwDecodeText suf) ≠ [] :=
      mt (strlcpy_eq_nil_iff _).mp (ne_nil_of_not_blank hsuf)
    simp [prepareMsg, hsuf, hne]
  | true => simp [prepareMsg, hsuf]

-- The first call of `tci_cw_msg_queue_next` ends the message only if there is nothing to send.
theorem active_startMsg (s : CwSender) (pre call suf : List Char)
    : (s.startMsg signed pre call suf).msg.active = true ↔ ¬ SendsNothing pre call suf := by
  unfold startMsg SendsNothing
  dsimp only
  cases hpre : isBlank (tciCwDecodeText pre) with
  | false =>
    rw [if_pos ((length_appendPart_pos_iff _).mpr hpre)]
    exact iff_of_true rfl (by simp)
  | true =>
    rw [if_neg (by rw [gt_iff_lt, length_appendPart_pos_iff, hpre]; decide)]
    by_cases hcall : (extractCallsign (tciCwDecodeText call)).1 = []
    . cases hsuf : isBlank (tciCwDecodeText suf) with
      | false =>
        rw [queueNext_of_no_callsign signed hcall, queueSuffix_prepareMsg signed hcall, hsuf]
        exact iff_of_true rfl (by simp)
      | true =>
        rw [queueNext_of_no_callsign signed hcall, queueSuffix_prepareMsg signed hcall, hsuf]
        exact iff_of_false Bool.false_ne_true (by simp [hcall])
    . exact iff_of_true (queueNext_of_callsign signed hcall) (by simp [hcall])

theorem startMsg_of_sendsNothing (s : CwSender) {pre call suf : List Char}
    (h : SendsNothing pre call suf)
    : (s.startMsg signed pre call suf).ring = s.ring := by
  have hpre : ¬ 0 < (appendPart [] (tciCwDecodeText pre)).length := by
    rw [length_appendPart_pos_iff, h.1]
    decide
  unfold startMsg
  dsimp only
  rw [if_neg hpre, queueNext_of_no_callsign signed h.2.1, queueSuffix_prepareMsg signed h.2.1,
    if_pos h.2.2]

/-- From `s` to `s'` this text is queued, which was due; with nothing to queue the message ends. -/
def Sends (s s' : CwSender) (text : List Char) : Prop :=
  s'.ring = s.ring.rigctlQueueCwString signed (fun _ => 0) text
    ∧ s.msg.remaining = text ++ s'.msg.remaining
    ∧ (text = [] → s'.msg.active = false)

theorem queueSuffix_of_pending {s : CwSender}
    (h : s.msg.suffixPending ∧ s.msg.activeSuffix ≠ [])
    : (s.queueSuffix signed).ring
          = s.ring.rigctlQueueCwString signed (fun _ => 0) (strlcpy (' ' :: s.msg.activeSuffix))
        ∧ (s.queueSuffix signed).msg
          = { s.msg with pendingCallsign := [], suffixPending := false } := by
  unfold queueSuffix
  by_cases hpending : s.msg.pendingCallsign = []
  . simp only [hpending, ne_eq, not_true_eq_false, if_false]
    rw [if_pos h]
    exact ⟨rfl, by rw [← hpending]; rfl⟩
  . simp only [hpending, ne_eq, not_false_eq_true, if_true]
    rw [if_pos h]
    exact ⟨rfl, rfl⟩

theorem queueSuffix_of_not_pending {s : CwSender}
    (h : ¬ (s.msg.suffixPending ∧ s.msg.activeSuffix ≠ []))
    : (s.queueSuffix signed).ring = s.ring ∧ (s.queueSuffix signed).msg = .reset := by
  unfold queueSuffix
  by_cases hpending : s.msg.pendingCallsign = []
  . simp only [hpending, ne_eq, not_true_eq_false, if_false]
    rw [if_neg h]
    exact ⟨rfl, rfl⟩
  . simp only [hpending, ne_eq, not_false_eq_true, if_true]
    rw [if_neg h]
    exact ⟨rfl, rfl⟩

theorem sends_queueSuffix {s : CwSender} (hactive : s.msg.active) (hcall : s.msg.callText = [])
    : ∃ text, Sends signed s (s.queueSuffix signed) text := by
  refine ⟨s.msg.suffixText, ?_⟩
  unfold Sends CwMsg.remaining
  rw [if_pos hactive, hcall, List.nil_append]
  by_cases h : s.msg.suffixPending ∧ s.msg.activeSuffix ≠ []
  . have ⟨hring, hmsg⟩ := queueSuffix_of_pending signed h
    have hcall' : (s.queueSuffix signed).msg.callText = [] := by
      rw [hmsg]
      exact hcall
    have hsuffix' : (s.queueSuffix signed).msg.suffixText = [] := by
      rw [hmsg]
      exact if_neg fun h => Bool.false_ne_true h.1
    have hsuffix : s.msg.suffixText = strlcpy (' ' :: s.msg.activeSuffix) := if_pos h
    rw [hring, hsuffix, hcall', hsuffix', List.append_nil, ite_self, List.append_nil]
    refine ⟨rfl, rfl, fun hnil => ?_⟩
    rw [strlcpy_eq_nil_iff] at hnil
    contradiction
  . have ⟨hring, hmsg⟩ := queueSuffix_of_not_pending signed h
    have hsuffix : s.msg.suffixText = [] := if_neg h
    rw [hring, hmsg, hsuffix]
    exact ⟨rfl, rfl, fun _ => rfl⟩

theorem sends_queueChar {s : CwSender} {m : CwMsg} {c : Char} (hactive : s.msg.active)
    (hactive' : m.active) (hcall : s.msg.callText = c :: m.callText)
    (hsuffix : m.suffixText = s.msg.suffixText)
    : Sends signed s ({ s with msg := m }.queueChar signed c) [c] := by
  refine ⟨rfl, ?_, fun h => nomatch h⟩
  calc s.msg.remaining
    _ = s.msg.callText ++ s.msg.suffixText := CwMsg.remaining_of_active hactive
    _ = [c] ++ (m.callText ++ m.suffixText) := by rw [hcall, hsuffix]; rfl
    _ = [c] ++ m.remaining := by rw [CwMsg.remaining_of_active hactive']

theorem sends_queueNext {s : CwSender} (hactive : s.msg.active)
    : ∃ text, Sends signed s (s.queueNext signed) text := by
  unfold queueNext
  rw [if_neg (not_not.mpr hactive)]
  split
  next hcall =>
    split
    next hpos =>
      exact ⟨_, sends_queueChar signed hactive hactive (CwMsg.callText_of_char hcall hpos) rfl⟩
    next hpos =>
      rw [not_lt] at hpos
      split
      next hrepeat =>
        exact ⟨_, sends_queueChar signed hactive hactive
          (CwMsg.callText_of_blank hcall.1 hrepeat hpos) rfl⟩
      next hrepeat =>
        -- the last repetition is complete
        rw [not_lt] at hrepeat
        have hcallText : s.msg.callText = [] := CwMsg.callText_of_end hrepeat hpos
        have hcallText' :
            { s.msg with callRepeatIndex := s.msg.callRepeatIndex + 1 }.callText = [] :=
          CwMsg.callText_of_end (by dsimp only; omega) hpos
        have hsame : s.msg.remaining
            = { s.msg with callRepeatIndex := s.msg.callRepeatIndex + 1 }.remaining := by
          unfold CwMsg.remaining
          rw [hcallText, hcallText']
          rfl
        obtain ⟨text, hring, hremaining, hnil⟩ := @sends_queueSuffix signed
          { s with msg := { s.msg with callRepeatIndex := s.msg.callRepeatIndex + 1 } }
          hactive hcallText'
        exact ⟨text, hring, hsame.trans hremaining, hnil⟩
  next hcall => exact sends_queueSuffix signed hactive (if_neg hcall)

theorem queueNext_of_not_active {s : CwSender} (h : s.msg.active = false)
    : s.queueNext signed = s := by
  unfold queueNext
  rw [if_pos]
  rw [h]
  exact Bool.false_ne_true

theorem calls_queueNext (s : CwSender) : (s.queueNext signed).msg.calls ≤ s.msg.calls - 1 := by
  unfold CwMsg.calls
  cases hactive : s.msg.active with
  | false =>
    rw [queueNext_of_not_active signed hactive, hactive]
    exact Nat.zero_le _
  | true =>
    obtain ⟨text, _, hremaining, hnil⟩ := sends_queueNext signed hactive
    rw [hremaining, List.length_append]
    cases text with
    | nil =>
      rw [hnil rfl]
      exact Nat.zero_le _
    | cons c text =>
      rw [List.length_cons]
      split <;> simp

-- by induction on the calls: each of them queues what is due first
theorem iterate_queueNext (s : CwSender) {n : Nat} (h : s.msg.calls ≤ n)
    : ((queueNext signed)^[n] s).msg.active = false
      ∧ ((queueNext signed)^[n] s).ring
        = s.ring.rigctlQueueCwString signed (fun _ => 0) s.msg.remaining := by
  induction n generalizing s with
  | zero =>
    have hactive : s.msg.active = false := by
      unfold CwMsg.calls at h
      split at h
      . contradiction
      next hactive => exact Bool.eq_false_iff.mpr hactive
    rw [CwMsg.remaining_of_not_active hactive]
    exact ⟨hactive, rfl⟩
  | succ n ih =>
    have hcalls := calls_queueNext signed s
    obtain ⟨hidle, hring⟩ := ih (s.queueNext signed) (by omega)
    refine ⟨hidle, hring.trans ?_⟩
    cases hactive : s.msg.active with
    | false => rw [queueNext_of_not_active signed hactive]
    | true =>
      obtain ⟨text, hqueued, hremaining, _⟩ := sends_queueNext signed hactive
      rw [hqueued, hremaining, CwBuffer.rigctlQueueCwString_append]

theorem flatten_replicate_blank (call : List Char) (n : Nat)
    : call ++ (List.replicate n (' ' :: call)).flatten
        = [' '].intercalate (List.replicate (n + 1) call) := by
  induction n with
  | zero => simp [List.intercalate]
  | succ n ih =>
    rw [List.replicate_succ, List.flatten_cons, List.cons_append, ih]
    rfl

theorem remaining_prepareMsg {s : CwSender} {call suf : List Char}
    (h : (extractCallsign (tciCwDecodeText call)).1 ≠ [])
    : (s.prepareMsg call suf).msg.remaining
        = [' '].intercalate
            (List.replicate (extractCallsign (tciCwDecodeText call)).2.toNat
              (strlcpy (extractCallsign (tciCwDecodeText call)).1))
          ++ (s.prepareMsg call suf).msg.suffixText := by
  have hlen : (strlcpy (extractCallsign (tciCwDecodeText call)).1).length > 0 := by
    rw [gt_iff_lt, List.length_pos_iff]
    exact mt (strlcpy_eq_nil_iff _).mp h
  have htimes := one_le_times (tciCwDecodeText call)
  have hleft : ((extractCallsign (tciCwDecodeText call)).2 - 0 - 1).toNat + 1
      = (extractCallsign (tciCwDecodeText call)).2.toNat := by
    omega
  rw [CwMsg.remaining_of_active rfl, ← hleft, ← flatten_replicate_blank]
  congr 1
  exact if_pos ⟨hlen, htimes⟩

-- If it were called once for each character, `tci_cw_msg_queue_next` would send the message.
theorem iterate_queueNext_prepareMsg {s : CwSender} {call suf : List Char}
    (h : (extractCallsign (tciCwDecodeText call)).1 ≠ []) {n : Nat}
    (hn : (s.prepareMsg call suf).msg.calls ≤ n)
    : ((queueNext signed)^[n] (s.prepareMsg call suf)).msg.active = false
      ∧ ((queueNext signed)^[n] (s.prepareMsg call suf)).ring
        = s.ring.rigctlQueueCwString signed (fun _ => 0)
          ([' '].intercalate
              (List.replicate (extractCallsign (tciCwDecodeText call)).2.toNat
                (strlcpy (extractCallsign (tciCwDecodeText call)).1))
            ++ (s.prepareMsg call suf).msg.suffixText) := by
  rw [← remaining_prepareMsg h]
  exact iterate_queueNext signed (s.prepareMsg call suf) hn

end CwSender

-- the callsign for a repetition that starts after these events
def correctedCallsign (callsign : List Char) (es : List CwMsgEvent) : List Char :=
  es.foldl
    (fun call e =>
      match e with
      | .tick => call
      | .correction arg =>
        let corrected := (extractCallsign (tciCwDecodeText arg)).1
        if isBlank corrected then call else corrected)
    callsign

/-- The text of a message, with the callsigns that are sent in its repetitions. -/
def cwMsgText (pre suf : List Char) (callsigns : List (List Char)) : List Char :=
  (if isBlank (tciCwDecodeText pre) then [] else tciCwDecodeText pre ++ [' '])
    ++ [' '].intercalate callsigns
    ++ (if isBlank (tciCwDecodeText suf) then [] else ' ' :: tciCwDecodeText suf)

/--
After these events the whole message was queued, where each repetition has the callsign as it was
corrected before its start, and the sender is idle again.
-/
def Sequenced (signed : Bool) (s : CwSender) (rx pre call suf : List Char)
    (es : List CwMsgEvent) : Prop :=
  let s' := Run.exec (CwSender.step signed) (s.tciCmdCwMsg signed [rx, pre, call, suf]) es
  let callsign := (extractCallsign (tciCwDecodeText call)).1
  let repetitions :=
    if callsign = [] then 0 else (extractCallsign (tciCwDecodeText call)).2.toNat
  s'.msg.active = false
    ∧ ∃ starts : List Nat, starts.length = repetitions ∧ starts.Pairwise (· ≤ ·)
      ∧ s'.ring.queued = s.ring.queued
        ++ cwMsgText pre suf (starts.map fun k => correctedCallsign callsign (es.take k))

-- Nothing makes the sender go on, however many characters the CW thread takes.
theorem sequenced_iff (signed : Bool) (s : CwSender) (rx pre call suf : List Char)
    (es : List CwMsgEvent)
    : (∃ k, Sequenced signed s rx pre call suf (es ++ List.replicate k .tick))
      ↔ SendsNothing pre call suf := by
  constructor
  . rintro ⟨k, hidle, _⟩
    rw [CwSender.active_exec, CwSender.tciCmdCwMsg] at hidle
    by_contra h
    rw [(CwSender.active_startMsg signed s pre call suf).mpr h] at hidle
    contradiction
  . intro h
    have hidle : (s.startMsg signed pre call suf).msg.active = false := by
      rw [Bool.eq_false_iff, Ne, CwSender.active_startMsg]
      exact not_not.mpr h
    refine ⟨0, ?_, [], ?_, List.Pairwise.nil, ?_⟩
    . rw [CwSender.active_exec, CwSender.tciCmdCwMsg, hidle]
    . rw [if_pos h.2.1]
      rfl
    . rw [CwSender.tciCmdCwMsg, CwSender.queued_exec signed hidle,
        CwSender.startMsg_of_sendsNothing signed s h]
      simp [cwMsgText, h.1, h.2.2, List.intercalate]

-- `cw_msg:0,CQ,DL1ABC,K;` ends after the prefix.
theorem not_sequenced
    : ¬ ∃ k, Sequenced true ⟨.reset, .start, []⟩ ['0'] ['C', 'Q'] "DL1ABC".toList ['K']
        (List.replicate k .tick) := by
  rintro ⟨k, hidle, _⟩
  rw [CwSender.active_exec] at hidle
  revert hidle
  decide

end Tci
