import Mathlib.Data.List.Count
import Mathlib.Data.List.TakeWhile
import Pihpsdr.Tci.Impl.CwText

/-!
What becomes of the text of `cw_macros`: the part of it that reaches the decoder, and the characters
that reach the ring.
-/

namespace Tci

theorem intercalate_comma_cons {arg : List Char} {args : List (List Char)} (h : args ≠ [])
    : [','].intercalate (arg :: args) = arg ++ ',' :: [','].intercalate args := by
  cases args with
  | nil => contradiction
  | cons a args => simp [List.intercalate, List.intersperse]

theorem splitArgs_ne_nil (n : Nat) (p : List Char) : splitArgs (n + 1) p ≠ [] := by
  unfold splitArgs
  exact List.cons_ne_nil _ _

theorem count_takeWhile_comma (p : List Char) : (p.takeWhile (· ≠ ',')).count ',' = 0 := by
  rw [List.count_eq_zero]
  intro h
  have := List.mem_takeWhile_imp h
  simp at this

-- a text up to its first comma and what follows
theorem split_comma {p rest : List Char} {c : Char} (h : p.dropWhile (· ≠ ',') = c :: rest)
    : p = p.takeWhile (· ≠ ',') ++ ',' :: rest := by
  have hc := List.head?_dropWhile_not (· ≠ ',') p
  rw [h] at hc
  have hcomma : c = ',' := by simpa using hc
  have happend := List.takeWhile_append_dropWhile (p := (· ≠ ',')) (l := p)
  rw [h, hcomma] at happend
  exact happend.symm

theorem count_of_comma {p rest : List Char} {c : Char} (h : p.dropWhile (· ≠ ',') = c :: rest)
    : p.count ',' = rest.count ',' + 1 := by
  rw [split_comma h, List.count_append, count_takeWhile_comma, List.count_cons_self, Nat.zero_add]

theorem takeWhile_of_no_comma {p : List Char} (h : p.dropWhile (· ≠ ',') = [])
    : p.takeWhile (· ≠ ',') = p := by
  have happend := List.takeWhile_append_dropWhile (p := (· ≠ ',')) (l := p)
  rw [h, List.append_nil] at happend
  exact happend

theorem intercalate_splitArgs_cons (n : Nat) {p rest : List Char} {c : Char}
    (h : p.dropWhile (· ≠ ',') = c :: rest)
    : [','].intercalate (splitArgs (n + 2) p)
        = p.takeWhile (· ≠ ',') ++ ',' :: [','].intercalate (splitArgs (n + 1) rest) := by
  rw [splitArgs, h, intercalate_comma_cons (splitArgs_ne_nil n rest)]

theorem intercalate_splitArgs_nil (n : Nat) {p : List Char} (h : p.dropWhile (· ≠ ',') = [])
    : [','].intercalate (splitArgs (n + 1) p) = p := by
  rw [splitArgs, h, takeWhile_of_no_comma h]
  simp [List.intercalate]

-- Up to the last argument, taking the text apart at the commas and joining it again loses nothing.
theorem intercalate_splitArgs {n : Nat} {t : List Char} (h : t.count ',' ≤ n)
    : [','].intercalate (splitArgs (n + 1) t) = t := by
  induction n generalizing t with
  | zero =>
    cases hdrop : t.dropWhile (· ≠ ',') with
    | nil => apply intercalate_splitArgs_nil 0 hdrop
    | cons c rest =>
      rw [count_of_comma hdrop] at h
      contradiction
  | succ n ih =>
    cases hdrop : t.dropWhile (· ≠ ',') with
    | nil => apply intercalate_splitArgs_nil (n + 1) hdrop
    | cons c rest =>
      rw [count_of_comma hdrop] at h
      rw [intercalate_splitArgs_cons n hdrop, ih (by omega)]
      exact (split_comma hdrop).symm

theorem intercalate_splitArgs_of_lt {n : Nat} {t : List Char} (h : n < t.count ',')
    : ∃ rest, t = [','].intercalate (splitArgs (n + 1) t) ++ ',' :: rest := by
  induction n generalizing t with
  | zero =>
    cases hdrop : t.dropWhile (· ≠ ',') with
    | nil =>
      rw [← takeWhile_of_no_comma hdrop, count_takeWhile_comma] at h
      contradiction
    | cons c rest =>
      refine ⟨rest, ?_⟩
      rw [splitArgs, hdrop]
      simpa [splitArgs, List.intercalate] using split_comma hdrop
  | succ n ih =>
    cases hdrop : t.dropWhile (· ≠ ',') with
    | nil =>
      rw [← takeWhile_of_no_comma hdrop, count_takeWhile_comma] at h
      contradiction
    | cons c rest =>
      rw [count_of_comma hdrop] at h
      have ⟨tail, htail⟩ := ih (t := rest) (by omega)
      refine ⟨tail, ?_⟩
      rw [intercalate_splitArgs_cons n hdrop, List.append_assoc, List.cons_append, ← htail]
      exact split_comma hdrop

-- the characters that are decoded to a comma
def isComma (c : Char) : Bool :=
  c = ',' ∨ c = '~'

theorem count_plainChar (c : Char) (cs : List Char)
    : (plainChar c :: cs).count ',' = cs.count ',' + if isComma c then 1 else 0 := by
  rw [List.count_cons]
  unfold plainChar isComma
  split_ifs <;> simp_all

theorem count_closeSpeed (speedOpen : Bool) : (closeSpeed speedOpen).count ',' = 0 := by
  cases speedOpen <;> rfl

theorem count_decodeFrom (m : DecodeMode) (t : List Char)
    : (decodeFrom m t).count ',' = t.countP isComma := by
  induction m, t using decodeFrom.induct with
  | case1 speedOpen => cases speedOpen <;> rfl
  | case2 => rfl
  | case3 cs ih => simp [decodeFrom, ih, isComma]
  | case4 c cs hbar ih => rw [decodeFrom, if_neg hbar, count_plainChar, ih, List.countP_cons]
  | case5 speedOpen cs hmem ih => simp [decodeFrom, hmem, count_closeSpeed, ih, isComma]
  | case6 speedOpen cs hmem ih => simp [decodeFrom, hmem, ih, isComma]
  | case7 speedOpen cs _ ih => simp [decodeFrom, count_closeSpeed, ih, isComma]
  | case8 speedOpen cs _ _ ih => simp [decodeFrom, count_closeSpeed, ih, isComma]
  | case9 speedOpen c cs hbar hgt hlt ih =>
    rw [decodeFrom, if_neg hbar, if_neg hgt, if_neg hlt, count_plainChar, ih, List.countP_cons]

-- the characters that `rigctl_queue_cw_char` does not suppress
def Printable (signed : Bool) (c : Char) : Prop :=
  32 ≤ charCode signed c

instance (signed : Bool) (c : Char) : Decidable (Printable signed c) :=
  inferInstanceAs (Decidable (_ ≤ _))

theorem printable_plainChar (signed : Bool) (c : Char)
    : Printable signed (plainChar c) ↔ Printable signed c := by
  unfold plainChar
  split_ifs with h₁ h₂ h₃
  . rw [h₁]
    cases signed <;> decide
  . rw [h₂]
    cases signed <;> decide
  . rw [h₃]
    cases signed <;> decide
  . rfl

theorem printable_closeSpeed (signed speedOpen : Bool)
    : ∀ c ∈ closeSpeed speedOpen, Printable signed c := by
  intro c hc
  cases speedOpen with
  | false => cases hc
  | true =>
    rw [List.mem_singleton.mp hc]
    cases signed <;> decide

theorem printable_opened_iff {signed : Bool} (speedOpen : Bool) {c₀ c₁ : Char}
    (h₀ : Printable signed c₀) (h₁ : Printable signed c₁) (cs : List Char)
    : (∀ c ∈ closeSpeed speedOpen ++ c₀ :: c₁ :: cs, Printable signed c)
      ↔ ∀ c ∈ cs, Printable signed c := by
  simp only [List.forall_mem_append, List.forall_mem_cons]
  constructor
  . rintro ⟨_, _, _, h⟩
    exact h
  . intro h
    exact ⟨printable_closeSpeed signed speedOpen, h₀, h₁, h⟩

-- The decoder adds printable characters only.
theorem printable_decodeFrom_iff (signed : Bool) (m : DecodeMode) (t : List Char)
    : (∀ c ∈ decodeFrom m t, Printable signed c) ↔ ∀ c ∈ t, Printable signed c := by
  have hadded (c : Char) (h : c ∈ ['[', ']', '.', '+', '-', '|', '<', '>'])
      : Printable signed c := by
    simp only [List.mem_cons, List.not_mem_nil, or_false] at h
    obtain rfl | rfl | rfl | rfl | rfl | rfl | rfl | rfl := h
    all_goals cases signed <;> decide
  induction m, t using decodeFrom.induct with
  | case1 speedOpen => simpa [decodeFrom] using printable_closeSpeed signed speedOpen
  | case2 => simp [decodeFrom]
  | case3 cs ih => simp [decodeFrom, ih, hadded]
  | case4 c cs hbar ih => simp [decodeFrom, hbar, ih, printable_plainChar]
  | case5 speedOpen cs hmem ih =>
    simp only [decodeFrom, if_pos hmem, if_true]
    rw [printable_opened_iff speedOpen (hadded _ (by decide)) (hadded _ (by decide))]
    exact ih.trans (by simp [hadded])
  | case6 speedOpen cs hmem ih => simp [decodeFrom, hmem, ih, hadded]
  | case7 speedOpen cs hbar ih =>
    simp only [decodeFrom, if_neg hbar, if_true]
    rw [printable_opened_iff speedOpen (hadded _ (by decide)) (hadded _ (by decide))]
    exact ih.trans (by simp [hadded])
  | case8 speedOpen cs hbar hgt ih =>
    simp only [decodeFrom, if_neg hbar, if_neg hgt, if_true]
    rw [printable_opened_iff speedOpen (hadded _ (by decide)) (hadded _ (by decide))]
    exact ih.trans (by simp [hadded])
  | case9 speedOpen c cs hbar hgt hlt ih =>
    simp [decodeFrom, hbar, hgt, hlt, ih, printable_plainChar]

namespace CwBuffer

theorem queued_takes (b : CwBuffer) (n : Nat) : (b.takes n).queued = b.queued := by
  induction n generalizing b with
  | zero => rfl
  | succ n ih =>
    rw [takes, ih]
    unfold take
    split <;> rfl

theorem fill_take (b : CwBuffer) : b.take.fill = b.fill - 1 := by
  unfold take fill
  split
  next h => rw [h, Ring.fill_self]
  next h =>
    have := Ring.fill_next_out b.inp_lt b.out_lt h
    dsimp only
    omega

theorem fill_takes (b : CwBuffer) (n : Nat) : (b.takes n).fill = b.fill - n := by
  induction n generalizing b with
  | zero => rfl
  | succ n ih =>
    rw [takes, ih, fill_take]
    omega

/-- There is a free slot besides the one that always stays unused. -/
def Room (b : CwBuffer) : Prop :=
  b.fill + 1 < Rigctl.cwBufSize

theorem room_iff (b : CwBuffer) : b.Room ↔ Ring.next Rigctl.cwBufSize b.inp ≠ b.out := by
  have hlt := Ring.fill_lt cwBufSize_pos b.inp b.out
  unfold Room fill
  rw [Ne, Ring.next_eq_out_iff b.inp_lt b.out_lt]
  omega

variable {signed : Bool} {b : CwBuffer} {c : Char}

theorem queueCwChar_of_stored (hc : Printable signed c) (hroom : b.Room)
    : (b.rigctlQueueCwChar signed c).queued = b.queued ++ [c]
      ∧ (b.rigctlQueueCwChar signed c).fill = b.fill + 1 := by
  rw [room_iff] at hroom
  unfold Printable at hc
  unfold rigctlQueueCwChar
  rw [if_neg (by omega), if_pos hroom]
  exact ⟨rfl, Ring.fill_next_inp b.inp_lt b.out_lt hroom⟩

theorem queueCwChar_of_not_stored (h : ¬ (Printable signed c ∧ b.Room))
    : b.rigctlQueueCwChar signed c = b := by
  rw [room_iff] at h
  unfold Printable at h
  unfold rigctlQueueCwChar
  split
  . rfl
  next hcode =>
    rw [if_neg]
    intro hroom
    exact h ⟨by omega, hroom⟩

theorem rigctlQueueCwString_append (signed : Bool) (b : CwBuffer) (str str' : List Char)
    : b.rigctlQueueCwString signed (fun _ => 0) (str ++ str')
        = (b.rigctlQueueCwString signed (fun _ => 0) str).rigctlQueueCwString signed (fun _ => 0)
            str' := by
  induction str generalizing b with
  | nil => rfl
  | cons c str ih =>
    rw [List.cons_append, rigctlQueueCwString, rigctlQueueCwString]
    apply ih

end CwBuffer

/-- With `fill` characters in the ring, `n` more find room, one after the other. -/
def Fits : (Nat → Nat) → Nat → Nat → Prop
  | _, _, 0 => True
  | thread, fill, n + 1 =>
    fill - thread 0 + 1 < Rigctl.cwBufSize
      ∧ Fits (fun i => thread (i + 1)) (fill - thread 0 + 1) n

theorem queueCwString_spec (signed : Bool) (thread : Nat → Nat) (b : CwBuffer) (str : List Char)
    : ∃ stored, (b.rigctlQueueCwString signed thread str).queued = b.queued ++ stored
      ∧ stored.Sublist str
      ∧ (stored = str ↔ (∀ c ∈ str, Printable signed c) ∧ Fits thread b.fill str.length) := by
  induction str generalizing thread b with
  | nil => exact ⟨[], by simp [CwBuffer.rigctlQueueCwString, Fits]⟩
  | cons c str ih =>
    rw [CwBuffer.rigctlQueueCwString, List.length_cons, List.forall_mem_cons, Fits]
    have hroom : (b.takes (thread 0)).Room ↔ b.fill - thread 0 + 1 < Rigctl.cwBufSize := by
      unfold CwBuffer.Room
      rw [CwBuffer.fill_takes]
    have ⟨stored, hqueued, hsub, hall⟩ := ih (fun i => thread (i + 1))
      ((b.takes (thread 0)).rigctlQueueCwChar signed c)
    by_cases h : Printable signed c ∧ (b.takes (thread 0)).Room
    . have ⟨hlog, hfill⟩ := CwBuffer.queueCwChar_of_stored h.1 h.2
      rw [hlog, CwBuffer.queued_takes, List.append_assoc] at hqueued
      rw [hfill, CwBuffer.fill_takes] at hall
      refine ⟨c :: stored, hqueued, hsub.cons_cons c, ?_⟩
      rw [List.cons_inj_right, hall]
      simp [h.1, hroom.mp h.2]
    . rw [CwBuffer.queueCwChar_of_not_stored h] at hqueued ⊢
      rw [CwBuffer.queued_takes] at hqueued
      refine ⟨stored, hqueued, hsub.cons c, ?_⟩
      constructor
      . intro heq
        have hle := hsub.length_le
        rw [heq, List.length_cons] at hle
        omega
      . rintro ⟨⟨hc, _⟩, hlt, _⟩
        exact absurd ⟨hc, hroom.mpr hlt⟩ h

/-- The text that a message `cw_macros` has as its second argument, if it is one. -/
def textArgument (msg : TextMessage) : Option (List Char) :=
  let s := msg.chars.takeWhile (· ≠ ';')
  if (s.takeWhile (· ≠ ':')).map Char.toLower = "cw_macros".toList then
    ((s.dropWhile (· ≠ ':')).tail.dropWhile (· ≠ ',')).tail?
  else
    none

theorem tciParseText_of_colon {s p : List Char} {c : Char}
    (h : (s.takeWhile (· ≠ ';')).dropWhile (· ≠ ':') = c :: p)
    : tciParseText s = ⟨(s.takeWhile (· ≠ ';')).takeWhile (· ≠ ':'), splitArgs tciMaxArgs p⟩ := by
  unfold tciParseText
  dsimp only
  rw [h]

theorem handleCwMacros_eq {msg : TextMessage} {text : List Char} (h : textArgument msg = some text)
    (signed : Bool) (thread : Nat → Nat) (b : CwBuffer)
    : b.handleCwMacros signed thread msg
        = b.rigctlQueueCwString signed thread
          (tciCwDecodeText ([','].intercalate (splitArgs 15 text))) := by
  unfold textArgument at h
  dsimp only at h
  split at h
  next hname =>
    cases hcolon : (msg.chars.takeWhile (· ≠ ';')).dropWhile (· ≠ ':') with
    | nil =>
      rw [hcolon] at h
      simp at h
    | cons c p =>
      rw [hcolon, List.tail_cons] at h
      cases hcomma : p.dropWhile (· ≠ ',') with
      | nil =>
        rw [hcomma] at h
        simp at h
      | cons c' rest =>
        rw [hcomma, List.tail?_cons] at h
        injection h with h
        have hargs : splitArgs tciMaxArgs p = p.takeWhile (· ≠ ',') :: splitArgs 15 text := by
          rw [tciMaxArgs, splitArgs, hcomma, h]
        have ⟨arg, args, hrest⟩ := List.exists_cons_of_ne_nil (splitArgs_ne_nil 14 text)
        unfold CwBuffer.handleCwMacros
        dsimp only
        rw [tciParseText_of_colon hcolon, hargs, hrest, if_pos]
        . rfl
        . exact ⟨hname, by simp⟩
  next => contradiction

-- At most 15 parts of the text are kept, control characters and what finds no room are dropped.
theorem handleCwMacros_complete_iff {msg : TextMessage} {text : List Char}
    (h : textArgument msg = some text) (signed : Bool) (thread : Nat → Nat) (b : CwBuffer)
    : (b.handleCwMacros signed thread msg).queued = b.queued ++ tciCwDecodeText text
      ↔ text.count ',' ≤ 14 ∧ (∀ c ∈ text, Printable signed c)
        ∧ Fits thread b.fill (tciCwDecodeText text).length := by
  rw [handleCwMacros_eq h]
  have ⟨stored, hqueued, hsub, hall⟩ := queueCwString_spec signed thread b
    (tciCwDecodeText ([','].intercalate (splitArgs 15 text)))
  rw [hqueued, List.append_cancel_left_eq]
  by_cases hcommas : text.count ',' ≤ 14
  . rw [intercalate_splitArgs hcommas] at hall
    rw [hall, tciCwDecodeText, printable_decodeFrom_iff]
    simp [hcommas]
  . have hcut : ∃ rest, text = [','].intercalate (splitArgs 15 text) ++ ',' :: rest :=
      intercalate_splitArgs_of_lt (n := 14) (by omega)
    obtain ⟨rest, hrest⟩ := hcut
    have hstored := hsub.count_le ','
    have htext := count_decodeFrom (.text false) text
    rw [tciCwDecodeText, count_decodeFrom] at hstored
    constructor
    . intro heq
      rw [heq, tciCwDecodeText, htext] at hstored
      conv at hstored =>
        lhs
        rw [hrest]
      rw [List.countP_append, List.countP_cons_of_pos (by decide)] at hstored
      omega
    . rintro ⟨h14, _⟩
      contradiction

theorem macrosMessage_length_lt
    : ("cw_macros:0,a,b,c,d,e,f,g,h,i,j,k,l,m,n,o,p;".toList).length < maxMsgSize := by
  decide

theorem macrosMessage_no_nul
    : Char.ofNat 0 ∉ "cw_macros:0,a,b,c,d,e,f,g,h,i,j,k,l,m,n,o,p;".toList := by
  decide

def macrosMessage : TextMessage where
  chars := "cw_macros:0,a,b,c,d,e,f,g,h,i,j,k,l,m,n,o,p;".toList
  length_lt := macrosMessage_length_lt
  no_nul := macrosMessage_no_nul

-- `rigctl_start_cw_thread`
def CwBuffer.start : CwBuffer where
  buf _ := ' '
  inp := 0
  out := 0
  queued := []
  inp_lt := cwBufSize_pos
  out_lt := cwBufSize_pos

theorem handleCwMacros_complete_iff_macrosMessage
    : (CwBuffer.start.handleCwMacros true (fun _ => 0) macrosMessage).queued
        = CwBuffer.start.queued ++ tciCwDecodeText "a,b,c,d,e,f,g,h,i,j,k,l,m,n,o,p".toList
      ↔ "a,b,c,d,e,f,g,h,i,j,k,l,m,n,o,p".toList.count ',' ≤ 14
        ∧ (∀ c ∈ "a,b,c,d,e,f,g,h,i,j,k,l,m,n,o,p".toList, Printable true c)
        ∧ Fits (fun _ => 0) CwBuffer.start.fill
          (tciCwDecodeText "a,b,c,d,e,f,g,h,i,j,k,l,m,n,o,p".toList).length :=
  handleCwMacros_complete_iff (by decide) true (fun _ => 0) CwBuffer.start

-- The last of 16 parts is lost.
theorem not_handleCwMacros_complete
    : textArgument macrosMessage = some "a,b,c,d,e,f,g,h,i,j,k,l,m,n,o,p".toList
      ∧ (CwBuffer.start.handleCwMacros true (fun _ => 0) macrosMessage).queued
        ≠ CwBuffer.start.queued ++ tciCwDecodeText "a,b,c,d,e,f,g,h,i,j,k,l,m,n,o,p".toList := by
  decide +kernel

end Tci
