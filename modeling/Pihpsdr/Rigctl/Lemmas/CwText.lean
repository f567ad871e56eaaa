import Pihpsdr.Rigctl.Impl.CwText
import Mathlib.Data.List.Chain

/-!
The timing of CW text and what can be read back from it. The gap between two words comes out as nine
dot lengths, and the characters `8` and `:` have the same pattern; everything else is as it should.
-/

namespace Rigctl

-- a text of characters of the table and single blanks
structure CwText where
  chars : List Char
  in_table : ∀ c ∈ chars, c = ' ' ∨ cwPattern c ≠ []
  single_blanks : chars.IsChain fun c d => ¬ (c = ' ' ∧ d = ' ')

/--
How long the key stays as it is, up (`false`) or down, and in turn the other way, with the events.
-/
def durations : Bool → List CwEvent → List Nat
  | _, [] => [0]
  | down, e :: es =>
    if e.down = down then
      (durations down es).modifyHead (e.wait + ·)
    else
      e.wait :: durations e.down es

def CwSamples.length (n : CwSamples) : CwElement → Nat
  | .dot => n.dotsamples
  | .dash => n.dashsamples

-- a character by the book: one dot length between its elements
def CwSamples.charTimes (n : CwSamples) (c : Char) : List Nat :=
  ((cwPattern c).map n.length).intersperse n.dotsamples

-- a word by the book: three dot lengths between its characters
def CwSamples.wordTimes (n : CwSamples) (word : List Char) : List Nat :=
  [3 * n.dotsamples].intercalate (word.map n.charTimes)

def cwWords (text : List Char) : List (List Char) :=
  (text.splitOn ' ').filter (· ≠ [])

-- a text with `gap` dot lengths between its words
def CwSamples.textTimes (n : CwSamples) (gap : Nat) (text : List Char) : List Nat :=
  [gap * n.dotsamples].intercalate ((cwWords text).map n.wordTimes)

namespace CwText

def events (keyer : CwKeyer) (text : CwText) : List CwEvent :=
  rigctlCwThread keyer CwThread.start text.chars

/--
Between the first key-down and the last one, the key goes down and up as in standard Morse, with
seven dot lengths between words.
-/
def StandardTimes (keyer : CwKeyer) (text : CwText) : Prop :=
  cwWords text.chars = [] ∨ ∃ lead tail, durations false (text.events keyer) =
    lead :: (CwThread.start.samples keyer).textTimes 7 text.chars ++ [tail]

-- no other text is sent with the same events
def Readable (keyer : CwKeyer) (text : CwText) : Prop :=
  ∀ other : CwText, other.events keyer = text.events keyer →
    other.chars.map Char.toUpper = text.chars.map Char.toUpper

end CwText

section Table

theorem cwPattern_eq {c : Char} {p : List CwElement} (h : cwPattern c = p) (hp : p ≠ [])
    : ∃ k ∈ cwCases, c ∈ k.labels ∧ k.pattern = p := by
  unfold cwPattern at h
  split at h
  next => exact absurd h.symm hp
  next k hk =>
    refine ⟨k, List.mem_of_find?_eq_some hk, ?_, h⟩
    simpa using List.find?_some hk

-- the labels of cases with the same pattern are the same up to case, but for `8` and `:`
theorem cwCases_labels
    : ∀ k ∈ cwCases, ∀ k' ∈ cwCases, k.pattern = k'.pattern → ∀ c ∈ k.labels, ∀ c' ∈ k'.labels,
      c.toUpper = c'.toUpper ∨ c = '8' ∨ c = ':' := by
  have hall : cwCases.all fun k => cwCases.all fun k' => decide (k.pattern = k'.pattern →
      k.labels.all fun c => k'.labels.all fun c' =>
        decide (c.toUpper = c'.toUpper ∨ c = '8' ∨ c = ':')) := by
    decide
  simpa only [List.all_eq_true, decide_eq_true_eq] using hall

theorem toUpper_eq_of_cwPattern {c c' : Char} (h : cwPattern c = cwPattern c')
    (hc : cwPattern c ≠ []) (h8 : c ≠ '8') (hcolon : c ≠ ':')
    : c'.toUpper = c.toUpper := by
  have ⟨k, hk, hlabel, hp⟩ := cwPattern_eq rfl hc
  have ⟨k', hk', hlabel', hp'⟩ := cwPattern_eq h.symm hc
  have hsame := cwCases_labels k hk k' hk' (hp.trans hp'.symm) c hlabel c' hlabel'
  grind

-- whether the characters are those of a text
theorem inTable_of_all {chars : List Char}
    (h : chars.all fun c => decide (c = ' ' ∨ cwPattern c ≠ []))
    : ∀ c ∈ chars, c = ' ' ∨ cwPattern c ≠ [] := by
  simpa only [List.all_eq_true, decide_eq_true_eq] using h

theorem cwPattern_blank : cwPattern ' ' = [] := by
  decide

theorem cwPattern_bracket : cwPattern '[' = [] ∧ cwPattern ']' = [] := by
  decide

end Table

section Words

variable {c : Char} {t : List Char}

theorem cwWords_blank : cwWords (' ' :: t) = cwWords t := by
  unfold cwWords
  rw [List.splitOn_cons_eq_if_modifyHead]
  simp

theorem cwWords_cons_blank (hc : c ≠ ' ') (ht : t.head? = some ' ' ∨ t = [])
    : cwWords (c :: t) = [c] :: cwWords t := by
  cases t with
  | nil =>
    unfold cwWords
    rw [List.splitOn_cons_eq_if_modifyHead]
    simp [hc]
  | cons d t =>
    have hd : d = ' ' := by simpa using ht
    rw [hd, cwWords_blank]
    unfold cwWords
    rw [List.splitOn_cons_eq_if_modifyHead, List.splitOn_cons_eq_if_modifyHead]
    simp [hc]

theorem cwWords_cons_char {d : Char} (hc : c ≠ ' ') (hd : d ≠ ' ')
    : ∃ w ws, cwWords (d :: t) = (d :: w) :: ws ∧ cwWords (c :: d :: t) = (c :: d :: w) :: ws := by
  have ⟨w, segs, hsegs⟩ := List.exists_cons_of_ne_nil (List.splitOn_ne_nil ' ' t)
  refine ⟨w, segs.filter (· ≠ []), ?_⟩
  have hcons : (d :: t).splitOn ' ' = (d :: w) :: segs := by
    rw [List.splitOn_cons_eq_if_modifyHead, hsegs]
    simp [hd]
  unfold cwWords
  rw [List.splitOn_cons_eq_if_modifyHead c, hcons]
  simp [hc]

theorem cwWords_cons_ne_nil (hc : c ≠ ' ') : cwWords (c :: t) ≠ [] := by
  cases t with
  | nil => simp [cwWords_cons_blank hc]
  | cons d t =>
    by_cases hd : d = ' '
    . rw [cwWords_cons_blank hc (by simp [hd])]
      simp
    . have ⟨w, ws, _, hw⟩ := cwWords_cons_char (t := t) hc hd
      simp [hw]

end Words

namespace CwSamples

variable {n : CwSamples} {gap : Nat} {c : Char} {t : List Char}

theorem textTimes_of_cwWords_eq_nil (hc : c ≠ ' ') (ht : cwWords t = [])
    : n.textTimes gap (c :: t) = n.charTimes c := by
  have hhead : t.head? = some ' ' ∨ t = [] := by
    cases t with
    | nil => simp
    | cons d t =>
      by_cases hd : d = ' '
      . simp [hd]
      . exact absurd ht (cwWords_cons_ne_nil hd)
  unfold textTimes
  rw [cwWords_cons_blank hc hhead, ht]
  simp [wordTimes]

theorem textTimes_cons_blank (hc : c ≠ ' ') (hhead : t.head? = some ' ') (ht : cwWords t ≠ [])
    : n.textTimes gap (c :: t) = n.charTimes c ++ gap * n.dotsamples :: n.textTimes gap t := by
  unfold textTimes
  rw [cwWords_cons_blank hc (Or.inl hhead), List.map_cons,
    List.intercalate_cons_of_ne_nil (by simpa using ht)]
  simp [wordTimes]

theorem textTimes_cons_char {d : Char} (hc : c ≠ ' ') (hd : d ≠ ' ')
    : n.textTimes gap (c :: d :: t) =
        n.charTimes c ++ 3 * n.dotsamples :: n.textTimes gap (d :: t) := by
  have ⟨w, ws, hws, hws'⟩ := cwWords_cons_char (t := t) hc hd
  have hword : n.wordTimes (c :: d :: w) =
      n.charTimes c ++ 3 * n.dotsamples :: n.wordTimes (d :: w) := by
    unfold wordTimes
    rw [List.map_cons, List.intercalate_cons_of_ne_nil (by simp)]
    simp
  unfold textTimes
  rw [hws, hws', List.map_cons, List.map_cons, hword]
  cases ws with
  | nil => simp
  | cons w' ws => simp [List.intercalate_cons_cons]

-- the gap between words shows as soon as there are two of them
theorem textTimes_eq_iff {a b : Nat} (hdot : 0 < n.dotsamples) (hab : a ≠ b)
    : n.textTimes a t = n.textTimes b t ↔ (cwWords t).length ≤ 1 := by
  unfold textTimes
  match cwWords t with
  | [] => simp
  | [w] => simp
  | w :: w' :: ws =>
    rw [List.map_cons, List.map_cons, List.intercalate_cons_cons, List.intercalate_cons_cons]
    apply iff_of_false
    . intro h
      simp only [List.append_assoc, List.append_cancel_left_eq, List.singleton_append,
        List.cons.injEq] at h
      exact hab (Nat.eq_of_mul_eq_mul_right hdot h.1)
    . simp

end CwSamples

section Durations

variable {n : CwSamples} {rest : List CwEvent}

theorem durations_ne_nil (down : Bool) (es : List CwEvent) : durations down es ≠ [] := by
  induction es generalizing down with
  | nil => simp [durations]
  | cons e es ih =>
    unfold durations
    split
    next => simpa using ih down
    next => simp

theorem durations_sendElement (e : CwElement)
    : durations false (sendElement n e ++ rest) =
        0 :: n.length e :: (durations false rest).modifyHead (n.dotsamples + ·) := by
  cases e <;> rfl

theorem durations_pattern {p : List CwElement} (hp : p ≠ [])
    : durations false (p.flatMap (sendElement n) ++ rest) =
        0 :: (p.map n.length).intersperse n.dotsamples ++
          (durations false rest).modifyHead (n.dotsamples + ·) := by
  induction p with
  | nil => contradiction
  | cons e p ih =>
    rw [List.flatMap_cons, List.append_assoc, durations_sendElement]
    cases p with
    | nil => rfl
    | cons e' p =>
      rw [ih (List.cons_ne_nil e' p)]
      rfl

theorem ne_blank_of_cwPattern {c : Char} (hc : cwPattern c ≠ []) : c ≠ ' ' := by
  intro h
  rw [h] at hc
  exact hc cwPattern_blank

theorem durations_char {c : Char} (hc : cwPattern c ≠ [])
    : durations false (rigctlSendCwChar n false c ++ rest) =
        0 :: n.charTimes c ++ (durations false rest).modifyHead (3 * n.dotsamples + ·) := by
  unfold rigctlSendCwChar
  rw [if_neg (ne_blank_of_cwPattern hc), List.append_assoc, durations_pattern hc]
  have hgap : durations false (sendSpace n 2 ++ rest) =
      (durations false rest).modifyHead (2 * n.dotsamples + ·) := rfl
  have ⟨d, ds, hds⟩ := List.exists_cons_of_ne_nil (durations_ne_nil false rest)
  simp only [Bool.false_eq_true, if_false, hgap, hds, List.modifyHead_cons, CwSamples.charTimes]
  have : n.dotsamples + (2 * n.dotsamples + d) = 3 * n.dotsamples + d := by omega
  rw [this]

theorem durations_blank (join : Bool)
    : durations false (rigctlSendCwChar n join ' ' ++ rest) =
        (durations false rest).modifyHead (6 * n.dotsamples + ·) := by
  unfold rigctlSendCwChar
  rw [cwPattern_blank]
  rfl

end Durations

section Send

variable {n : CwSamples} {t : List Char}

def sendChars (n : CwSamples) (t : List Char) : List CwEvent :=
  t.flatMap (rigctlSendCwChar n false)

-- a text without words is blank
theorem durations_of_cwWords_eq_nil (ht : cwWords t = [])
    : ∃ x, durations false (sendChars n t) = [x] := by
  induction t with
  | nil => exact ⟨0, rfl⟩
  | cons c t ih =>
    by_cases hc : c = ' '
    . rw [hc, cwWords_blank] at ht
      have ⟨x, hx⟩ := ih ht
      refine ⟨6 * n.dotsamples + x, ?_⟩
      unfold sendChars at hx ⊢
      rw [List.flatMap_cons, hc, durations_blank, hx]
      rfl
    . exact absurd ht (cwWords_cons_ne_nil hc)

/--
The durations of a text: nine dot lengths between words, and at the beginning six for a blank.
-/
theorem durations_sendChars (htable : ∀ c ∈ t, c = ' ' ∨ cwPattern c ≠ [])
    (hblanks : t.IsChain fun c d => ¬ (c = ' ' ∧ d = ' ')) (ht : cwWords t ≠ [])
    : ∃ tail, durations false (sendChars n t) =
        (if t.head? = some ' ' then 6 * n.dotsamples else 0) :: n.textTimes 9 t ++ [tail] := by
  induction t with
  | nil => simp [cwWords] at ht
  | cons c t ih =>
    have htable' : ∀ d ∈ t, d = ' ' ∨ cwPattern d ≠ [] := by
      intro d hd
      exact htable d (List.mem_cons_of_mem c hd)
    have hblanks' : t.IsChain fun c d => ¬ (c = ' ' ∧ d = ' ') := by
      cases t with
      | nil => exact .nil
      | cons d t => exact (List.isChain_cons_cons.mp hblanks).2
    have hsend : sendChars n (c :: t) = rigctlSendCwChar n false c ++ sendChars n t := rfl
    rw [hsend]
    by_cases hc : c = ' '
    . -- the rest does not begin with another blank
      subst hc
      have hhead : t.head? ≠ some ' ' := by
        cases t with
        | nil => simp
        | cons d t =>
          have hd := (List.isChain_cons_cons.mp hblanks).1
          simpa using hd
      rw [cwWords_blank] at ht
      have ⟨tail, hD⟩ := ih htable' hblanks' ht
      refine ⟨tail, ?_⟩
      have htimes : n.textTimes 9 (' ' :: t) = n.textTimes 9 t := by
        unfold CwSamples.textTimes
        rw [cwWords_blank]
      rw [durations_blank, hD, if_neg hhead, htimes]
      simp
    . have hpattern := (htable c (List.mem_cons_self)).resolve_left hc
      have hhead : (c :: t).head? ≠ some ' ' := by simpa using hc
      rw [durations_char hpattern, if_neg hhead]
      by_cases hwords : cwWords t = []
      . have ⟨x, hx⟩ := durations_of_cwWords_eq_nil (n := n) hwords
        refine ⟨3 * n.dotsamples + x, ?_⟩
        rw [hx, CwSamples.textTimes_of_cwWords_eq_nil hc hwords]
        rfl
      . have ⟨tail, hD⟩ := ih htable' hblanks' hwords
        refine ⟨tail, ?_⟩
        rw [hD]
        cases t with
        | nil => simp [cwWords] at hwords
        | cons d t =>
          by_cases hd : d = ' '
          . rw [CwSamples.textTimes_cons_blank hc (by simp [hd]) hwords, if_pos (by simp [hd])]
            simp
            omega
          . rw [CwSamples.textTimes_cons_char hc hd, if_neg (by simpa using hd)]
            simp

theorem bracket_start (keyer : CwKeyer) {c : Char} (hc : c = ' ' ∨ cwPattern c ≠ [])
    : CwThread.start.bracket keyer c = (some c, CwThread.start) := by
  have hopen : c ≠ '[' := by
    intro h
    rw [h, cwPattern_bracket.1] at hc
    simp at hc
  have hclose : c ≠ ']' := by
    intro h
    rw [h, cwPattern_bracket.2] at hc
    simp at hc
  simp [CwThread.bracket, CwThread.start, hopen, hclose]

-- the special characters are not in the table, so the thread only sends
theorem rigctlCwThread_start (keyer : CwKeyer) (htable : ∀ c ∈ t, c = ' ' ∨ cwPattern c ≠ [])
    : rigctlCwThread keyer CwThread.start t = sendChars (CwThread.start.samples keyer) t := by
  induction t with
  | nil => rfl
  | cons c t ih =>
    unfold rigctlCwThread
    rw [bracket_start keyer (htable c List.mem_cons_self)]
    dsimp only
    rw [ih (fun d hd => htable d (List.mem_cons_of_mem c hd))]
    rfl

theorem samples_start (keyer : CwKeyer)
    : CwThread.start.samples keyer =
        { dotsamples := 57600 / keyer.speed, dashsamples := 3456 * keyer.weight / keyer.speed } :=
  rfl

theorem dotsamples_pos (keyer : CwKeyer) : 0 < (CwThread.start.samples keyer).dotsamples := by
  have hpos := keyer.speed_pos
  have hle := keyer.speed_le
  rw [samples_start]
  apply Nat.div_pos
  . omega
  . exact hpos

theorem div_lt_div_of_add_le {a b s : Nat} (hs : 0 < s) (h : a + s ≤ b) : a / s < b / s := by
  have := Nat.div_le_div_right (c := s) h
  rw [Nat.add_div_right a hs] at this
  exact this

-- for no weight are dashes as long as dots
theorem dashsamples_ne (keyer : CwKeyer)
    : (CwThread.start.samples keyer).dashsamples ≠ (CwThread.start.samples keyer).dotsamples := by
  have hpos := keyer.speed_pos
  have hle := keyer.speed_le
  rw [samples_start]
  by_cases hw : keyer.weight ≤ 16
  . apply Nat.ne_of_lt
    apply div_lt_div_of_add_le hpos
    omega
  . apply Nat.ne_of_gt
    apply div_lt_div_of_add_le hpos
    omega

end Send

section Read

variable {n : CwSamples} {t t' : List Char}

theorem length_injective (hn : n.dashsamples ≠ n.dotsamples) {e e' : CwElement}
    (h : n.length e = n.length e')
    : e = e' := by
  cases e <;> cases e' <;> simp_all [CwSamples.length]

-- the elements of a character can be told from each other and from the space behind them
theorem pattern_injective (hn : n.dashsamples ≠ n.dotsamples) {p p' : List CwElement} {x x' : Nat}
    {es es' : List CwEvent}
    (h : p.flatMap (sendElement n) ++ ⟨false, x⟩ :: es =
      p'.flatMap (sendElement n) ++ ⟨false, x'⟩ :: es')
    : p = p' ∧ es = es' := by
  have helement : ∀ e, sendElement n e =
      [⟨true, 0⟩, ⟨false, n.length e⟩, ⟨false, n.dotsamples⟩] := by
    intro e
    cases e <;> rfl
  induction p generalizing p' with
  | nil =>
    cases p' with
    | nil => simp_all
    | cons e' p' => simp [helement] at h
  | cons e p ih =>
    cases p' with
    | nil => simp [helement] at h
    | cons e' p' =>
      simp only [List.flatMap_cons, helement, List.cons_append, List.nil_append,
        List.cons.injEq, CwEvent.mk.injEq, true_and] at h
      have ⟨hp, hes⟩ := ih h.2
      exact ⟨by rw [hp, length_injective hn h.1], hes⟩

theorem rigctlSendCwChar_append (c : Char) (es : List CwEvent)
    : rigctlSendCwChar n false c ++ es = (cwPattern c).flatMap (sendElement n) ++
        ⟨false, (if c = ' ' then 6 else 2) * n.dotsamples⟩ :: es := by
  unfold rigctlSendCwChar
  split <;> simp [sendSpace]

theorem sendChars_cons_ne_nil (c : Char) : sendChars n (c :: t) ≠ [] := by
  unfold sendChars
  rw [List.flatMap_cons, rigctlSendCwChar_append]
  simp

-- texts that are sent with the same events have the same patterns, character by character
theorem map_cwPattern_eq (hn : n.dashsamples ≠ n.dotsamples) (h : sendChars n t = sendChars n t')
    : t.map cwPattern = t'.map cwPattern := by
  induction t generalizing t' with
  | nil =>
    cases t' with
    | nil => rfl
    | cons c' t' => exact absurd h.symm (sendChars_cons_ne_nil c')
  | cons c t ih =>
    cases t' with
    | nil => exact absurd h (sendChars_cons_ne_nil c)
    | cons c' t' =>
      unfold sendChars at h
      rw [List.flatMap_cons, List.flatMap_cons, rigctlSendCwChar_append,
        rigctlSendCwChar_append] at h
      have ⟨hp, hes⟩ := pattern_injective hn h
      rw [List.map_cons, List.map_cons, hp, ih hes]

theorem map_toUpper_eq (ht : ∀ c ∈ t, c = ' ' ∨ cwPattern c ≠ [])
    (ht' : ∀ c ∈ t', c = ' ' ∨ cwPattern c ≠ []) (hplain : ∀ c ∈ t, c ≠ '8' ∧ c ≠ ':')
    (h : t.map cwPattern = t'.map cwPattern)
    : t'.map Char.toUpper = t.map Char.toUpper := by
  induction t generalizing t' with
  | nil =>
    rw [List.map_nil, eq_comm, List.map_eq_nil_iff] at h
    rw [h]
  | cons c t ih =>
    cases t' with
    | nil => simp at h
    | cons c' t' =>
      rw [List.map_cons, List.map_cons, List.cons.injEq] at h
      have hrest := ih (fun d hd => ht d (List.mem_cons_of_mem c hd))
        (fun d hd => ht' d (List.mem_cons_of_mem c' hd))
        (fun d hd => hplain d (List.mem_cons_of_mem c hd)) h.2
      have hhead : c'.toUpper = c.toUpper := by
        by_cases hc : cwPattern c = []
        . have hblank := (ht c List.mem_cons_self).resolve_right (by simpa using hc)
          have hblank' := (ht' c' List.mem_cons_self).resolve_right (by simpa [← h.1] using hc)
          rw [hblank, hblank']
        . have ⟨h8, hcolon⟩ := hplain c List.mem_cons_self
          exact toUpper_eq_of_cwPattern h.1 hc h8 hcolon
      rw [List.map_cons, List.map_cons, hhead, hrest]

-- the two characters with the same pattern
def swapColon (c : Char) : Char :=
  if c = '8' then ':' else if c = ':' then '8' else c

theorem swapColon_eq_blank_iff (c : Char) : swapColon c = ' ' ↔ c = ' ' := by
  unfold swapColon
  split
  next h => simp [h]
  next =>
    split
    next h => simp [h]
    next => rfl

theorem cwPattern_swapColon (c : Char) : cwPattern (swapColon c) = cwPattern c := by
  have hsame : cwPattern ':' = cwPattern '8' := by decide
  unfold swapColon
  split
  next h => rw [h, hsame]
  next =>
    split
    next h => rw [h, hsame]
    next => rfl

theorem sendChars_swapColon : sendChars n (t.map swapColon) = sendChars n t := by
  induction t with
  | nil => rfl
  | cons c t ih =>
    unfold sendChars at ih ⊢
    rw [List.map_cons, List.flatMap_cons, List.flatMap_cons, ih, rigctlSendCwChar_append,
      rigctlSendCwChar_append, cwPattern_swapColon]
    simp only [swapColon_eq_blank_iff]

end Read

namespace CwText

variable {keyer : CwKeyer} {text : CwText}

theorem events_eq : text.events keyer = sendChars (CwThread.start.samples keyer) text.chars :=
  rigctlCwThread_start keyer text.in_table

theorem standardTimes_iff : text.StandardTimes keyer ↔ (cwWords text.chars).length ≤ 1 := by
  unfold StandardTimes
  by_cases hwords : cwWords text.chars = []
  . simp [hwords]
  . have ⟨tail, hD⟩ := durations_sendChars (n := CwThread.start.samples keyer) text.in_table
      text.single_blanks hwords
    have htimes := (CwThread.start.samples keyer).textTimes_eq_iff (t := text.chars) (a := 7)
      (b := 9) (dotsamples_pos keyer) (by decide)
    rw [or_iff_right hwords, ← htimes, events_eq, hD]
    constructor
    . intro ⟨lead', tail', h⟩
      rw [List.cons_append, List.cons_append, List.cons.injEq] at h
      exact (List.append_inj_left' h.2 rfl).symm
    . intro h
      exact ⟨_, tail, by rw [h]⟩

def swapColon (text : CwText) : CwText where
  chars := text.chars.map Rigctl.swapColon
  in_table := by
    intro c hc
    have ⟨d, hd, hcd⟩ := List.mem_map.mp hc
    rw [← hcd, swapColon_eq_blank_iff, cwPattern_swapColon]
    exact text.in_table d hd
  single_blanks := by
    rw [List.isChain_map]
    apply text.single_blanks.imp
    intro c d h
    rw [swapColon_eq_blank_iff, swapColon_eq_blank_iff]
    exact h

theorem readable_iff : text.Readable keyer ↔ ∀ c ∈ text.chars, c ≠ '8' ∧ c ≠ ':' := by
  constructor
  . intro h c hc
    have hsame := h text.swapColon (by rw [events_eq, events_eq]; exact sendChars_swapColon)
    have hupper : (Rigctl.swapColon c).toUpper = c.toUpper := by
      have hmap : text.swapColon.chars = text.chars.map Rigctl.swapColon := rfl
      rw [hmap, List.map_map, List.map_inj_left] at hsame
      exact hsame c hc
    constructor
    . intro h8
      rw [h8] at hupper
      exact absurd hupper (by decide)
    . intro hcolon
      rw [hcolon] at hupper
      exact absurd hupper (by decide)
  . intro hplain other h
    rw [events_eq, events_eq] at h
    apply map_toUpper_eq text.in_table other.in_table hplain
    exact map_cwPattern_eq (dashsamples_ne keyer) h.symm

/--
A text is sent as standard Morse from which it can be read back, if and only if it is not more than
one word and contains neither `8` nor `:`.
-/
theorem standard_and_readable_iff (keyer : CwKeyer) (text : CwText)
    : text.StandardTimes keyer ∧ text.Readable keyer ↔
        (cwWords text.chars).length ≤ 1 ∧ ∀ c ∈ text.chars, c ≠ '8' ∧ c ≠ ':' := by
  rw [standardTimes_iff, readable_iff]

/--
At the default speed and weight the two words `E E` are not sent with the gap of seven dot lengths,
and `8` is sent like `:`.
-/
theorem words_and_colon
    : ¬ (StandardTimes ⟨16, 50, by decide, by decide, by decide⟩
          ⟨['E', ' ', 'E'], inTable_of_all (by decide), by decide⟩ ∧
        Readable ⟨16, 50, by decide, by decide, by decide⟩
          ⟨['E', ' ', 'E'], inTable_of_all (by decide), by decide⟩) ∧
      ¬ (StandardTimes ⟨16, 50, by decide, by decide, by decide⟩
          ⟨['8'], inTable_of_all (by decide), by decide⟩ ∧
        Readable ⟨16, 50, by decide, by decide, by decide⟩
          ⟨['8'], inTable_of_all (by decide), by decide⟩) := by
  constructor
  . intro ⟨htimes, _⟩
    exact absurd (standardTimes_iff.mp htimes) (by decide)
  . intro ⟨_, hread⟩
    exact absurd rfl (readable_iff.mp hread '8' List.mem_cons_self).1

end CwText

end Rigctl
