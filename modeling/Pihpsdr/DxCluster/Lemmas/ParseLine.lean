import Pihpsdr.DxCluster.Impl.Spots

/-!
What the parser of the spot lines does: no array is overrun, each string is terminated, and what becomes of a line
of the form that the clusters send.
-/

namespace DxCluster

open Text Fixed

namespace CharArray

variable {n : Nat} {b : CharArray n} {text : List Int}

-- the string in the array, which has no zeros, and its terminator
def Holds (b : CharArray n) (text : List Int) : Prop :=
  0 ∉ text ∧ ∃ rest, b.toList = text ++ 0 :: rest

theorem takeWhile_eq {text rest : List Int} (h : 0 ∉ text)
    : (text ++ 0 :: rest).takeWhile (fun c => decide (c ≠ 0)) = text := by
  rw [Decimal.takeWhile_append_cons (by decide)]
  apply List.takeWhile_eq_self_iff.mpr
  intro c hc
  rw [decide_eq_true_eq]
  rintro rfl
  exact h hc

theorem Holds.text_eq (h : b.Holds text) : b.text = text := by
  obtain ⟨hzero, rest, heq⟩ := h
  rw [CharArray.text, heq]
  exact takeWhile_eq hzero

theorem Holds.terminated (h : b.Holds text) : b.Terminated := by
  obtain ⟨-, rest, heq⟩ := h
  rw [Terminated, heq]
  simp

theorem put_spec {i : Nat} (hi : i < n) (c : Int)
    : ∃ b', b.put i c = some b' ∧ b'.toList = b.toList.take i ++ c :: b.toList.drop (i + 1) := by
  refine ⟨b.set i c, dif_pos hi, ?_⟩
  rw [Vector.toList_set, List.set_eq_take_append_cons_drop, if_pos]
  rw [Vector.length_toList]
  exact hi

theorem putAll_spec {i : Nat} (hi : i + text.length ≤ n)
    : ∃ b', b.putAll i text = some b'
        ∧ b'.toList = b.toList.take i ++ text ++ b.toList.drop (i + text.length) := by
  induction text generalizing b i with
  | nil => exact ⟨b, rfl, by simp⟩
  | cons c text ih =>
    rw [List.length_cons] at hi
    obtain ⟨b₁, hput, hlist₁⟩ := put_spec (b := b) (i := i) (by omega) c
    obtain ⟨b₂, hall, hlist₂⟩ := ih (b := b₁) (i := i + 1) (by omega)
    refine ⟨b₂, ?_, ?_⟩
    . rw [putAll, hput]
      exact hall
    . have hlength : (b.toList.take i).length = i := by
        rw [List.length_take, Vector.length_toList]
        omega
      have hfront : b₁.toList.take (i + 1) = b.toList.take i ++ [c] := by
        rw [hlist₁, List.take_append, hlength, List.take_of_length_le (by omega)]
        simp
      have hback : b₁.toList.drop (i + 1 + text.length) = b.toList.drop (i + (text.length + 1)) := by
        rw [hlist₁, List.drop_append, hlength, List.drop_of_length_le (by omega)]
        have hsub : i + 1 + text.length - i = text.length + 1 := by omega
        rw [hsub, List.nil_append, List.drop_succ_cons, List.drop_drop]
        congr 1
        omega
      rw [hlist₂, hfront, hback, List.append_assoc, List.append_assoc, List.append_assoc]
      rfl

-- a text that is short enough is copied
theorem copy_spec (hlen : text.length < n) (hzero : 0 ∉ text)
    : ∃ b', b.copy text = some b' ∧ b'.Holds text := by
  have hroom : 0 + text.length ≤ n := by omega
  obtain ⟨b₁, hall, hlist₁⟩ := putAll_spec (b := b) hroom
  obtain ⟨b₂, hput, hlist₂⟩ := put_spec (b := b₁) hlen 0
  rw [List.take_zero, List.nil_append, Nat.zero_add] at hlist₁
  refine ⟨b₂, ?_, hzero, b₁.toList.drop (text.length + 1), ?_⟩
  . rw [copy, hall]
    exact hput
  . rw [hlist₂, hlist₁, List.take_left]

end CharArray

open CharArray

theorem stripSpotter_spec {b : CharArray dxcCallLen} {text : List Int} (h : b.Holds text)
    : ∃ b', stripSpotter b text.length = some b' ∧ b'.Holds (text.rdropWhile fun c => decide (c = blank)) := by
  induction text using List.reverseRecOn generalizing b with
  | nil => exact ⟨b, rfl, h⟩
  | append_singleton text c ih =>
    obtain ⟨hzero, rest, hlist⟩ := h
    have hlength : text.length < dxcCallLen := by
      have hlen := congrArg List.length hlist
      simp at hlen
      omega
    have hlast : b[text.length]? = some c := by
      rw [← Vector.getElem?_toList, hlist]
      simp
    rw [List.length_append, List.length_singleton, stripSpotter, hlast]
    by_cases hc : c = blank
    . obtain ⟨b₁, hput, hlist₁⟩ := put_spec (b := b) hlength 0
      have hholds : b₁.Holds text := by
        refine ⟨fun hmem => hzero (List.mem_append_left _ hmem), 0 :: rest, ?_⟩
        rw [hlist₁, hlist, List.append_assoc, List.take_left, List.drop_append,
          List.drop_of_length_le (by omega)]
        simp
      obtain ⟨b₂, hstrip, hresult⟩ := ih hholds
      refine ⟨b₂, ?_, ?_⟩
      . rw [if_pos (congrArg some hc), hput]
        exact hstrip
      . rw [List.rdropWhile_concat, if_pos (decide_eq_true hc)]
        exact hresult
    . refine ⟨b, if_neg fun h => hc (Option.some.inj h), ?_⟩
      rw [List.rdropWhile_concat, if_neg (by simpa using hc)]
      exact ⟨hzero, rest, hlist⟩

-- the ASCII characters of the comment, as many as fit
theorem fillComment_spec {b : CharArray dxcCommentLen} {pre p : List Int} {rest : List Int}
    (hlist : b.toList = pre ++ rest) (hpre : 0 ∉ pre) (hp : 0 ∉ p) (hlen : pre.length < dxcCommentLen - 1)
    : ∃ b', fillComment b pre.length p = some b'
        ∧ b'.Holds (pre ++ (p.filter fun c => !isUtf c).take (dxcCommentLen - 1 - pre.length)) := by
  induction p generalizing b pre rest with
  | nil =>
    obtain ⟨b₁, hput, hlist₁⟩ := put_spec (b := b) (i := pre.length) (by omega) 0
    refine ⟨b₁, hput, ?_, b.toList.drop (pre.length + 1), ?_⟩
    . simpa using hpre
    . rw [hlist₁, hlist, List.take_left]
      simp
  | cons c p ih =>
    rw [List.mem_cons, not_or] at hp
    rw [fillComment]
    by_cases hc : isUtf c = true
    . have hfilter : (c :: p).filter (fun c => !isUtf c) = p.filter fun c => !isUtf c := by simp [hc]
      rw [if_pos hc, hfilter]
      exact ih hlist hpre hp.2 hlen
    . have hfilter : (c :: p).filter (fun c => !isUtf c) = c :: p.filter fun c => !isUtf c := by simp [hc]
      rw [if_neg hc, hfilter]
      obtain ⟨b₁, hput, hlist₁⟩ := put_spec (b := b) (i := pre.length) (by omega) c
      rw [hput, Option.bind_some]
      have hlist₁ : b₁.toList = (pre ++ [c]) ++ b.toList.drop (pre.length + 1) := by
        rw [hlist₁, hlist, List.take_left]
        simp
      have hpre₁ : 0 ∉ pre ++ [c] := by
        rw [List.mem_append, List.mem_singleton, not_or]
        exact ⟨hpre, hp.1⟩
      have hlength : (pre ++ [c]).length = pre.length + 1 := by simp
      by_cases hfull : pre.length + 1 = dxcCommentLen - 1
      . obtain ⟨b₂, hput₂, hlist₂⟩ := put_spec (b := b₁) (i := pre.length + 1) (by omega) 0
        have hone : dxcCommentLen - 1 - pre.length = 1 := by omega
        refine ⟨b₂, ?_, ?_⟩
        . rw [if_pos hfull]
          exact hput₂
        . rw [hone, List.take_succ_cons, List.take_zero]
          refine ⟨hpre₁, b₁.toList.drop (pre.length + 1 + 1), ?_⟩
          rw [hlist₂, hlist₁, ← hlength, List.take_left]
      . obtain ⟨b₂, hfill, hholds⟩ := ih hlist₁ hpre₁ hp.2 (by omega)
        have hsucc : dxcCommentLen - 1 - pre.length = dxcCommentLen - 1 - (pre ++ [c]).length + 1 := by omega
        rw [hlength] at hfill
        refine ⟨b₂, ?_, ?_⟩
        . rw [if_neg hfull]
          exact hfill
        . rw [hsucc, List.take_succ_cons]
          rw [List.append_assoc] at hholds
          exact hholds

-- the mode that a text starts with, and what follows
def modeOf (p : List Int) : List Int × List Int :=
  match knownModes.find? (startsWithMode p) with
  | none => ([], p)
  | some mode => (mode, skipBlanks (p.drop mode.length))

-- the ASCII characters of a text, as many as fit
def asciiComment (p : List Int) : List Int :=
  (p.filter fun c => !isUtf c).take (dxcCommentLen - 1)

/-!
The spot in a line by its strings.
-/

def commentSpot (now : BitVec 64) (p spotter dxCall : List Int) (freqHz : BitVec 64) : DxSpot where
  freqHz := freqHz
  dxCall := dxCall
  spotter := spotter
  mode := (modeOf p).1
  comment := asciiComment (modeOf p).2
  when := now

def callSpot (now : BitVec 64) (p spotter : List Int) (freqHz : BitVec 64) : Option DxSpot :=
  let call := p.takeWhile fun c => decide (c ≠ blank)
  if call.length = 0 ∨ call.length ≥ dxcCallLen then
    none
  else
    some (commentSpot now (skipBlanks (p.drop call.length)) spotter call freqHz)

def frequencySpot (undef now : BitVec 64) (p spotter : List Int) : Option DxSpot :=
  match scan (skipBlanks p) with
  | none => none
  | some (freqKhz, p) =>
    if outOfRange freqKhz then none else callSpot now (skipBlanks p) spotter (toHz undef freqKhz)

def spotterSpot (undef now : BitVec 64) (p : List Int) : Option DxSpot :=
  match p.findIdx? fun c => decide (c = colon) with
  | none => none
  | some spotterLen =>
    if spotterLen = 0 ∨ spotterLen ≥ dxcCallLen then
      none
    else
      frequencySpot undef now (p.drop (spotterLen + 1))
        ((p.take spotterLen).rdropWhile fun c => decide (c = blank))

def parseSpot (undef now : BitVec 64) (line : List Int) : Option DxSpot :=
  let line := cString line
  if line.take 6 ≠ codes "DX de " ∧ line.take 6 ≠ codes "DX DE " then
    none
  else
    spotterSpot undef now (line.drop 6)

structure SpotRecord.Terminated (r : SpotRecord) : Prop where
  dxCall : r.dxCall.Terminated
  spotter : r.spotter.Terminated
  mode : r.mode.Terminated
  comment : r.comment.Terminated

-- no array has been overrun, and a spot that is returned is `spot`
def Returns (res : Option (Bool × SpotRecord)) (spot : Option DxSpot) : Prop :=
  ∃ r, res = some (spot.isSome, r) ∧ ∀ s ∈ spot, r.spot = s ∧ r.Terminated

theorem returns_none (out : SpotRecord) : Returns (some (false, out)) none :=
  ⟨out, rfl, fun s hs => absurd hs (Option.not_mem_none s)⟩

section

variable {undef now : BitVec 64} {p : List Int} {out : SpotRecord}

theorem zero_not_mem_skipBlanks (h : 0 ∉ p) : 0 ∉ skipBlanks p :=
  fun hmem => h ((List.dropWhile_sublist _).subset hmem)

theorem mode_spec : ∀ mode ∈ knownModes, mode.length < dxcModeLen ∧ 0 ∉ mode := by
  decide

theorem parseMode_spec (b : CharArray dxcModeLen) (p : List Int)
    : ∃ b', parseMode b p = some (b', (modeOf p).2) ∧ b'.Holds (modeOf p).1 := by
  obtain ⟨b₁, hput, hlist₁⟩ := put_spec (b := b) (i := 0) (by decide) 0
  unfold parseMode modeOf
  simp only [hput, Option.bind_eq_bind, Option.bind_some]
  cases hfind : knownModes.find? (startsWithMode p) with
  | none => exact ⟨b₁, rfl, List.not_mem_nil, b.toList.drop 1, by simpa using hlist₁⟩
  | some mode =>
    obtain ⟨hlength, hzero⟩ := mode_spec mode (List.mem_of_find?_eq_some hfind)
    obtain ⟨b₂, hcopy, hholds⟩ := copy_spec (b := b₁) hlength hzero
    dsimp only
    rw [List.take_of_length_le (by omega), hcopy]
    exact ⟨b₂, rfl, hholds⟩

theorem zero_not_mem_modeOf (h : 0 ∉ p) : 0 ∉ (modeOf p).2 := by
  unfold modeOf
  split
  . exact h
  . exact zero_not_mem_skipBlanks fun hmem => h (List.mem_of_mem_drop hmem)

theorem parseComment_spec {spotter dxCall : List Int} (hp : 0 ∉ p) (hspotter : out.spotter.Holds spotter)
    (hcall : out.dxCall.Holds dxCall)
    : Returns (parseComment now p out) (some (commentSpot now p spotter dxCall out.freqHz)) := by
  obtain ⟨mode, hparse, hmode⟩ := parseMode_spec out.mode p
  have hnone : out.comment.toList = [] ++ out.comment.toList := rfl
  obtain ⟨comment, hfill, hcomment⟩ := fillComment_spec hnone List.not_mem_nil (zero_not_mem_modeOf hp)
    (by decide)
  refine ⟨{ out with mode, comment, when := now }, ?_, ?_⟩
  . unfold parseComment
    rw [hparse]
    simp only [Option.bind_eq_bind, Option.bind_some]
    rw [List.length_nil] at hfill
    rw [hfill]
    rfl
  . intro s hs
    obtain rfl := Option.some.inj hs
    constructor
    . unfold SpotRecord.spot commentSpot
      rw [hspotter.text_eq, hcall.text_eq, hmode.text_eq, hcomment.text_eq]
      rfl
    . exact ⟨hcall.terminated, hspotter.terminated, hmode.terminated, hcomment.terminated⟩

theorem parseCall_spec {spotter : List Int} (hp : 0 ∉ p) (hspotter : out.spotter.Holds spotter)
    : Returns (parseCall now p out) (callSpot now p spotter out.freqHz) := by
  unfold parseCall callSpot
  dsimp only
  split
  . exact returns_none out
  next hlength =>
    have hzero : 0 ∉ p.takeWhile fun c => decide (c ≠ blank) :=
      fun hmem => hp ((List.takeWhile_sublist _).subset hmem)
    obtain ⟨call, hcopy, hcall⟩ := copy_spec (b := out.dxCall) (by omega) hzero
    rw [hcopy, Option.bind_eq_bind, Option.bind_some]
    have hrest : 0 ∉ p.drop (p.takeWhile fun c => decide (c ≠ blank)).length :=
      fun hmem => hp (List.mem_of_mem_drop hmem)
    apply parseComment_spec
    . exact zero_not_mem_skipBlanks hrest
    . exact hspotter
    . exact hcall

theorem parseFrequency_spec {spotter : List Int} (hp : 0 ∉ p) (hspotter : out.spotter.Holds spotter)
    : Returns (parseFrequency undef now p out) (frequencySpot undef now p spotter) := by
  unfold parseFrequency frequencySpot
  cases hscan : scan (skipBlanks p) with
  | none => exact returns_none out
  | some result =>
    obtain ⟨freqKhz, rest⟩ := result
    dsimp only
    split
    . exact returns_none out
    . have hrest : 0 ∉ rest := by
        intro hmem
        exact zero_not_mem_skipBlanks hp ((scan_suffix hscan).subset hmem)
      apply parseCall_spec
      . exact zero_not_mem_skipBlanks hrest
      . exact hspotter

theorem parseSpotter_spec (hp : 0 ∉ p)
    : Returns (parseSpotter undef now p out) (spotterSpot undef now p) := by
  unfold parseSpotter spotterSpot
  cases hcolon : p.findIdx? fun c => decide (c = colon) with
  | none => exact returns_none out
  | some spotterLen =>
    dsimp only
    split
    . exact returns_none out
    next hlength =>
      have hlen : (p.take spotterLen).length = spotterLen := by
        obtain ⟨hlt, -⟩ := List.findIdx?_eq_some_iff_getElem.mp hcolon
        rw [List.length_take]
        omega
      have hzero : 0 ∉ p.take spotterLen := fun hmem => hp (List.mem_of_mem_take hmem)
      have hroom : (p.take spotterLen).length < dxcCallLen := by omega
      obtain ⟨raw, hcopy, hraw⟩ := copy_spec (b := out.spotter) hroom hzero
      obtain ⟨spotter, hstrip, hspotter⟩ := stripSpotter_spec hraw
      rw [hlen] at hstrip
      rw [hcopy, Option.bind_eq_bind, Option.bind_some, hstrip, Option.bind_some]
      apply parseFrequency_spec _ hspotter
      exact fun hmem => hp (List.mem_of_mem_drop hmem)

theorem zero_not_mem_cString (memory : List Int) : 0 ∉ cString memory := by
  intro hmem
  have hne := List.mem_takeWhile_imp hmem
  simp at hne

-- For every line, no array is overrun, and each string of a spot is terminated.
theorem parseSpotLine_spec (undef now : BitVec 64) (line : List Int) (out : SpotRecord)
    : Returns (parseSpotLine undef now line out) (parseSpot undef now line) := by
  unfold parseSpotLine parseSpot
  dsimp only
  split
  . exact returns_none out
  . apply parseSpotter_spec
    exact fun hmem => zero_not_mem_cString line (List.mem_of_mem_drop hmem)

end

end DxCluster

namespace DxCluster

open Text Fixed

def blanks (n : Nat) : List Int :=
  List.replicate n blank

-- the characters up to a blank or a tab
def firstWord (p : List Int) : List Int :=
  p.takeWhile fun c => decide (c ≠ blank ∧ c ≠ 9)

/--
A line as a cluster sends it, by its fields and the blanks in front of them; `zulu` are the digits of the time
stamp, and `ending` is white space.
-/
structure SpotLine where
  spotterBlanks : Nat
  spotter : List Int
  colonBlanks : Nat
  frequencyBlanks : Nat
  int : List Int
  frac : Option (List Int)
  callBlanks : Nat
  dxCall : List Int
  modeBlanks : Nat
  mode : List Int
  commentBlanks : Nat
  comment : List Int
  zuluBlanks : Nat
  zulu : List Int
  ending : List Int
  spotterBlanks_pos : 0 < spotterBlanks
  spotter_ne : spotter ≠ []
  spotter_chars : ∀ c ∈ spotter, c ≠ 0 ∧ c ≠ blank ∧ c ≠ colon
  spotter_length : spotter.length < dxcCallLen
  int_ne : int ≠ []
  int_digits : ∀ c ∈ int, Decimal.IsDigit c
  frac_digits : ∀ ds ∈ frac, ∀ c ∈ ds, Decimal.IsDigit c
  callBlanks_pos : 0 < callBlanks
  dxCall_ne : dxCall ≠ []
  dxCall_chars : ∀ c ∈ dxCall, c ≠ 0 ∧ c ≠ blank
  dxCall_length : dxCall.length < dxcCallLen
  modeBlanks_pos : 0 < modeBlanks
  mode_known : mode = [] ∨ mode ∈ knownModes
  commentBlanks_pos : mode ≠ [] → 0 < commentBlanks
  comment_chars : 0 ∉ comment
  comment_head : comment.head? ≠ some blank
  comment_last : comment.getLast? ≠ some blank
  comment_mode : mode = [] → firstWord comment ∉ knownModes
  zuluBlanks_pos : comment ≠ [] → 0 < zuluBlanks
  zulu_length : zulu.length = 4
  zulu_digits : ∀ c ∈ zulu, Decimal.IsDigit c
  ending_chars : ∀ c ∈ ending, c = blank ∨ c = 9 ∨ c = 13 ∨ c = newline

namespace SpotLine

variable (l : SpotLine)

def stampText : List Int :=
  blanks l.zuluBlanks ++ (l.zulu ++ 90 :: l.ending)

def commentText : List Int :=
  l.comment ++ l.stampText

def modeText : List Int :=
  if l.mode = [] then l.commentText else l.mode ++ (blanks l.commentBlanks ++ l.commentText)

def callText : List Int :=
  l.dxCall ++ (blanks l.modeBlanks ++ l.modeText)

def frequencyText : List Int :=
  numeral l.int l.frac ++ (blanks l.callBlanks ++ l.callText)

def spotterText : List Int :=
  l.spotter ++ (blanks l.colonBlanks ++ colon :: (blanks l.frequencyBlanks ++ l.frequencyText))

def text : List Int :=
  codes "DX de" ++ (blanks l.spotterBlanks ++ l.spotterText)

-- the frequency in kHz
def khz : ℚ :=
  numeralValue l.int l.frac

end SpotLine

theorem skipBlanks_blanks (n : Nat) (p : List Int) : skipBlanks (blanks n ++ p) = skipBlanks p := by
  induction n with
  | zero => rfl
  | succ n ih =>
    rw [blanks, List.replicate_succ, List.cons_append, skipBlanks, List.dropWhile_cons, if_pos (by decide)]
    exact ih

theorem skipBlanks_of_head {p : List Int} (h : p.head? ≠ some blank) : skipBlanks p = p := by
  cases p with
  | nil => rfl
  | cons c p =>
    rw [skipBlanks, List.dropWhile_cons, if_neg]
    simpa using h

theorem blanks_pos {n : Nat} (h : 0 < n) : blanks n = blank :: blanks (n - 1) := by
  obtain ⟨n, rfl⟩ := Nat.exists_eq_succ_of_ne_zero h.ne'
  rfl

theorem mode_chars : ∀ mode ∈ knownModes, (∀ c ∈ mode, c ≠ 0 ∧ c ≠ blank ∧ c ≠ 9)
    ∧ ∃ c cs, mode = c :: cs ∧ ¬Decimal.IsDigit c := by
  have hall : ∀ mode ∈ knownModes, (∀ c ∈ mode, c ≠ 0 ∧ c ≠ blank ∧ c ≠ 9)
      ∧ mode ≠ [] ∧ ∀ c ∈ mode.head?, ¬Decimal.IsDigit c := by decide
  intro mode hmode
  obtain ⟨hchars, hne, hhead⟩ := hall mode hmode
  obtain ⟨c, cs, rfl⟩ := List.exists_cons_of_ne_nil hne
  exact ⟨hchars, c, cs, rfl, hhead c rfl⟩

-- a mode is recognised by the word that it is
theorem startsWithMode_iff {p mode : List Int} (h : ∀ c ∈ mode, c ≠ blank ∧ c ≠ 9)
    : startsWithMode p mode = true ↔ firstWord p = mode := by
  unfold startsWithMode firstWord
  rw [Bool.and_eq_true, decide_eq_true_eq]
  induction mode generalizing p with
  | nil =>
    cases p with
    | nil => simp
    | cons c p =>
      rw [List.takeWhile_cons]
      simp only [List.length_nil, List.take_zero, List.getElem?_cons_zero, Option.elim_some, true_and,
        decide_eq_true_eq]
      split
      next hc => simp; omega
      next hc => simp; omega
  | cons d mode ih =>
    cases p with
    | nil => simp
    | cons c p =>
      have hd := h d List.mem_cons_self
      rw [List.length_cons, List.take_succ_cons, List.getElem?_cons_succ, List.takeWhile_cons]
      split
      next hc =>
        rw [List.cons.injEq, List.cons.injEq, and_assoc,
          ih fun c hc => h c (List.mem_cons_of_mem d hc)]
      next hc =>
        rw [decide_eq_true_eq, not_and_or, not_not, not_not] at hc
        constructor
        . rintro ⟨heq, -⟩
          obtain ⟨rfl, -⟩ := List.cons.inj heq
          omega
        . intro heq
          contradiction

theorem find?_startsWithMode (p : List Int)
    : knownModes.find? (startsWithMode p) = if firstWord p ∈ knownModes then some (firstWord p) else none := by
  have hiff : ∀ mode ∈ knownModes, startsWithMode p mode = true ↔ firstWord p = mode := by
    intro mode hmode
    exact startsWithMode_iff fun c hc => ((mode_chars mode hmode).1 c hc).2
  split
  next hmem =>
    cases hfind : knownModes.find? (startsWithMode p) with
    | none =>
      have hnone := List.find?_eq_none.mp hfind (firstWord p) hmem
      exact absurd ((hiff _ hmem).mpr rfl) hnone
    | some mode =>
      have hmode := List.mem_of_find?_eq_some hfind
      rw [(hiff mode hmode).mp (List.find?_some hfind)]
  next hmem =>
    rw [List.find?_eq_none]
    intro mode hmode hstarts
    rw [(hiff mode hmode).mp hstarts] at hmem
    exact hmem hmode

theorem firstWord_append {word rest : List Int} (h : ∀ c ∈ word, c ≠ blank ∧ c ≠ 9)
    : firstWord (word ++ blank :: rest) = word := by
  unfold firstWord
  rw [Decimal.takeWhile_append_cons (by decide)]
  apply List.takeWhile_eq_self_iff.mpr
  intro c hc
  rw [decide_eq_true_eq]
  exact h c hc

-- only what is in front of a blank counts
theorem firstWord_append_blank (p rest : List Int) : firstWord (p ++ blank :: rest) = firstWord p :=
  Decimal.takeWhile_append_cons (by decide) p rest

namespace SpotLine

variable {l : SpotLine}

-- what the comment is copied from
def body (l : SpotLine) : List Int :=
  skipBlanks l.commentText

theorem zulu_cons (l : SpotLine) : ∃ c cs, l.zulu = c :: cs ∧ Decimal.IsDigit c := by
  have hlength := l.zulu_length
  obtain ⟨c, cs, hcons⟩ := List.exists_cons_of_length_pos (by omega : 0 < l.zulu.length)
  exact ⟨c, cs, hcons, l.zulu_digits c (by rw [hcons]; exact List.mem_cons_self)⟩

theorem head?_zulu (l : SpotLine) (rest : List Int) : (l.zulu ++ rest).head? ≠ some blank := by
  obtain ⟨c, cs, hcons, hdigit⟩ := l.zulu_cons
  rw [hcons, List.cons_append, List.head?_cons]
  intro heq
  rw [Option.some.inj heq] at hdigit
  exact absurd hdigit (by decide)

-- the comment, and something in ASCII behind it
theorem body_eq (l : SpotLine)
    : ∃ k, l.body = l.comment ++ (blanks k ++ (l.zulu ++ 90 :: l.ending)) ∧ (l.comment = [] → k = 0)
        ∧ (l.comment ≠ [] → 0 < k) := by
  by_cases hcomment : l.comment = []
  . refine ⟨0, ?_, fun _ => rfl, fun hne => absurd hcomment hne⟩
    rw [body, commentText, hcomment, List.nil_append, stampText, skipBlanks_blanks,
      skipBlanks_of_head (l.head?_zulu _)]
    rfl
  . refine ⟨l.zuluBlanks, ?_, fun h => absurd h hcomment, l.zuluBlanks_pos⟩
    obtain ⟨c, cs, hcons⟩ := List.exists_cons_of_ne_nil hcomment
    have hhead := l.comment_head
    rw [body, commentText, stampText]
    apply skipBlanks_of_head
    rw [hcons] at hhead ⊢
    exact hhead

theorem firstWord_body (hmode : l.mode = []) : firstWord l.body ∉ knownModes := by
  obtain ⟨k, hbody, hempty, hblank⟩ := l.body_eq
  rw [hbody]
  by_cases hcomment : l.comment = []
  . obtain ⟨c, cs, hcons, hdigit⟩ := l.zulu_cons
    rw [hempty hcomment, hcomment, hcons]
    intro hmem
    obtain ⟨-, d, ds, heq, hother⟩ := mode_chars _ hmem
    have hword : firstWord (c :: (cs ++ 90 :: l.ending)) = c :: firstWord (cs ++ 90 :: l.ending) := by
      apply List.takeWhile_cons_of_pos
      unfold Decimal.IsDigit at hdigit
      rw [decide_eq_true_eq]
      unfold blank
      omega
    have hsame : [] ++ (blanks 0 ++ (c :: cs ++ 90 :: l.ending)) = c :: (cs ++ 90 :: l.ending) := rfl
    rw [hsame, hword] at heq
    obtain ⟨rfl, -⟩ := List.cons.inj heq
    exact hother hdigit
  . rw [blanks_pos (hblank hcomment), List.cons_append, firstWord_append_blank]
    exact l.comment_mode hmode

-- the mode is recognised, and only if there is one
theorem modeOf_modeText (l : SpotLine) : modeOf (skipBlanks l.modeText) = (l.mode, l.body) := by
  by_cases hmode : l.mode = []
  . have htext : l.modeText = l.commentText := if_pos hmode
    have hfind : knownModes.find? (startsWithMode l.body) = none := by
      rw [find?_startsWithMode, if_neg (firstWord_body hmode)]
    rw [htext]
    change modeOf l.body = _
    rw [modeOf, hfind, hmode]
  . have htext : l.modeText = l.mode ++ (blanks l.commentBlanks ++ l.commentText) := if_neg hmode
    have hknown := l.mode_known.resolve_left hmode
    obtain ⟨hchars, c, cs, hcons, -⟩ := mode_chars _ hknown
    have hhead : l.modeText.head? ≠ some blank := by
      rw [htext, hcons, List.cons_append, List.head?_cons]
      intro heq
      have hc := hchars c (by rw [hcons]; exact List.mem_cons_self)
      exact hc.2.1 (Option.some.inj heq)
    have hword : firstWord l.modeText = l.mode := by
      rw [htext, blanks_pos (l.commentBlanks_pos hmode), List.cons_append]
      exact firstWord_append fun c hc => (hchars c hc).2
    have hfind : knownModes.find? (startsWithMode l.modeText) = some l.mode := by
      rw [find?_startsWithMode, hword, if_pos hknown]
    rw [skipBlanks_of_head hhead, modeOf, hfind]
    dsimp only
    rw [htext, List.drop_left, skipBlanks_blanks]
    rfl

-- the comment has no room for what is behind it exactly if it is long enough
theorem asciiComment_body (l : SpotLine)
    : asciiComment l.body = asciiComment l.comment
        ↔ dxcCommentLen - 1 ≤ (l.comment.filter fun c => !isUtf c).length := by
  obtain ⟨k, hbody, -, -⟩ := l.body_eq
  unfold asciiComment
  rw [hbody, List.filter_append, List.take_append]
  have hrest : (blanks k ++ (l.zulu ++ 90 :: l.ending)).filter (fun c => !isUtf c) ≠ [] := by
    intro hnil
    have hmem : (90 : Int) ∈ (blanks k ++ (l.zulu ++ 90 :: l.ending)).filter fun c => !isUtf c :=
      List.mem_filter.mpr ⟨by simp, by decide⟩
    rw [hnil] at hmem
    exact absurd hmem List.not_mem_nil
  generalize (blanks k ++ (l.zulu ++ 90 :: l.ending)).filter (fun c => !isUtf c) = rest at hrest ⊢
  rw [List.append_right_eq_self, List.take_eq_nil_iff]
  constructor
  . rintro (hzero | hnil)
    . omega
    . exact absurd hnil hrest
  . intro hle
    exact Or.inl (by omega)

theorem takeWhile_text {word : List Int} (h : ∀ c ∈ word, c ≠ blank) {n : Nat} (hn : 0 < n) (rest : List Int)
    : (word ++ (blanks n ++ rest)).takeWhile (fun c => decide (c ≠ blank)) = word := by
  rw [blanks_pos hn, List.cons_append, Decimal.takeWhile_append_cons (by decide)]
  apply List.takeWhile_eq_self_iff.mpr
  intro c hc
  rw [decide_eq_true_eq]
  exact h c hc

-- from the call on everything is found
theorem callSpot_callText (l : SpotLine) (now : BitVec 64) (spotter : List Int) (freqHz : BitVec 64)
    : callSpot now l.callText spotter freqHz
        = some {
            freqHz
            dxCall := l.dxCall
            spotter
            mode := l.mode
            comment := asciiComment l.body
            when := now } := by
  have hcall : l.callText.takeWhile (fun c => decide (c ≠ blank)) = l.dxCall :=
    takeWhile_text (fun c hc => (l.dxCall_chars c hc).2) l.modeBlanks_pos _
  have hlength : ¬(l.dxCall.length = 0 ∨ l.dxCall.length ≥ dxcCallLen) := by
    have hne := List.length_pos_iff.mpr l.dxCall_ne
    have hlt := l.dxCall_length
    omega
  have hdrop : skipBlanks (l.callText.drop l.dxCall.length) = skipBlanks l.modeText := by
    rw [callText, List.drop_left, skipBlanks_blanks]
  unfold callSpot
  dsimp only
  rw [hcall, if_neg hlength, hdrop, commentSpot, l.modeOf_modeText]

theorem blank_endsNumeral : EndsNumeral blank where
  digit := by decide
  point := by decide
  exponent := by decide
  hex := by decide

theorem head?_call (l : SpotLine) : l.callText.head? ≠ some blank := by
  obtain ⟨c, cs, hcons⟩ := List.exists_cons_of_ne_nil l.dxCall_ne
  have hc := l.dxCall_chars c (by rw [hcons]; exact List.mem_cons_self)
  rw [callText, hcons, List.cons_append, List.head?_cons]
  intro heq
  exact hc.2 (Option.some.inj heq)

theorem frequencySpot_frequencyText (l : SpotLine) (undef now : BitVec 64) (spotter : List Int)
    : frequencySpot undef now (blanks l.frequencyBlanks ++ l.frequencyText) spotter
        =
      if outOfRange (.finite (Rounding.round 53 l.khz)) then
        none
      else
        callSpot now l.callText spotter (toHz undef (.finite (Rounding.round 53 l.khz))) := by
  have hhead : l.frequencyText.head? ≠ some blank := by
    obtain ⟨c, cs, hcons⟩ := List.exists_cons_of_ne_nil l.int_ne
    have hc := l.int_digits c (by rw [hcons]; exact List.mem_cons_self)
    have htext : l.frequencyText.head? = some c := by
      rw [frequencyText, hcons]
      cases l.frac <;> rfl
    rw [htext]
    intro heq
    rw [Option.some.inj heq] at hc
    exact absurd hc (by decide)
  have hscan : scan l.frequencyText
      = some (.finite (Rounding.round 53 l.khz), blank :: (blanks (l.callBlanks - 1) ++ l.callText)) := by
    rw [frequencyText, blanks_pos l.callBlanks_pos, List.cons_append]
    exact scan_numeral _ l.int_ne l.int_digits l.frac_digits blank_endsNumeral
  have hskip : skipBlanks (blank :: (blanks (l.callBlanks - 1) ++ l.callText)) = l.callText := by
    rw [← List.cons_append, ← blanks_pos l.callBlanks_pos, skipBlanks_blanks, skipBlanks_of_head l.head?_call]
  unfold frequencySpot
  rw [skipBlanks_blanks, skipBlanks_of_head hhead, hscan]
  dsimp only
  rw [hskip]

-- what stands between `DX de ` and the colon
def spotterRaw (l : SpotLine) : List Int :=
  blanks (l.spotterBlanks - 1) ++ l.spotter ++ blanks l.colonBlanks

theorem colon_not_mem_spotterRaw (l : SpotLine) : colon ∉ l.spotterRaw := by
  unfold spotterRaw blanks
  rw [List.mem_append, List.mem_append, not_or, not_or]
  refine ⟨⟨?_, ?_⟩, ?_⟩
  . intro hmem
    exact absurd (List.eq_of_mem_replicate hmem) (by decide)
  . intro hmem
    exact (l.spotter_chars colon hmem).2.2 rfl
  . intro hmem
    exact absurd (List.eq_of_mem_replicate hmem) (by decide)

theorem length_spotterRaw (l : SpotLine)
    : l.spotterRaw.length = l.spotterBlanks - 1 + l.spotter.length + l.colonBlanks := by
  simp [spotterRaw, blanks, Nat.add_assoc]

theorem rdropWhile_blanks (p : List Int) (n : Nat)
    : (p ++ blanks n).rdropWhile (fun c => decide (c = blank)) = p.rdropWhile fun c => decide (c = blank) := by
  induction n with
  | zero => simp [blanks]
  | succ n ih =>
    have hsnoc : p ++ blanks (n + 1) = p ++ blanks n ++ [blank] := by
      rw [blanks, List.replicate_succ', blanks, List.append_assoc]
    rw [hsnoc, List.rdropWhile_concat, if_pos (by decide), ih]

-- the blanks behind the spotter are stripped, those in front of it are not
theorem rdropWhile_spotterRaw (l : SpotLine)
    : l.spotterRaw.rdropWhile (fun c => decide (c = blank)) = blanks (l.spotterBlanks - 1) ++ l.spotter := by
  obtain hempty | ⟨cs, c, hlast⟩ := List.eq_nil_or_concat l.spotter
  . exact absurd hempty l.spotter_ne
  . rw [List.concat_eq_append] at hlast
    have hc := l.spotter_chars c (by rw [hlast]; simp)
    rw [spotterRaw, rdropWhile_blanks, hlast, ← List.append_assoc, List.rdropWhile_concat, if_neg]
    simpa using hc.2.1

theorem spotterSpot_spotterText (l : SpotLine) (undef now : BitVec 64)
    : spotterSpot undef now (blanks (l.spotterBlanks - 1) ++ l.spotterText)
        =
      if l.spotterRaw.length ≥ dxcCallLen then
        none
      else
        frequencySpot undef now (blanks l.frequencyBlanks ++ l.frequencyText)
          (blanks (l.spotterBlanks - 1) ++ l.spotter) := by
  have htext : blanks (l.spotterBlanks - 1) ++ l.spotterText
      = l.spotterRaw ++ colon :: (blanks l.frequencyBlanks ++ l.frequencyText) := by
    simp [spotterRaw, spotterText]
  have hnone : l.spotterRaw.findIdx? (fun c => decide (c = colon)) = none := by
    rw [List.findIdx?_eq_none_iff]
    intro c hc
    rw [decide_eq_false_iff_not]
    rintro rfl
    exact l.colon_not_mem_spotterRaw hc
  have hfind : (l.spotterRaw ++ colon :: (blanks l.frequencyBlanks ++ l.frequencyText)).findIdx?
      (fun c => decide (c = colon)) = some l.spotterRaw.length := by
    rw [List.findIdx?_append, hnone, List.findIdx?_cons]
    simp
  have hpos : l.spotterRaw.length ≠ 0 := by
    have hspotter := List.length_pos_iff.mpr l.spotter_ne
    rw [length_spotterRaw]
    omega
  have hdrop : (l.spotterRaw ++ colon :: (blanks l.frequencyBlanks ++ l.frequencyText)).drop
      (l.spotterRaw.length + 1) = blanks l.frequencyBlanks ++ l.frequencyText := by
    rw [← List.drop_drop, List.drop_left]
    rfl
  unfold spotterSpot
  rw [htext, hfind]
  dsimp only
  rw [List.take_left, hdrop, l.rdropWhile_spotterRaw]
  simp only [hpos, false_or]

theorem zero_not_mem_blanks (n : Nat) : (0 : Int) ∉ blanks n := by
  intro hmem
  exact absurd (List.eq_of_mem_replicate hmem) (by decide)

theorem zero_not_mem_numeral {int : List Int} {frac : Option (List Int)}
    (hint : ∀ c ∈ int, Decimal.IsDigit c) (hfrac : ∀ ds ∈ frac, ∀ c ∈ ds, Decimal.IsDigit c)
    : 0 ∉ numeral int frac := by
  have hzero : ¬Decimal.IsDigit 0 := by decide
  cases frac with
  | none => exact fun hmem => hzero (hint 0 hmem)
  | some ds =>
    rw [numeral, List.mem_append, List.mem_cons, not_or, not_or]
    exact ⟨fun hmem => hzero (hint 0 hmem), by decide, fun hmem => hzero (hfrac ds rfl 0 hmem)⟩

theorem cString_text (l : SpotLine) : cString l.text = l.text := by
  have hzulu : 0 ∉ l.zulu := fun hmem => absurd (l.zulu_digits 0 hmem) (by decide)
  have hending : 0 ∉ l.ending := fun hmem => absurd (l.ending_chars 0 hmem) (by decide)
  have hspotter : 0 ∉ l.spotter := fun hmem => (l.spotter_chars 0 hmem).1 rfl
  have hcall : 0 ∉ l.dxCall := fun hmem => (l.dxCall_chars 0 hmem).1 rfl
  have hmode : 0 ∉ l.mode := by
    obtain hnone | hknown := l.mode_known
    . rw [hnone]
      exact List.not_mem_nil
    . exact fun hmem => ((mode_chars _ hknown).1 0 hmem).1 rfl
  have hcomment : 0 ∉ l.commentText := by
    rw [commentText, stampText]
    simp [l.comment_chars, zero_not_mem_blanks, hzulu, hending]
  have hmodeText : 0 ∉ l.modeText := by
    unfold modeText
    split
    . exact hcomment
    . simp [hmode, zero_not_mem_blanks, hcomment]
  have htext : 0 ∉ l.text := by
    have hcolon : (0 : Int) ≠ colon := by decide
    have hdx : (0 : Int) ∉ codes "DX de" := by decide
    simp [text, spotterText, frequencyText, callText, hdx, hcolon, zero_not_mem_blanks, hspotter, hcall,
      hmodeText, zero_not_mem_numeral l.int_digits l.frac_digits]
  apply List.takeWhile_eq_self_iff.mpr
  intro c hc
  rw [decide_eq_true_eq]
  rintro rfl
  exact htext hc

-- what becomes of a line
theorem parseSpot_text (l : SpotLine) (undef now : BitVec 64)
    : parseSpot undef now l.text
        =
      if l.spotterRaw.length ≥ dxcCallLen ∨ outOfRange (.finite (Rounding.round 53 l.khz)) = true then
        none
      else
        some {
          freqHz := toHz undef (.finite (Rounding.round 53 l.khz))
          dxCall := l.dxCall
          spotter := blanks (l.spotterBlanks - 1) ++ l.spotter
          mode := l.mode
          comment := asciiComment l.body
          when := now } := by
  have hline : l.text = codes "DX de " ++ (blanks (l.spotterBlanks - 1) ++ l.spotterText) := by
    rw [text, blanks_pos l.spotterBlanks_pos]
    rfl
  have htake : l.text.take 6 = codes "DX de " := by
    rw [hline]
    exact List.take_left' rfl
  have hdrop : l.text.drop 6 = blanks (l.spotterBlanks - 1) ++ l.spotterText := by
    rw [hline]
    exact List.drop_left' rfl
  unfold parseSpot
  rw [l.cString_text]
  dsimp only
  rw [if_neg (by simp [htake]), hdrop, l.spotterSpot_spotterText, l.frequencySpot_frequencyText,
    l.callSpot_callText]
  by_cases hlength : l.spotterRaw.length ≥ dxcCallLen
  . rw [if_pos hlength, if_pos (Or.inl hlength)]
  . rw [if_neg hlength]
    by_cases hrange : outOfRange (.finite (Rounding.round 53 l.khz)) = true
    . rw [if_pos hrange, if_pos (Or.inr hrange)]
    . rw [if_neg hrange, if_neg (not_or.mpr ⟨hlength, hrange⟩)]

end SpotLine

end DxCluster

namespace DxCluster

open Text Fixed

-- the frequency in Hz, which is the next one if it is not a whole number
structure NearestHz (khz : ℚ) (hz : BitVec 64) : Prop where
  whole : ∀ n : ℤ, khz * 1000 = n → hz.toInt = n
  near : |khz * 1000 - hz.toInt| ≤ 1 / 2 + 1 / 2 ^ 20

theorem value_nonneg {acc : Int} (hacc : 0 ≤ acc) {ds : List Int} (h : ∀ c ∈ ds, Decimal.IsDigit c)
    : 0 ≤ Decimal.value acc ds := by
  induction ds generalizing acc with
  | nil => exact hacc
  | cons c ds ih =>
    have hc := h c List.mem_cons_self
    unfold Decimal.IsDigit at hc
    have hnext : 0 ≤ 10 * acc + (c - 48) := by omega
    exact ih hnext fun d hd => h d (List.mem_cons_of_mem c hd)

theorem numeralValue_nonneg {int : List Int} {frac : Option (List Int)}
    (hint : ∀ c ∈ int, Decimal.IsDigit c) (hfrac : ∀ ds ∈ frac, ∀ c ∈ ds, Decimal.IsDigit c)
    : 0 ≤ numeralValue int frac := by
  have hall : ∀ c ∈ int ++ frac.getD [], Decimal.IsDigit c := by
    intro c hc
    obtain hc | hc := List.mem_append.mp hc
    . exact hint c hc
    . cases frac with
      | none => exact absurd hc List.not_mem_nil
      | some ds => exact hfrac ds rfl c hc
  have hvalue : (0 : ℚ) ≤ Decimal.value 0 (int ++ frac.getD []) := by exact_mod_cast value_nonneg le_rfl hall
  exact div_nonneg hvalue (by positivity)

theorem khz_lt {khz : ℚ} (hle : Rounding.round 53 khz ≤ 200000) : khz < 2 ^ (18 : ℤ) := by
  by_contra hlarge
  have hround := Rounding.two_pow_le_round (p := 53) (by decide) (not_lt.mp hlarge)
  norm_num at hround
  linarith

-- the errors of the three roundings
theorem abs_rounded_sub_le {khz : ℚ} (hnonneg : 0 ≤ khz) (hle : Rounding.round 53 khz ≤ 200000)
    : |Rounding.round 53 (Rounding.round 53 (Rounding.round 53 khz * 1000) + 1 / 2) - (khz * 1000 + 1 / 2)|
        ≤ 1 / 2 ^ 24 := by
  have hsmall := khz_lt hle
  have hx := Rounding.abs_round_sub_le (p := 53) (q := khz) (k := 18) (by rw [abs_of_nonneg hnonneg]; exact hsmall)
  have hx0 := Rounding.round_nonneg (p := 53) hnonneg
  generalize Rounding.round 53 khz = x at hx hx0 hle ⊢
  have hy := Rounding.abs_round_sub_le (p := 53) (q := x * 1000) (k := 28) (by
    rw [abs_of_nonneg (by linarith)]
    norm_num
    linarith)
  have hy0 := Rounding.round_nonneg (p := 53) (q := x * 1000) (by linarith)
  generalize Rounding.round 53 (x * 1000) = y at hy hy0 ⊢
  norm_num at hx hy
  rw [abs_le] at hx hy
  have hz := Rounding.abs_round_sub_le (p := 53) (q := y + 1 / 2) (k := 28) (by
    rw [abs_of_nonneg (by linarith)]
    norm_num
    linarith)
  generalize Rounding.round 53 (y + 1 / 2) = z at hz ⊢
  norm_num at hz ⊢
  rw [abs_le] at hz ⊢
  constructor <;> linarith

theorem nearestHz {khz : ℚ} (hnonneg : 0 ≤ khz)
    (hrange : outOfRange (.finite (Rounding.round 53 khz)) = false) (undef : BitVec 64)
    : NearestHz khz (toHz undef (.finite (Rounding.round 53 khz))) := by
  unfold outOfRange at hrange
  rw [decide_eq_false_iff_not, not_or, not_lt, not_lt] at hrange
  obtain ⟨hone, hle⟩ := hrange
  have herr := abs_rounded_sub_le hnonneg hle
  have htoHz : toHz undef (.finite (Rounding.round 53 khz)) = BitVec.ofInt 64
      ⌊Rounding.round 53 (Rounding.round 53 (Rounding.round 53 khz * 1000) + 1 / 2)⌋ := rfl
  rw [htoHz]
  generalize Rounding.round 53 (Rounding.round 53 (Rounding.round 53 khz * 1000) + 1 / 2) = z at herr ⊢
  have hlo := Int.floor_le z
  have hhi := Int.lt_floor_add_one z
  have hsmall := khz_lt hle
  norm_num at herr hsmall
  rw [abs_le] at herr
  have hfloor : 0 ≤ ⌊z⌋ := by
    apply Int.floor_nonneg.mpr
    linarith
  have hbound : ⌊z⌋ < 2 ^ 63 := by
    have hlt : (⌊z⌋ : ℚ) < 2 ^ 63 := by
      norm_num
      linarith
    exact_mod_cast hlt
  have hint : (BitVec.ofInt 64 ⌊z⌋).toInt = ⌊z⌋ := by
    apply BitVec.toInt_ofInt_eq_self (by decide) <;> omega
  constructor
  . intro n hn
    rw [hint, Int.floor_eq_iff]
    constructor <;> linarith
  . rw [hint, abs_le]
    norm_num
    constructor <;> linarith

theorem rdropWhile_append {p : Int → Bool} {cs ds : List Int} (h : ∀ c ∈ ds, p c = true)
    : (cs ++ ds).rdropWhile p = cs.rdropWhile p := by
  induction ds using List.reverseRecOn with
  | nil => rw [List.append_nil]
  | append_singleton ds d ih =>
    rw [← List.append_assoc, List.rdropWhile_concat, if_pos (h d (by simp))]
    exact ih fun c hc => h c (List.mem_append_left _ hc)

theorem rdropWhile_of_getLast? {p : Int → Bool} {cs : List Int} (h : ∀ c ∈ cs.getLast?, p c = false)
    : cs.rdropWhile p = cs := by
  obtain rfl | ⟨cs, c, rfl⟩ := List.eq_nil_or_concat cs
  . rfl
  . rw [List.concat_eq_append] at h ⊢
    rw [List.rdropWhile_concat, if_neg]
    simp [h c (by simp)]

namespace SpotLine

-- the length that is worked out, and not used, is that of the comment
theorem remain_body (l : SpotLine) : remain l.body = l.comment.length := by
  obtain ⟨k, hbody, -, -⟩ := l.body_eq
  have htext : l.body = l.comment ++ blanks k ++ l.zulu ++ [90] ++ l.ending := by
    rw [hbody]
    simp
  have hspace : l.body.rdropWhile (fun c => decide (c = newline ∨ c = 13 ∨ c = blank ∨ c = 9))
      = l.comment ++ blanks k ++ l.zulu ++ [90] := by
    rw [htext, rdropWhile_append, rdropWhile_of_getLast?]
    . intro c hc
      rw [List.getLast?_concat] at hc
      rw [← Option.some.inj hc]
      decide
    . intro c hc
      have hc := l.ending_chars c hc
      rw [decide_eq_true_eq]
      tauto
  have hlength : (l.comment ++ blanks k ++ l.zulu ++ [90]).length - 5 = (l.comment ++ blanks k).length := by
    rw [List.length_append, List.length_append, l.zulu_length, List.length_singleton]
    omega
  have hstamp : (l.comment ++ blanks k ++ l.zulu ++ [90]).drop (l.comment ++ blanks k).length
      = l.zulu ++ [90] := by
    rw [List.append_assoc (l.comment ++ blanks k), List.drop_left]
  have hfront : (l.comment ++ blanks k ++ l.zulu ++ [90]).take (l.comment ++ blanks k).length
      = l.comment ++ blanks k := by
    rw [List.append_assoc (l.comment ++ blanks k), List.take_left]
  have hcomment : (l.comment ++ blanks k).rdropWhile (fun c => decide (c = blank)) = l.comment := by
    rw [rdropWhile_blanks, rdropWhile_of_getLast?]
    intro c hc
    rw [decide_eq_false_iff_not]
    rintro rfl
    exact l.comment_last hc
  unfold remain
  dsimp only
  rw [hspace, hlength, hstamp, hfront, hcomment, if_pos]
  refine ⟨by simp [l.zulu_length], by simp, ?_⟩
  rw [List.dropLast_concat]
  exact l.zulu_digits

-- so the comment would be right if the length was used
theorem asciiComment_remain (l : SpotLine)
    : asciiComment (l.body.take (remain l.body)) = asciiComment l.comment := by
  obtain ⟨k, hbody, -, -⟩ := l.body_eq
  rw [remain_body, hbody, List.take_left]

-- what is expected of the spot in a line
structure Parsed (l : SpotLine) (s : DxSpot) : Prop where
  spotter : s.spotter = l.spotter
  frequency : NearestHz l.khz s.freqHz
  dxCall : s.dxCall = l.dxCall
  mode : s.mode = l.mode
  comment : s.comment = asciiComment l.comment

-- The frequency is in the range of the parser, the spotter is where it expects it, and the comment fills its
-- array.
structure Clean (l : SpotLine) : Prop where
  spotterBlanks : l.spotterBlanks = 1
  spotterLength : l.spotter.length + l.colonBlanks < dxcCallLen
  atLeast : 1 ≤ Rounding.round 53 l.khz
  atMost : Rounding.round 53 l.khz ≤ 200000
  comment : dxcCommentLen - 1 ≤ (l.comment.filter fun c => !isUtf c).length

theorem parsed_iff (l : SpotLine) (undef now : BitVec 64)
    : (∃ s ∈ parseSpot undef now l.text, l.Parsed s) ↔ l.Clean := by
  have hrange : outOfRange (.finite (Rounding.round 53 l.khz)) = true
      ↔ Rounding.round 53 l.khz < 1 ∨ Rounding.round 53 l.khz > 200000 := by
    rw [outOfRange, decide_eq_true_eq]
  have hlength := l.length_spotterRaw
  have hspotter : blanks (l.spotterBlanks - 1) ++ l.spotter = l.spotter ↔ l.spotterBlanks = 1 := by
    have hpos := l.spotterBlanks_pos
    constructor
    . intro heq
      have hlen := congrArg List.length heq
      simp only [List.length_append, blanks, List.length_replicate] at hlen
      omega
    . intro hone
      rw [hone]
      rfl
  rw [l.parseSpot_text]
  constructor
  . rintro ⟨s, hs, hparsed⟩
    split at hs
    . exact absurd hs (Option.not_mem_none s)
    next hclean =>
      obtain rfl := Option.some.inj hs
      rw [hrange, not_or, not_or, not_lt, not_lt] at hclean
      have hone := hspotter.mp hparsed.spotter
      constructor
      . exact hone
      . omega
      . exact hclean.2.1
      . exact hclean.2.2
      . exact l.asciiComment_body.mp hparsed.comment
  . intro hclean
    have hin : ¬(l.spotterRaw.length ≥ dxcCallLen
        ∨ outOfRange (.finite (Rounding.round 53 l.khz)) = true) := by
      rw [hrange, not_or, not_or, not_lt, not_lt]
      have hone := hclean.spotterBlanks
      have hlen := hclean.spotterLength
      exact ⟨by omega, hclean.atLeast, hclean.atMost⟩
    rw [if_neg hin]
    refine ⟨_, rfl, ?_⟩
    have hfalse : outOfRange (.finite (Rounding.round 53 l.khz)) = false := by
      rw [← Bool.not_eq_true]
      exact (not_or.mp hin).2
    constructor
    case spotter => exact hspotter.mpr hclean.spotterBlanks
    case frequency => exact nearestHz (numeralValue_nonneg l.int_digits l.frac_digits) hfalse undef
    case dxCall => rfl
    case mode => rfl
    case comment => exact l.asciiComment_body.mpr hclean.comment

end SpotLine

-- For every line no array is overrun and the strings are terminated, and from a line of a cluster exactly its
-- fields are returned exactly if it is clean.
theorem parseSpotLine_exact (undef now : BitVec 64) (out : SpotRecord)
    : (∀ line, ∃ ok r, parseSpotLine undef now line out = some (ok, r) ∧ (ok = true → r.Terminated))
        ∧ ∀ l : SpotLine, (∃ r, parseSpotLine undef now l.text out = some (true, r) ∧ l.Parsed r.spot)
          ↔ l.Clean := by
  constructor
  . intro line
    obtain ⟨r, hparse, hspot⟩ := parseSpotLine_spec undef now line out
    refine ⟨_, r, hparse, ?_⟩
    intro hok
    obtain ⟨s, hs⟩ := Option.isSome_iff_exists.mp hok
    exact (hspot s hs).2
  . intro l
    obtain ⟨r, hparse, hspot⟩ := parseSpotLine_spec undef now l.text out
    rw [← l.parsed_iff undef now]
    constructor
    . rintro ⟨r', hparse', hparsed⟩
      rw [hparse] at hparse'
      obtain ⟨hok, rfl⟩ := Prod.mk.inj (Option.some.inj hparse')
      obtain ⟨s, hs⟩ := Option.isSome_iff_exists.mp hok
      refine ⟨s, hs, ?_⟩
      rw [← (hspot s hs).1]
      exact hparsed
    . rintro ⟨s, hs, hparsed⟩
      refine ⟨r, ?_, ?_⟩
      . rw [hparse, Option.isSome_iff_exists.mpr ⟨s, hs⟩]
      . rw [(hspot s hs).1]
        exact hparsed

-- the line that a comment of the parser gives as an example
def exampleLine : SpotLine where
  spotterBlanks := 1
  spotter := codes "SPOTTER"
  colonBlanks := 0
  frequencyBlanks := 4
  int := codes "14076"
  frac := some (codes "0")
  callBlanks := 2
  dxCall := codes "DXCALL"
  modeBlanks := 7
  mode := codes "FT8"
  commentBlanks := 1
  comment := codes "-12 dB into MA"
  zuluBlanks := 6
  zulu := codes "1430"
  ending := []
  spotterBlanks_pos := by decide
  spotter_ne := by decide
  spotter_chars := by decide
  spotter_length := by decide
  int_ne := by decide
  int_digits := by decide
  frac_digits := by decide
  callBlanks_pos := by decide
  dxCall_ne := by decide
  dxCall_chars := by decide
  dxCall_length := by decide
  modeBlanks_pos := by decide
  mode_known := by decide
  commentBlanks_pos := by decide
  comment_chars := by decide
  comment_head := by decide
  comment_last := by decide
  comment_mode := by decide
  zuluBlanks_pos := by decide
  zulu_length := by decide
  zulu_digits := by decide
  ending_chars := by decide

def emptyRecord : SpotRecord :=
  ⟨0, Vector.replicate _ 0, Vector.replicate _ 0, Vector.replicate _ 0, Vector.replicate _ 0, 0⟩

theorem not_parsed_exampleLine
    : ¬∃ r, parseSpotLine 0 0 exampleLine.text emptyRecord = some (true, r) ∧ exampleLine.Parsed r.spot := by
  rintro ⟨r, hparse, hparsed⟩
  obtain ⟨r', hparse', hspot⟩ := parseSpotLine_spec 0 0 exampleLine.text emptyRecord
  rw [hparse] at hparse'
  obtain ⟨hok, rfl⟩ := Prod.mk.inj (Option.some.inj hparse')
  obtain ⟨s, hs⟩ := Option.isSome_iff_exists.mp hok.symm
  rw [(hspot s hs).1] at hparsed
  have hclean := (exampleLine.parsed_iff 0 0).mp ⟨s, hs, hparsed⟩
  exact absurd hclean.comment (by decide)

end DxCluster
