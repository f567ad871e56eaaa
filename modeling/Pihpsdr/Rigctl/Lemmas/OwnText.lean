import Pihpsdr.Rigctl.Lemmas.Command
import Pihpsdr.Rigctl.Impl.Parse
import Pihpsdr.Vfo.Lemmas.Change

/-!
The effect of a CAT command depends on its own text exactly if its tests for `;` do not look behind
the end of the command, or if what they find makes no difference.
-/

namespace Rigctl

-- the text of a command and its zero
def textByte (body : List CChar) (i : Nat) : CChar :=
  (commandText body ++ [0]).getD i 0

def textLetter (body : List CChar) (i : Nat) : Char :=
  letter (textByte body i)

def textCase (lib : CLibrary) (body : List CChar) : Option CatCase :=
  catCase lib (textLetter body)

-- the arguments for which a command does nothing, or has the same answer as without them
def ArgumentIgnored (body : List CChar) : Prop :=
  let name := (textLetter body 0, textLetter body 1)
  let x := atoi (body.drop 2)
  (name = ('K', 'S') ∧ ¬ (1 ≤ x ∧ x ≤ 60)) ∨ (name = ('S', 'Q') ∧ 1 < x)
    ∨ (name = ('S', 'A') ∧ textByte body 2 = 49 ∧ 5 ≤ body.length)

-- what the text of a command has to be like
def OwnText (lib : CLibrary) (body : List CChar) : Prop :=
  match textCase lib body with
  | some c => TestsInside body.length c.tests ∨ ArgumentIgnored body
  | none => True

variable {lib : CLibrary} {command command' : CommandBuffer} {body : List CChar}

theorem textByte_length (body : List CChar) : textByte body body.length = semicolon := by
  simp [textByte, commandText]

-- no label is a `;`
theorem letters_of_findCase {entries : List CatEntry} {a b : Char} {c : CatCase}
    (hlabels : entries.all fun e => decide (e.outer ≠ ';' ∧ e.inner ≠ ';'))
    (h : findCase entries a b = some c)
    : a ≠ ';' ∧ b ≠ ';' := by
  have ⟨e, hmem, houter, hinner, _⟩ := mem_of_findCase h
  rw [← houter, ← hinner]
  exact of_decide_eq_true (List.all_eq_true.mp hlabels e hmem)

theorem standard_letters {a b : Char} {c : CatCase} (h : findCase (standardCmds lib) a b = some c)
    : a ≠ ';' ∧ b ≠ ';' :=
  letters_of_findCase rfl h

theorem extended_letters {a b : Char} {c : CatCase} (h : findCase (extendedCmds lib) a b = some c)
    : a ≠ ';' ∧ b ≠ ';' :=
  letters_of_findCase rfl h

theorem textLetter_eq (h : command.Holds (commandText body)) {i : Nat} (hi : i ≤ body.length + 1)
    : letter (command.byte i) = textLetter body i := by
  rw [textLetter, textByte, byte_eq h hi]

theorem letter_semicolon : letter semicolon = ';' := by
  decide

theorem ne_length_of_textLetter {i : Nat} (h : textLetter body i ≠ ';') : i ≠ body.length := by
  intro heq
  rw [heq, textLetter, textByte_length, letter_semicolon] at h
  exact h rfl

theorem catCase_congr {ch ch' : Nat → Char} (h0 : ch 0 = ch' 0) (h1 : ch 1 = ch' 1)
    (hz : ch' 0 = 'Z' ∧ ch' 1 = 'Z' → ch 2 = ch' 2 ∧ ch 3 = ch' 3)
    : catCase lib ch = catCase lib ch' := by
  simp only [catCase, h0, h1]
  split
  next h =>
    have ⟨h2, h3⟩ := hz h
    rw [h2, h3]
  next => rfl

-- the switches look at the text only
theorem catCase_eq (h : command.Holds (commandText body))
    : catCase lib (fun i => letter (command.byte i)) = textCase lib body := by
  apply catCase_congr
  . apply textLetter_eq h
    omega
  . apply textLetter_eq h
    omega
  . intro hz
    have h0 : 0 ≠ body.length := by
      apply ne_length_of_textLetter
      rw [hz.1]
      decide
    have h1 : 1 ≠ body.length := by
      apply ne_length_of_textLetter
      rw [hz.2]
      decide
    exact ⟨textLetter_eq h (by omega), textLetter_eq h (by omega)⟩

theorem parseCmd_eq_textCase (h : command.Holds (commandText body)) (s : Rig)
    : parseCmd lib command s
        =
      match textCase lib body with
      | some c => c.exec command s
      | none => s.unimplemented := by
  show (match catCase lib fun i => letter (command.byte i) with
    | some c => c.exec command s
    | none => s.unimplemented) = _
  rw [catCase_eq h]

-- a command with two letters, or one with `ZZ` and two more
theorem entry_of_textCase {c : CatCase} (hc : textCase lib body = some c)
    : (∃ e ∈ standardCmds lib, e.case = c ∧ 2 ≤ body.length
          ∧ textLetter body 0 = e.outer ∧ textLetter body 1 = e.inner)
        ∨ ∃ e ∈ extendedCmds lib, e.case = c ∧ 4 ≤ body.length := by
  unfold textCase catCase at hc
  split at hc
  next hz =>
    have ⟨h2, h3⟩ := extended_letters hc
    have h0 : textLetter body 0 ≠ ';' := by
      rw [hz.1]
      decide
    have h1 : textLetter body 1 ≠ ';' := by
      rw [hz.2]
      decide
    have := ne_length_of_textLetter h0
    have := ne_length_of_textLetter h1
    have := ne_length_of_textLetter h2
    have := ne_length_of_textLetter h3
    have ⟨e, hmem, _, _, hcase⟩ := mem_of_findCase hc
    exact .inr ⟨e, hmem, hcase, by omega⟩
  next =>
    have ⟨h0, h1⟩ := standard_letters hc
    have := ne_length_of_textLetter h0
    have := ne_length_of_textLetter h1
    have ⟨e, hmem, houter, hinner, hcase⟩ := mem_of_findCase hc
    exact .inl ⟨e, hmem, hcase, by omega, houter.symm, hinner.symm⟩

-- the least length of a command with a name, and where its arguments may start
theorem textCase_some {c : CatCase} (hc : textCase lib body = some c)
    : ∃ m ≤ body.length, c.branches.all (·.argsInside m) := by
  cases entry_of_textCase hc with
  | inl hstandard =>
    have ⟨e, hmem, hcase, hlen, _⟩ := hstandard
    have hargs := List.all_eq_true.mp (argsInside_standardCmds lib) e hmem
    exact ⟨2, hlen, hcase ▸ hargs⟩
  | inr hextended =>
    have ⟨e, hmem, hcase, hlen⟩ := hextended
    have hargs := List.all_eq_true.mp (argsInside_extendedCmds lib) e hmem
    exact ⟨4, hlen, hcase ▸ hargs⟩

theorem parseCmd_eq_of_inside (h : command.Holds (commandText body))
    (h' : command'.Holds (commandText body)) (hbody : semicolon ∉ body) {c : CatCase}
    (hc : textCase lib body = some c) (hin : TestsInside body.length c.tests) (s : Rig)
    : parseCmd lib command s = parseCmd lib command' s := by
  have ⟨m, hm, hargs⟩ := textCase_some hc
  rw [parseCmd_eq_textCase h, parseCmd_eq_textCase h', hc]
  exact c.exec_eq h h' hbody hargs hm hin s

-- a case with two branches, of which the second one has no effect
theorem CatCase.exec_of_idle (h : command.Holds (commandText body)) (hbody : semicolon ∉ body)
    {c : CatCase} {first second : CatBranch} (hc : c.branches = [first, second]) {i j : Nat}
    (hfirst : first.test = some i) (hsecond : second.test = some j) (hi : i ≤ body.length + 1)
    {s : Rig} (hidle : i ≠ body.length → second.exec command s = c.otherwise s)
    : c.exec command s = if i = body.length then first.exec command s else c.otherwise s := by
  have hiff := byte_eq_semicolon_iff h hbody hi
  rw [CatCase.exec, hc, List.find?_cons, taken_of_some hfirst]
  split_ifs with heq
  . rw [decide_eq_true (hiff.mpr heq)]
  . rw [decide_eq_false (fun hc => heq (hiff.mp hc)), List.find?_cons, taken_of_some hsecond]
    cases decide (command.byte j = semicolon) with
    | true => exact hidle heq
    | false => rfl

theorem CatBranch.exec_atoi (i off : Nat) (run : Int → Rig → Outcome) (s : Rig)
    : (CatBranch.atoi i off run).exec command s = run (Rigctl.atoi (command.behind off)) s := rfl

theorem CatBranch.exec_atoll (i off : Nat) (run : Int → Rig → Outcome) (s : Rig)
    : (CatBranch.atoll i off run).exec command s = run (Rigctl.atoll (command.behind off)) s := rfl

theorem atoi_behind (h : command.Holds (commandText body)) {off : Nat}
    (hoff : off ≤ body.length + 1)
    : atoi (command.behind off) = atoi (body.drop off) := by
  rw [atoi, atoi, parse_behind h hoff]

-- the case for the name of a command with two letters
theorem textCase_of_name (lib : CLibrary) {a b : Char} {c : CatCase}
    (hname : (textLetter body 0, textLetter body 1) = (a, b)) (ha : a ≠ 'Z')
    (hparse : findCase (standardCmds lib) a b = some c)
    : textCase lib body = some c ∧ 2 ≤ body.length := by
  have ⟨h0, h1⟩ := Prod.mk.inj hname
  have ⟨hne0, hne1⟩ := standard_letters hparse
  rw [← h0] at hne0
  rw [← h1] at hne1
  have := ne_length_of_textLetter hne0
  have := ne_length_of_textLetter hne1
  constructor
  . rw [textCase, catCase, if_neg, h0, h1]
    . exact hparse
    . intro hz
      exact ha (h0.symm.trans hz.1)
  . omega

-- a speed out of range
theorem exec_catKs (h : command.Holds (commandText body)) (hbody : semicolon ∉ body)
    (hlen : 2 ≤ body.length) (hx : ¬ (1 ≤ atoi (body.drop 2) ∧ atoi (body.drop 2) ≤ 60)) (s : Rig)
    : catKs.exec command s
        =
      if 2 = body.length then s.answerInt ['K', 'S'] 3 s.cwKeyerSpeed else s.silent := by
  apply catKs.exec_of_idle h hbody rfl rfl rfl (by omega)
  intro _
  rw [CatBranch.exec_atoi, atoi_behind h (by omega), ksSet, if_neg hx]
  rfl

theorem radioSetSquelch_of_le {s : Rig} {id : Int} (h : s.receivers ≤ id) (value : ℚ)
    : s.radioSetSquelch id value = s :=
  if_pos h

-- a receiver that does not exist
theorem exec_catSq (h : command.Holds (commandText body)) (hbody : semicolon ∉ body)
    (hlen : 2 ≤ body.length) (hx : 1 < atoi (body.drop 2)) {s : Rig}
    (hs : s.radio.config.receivers ≤ 2)
    : catSq.exec command s
        =
      if 3 = body.length then sqRead (atoi (body.drop 2)) s else s.silent := by
  rw [← atoi_behind h (by omega)] at hx ⊢
  apply catSq.exec_of_idle h hbody rfl rfl rfl (by omega)
  intro _
  have hle : s.receivers ≤ atoi (command.behind 2) := by
    rw [Rig.receivers]
    omega
  exact congrArg (fun s : Rig => (s, none)) (radioSetSquelch_of_le hle _)

theorem byte_eq_textByte (h : command.Holds (commandText body)) {i : Nat}
    (hi : i ≤ body.length + 1)
    : command.byte i = textByte body i :=
  byte_eq h hi

-- the end of the command stands where one of the two digits of the mode should be
theorem saSet_of_short (h : command.Holds (commandText body)) (hlen : 5 ≤ body.length)
    (hlen' : body.length ≤ 7) (s : Rig)
    : saSet 49 (command.byte 6) (command.byte 7) s = s.unimplemented := by
  have hdigit : (command.byte 6 ≠ 48 ∧ command.byte 6 ≠ 49)
      ∨ (command.byte 7 ≠ 48 ∧ command.byte 7 ≠ 49) := by
    have hcases : body.length = 5 ∨ body.length = 6 ∨ body.length = 7 := by omega
    cases hcases with
    | inl hfive =>
      left
      rw [byte_eq_textByte h (by omega), textByte, commandText]
      simp [hfive]
    | inr hmore =>
      cases hmore with
      | inl hsix =>
        left
        rw [byte_eq_textByte h (by omega), ← hsix, textByte_length]
        decide
      | inr hseven =>
        right
        rw [byte_eq_textByte h (by omega), ← hseven, textByte_length]
        decide
  unfold saSet
  rw [if_neg (by decide), if_pos rfl, if_neg (by tauto), if_neg (by tauto), if_neg (by tauto)]

-- a mode of the satellite operation that cannot be read
theorem exec_catSa (h : command.Holds (commandText body)) (hbody : semicolon ∉ body)
    (hone : textByte body 2 = 49) (hlen : 5 ≤ body.length) (hlen' : body.length ≤ 7) (s : Rig)
    : catSa.exec command s = s.unimplemented := by
  rw [catSa.exec_of_idle h hbody rfl rfl rfl (by omega), if_neg (by omega)]
  . rfl
  . intro _
    have hset : saSet (command.byte 2) (command.byte 6) (command.byte 7) s = s.unimplemented := by
      rw [byte_eq_textByte h (by omega : 2 ≤ body.length + 1), hone]
      exact saSet_of_short h hlen hlen' s
    exact hset

theorem testsInside_catSa (hlen : 8 ≤ body.length) : TestsInside body.length catSa.tests := by
  refine ⟨by omega, .inr ⟨by omega, .inr trivial⟩⟩

theorem parseCmd_eq_of_ignored (h : command.Holds (commandText body))
    (h' : command'.Holds (commandText body)) (hbody : semicolon ∉ body)
    (hignored : ArgumentIgnored body) {s : Rig} (hs : s.radio.config.receivers ≤ 2)
    : parseCmd lib command s = parseCmd lib command' s := by
  obtain ⟨hname, hx⟩ | ⟨hname, hx⟩ | ⟨hname, hone, hlen⟩ := hignored
  . have ⟨hc, hlen⟩ := textCase_of_name lib hname (by decide) rfl
    rw [parseCmd_eq_textCase h, parseCmd_eq_textCase h', hc]
    exact (exec_catKs h hbody hlen hx s).trans (exec_catKs h' hbody hlen hx s).symm
  . have ⟨hc, hlen⟩ := textCase_of_name lib hname (by decide) rfl
    rw [parseCmd_eq_textCase h, parseCmd_eq_textCase h', hc]
    exact (exec_catSq h hbody hlen hx hs).trans (exec_catSq h' hbody hlen hx hs).symm
  . have ⟨hc, _⟩ := textCase_of_name lib hname (by decide) rfl
    by_cases hlen' : body.length ≤ 7
    . rw [parseCmd_eq_textCase h, parseCmd_eq_textCase h', hc]
      exact (exec_catSa h hbody hone hlen hlen' s).trans
        (exec_catSa h' hbody hone hlen hlen' s).symm
    . exact parseCmd_eq_of_inside h h' hbody hc (testsInside_catSa (by omega)) s

theorem parseCmd_eq_of_ownText (h : command.Holds (commandText body))
    (h' : command'.Holds (commandText body)) (hbody : semicolon ∉ body) (hown : OwnText lib body)
    {s : Rig} (hs : s.radio.config.receivers ≤ 2)
    : parseCmd lib command s = parseCmd lib command' s := by
  cases hc : textCase lib body with
  | none => rw [parseCmd_eq_textCase h, parseCmd_eq_textCase h', hc]
  | some c =>
    rw [OwnText, hc] at hown
    cases hown with
    | inl hin => exact parseCmd_eq_of_inside h h' hbody hc hin s
    | inr hignored => exact parseCmd_eq_of_ignored h h' hbody hignored hs

-- a buffer with a text, its zero and given bytes behind them
def CommandBuffer.ofText (text : List CChar) (rest : Nat → CChar) : CommandBuffer :=
  Vector.ofFn fun i => (text ++ [0]).getD i.val (rest i.val)

theorem toList_ofText (text : List CChar) (rest : Nat → CChar) {i : Nat} (hi : i < maxDataSize)
    : (CommandBuffer.ofText text rest).toList[i]? = some ((text ++ [0]).getD i (rest i)) := by
  rw [CommandBuffer.ofText, Vector.toList_ofFn, List.getElem?_ofFn, dif_pos hi]

theorem holds_ofText {text : List CChar} (h : text.length < maxDataSize) (rest : Nat → CChar)
    : (CommandBuffer.ofText text rest).Holds text := by
  apply List.ext_getElem?
  intro i
  by_cases hi : i < text.length + 1
  . rw [List.getElem?_take_of_lt hi, toList_ofText text rest (by omega)]
    have hlt : i < (text ++ [0]).length := by simpa using hi
    rw [List.getD_eq_getElem?_getD, List.getElem?_eq_getElem hlt, Option.getD_some]
  . rw [List.getElem?_eq_none, List.getElem?_eq_none]
    . simpa using hi
    . rw [List.length_take]
      omega

theorem byte_ofText {text : List CChar} {rest : Nat → CChar} {i : Nat} (hi : text.length < i)
    (hi' : i < maxDataSize)
    : (CommandBuffer.ofText text rest).byte i = rest i := by
  rw [CommandBuffer.byte, List.getD_eq_getElem?_getD, toList_ofText text rest hi', Option.getD_some,
    List.getD_eq_getElem?_getD, List.getElem?_eq_none, Option.getD_none]
  simpa using hi

-- the last branch of a case has a test, and the others have one near the start of the command
structure CatCase.Last (c : CatCase) (m j : Nat) (last : CatBranch) : Prop where
  test : last.test = some j
  others : ∃ pre, c.branches = pre ++ [last] ∧ ∀ branch ∈ pre, ∃ i ≤ m + 1, branch.test = some i

theorem testsInside_append {n j : Nat} {pre : List CatBranch}
    (hpre : ∀ branch ∈ pre, ∃ i ≤ n + 1, branch.test = some i)
    (hin : j ≤ n + 1 ∨ ∃ branch ∈ pre, branch.test = some n)
    : TestsInside n (pre.map (·.test) ++ [some j]) := by
  induction pre with
  | nil =>
    cases hin with
    | inl hj => exact ⟨hj, .inr trivial⟩
    | inr hex => simp at hex
  | cons branch pre ih =>
    have ⟨i, hi, htest⟩ := hpre branch List.mem_cons_self
    rw [List.map_cons, htest]
    refine ⟨hi, ?_⟩
    by_cases heq : i = n
    . left
      exact heq
    . right
      apply ih
      . intro branch hmem
        exact hpre branch (List.mem_cons_of_mem _ hmem)
      . cases hin with
        | inl hj =>
          left
          exact hj
        | inr hex =>
          have ⟨b, hmem, hb⟩ := hex
          right
          refine ⟨b, ?_, hb⟩
          cases List.mem_cons.mp hmem with
          | inl hfirst =>
            rw [hfirst, htest] at hb
            exact absurd (Option.some.inj hb) heq
          | inr htail => exact htail

-- a test that looks behind the zero is the last one, and the others find no `;`
theorem CatCase.Last.outside {c : CatCase} {m j n : Nat} {last : CatBranch}
    (hlast : c.Last m j last) (hm : m ≤ n) (hout : ¬ TestsInside n c.tests)
    : n + 1 < j ∧ ∃ pre, c.branches = pre ++ [last]
        ∧ ∀ branch ∈ pre, ∃ i, branch.test = some i ∧ i ≤ n + 1 ∧ i ≠ n := by
  have ⟨pre, hbranches, hpre⟩ := hlast.others
  have hpre' : ∀ branch ∈ pre, ∃ i ≤ n + 1, branch.test = some i := by
    intro branch hmem
    have ⟨i, hi, htest⟩ := hpre branch hmem
    exact ⟨i, by omega, htest⟩
  have hin : ¬ (j ≤ n + 1 ∨ ∃ branch ∈ pre, branch.test = some n) := by
    intro hin
    apply hout
    rw [CatCase.tests, hbranches, List.map_append, List.map_cons, List.map_nil, hlast.test]
    exact testsInside_append hpre' hin
  refine ⟨by omega, pre, hbranches, ?_⟩
  intro branch hmem
  have ⟨i, hi, htest⟩ := hpre' branch hmem
  refine ⟨i, htest, hi, ?_⟩
  intro heq
  exact hin (.inr ⟨branch, hmem, heq ▸ htest⟩)

-- what stands behind the zero decides about the last branch
theorem CatCase.Last.exec {c : CatCase} {m j : Nat} {last : CatBranch} (hlast : c.Last m j last)
    (h : command.Holds (commandText body)) (hbody : semicolon ∉ body) (hm : m ≤ body.length)
    (hout : ¬ TestsInside body.length c.tests) (s : Rig)
    : c.exec command s
        =
      if command.byte j = semicolon then last.exec command s else c.otherwise s := by
  have ⟨_, pre, hbranches, hpre⟩ := hlast.outside hm hout
  have hnone : pre.find? (·.taken command) = none := by
    rw [List.find?_eq_none]
    intro branch hmem
    have ⟨i, htest, hi, hne⟩ := hpre branch hmem
    rw [taken_of_some htest, decide_eq_true_iff, byte_eq_semicolon_iff h hbody hi]
    exact hne
  rw [CatCase.exec, hbranches, List.find?_append, hnone, Option.none_or, List.find?_cons,
    taken_of_some hlast.test]
  split_ifs with hj
  . rw [decide_eq_true hj]
  . rw [decide_eq_false hj]
    rfl

-- where the effect depends on the text only, a last branch found behind the zero does nothing
theorem CatCase.Last.idle_of_own {c : CatCase} {m j : Nat} {last : CatBranch}
    (hlast : c.Last m j last) (hc : textCase lib body = some c) (hbody : semicolon ∉ body)
    (hm : m ≤ body.length) (hj : j < maxDataSize) (hout : ¬ TestsInside body.length c.tests)
    (hown : ∀ command command' : CommandBuffer, command.Holds (commandText body) →
      command'.Holds (commandText body) → ∀ s : Rig, s.radio.config.receivers ≤ 2 →
        parseCmd lib command s = parseCmd lib command' s)
    : ∃ command : CommandBuffer, command.Holds (commandText body)
        ∧ (∀ i, body.length + 1 < i → i < maxDataSize → i ≠ j → command.byte i = 48)
        ∧ ∀ s : Rig, s.radio.config.receivers ≤ 2 → last.exec command s = c.otherwise s := by
  let plain := CommandBuffer.ofText (commandText body) fun _ => 48
  let marked := CommandBuffer.ofText (commandText body) fun i => if i = j then semicolon else 48
  have hlen : (commandText body).length = body.length + 1 := by
    simp [commandText]
  obtain ⟨hbehind, _⟩ := hlast.outside hm hout
  have hplain : plain.Holds (commandText body) := holds_ofText (by omega) _
  have hmarked : marked.Holds (commandText body) := holds_ofText (by omega) _
  refine ⟨marked, hmarked, ?_, ?_⟩
  . intro i hi hi' hne
    rw [byte_ofText (by omega) hi', if_neg hne]
  . intro s hs
    have heq := hown marked plain hmarked hplain s hs
    rw [parseCmd_eq_textCase hmarked, parseCmd_eq_textCase hplain, hc] at heq
    dsimp only at heq
    rw [hlast.exec hmarked hbody hm hout, hlast.exec hplain hbody hm hout] at heq
    rw [byte_ofText (by omega) hj, if_pos rfl, if_pos rfl, byte_ofText (by omega) hj,
      if_neg (by decide)] at heq
    exact heq

end Rigctl
