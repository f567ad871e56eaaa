import Pihpsdr.Rigctl.Impl.Parse

/-!
What a command reads of its buffer. Behind the text of a command, which ends with its `;` and a zero,
the buffer holds whatever the memory happens to contain.
-/

namespace Rigctl

-- the buffer holds a text, with a zero behind it
def CommandBuffer.Holds (command : CommandBuffer) (text : List CChar) : Prop :=
  command.toList.take (text.length + 1) = text ++ [0]

def commandText (body : List CChar) : List CChar :=
  body ++ [semicolon]

-- the position up to which an argument is read, whatever stands there
def CatArg.last : CatArg → Nat
  | .char off => off
  | .atoi off => off
  | .atoll off => off
  | .atoiTo _ stop => stop
  | .text off => off

-- the tests for `;`, one after the other, do not look behind the zero
def TestsInside (n : Nat) : List (Option Nat) → Prop
  | [] => True
  | none :: _ => True
  | some i :: tests => i ≤ n + 1 ∧ (i = n ∨ TestsInside n tests)

-- the arguments of a branch lie before its `;`, or if it has no test, before position `m`
def CatBranch.argsInside (m : Nat) (branch : CatBranch) : Bool :=
  branch.args.all fun arg => decide (arg.last ≤ branch.test.getD m + 1)

def CatCase.tests (c : CatCase) : List (Option Nat) :=
  c.branches.map (·.test)

theorem ends_semicolon : Decimal.Ends semicolon := by
  constructor <;> decide

theorem ends_zero : Decimal.Ends 0 := by
  constructor <;> decide

variable {command command' : CommandBuffer} {body : List CChar}

theorem CommandBuffer.Holds.toList (h : command.Holds (commandText body))
    : command.toList = body ++ semicolon :: 0 :: command.toList.drop (body.length + 2) := by
  have hsplit := List.take_append_drop (body.length + 2) command.toList
  have hlen : (commandText body).length + 1 = body.length + 2 := by
    simp [commandText]
  rw [Holds, hlen] at h
  rw [h] at hsplit
  rw [← hsplit]
  simp [commandText]

theorem CommandBuffer.Holds.behind (h : command.Holds (commandText body)) {off : Nat}
    (hoff : off ≤ body.length)
    : command.behind off
        =
      body.drop off ++ semicolon :: 0 :: command.toList.drop (body.length + 2) := by
  rw [CommandBuffer.behind, h.toList, List.drop_append_of_le_length hoff, ← h.toList]

theorem CommandBuffer.Holds.behind_zero (h : command.Holds (commandText body))
    : command.behind (body.length + 1) = 0 :: command.toList.drop (body.length + 2) := by
  rw [CommandBuffer.behind, h.toList, ← List.drop_drop, List.drop_left, ← h.toList]
  rfl

-- a number starts at the latest with the zero, and ends at the latest with the `;`
theorem parse_behind (h : command.Holds (commandText body)) {off : Nat}
    (hoff : off ≤ body.length + 1)
    : Decimal.parse (command.behind off) = Decimal.parse (body.drop off) := by
  cases Nat.le_or_eq_of_le_succ hoff with
  | inl hle => rw [h.behind hle, Decimal.parse_append ends_semicolon]
  | inr heq =>
    have hparse := Decimal.parse_append ends_zero [] (command.toList.drop (body.length + 2))
    rw [List.nil_append] at hparse
    rw [heq, h.behind_zero, hparse, List.drop_eq_nil_of_le (Nat.le_succ _)]

theorem text_behind (h : command.Holds (commandText body)) {p : CChar → Bool}
    (hsemi : p semicolon = false) (hzero : p 0 = false) {off : Nat} (hoff : off ≤ body.length + 1)
    : (command.behind off).takeWhile p = (body.drop off).takeWhile p := by
  cases Nat.le_or_eq_of_le_succ hoff with
  | inl hle => rw [h.behind hle, Decimal.takeWhile_append_cons hsemi]
  | inr heq =>
    rw [heq, h.behind_zero, List.drop_eq_nil_of_le (Nat.le_succ _)]
    simp [hzero]

theorem take_eq (h : command.Holds (commandText body)) {k : Nat} (hk : k ≤ body.length + 2)
    : command.toList.take k = (commandText body ++ [0]).take k := by
  have hlen : (commandText body).length + 1 = body.length + 2 := by
    simp [commandText]
  rw [← h, hlen, List.take_take, Nat.min_eq_left hk]

theorem byte_eq (h : command.Holds (commandText body)) {i : Nat} (hi : i ≤ body.length + 1)
    : command.byte i = (commandText body ++ [0]).getD i 0 := by
  have htake := congrArg (fun l => l.getD i 0) (take_eq h (Nat.le_refl _))
  rw [List.getD_eq_getElem?_getD, List.getD_eq_getElem?_getD,
    List.getElem?_take_of_lt (by omega), List.getElem?_take_of_lt (by omega)] at htake
  rw [CommandBuffer.byte, List.getD_eq_getElem?_getD, List.getD_eq_getElem?_getD, htake]

theorem CatArg.read_eq (h : command.Holds (commandText body)) (h' : command'.Holds (commandText body))
    {arg : CatArg} (harg : arg.last ≤ body.length + 1)
    : arg.read command = arg.read command' := by
  cases arg with
  | char off =>
    have hoff : off ≤ body.length + 1 := harg
    dsimp only [CatArg.read]
    rw [byte_eq h hoff, byte_eq h' hoff]
  | atoi off =>
    have hoff : off ≤ body.length + 1 := harg
    dsimp only [CatArg.read, Rigctl.atoi]
    rw [parse_behind h hoff, parse_behind h' hoff]
  | atoll off =>
    have hoff : off ≤ body.length + 1 := harg
    dsimp only [CatArg.read, Rigctl.atoll]
    rw [parse_behind h hoff, parse_behind h' hoff]
  | atoiTo off stop =>
    have hstop : stop ≤ body.length + 2 := Nat.le_succ_of_le harg
    dsimp only [CatArg.read, CommandBuffer.behind]
    rw [← List.drop_take, ← List.drop_take, take_eq h hstop, take_eq h' hstop]
  | text off =>
    have hoff : off ≤ body.length + 1 := harg
    dsimp only [CatArg.read]
    rw [text_behind h (by decide) (by decide) hoff, text_behind h' (by decide) (by decide) hoff]

theorem byte_eq_semicolon_iff (h : command.Holds (commandText body)) (hbody : semicolon ∉ body)
    {i : Nat} (hi : i ≤ body.length + 1)
    : command.byte i = semicolon ↔ i = body.length := by
  rw [byte_eq h hi, commandText, List.append_assoc, List.getD_eq_getElem?_getD]
  cases Nat.lt_trichotomy i body.length with
  | inl hlt =>
    rw [List.getElem?_append_left hlt, List.getElem?_eq_getElem hlt, Option.getD_some]
    constructor
    . intro heq
      exact absurd (heq ▸ List.getElem_mem hlt) hbody
    . omega
  | inr hge =>
    cases hge with
    | inl heq => simp [heq]
    | inr hgt =>
      have hlast : i = body.length + 1 := by omega
      simp [hlast, semicolon]

theorem taken_of_some {branch : CatBranch} {i : Nat} (hi : branch.test = some i)
    : branch.taken command = decide (command.byte i = semicolon) := by
  rw [CatBranch.taken, hi]

theorem taken_of_none {branch : CatBranch} (h : branch.test = none) : branch.taken command = true := by
  rw [CatBranch.taken, h]

-- the branch of a command that sets something
theorem exec_second {c : CatCase} {first second : CatBranch} {i j : Nat}
    (hc : c.branches = [first, second]) (hfirst : first.test = some i) (hsecond : second.test = some j)
    (hi : command.byte i ≠ semicolon) (hj : command.byte j = semicolon) (s : Rig)
    : c.exec command s = second.exec command s := by
  rw [CatCase.exec, hc, List.find?_cons, taken_of_some hfirst, decide_eq_false hi, List.find?_cons,
    taken_of_some hsecond, decide_eq_true hj]

theorem exec_guarded (c : CatCase) (guard : Rig → Bool) (refused : Rig → Outcome) (s : Rig)
    : (c.guarded guard refused).exec command s = if guard s then c.exec command s else refused s := by
  have hfind : (c.guarded guard refused).branches.find? (·.taken command)
      = (c.branches.find? (·.taken command)).map fun branch =>
        { branch with run := fun args s => if guard s then branch.run args s else refused s } := by
    rw [CatCase.guarded, List.find?_map]
    rfl
  rw [CatCase.exec, hfind, CatCase.exec]
  cases c.branches.find? (·.taken command) with
  | none => rfl
  | some branch => rfl

-- with its tests inside, the first branch to be taken is determined by the text
theorem find_taken_eq (h : command.Holds (commandText body)) (h' : command'.Holds (commandText body))
    (hbody : semicolon ∉ body) (branches : List CatBranch)
    (hin : TestsInside body.length (branches.map (·.test)))
    : branches.find? (·.taken command) = branches.find? (·.taken command') := by
  induction branches with
  | nil => rfl
  | cons branch branches ih =>
    cases htest : branch.test with
    | none =>
      rw [List.find?_cons, List.find?_cons, taken_of_none htest, taken_of_none htest]
    | some i =>
      rw [List.map_cons, htest] at hin
      have ⟨hi, hin⟩ := hin
      have hiff := byte_eq_semicolon_iff h hbody hi
      have hiff' := byte_eq_semicolon_iff h' hbody hi
      rw [List.find?_cons, List.find?_cons, taken_of_some htest, taken_of_some htest]
      by_cases heq : i = body.length
      . rw [decide_eq_true (hiff.mpr heq), decide_eq_true (hiff'.mpr heq)]
      . rw [decide_eq_false (fun hc => heq (hiff.mp hc)),
          decide_eq_false (fun hc => heq (hiff'.mp hc)), ih (hin.resolve_left heq)]

-- the branch that is taken has its `;` at the end of the command
theorem test_le_of_find (h : command.Holds (commandText body)) (hbody : semicolon ∉ body)
    (branches : List CatBranch) (hin : TestsInside body.length (branches.map (·.test)))
    {branch : CatBranch} (hfind : branches.find? (·.taken command) = some branch) {m : Nat}
    (hm : m ≤ body.length)
    : branch.test.getD m ≤ body.length := by
  induction branches with
  | nil => cases hfind
  | cons first branches ih =>
    cases htest : first.test with
    | none =>
      rw [List.find?_cons, taken_of_none htest] at hfind
      cases hfind
      rw [htest]
      exact hm
    | some i =>
      rw [List.map_cons, htest] at hin
      have ⟨hi, hin⟩ := hin
      have hiff := byte_eq_semicolon_iff h hbody hi
      rw [List.find?_cons, taken_of_some htest] at hfind
      by_cases heq : i = body.length
      . rw [decide_eq_true (hiff.mpr heq)] at hfind
        cases hfind
        rw [htest, heq]
        exact Nat.le_refl _
      . rw [decide_eq_false (fun hc => heq (hiff.mp hc))] at hfind
        exact ih (hin.resolve_left heq) hfind

theorem CatBranch.exec_eq (h : command.Holds (commandText body))
    (h' : command'.Holds (commandText body)) {branch : CatBranch} {m : Nat}
    (hargs : branch.argsInside m) (htest : branch.test.getD m ≤ body.length) (s : Rig)
    : branch.exec command s = branch.exec command' s := by
  have hread : branch.args.flatMap (CatArg.read command)
      = branch.args.flatMap (CatArg.read command') := by
    apply List.flatMap_congr
    intro arg harg
    apply CatArg.read_eq h h'
    have hlast := List.all_eq_true.mp hargs arg harg
    have := of_decide_eq_true hlast
    omega
  rw [CatBranch.exec, CatBranch.exec, hread]

-- a case whose tests lie inside of the command depends on its text only
theorem CatCase.exec_eq (h : command.Holds (commandText body))
    (h' : command'.Holds (commandText body)) (hbody : semicolon ∉ body) {c : CatCase} {m : Nat}
    (hargs : c.branches.all (·.argsInside m)) (hm : m ≤ body.length)
    (hin : TestsInside body.length c.tests) (s : Rig)
    : c.exec command s = c.exec command' s := by
  rw [CatCase.exec, CatCase.exec, ← find_taken_eq h h' hbody c.branches hin]
  cases hfind : c.branches.find? (·.taken command) with
  | none => rfl
  | some branch =>
    have hmem := List.mem_of_find?_eq_some hfind
    exact branch.exec_eq h h' (List.all_eq_true.mp hargs branch hmem)
      (test_le_of_find h hbody c.branches hin hfind hm) s

theorem mem_of_findCase {entries : List CatEntry} {a b : Char} {c : CatCase}
    (h : findCase entries a b = some c)
    : ∃ e ∈ entries, e.outer = a ∧ e.inner = b ∧ e.case = c := by
  have ⟨e, he, hcase⟩ := Option.map_eq_some_iff.mp h
  have hfound := List.find?_some he
  have hlabels := of_decide_eq_true hfound
  exact ⟨e, List.mem_of_find?_eq_some he, hlabels.1, hlabels.2, hcase⟩

theorem argsInside_standardCmds (lib : CLibrary)
    : (standardCmds lib).all fun e => e.case.branches.all (·.argsInside 2) := by
  rfl

theorem argsInside_extendedCmds (lib : CLibrary)
    : (extendedCmds lib).all fun e => e.case.branches.all (·.argsInside 4) := by
  rfl

end Rigctl
