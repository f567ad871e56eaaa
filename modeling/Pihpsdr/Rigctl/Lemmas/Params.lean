import Pihpsdr.Rigctl.Impl.Parse
import Pihpsdr.Vfo.Lemmas.Untouched
import Pihpsdr.Rigctl.Lemmas.Effects

/-!
The parameters with an integer value that one form of a CAT command sets and the other one reads, as
their documentation in `rigctl.c` describes them.
-/

namespace Rigctl

open Decimal (format)

inductive CatParam where
  | fa
  | fb
  | fr
  | ft
  | fw
  | gt
  | ks
  | md
  | rt
  | sa
  | sd
  | sh
  | sl
  | xt
  | zzcn
  | zzco
  | zzfa
  | zzfb
  | zzfh
  | zzfl
  | zzma
  | zzmb
  | zzmd
  | zzme
  deriving DecidableEq

namespace CatParam

def name : CatParam → List Char
  | fa => ['F', 'A']
  | fb => ['F', 'B']
  | fr => ['F', 'R']
  | ft => ['F', 'T']
  | fw => ['F', 'W']
  | gt => ['G', 'T']
  | ks => ['K', 'S']
  | md => ['M', 'D']
  | rt => ['R', 'T']
  | sa => ['S', 'A']
  | sd => ['S', 'D']
  | sh => ['S', 'H']
  | sl => ['S', 'L']
  | xt => ['X', 'T']
  | zzcn => ['Z', 'Z', 'C', 'N']
  | zzco => ['Z', 'Z', 'C', 'O']
  | zzfa => ['Z', 'Z', 'F', 'A']
  | zzfb => ['Z', 'Z', 'F', 'B']
  | zzfh => ['Z', 'Z', 'F', 'H']
  | zzfl => ['Z', 'Z', 'F', 'L']
  | zzma => ['Z', 'Z', 'M', 'A']
  | zzmb => ['Z', 'Z', 'M', 'B']
  | zzmd => ['Z', 'Z', 'M', 'D']
  | zzme => ['Z', 'Z', 'M', 'E']

-- the number of characters of a value
def width : CatParam → Nat
  | fa | fb | zzfa | zzfb => 11
  | sa => 7
  | zzfh | zzfl => 5
  | fw | sd => 4
  | gt | ks => 3
  | sh | sl | zzmd | zzme => 2
  | fr | ft | md | rt | xt | zzcn | zzco | zzma | zzmb => 1

-- what a reply has behind the value
def suffix : CatParam → List Char
  | sa => ['S', 'A', 'T', ' ', ' ', ' ', ' ', ' ']
  | _ => []

/--
The values in the documentation. The seven digits of `SA` are taken as one number. With a one in the
fifth of them the code means the one satellite mode and with a one in the sixth the other, but the
documentation has these two digits one place further to the right.
-/
def Admissible (x : Int) : CatParam → Prop
  | fa | fb | zzfa | zzfb => 0 ≤ x ∧ x < 10 ^ 11
  | fr | ft | rt | xt | zzcn | zzco | zzma | zzmb => 0 ≤ x ∧ x ≤ 1
  | fw => 0 ≤ x ∧ x ≤ 9999
  | gt => x ∈ [0, 5, 10, 15, 20]
  | ks => 1 ≤ x ∧ x ≤ 60
  | md => x ∈ [1, 2, 3, 4, 5, 6, 7, 9]
  | sa => x ∈ [0, 1000100, 1000010, 1000001]
  | sd => 0 ≤ x ∧ x ≤ 1000
  | sh | sl | zzmd | zzme => 0 ≤ x ∧ x ≤ 11
  | zzfh | zzfl => -9999 ≤ x ∧ x ≤ 9999

-- the VFO that a parameter belongs to, with the receiver of the same number
def names (s : Rig) : CatParam → Option (Fin 2)
  | fa | fw | gt | md | rt | sh | sl | zzcn | zzfa | zzfh | zzfl | zzma | zzmd => some 0
  | fb | zzco | zzfb | zzmb | zzme => some 1
  | xt => some s.radio.txVfo
  | fr | ft | ks | sa | sd => none

-- the texts of the two commands
def setBody (p : CatParam) (x : Int) : List CChar :=
  codes p.name ++ format false p.width x

def readBody (p : CatParam) : List CChar :=
  codes p.name

-- a reply with the name of the parameter
def reply (p : CatParam) (x : Int) : List CChar :=
  p.setBody x ++ codes p.suffix ++ [semicolon]

end CatParam

-- the VFOs and receivers that are not named stay as they are
def KeepsOthers (named : Option (Fin 2)) (s s' : Rig) : Prop :=
  ∀ id : Fin 2, named ≠ some id → s.radio.Untouched id s'.radio ∧ s'.rx id.val = s.rx id.val

-- setting the value `x` and reading it, with these commands
structure RoundTrip (lib : CLibrary) (p : CatParam) (x : Int) (s : Rig) (set read : CommandBuffer)
    : Prop where
  reply : (parseCmd lib read (parseCmd lib set s).1).2 = some (p.reply x)
  others : KeepsOthers (p.names s) s (parseCmd lib set s).1

end Rigctl

/-!
Which branch of its case a parameter is read and set by, and what they do.
-/

namespace Rigctl

open Decimal (format)

variable {lib : CLibrary} {command : CommandBuffer} {p : CatParam} {x : Int}

namespace CatParam

def case : CatParam → CatCase
  | fa => catFa
  | fb => catFb
  | fr => catFr
  | ft => catFt
  | fw => catFw
  | gt => catGt
  | ks => catKs
  | md => catMd
  | rt => catRt
  | sa => catSa
  | sd => catSd
  | sh => catSh
  | sl => catSl
  | xt => catXt
  | zzcn => catZzcn
  | zzco => catZzco
  | zzfa => catZzfa
  | zzfb => catZzfb
  | zzfh => catZzfh
  | zzfl => catZzfl
  | zzma => catZzma
  | zzmb => catZzmb
  | zzmd => catZzmd
  | zzme => catZzme

def readBranch (p : CatParam) : CatBranch :=
  p.case.branches.getD 0 (.always Rig.silent)

def setBranch (p : CatParam) : CatBranch :=
  p.case.branches.getD 1 (.always Rig.silent)

theorem branches_case (p : CatParam) : p.case.branches = [p.readBranch, p.setBranch] := by
  cases p <;> rfl

theorem test_readBranch (p : CatParam) : p.readBranch.test = some p.name.length := by
  cases p <;> rfl

-- the mute commands take any argument
theorem test_setBranch (p : CatParam)
    : p.setBranch.test = some (p.name.length + p.width) ∨ p.setBranch.test = none := by
  cases p
  case zzma | zzmb => exact .inr rfl
  all_goals exact .inl rfl

theorem catCase_name (lib : CLibrary) (p : CatParam)
    : catCase lib (fun i => p.name.getD i ' ') = some p.case := by
  cases p <;> rfl

theorem length_name (p : CatParam) : 2 ≤ p.name.length := by
  cases p <;> decide

theorem length_name_of_zz (p : CatParam) (h : p.name.getD 0 ' ' = 'Z') : p.name.length = 4 := by
  cases p
  case zzcn | zzco | zzfa | zzfb | zzfh | zzfl | zzma | zzmb | zzmd | zzme => rfl
  all_goals exact absurd h (by decide)

theorem semicolon_notMem_name (p : CatParam) : semicolon ∉ codes p.name := by
  cases p <;> decide

theorem width_pos (p : CatParam) : 0 < p.width := by
  cases p <;> decide

end CatParam

theorem letter_code (c : Char) : letter (c.toNat : Int) = c := by
  rw [letter, Int.toNat_natCast, Char.ofNat_toNat]

theorem letter_name {name : List Char} {text : List CChar}
    (h : command.Holds (commandText (codes name ++ text))) {i : Nat} (hi : i < name.length)
    : letter (command.byte i) = name.getD i ' ' := by
  have hcodes : (codes name).length = name.length := List.length_map ..
  rw [byte_eq h, commandText, List.append_assoc, List.append_assoc, List.getD_eq_getElem?_getD,
    List.getElem?_append_left (by omega), codes, List.getElem?_map, List.getElem?_eq_getElem hi,
    Option.map_some, Option.getD_some, letter_code, List.getD_eq_getElem?_getD,
    List.getElem?_eq_getElem hi, Option.getD_some]
  rw [List.length_append]
  omega

theorem parseCmd_eq_case {text : List CChar} (h : command.Holds (commandText (codes p.name ++ text)))
    (s : Rig)
    : parseCmd lib command s = p.case.exec command s := by
  have hcase : catCase lib (fun i => letter (command.byte i)) = some p.case := by
    rw [← CatParam.catCase_name lib p]
    have hlen := p.length_name
    apply catCase_congr
    . exact letter_name h (by omega)
    . exact letter_name h (by omega)
    . intro hz
      have hfour := p.length_name_of_zz hz.1
      exact ⟨letter_name h (by omega), letter_name h (by omega)⟩
  rw [parseCmd, hcase]

theorem exec_first {c : CatCase} {first second : CatBranch} {i : Nat}
    (hc : c.branches = [first, second]) (hfirst : first.test = some i) (hi : command.byte i = semicolon)
    (s : Rig)
    : c.exec command s = first.exec command s := by
  rw [CatCase.exec, hc, List.find?_cons, taken_of_some hfirst, decide_eq_true hi]

theorem parseCmd_read (h : command.Holds (commandText p.readBody)) (s : Rig)
    : parseCmd lib command s = p.readBranch.exec command s := by
  have hname : command.Holds (commandText (codes p.name ++ [])) := by
    rw [List.append_nil]
    exact h
  rw [parseCmd_eq_case hname]
  apply exec_first p.branches_case p.test_readBranch
  have hlen : p.name.length = p.readBody.length := (List.length_map ..).symm
  exact (byte_eq_semicolon_iff h p.semicolon_notMem_name (by omega)).mpr hlen

theorem semicolon_notMem_setBody (p : CatParam) (x : Int) : semicolon ∉ p.setBody x := by
  rw [CatParam.setBody, List.mem_append, not_or]
  refine ⟨p.semicolon_notMem_name, ?_⟩
  intro h
  have := Decimal.isDigit_or_of_mem_format h
  simp [Decimal.IsDigit, semicolon] at this

namespace CatParam

theorem Admissible.length (hx : p.Admissible x) : (format false p.width x).length = p.width := by
  have hpos := p.width_pos
  cases p
  case zzfh | zzfl =>
    have ⟨hlow, hhigh⟩ := hx
    cases lt_or_ge x 0 with
    | inl hneg => exact Decimal.length_format_of_neg (by decide) hneg (show -10 ^ 4 < x by omega)
    | inr hnonneg => exact Decimal.length_format_of_nonneg (by decide) hnonneg (show x < 10 ^ 5 by omega)
  all_goals
    apply Decimal.length_format_of_nonneg hpos
    all_goals
      simp [Admissible, width] at hx ⊢
      omega

-- an admissible value fits in the type that it is read with
theorem Admissible.bounds (hx : p.Admissible x) : -10 ^ 11 < x ∧ x < 10 ^ 11 := by
  cases p
  all_goals
    simp [Admissible] at hx
    omega

end CatParam

theorem length_setBody (hx : p.Admissible x) : (p.setBody x).length = p.name.length + p.width := by
  have hcodes : (codes p.name).length = p.name.length := List.length_map ..
  rw [CatParam.setBody, List.length_append, hx.length, hcodes]

section

variable (hx : p.Admissible x) (h : command.Holds (commandText (p.setBody x)))
include hx h

theorem parseCmd_set (s : Rig) : parseCmd lib command s = p.setBranch.exec command s := by
  have hlen := length_setBody hx
  have hpos := p.width_pos
  have hsemi {i : Nat} (hi : i ≤ (p.setBody x).length + 1) :=
    byte_eq_semicolon_iff h (semicolon_notMem_setBody p x) hi
  have hread : command.byte p.name.length ≠ semicolon := by
    intro hend
    have := (hsemi (by omega)).mp hend
    omega
  rw [parseCmd_eq_case h]
  cases p.test_setBranch with
  | inl htest =>
    apply exec_second p.branches_case p.test_readBranch htest hread
    exact (hsemi (by omega)).mpr hlen.symm
  | inr htest =>
    rw [CatCase.exec, p.branches_case, List.find?_cons, taken_of_some p.test_readBranch,
      decide_eq_false hread, List.find?_cons, taken_of_none htest]

theorem parse_value : Decimal.parse (command.behind p.name.length) = x := by
  have hcodes : (codes p.name).length = p.name.length := List.length_map ..
  have hlen := length_setBody hx
  rw [parse_behind h (by omega), CatParam.setBody, ← hcodes, List.drop_left, Decimal.parse_format]

theorem atoll_value : atoll (command.behind p.name.length) = x := by
  have hbounds := hx.bounds
  rw [atoll, parse_value hx h, Decimal.clamp]
  omega

theorem atoi_value (hlarge : -2 ^ 31 ≤ x ∧ x < 2 ^ 31) : atoi (command.behind p.name.length) = x := by
  rw [atoi, parse_value hx h, Decimal.clamp, wrapInt]
  omega

-- the value is one character
theorem setOne_value (hwidth : p.width = 1) (hbit : x = 0 ∨ x = 1)
    : setOne (command.byte p.name.length) = x := by
  have hcodes : (codes p.name).length = p.name.length := List.length_map ..
  have hlen := length_setBody hx
  rw [byte_eq h (by omega), commandText, CatParam.setBody, List.append_assoc, List.append_assoc,
    List.getD_eq_getElem?_getD, List.getElem?_append_right (by omega), hcodes, Nat.sub_self, hwidth]
  cases hbit with
  | inl hzero =>
    subst hzero
    rfl
  | inr hone =>
    subst hone
    rfl

end

namespace CatParam

-- the digits that `SA` has for a satellite mode, and the mode that it takes them for
def satDigits (mode : Int) : Int :=
  if mode = satModeSat then 1000100 else if mode = satModeRsat then 1000010 else 0

def modeOfDigits (x : Int) : Int :=
  if x = 1000100 then satModeSat else if x = 1000010 then satModeRsat else satModeNone

def fwValue (s : RadioState) : Option Int :=
  let mode := (s.vfo 0).mode
  if IsCw mode then some ((filterOfVfoA s).low * 2)
  else if IsAm mode then some (if (filterOfVfoA s).low ≥ -4000 then 1 else 0)
  else if mode = modeFmn then some (if (s.vfo 0).deviation = 5000 then 1 else 0)
  else none

def shValue (s : RadioState) : Option Int :=
  let mode := (s.vfo 0).mode
  if IsLower mode then some (waterIndex shMarks |(filterOfVfoA s).low|)
  else if IsUpper mode then some (waterIndex shMarks (filterOfVfoA s).high)
  else none

def slValue (s : RadioState) : Int :=
  let filter := filterOfVfoA s
  waterIndex slMarks (if IsLower (s.vfo 0).mode then |filter.high| else filter.low)

-- the value of a parameter, if it is read under its own name
def get (s : Rig) : CatParam → Option Int
  | fa | zzfa => some (s.radio.vfo 0).dial
  | fb | zzfb => some (s.radio.vfo 1).dial
  | fr => some s.radio.config.activeReceiver.val
  | ft => some s.radio.split
  | fw => fwValue s.radio
  | gt => some ((s.radio.receiver 0).agc * 5)
  | ks => some s.cwKeyerSpeed
  | md => some (ts2000Mode (s.radio.vfo 0).mode)
  | rt => some (s.radio.vfo 0).ritEnabled
  | sa => some (satDigits s.radio.satMode)
  | sd => some (min s.cwKeyerHangTime 1000)
  | sh => shValue s.radio
  | sl => some (slValue s.radio)
  | xt => if s.hasTransmitter then some (s.radio.vfo s.radio.txVfo).xitEnabled else none
  | zzcn => some (s.radio.vfo 0).ctun
  | zzco => some (s.radio.vfo 1).ctun
  | zzfh => some (s.radio.receiver 0).filterHigh
  | zzfl => some (s.radio.receiver 0).filterLow
  | zzma => some (s.rx 0).muteRadio
  | zzmd => some (s.radio.vfo 0).mode
  | zzmb | zzme => none

-- what the command with a value does
def set (x : Int) (s : Rig) : CatParam → Rig
  | fa | zzfa => { s with radio := s.radio.vfoIdSetFrequency 0 x }
  | fb | zzfb => { s with radio := s.radio.vfoIdSetFrequency 1 x }
  | fr => if s.receivers > x then { s with calls := s.calls ++ [.scheduleRx x] } else s
  | ft => { s with radio := s.radio.radioSetSplit x }
  | fw => { s with radio := s.radio.fwSet x }
  | gt => { s with radio := s.radio.setAgc 0 (x.tdiv 5) }
  | ks => { s with cwKeyerSpeed := x }
  | md => { s with radio := s.radio.vfoIdModeChanged 0 (wdspmode x) }
  | rt => { s with radio := s.radio.setVfo 0 { s.radio.vfo 0 with ritEnabled := x } }
  | sa => { s with radio := { s.radio with satMode := modeOfDigits x } }
  | sd => { s with cwBreakin := if x = 0 then 1 else 0, cwKeyerHangTime := x }
  | sh => { s with radio := s.radio.shSet x }
  | sl => { s with radio := s.radio.slSet x }
  | xt => if s.hasTransmitter then { s with radio := s.radio.vfoXitOnoff x } else s
  | zzcn => { s with radio := s.radio.vfoIdCtunUpdate 0 x }
  | zzco => { s with radio := s.radio.vfoIdCtunUpdate 1 x }
  | zzfh => { s with radio := s.radio.zzfhSet x }
  | zzfl => { s with radio := s.radio.zzflSet x }
  | zzma => s.setRx 0 { s.rx 0 with muteRadio := x }
  | zzmb => if secondReceiver s then s.setRx 1 { s.rx 1 with muteRadio := x } else s
  | zzmd | zzme => { s with radio := s.radio.vfoIdModeChanged 0 x }

-- the reply has the name of the parameter and its value, or is none of its replies
def Answers (p : CatParam) (o : Outcome) : Option Int → Prop
  | some x => o.2 = some (p.reply x)
  | none => ∀ x, o.2 ≠ some (p.reply x)

theorem reply_injective (p : CatParam) : Function.Injective p.reply := by
  intro x y h
  rw [reply, reply, List.append_assoc, List.append_assoc] at h
  exact Decimal.format_injective false p.width
    (List.append_cancel_left (List.append_cancel_right h))

theorem Answers.reply_iff {o : Outcome} {y : Option Int} (h : p.Answers o y)
    : o.2 = some (p.reply x) ↔ y = some x := by
  cases y with
  | none => simpa using h x
  | some y =>
    have hreply : o.2 = some (p.reply y) := h
    rw [hreply, Option.some_inj, Option.some_inj, p.reply_injective.eq_iff]

theorem answers_answerInt (hsuffix : p.suffix = []) {width : Nat} {y : Int}
    (hwidth : format false width y = format false p.width y) (s : Rig)
    : p.Answers (s.answerInt p.name width y) (some y) := by
  rw [Answers, reply, hsuffix, setBody, ← hwidth]
  exact congrArg some (congrArg (· ++ [semicolon]) (List.append_nil _).symm)

-- `%d` writes a parameter of one digit
theorem answers_answerInt_zero (hsuffix : p.suffix = []) (hwidth : p.width = 1) {y : Int} (s : Rig)
    : p.Answers (s.answerInt p.name 0 y) (some y) := by
  apply answers_answerInt hsuffix
  rw [hwidth]
  exact Decimal.format_zero false y

theorem answers_saRead (s : Rig) : sa.Answers (saRead s) (some (satDigits s.radio.satMode)) := by
  unfold saRead satDigits
  by_cases hsat : s.radio.satMode = satModeSat
  . rw [hsat]
    rfl
  . by_cases hrsat : s.radio.satMode = satModeRsat
    . rw [hrsat]
      rfl
    . simp only [hsat, hrsat]
      rfl

theorem answers_silent (p : CatParam) (s : Rig) : p.Answers s.silent none := by
  intro x h
  exact absurd h (by simp [Rig.silent])

-- a reply with another name
theorem answers_other {cs : List CChar} {i : Nat} {a b : Char} (hi : p.name[i]? = some a)
    (hcs : cs[i]? = some (b.toNat : Int)) (hne : a ≠ b) (s : Rig)
    : p.Answers (s.answer cs) none := by
  intro x h
  have hlen : i < p.name.length := (List.getElem?_eq_some_iff.mp hi).1
  have hlen' : i < cs.length := (List.getElem?_eq_some_iff.mp hcs).1
  have hcodes : (codes p.name).length = p.name.length := List.length_map ..
  have heq := congrArg (·[i]?) (Option.some.inj h)
  dsimp only [reply, setBody] at heq
  rw [List.append_assoc, List.append_assoc, List.getElem?_append_left hlen', hcs,
    List.getElem?_append_left (by omega), codes, List.getElem?_map, hi, Option.map_some,
    Option.some_inj] at heq
  have hchar : b = a := by
    rw [← letter_code a, ← letter_code b, heq]
  exact hne hchar.symm

theorem answers_unimplemented (p : CatParam) (s : Rig) : p.Answers s.unimplemented none := by
  have hname : ∃ a, p.name[0]? = some a ∧ a ≠ '?' := by
    cases p <;> exact ⟨_, rfl, by decide⟩
  have ⟨a, ha, hne⟩ := hname
  exact answers_other ha rfl hne s

theorem answers_fwRead (s : Rig) : fw.Answers (fwRead s) (fwValue s.radio) := by
  dsimp only [fwRead, fwValue]
  split_ifs
  all_goals first | exact answers_answerInt rfl rfl s | exact answers_unimplemented fw s

theorem answers_shRead (s : Rig) : sh.Answers (shRead s) (shValue s.radio) := by
  dsimp only [shRead, shValue]
  split_ifs
  all_goals first | exact answers_answerInt rfl rfl s | exact answers_unimplemented sh s

theorem answers_xt (s : Rig)
    : xt.Answers (xt.readBranch.exec command s) (xt.get s) := by
  have hexec : xt.readBranch.exec command s
      = if s.hasTransmitter then
          s.answerInt ['X', 'T'] 0 (s.radio.vfo s.radio.txVfo).xitEnabled
        else s.silent := rfl
  rw [hexec, get]
  split_ifs
  . exact answers_answerInt_zero rfl rfl s
  . exact answers_silent xt s

-- with one receiver there is no reply, and with two of them it has the name of the first one
theorem answers_zzmb (s : Rig) : zzmb.Answers (zzmb.readBranch.exec command s) none := by
  have hexec : zzmb.readBranch.exec command s
      = if secondReceiver s then s.answerInt ['Z', 'Z', 'M', 'A'] 0 (s.rx 1).muteRadio
        else s.silent := rfl
  rw [hexec]
  split_ifs
  . exact answers_other (p := zzmb) (i := 3) rfl rfl (by decide : 'B' ≠ 'A') s
  . exact answers_silent zzmb s

theorem answers_read (p : CatParam) (s : Rig) : p.Answers (p.readBranch.exec command s) (p.get s) := by
  cases p with
  | fa | fb | zzfa | zzfb | gt | ks | sd | sl | zzfh | zzfl | zzmd => exact answers_answerInt rfl rfl s
  | fr | ft | md | rt | zzcn | zzco | zzma => exact answers_answerInt_zero rfl rfl s
  | fw => exact answers_fwRead s
  | sh => exact answers_shRead s
  | sa => exact answers_saRead s
  | xt => exact answers_xt s
  | zzmb => exact answers_zzmb s
  | zzme => exact answers_other (p := zzme) (i := 3) rfl rfl (by decide : 'E' ≠ 'D') s

theorem Admissible.int (hx : p.Admissible x) (hfrequency : p.width ≠ 11) : -2 ^ 31 ≤ x ∧ x < 2 ^ 31 := by
  cases p
  case fa | fb | zzfa | zzfb => exact absurd rfl hfrequency
  all_goals
    simp [Admissible] at hx
    omega

theorem state_fwSet (s : Rig) : (fwSet x s).1 = { s with radio := s.radio.fwSet x } := by
  dsimp only [fwSet]
  split_ifs <;> rfl

theorem state_shSet (s : Rig) : (shSet x s).1 = { s with radio := s.radio.shSet x } := by
  dsimp only [shSet]
  split_ifs <;> rfl

theorem state_ksSet (hx : ks.Admissible x) (s : Rig) : (ksSet x s).1 = { s with cwKeyerSpeed := x } := by
  have hrange : 1 ≤ x ∧ x ≤ 60 := hx
  unfold ksSet
  rw [if_pos hrange]

theorem state_sdSet (hx : sd.Admissible x) (s : Rig)
    : (sdSet x s).1 = { s with cwBreakin := if x = 0 then 1 else 0, cwKeyerHangTime := x } := by
  have hmin : min x 1000 = x := min_eq_left hx.2
  unfold sdSet
  rw [hmin]

theorem state_saSet (hx : sa.Admissible x) (h : command.Holds (commandText (sa.setBody x))) (s : Rig)
    : (saSet (command.byte 2) (command.byte 6) (command.byte 7) s).1
        =
      { s with radio := { s.radio with satMode := modeOfDigits x } } := by
  have hlen := length_setBody hx
  have hbyte {i : Nat} (hi : i ≤ 9) := byte_eq h (i := i) (by rw [hlen]; exact Nat.le_succ_of_le hi)
  rw [hbyte (by decide), hbyte (by decide), hbyte (by decide)]
  have hcases : x = 0 ∨ x = 1000100 ∨ x = 1000010 ∨ x = 1000001 := by
    simpa [Admissible] using hx
  rcases hcases with rfl | rfl | rfl | rfl
  . rfl
  . rfl
  . rfl
  . rfl

-- `FR` leaves the change to the main loop
theorem state_fr (hx : fr.Admissible x) (h : command.Holds (commandText (fr.setBody x))) (s : Rig)
    : (fr.setBranch.exec command s).1 = fr.set x s := by
  have hone := setOne_value hx h rfl (by simp [Admissible] at hx; omega)
  have hexec : fr.setBranch.exec command s
      = if s.receivers > setOne (command.byte fr.name.length) then
          s.call (.scheduleRx (setOne (command.byte fr.name.length)))
        else s.silent := rfl
  rw [hexec, hone, set]
  split_ifs <;> rfl

theorem state_xt (hx : xt.Admissible x) (h : command.Holds (commandText (xt.setBody x))) (s : Rig)
    : (xt.setBranch.exec command s).1 = xt.set x s := by
  have hexec : xt.setBranch.exec command s
      = if s.hasTransmitter then
          s.setRadio (s.radio.vfoXitOnoff (atoi (command.behind xt.name.length)))
        else s.silent := rfl
  rw [hexec, atoi_value hx h (hx.int (by decide)), set]
  split_ifs <;> rfl

theorem state_zzmb (hx : zzmb.Admissible x) (h : command.Holds (commandText (zzmb.setBody x)))
    (s : Rig)
    : (zzmb.setBranch.exec command s).1 = zzmb.set x s := by
  have hexec : zzmb.setBranch.exec command s
      = if secondReceiver s then muteSet 1 (atoi (command.behind zzmb.name.length)) s
        else s.silent := rfl
  rw [hexec, atoi_value hx h (hx.int (by decide)), set]
  split_ifs <;> rfl

theorem state_set (hx : p.Admissible x) (h : command.Holds (commandText (p.setBody x))) (s : Rig)
    : (p.setBranch.exec command s).1 = p.set x s := by
  have hatoll : p.set (atoll (command.behind p.name.length)) s = p.set x s := by
    rw [atoll_value hx h]
  have hatoi (hwidth : p.width ≠ 11) : p.set (atoi (command.behind p.name.length)) s = p.set x s := by
    rw [atoi_value hx h (hx.int hwidth)]
  cases p with
  | fa | fb | zzfa | zzfb => exact hatoll
  | gt | md | rt | sl | zzcn | zzco | zzfh | zzfl | zzma | zzmd | zzme => exact hatoi (by decide)
  | fw => exact (state_fwSet s).trans (hatoi (by decide))
  | sh => exact (state_shSet s).trans (hatoi (by decide))
  | ks =>
    have hvalue := atoi_value hx h (hx.int (by decide))
    exact (congrArg (fun x => (ksSet x s).1) hvalue).trans (state_ksSet hx s)
  | sd =>
    have hvalue := atoi_value hx h (hx.int (by decide))
    exact (congrArg (fun x => (sdSet x s).1) hvalue).trans (state_sdSet hx s)
  | ft =>
    have hone := setOne_value hx h rfl (by simp [Admissible] at hx; omega)
    exact congrArg (fun x : Int => ({ s with radio := s.radio.radioSetSplit x } : Rig)) hone
  | fr => exact state_fr hx h s
  | sa => exact state_saSet hx h s
  | xt => exact state_xt hx h s
  | zzmb => exact state_zzmb hx h s

end CatParam

-- setting and reading, in terms of what the two branches do
theorem roundTrip_iff_get (hx : p.Admissible x) {set read : CommandBuffer}
    (hset : set.Holds (commandText (p.setBody x))) (hread : read.Holds (commandText p.readBody))
    (s : Rig)
    : RoundTrip lib p x s set read
        ↔ p.get (p.set x s) = some x ∧ KeepsOthers (p.names s) s (p.set x s) := by
  have hstate : (parseCmd lib set s).1 = p.set x s := by
    rw [parseCmd_set hx hset, p.state_set hx hset]
  have hreply : (parseCmd lib read (p.set x s)).2 = some (p.reply x) ↔ p.get (p.set x s) = some x := by
    rw [parseCmd_read hread]
    exact (p.answers_read _).reply_iff
  rw [← hreply]
  constructor
  . intro ⟨hanswer, hothers⟩
    rw [hstate] at hanswer hothers
    exact ⟨hanswer, hothers⟩
  . intro ⟨hanswer, hothers⟩
    rw [← hstate] at hanswer hothers
    exact ⟨hanswer, hothers⟩

end Rigctl
