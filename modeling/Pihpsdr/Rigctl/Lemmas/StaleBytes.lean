import Pihpsdr.Rigctl.Lemmas.Effects

/-!
What an earlier command has left in the buffer changes the effect of a command, unless the tests of
its case lie inside of its own text or its argument is ignored.
-/

namespace Rigctl

-- the tests lie inside of each command with at least `m` characters
def staticInside (m : Nat) : List (Option Nat) → Bool
  | [] => true
  | none :: _ => true
  | some i :: tests => decide (i ≤ m + 1) && staticInside (if i = m then m + 1 else m) tests

theorem testsInside_of_static {m n : Nat} {tests : List (Option Nat)}
    (hstatic : staticInside m tests) (hm : m ≤ n)
    : TestsInside n tests := by
  induction tests generalizing m with
  | nil => trivial
  | cons test tests ih =>
    cases test with
    | none => trivial
    | some i =>
      rw [staticInside, Bool.and_eq_true, decide_eq_true_iff] at hstatic
      have ⟨hi, hstatic⟩ := hstatic
      refine ⟨by omega, ?_⟩
      by_cases hn : i = n
      . left
        exact hn
      . right
        apply ih hstatic
        split <;> omega

-- the entries with a test that may lie behind the end
theorem filter_standardCmds (lib : CLibrary)
    : (standardCmds lib).filter (fun e => !staticInside 2 e.case.tests)
        = [
      ⟨'A', 'G', catAg lib⟩,
      ⟨'F', 'A', catFa⟩,
      ⟨'F', 'B', catFb⟩,
      ⟨'F', 'W', catFw⟩,
      ⟨'G', 'T', catGt⟩,
      ⟨'K', 'S', catKs⟩,
      ⟨'M', 'G', catMg⟩,
      ⟨'P', 'C', catPc⟩,
      ⟨'P', 'L', catPl⟩,
      ⟨'R', 'D', catRd⟩,
      ⟨'R', 'U', catRu⟩,
      ⟨'S', 'A', catSa⟩,
      ⟨'S', 'D', catSd⟩,
      ⟨'S', 'Q', catSq⟩,
      ⟨'V', 'G', catVg lib⟩
    ] := by
  rfl

theorem filter_extendedCmds (lib : CLibrary)
    : (extendedCmds lib).filter (fun e => !staticInside 4 e.case.tests)
        = [
      ⟨'A', 'D', catZzad⟩,
      ⟨'A', 'E', catZzae⟩,
      ⟨'A', 'F', catZzaf⟩,
      ⟨'A', 'U', catZzau⟩,
      ⟨'B', 'E', catZzbe⟩,
      ⟨'B', 'F', catZzbf⟩,
      ⟨'B', 'M', catZzbm⟩,
      ⟨'B', 'P', catZzbp⟩,
      ⟨'B', 'S', catZzbs⟩,
      ⟨'B', 'T', catZzbt⟩,
      ⟨'F', 'A', catZzfa⟩,
      ⟨'F', 'B', catZzfb⟩,
      ⟨'F', 'H', catZzfh⟩,
      ⟨'F', 'L', catZzfl⟩,
      ⟨'M', 'G', catZzmg⟩,
      ⟨'Z', 'A', catZzza⟩,
      ⟨'Z', 'D', catZzzd⟩,
      ⟨'Z', 'E', catZzze⟩,
      ⟨'Z', 'P', catZzzp⟩,
      ⟨'Z', 'S', catZzzs⟩,
      ⟨'Z', 'U', catZzzu⟩
    ] := by
  rfl

-- the commands that ignore some of their arguments
def mayIgnore : List (Char × Char) :=
  [('K', 'S'), ('S', 'A'), ('S', 'Q')]

theorem acts_standardCmds (lib : CLibrary) {e : CatEntry} (he : e ∈ standardCmds lib)
    (hstatic : ¬ staticInside 2 e.case.tests) (hname : (e.outer, e.inner) ∉ mayIgnore)
    : e.case.Acts 2 := by
  have hmem : e ∈ (standardCmds lib).filter (fun e => !staticInside 2 e.case.tests) :=
    List.mem_filter.mpr ⟨he, by simpa using hstatic⟩
  rw [filter_standardCmds] at hmem
  simp only [List.mem_cons, List.not_mem_nil, or_false] at hmem
  rcases hmem with rfl | rfl | rfl | rfl | rfl | rfl | rfl | rfl | rfl | rfl | rfl | rfl | rfl | rfl
    | rfl
  . exact acts_catAg lib
  . exact acts_frequencyCase _ 0 (by decide)
  . exact acts_frequencyCase _ 1 (by decide)
  . exact acts_catFw
  . exact acts_catGt
  . exact absurd (by decide) hname
  . exact acts_catMg
  . exact acts_catPc
  . exact acts_catPl
  . exact acts_catRd
  . exact acts_catRu
  . exact absurd (by decide) hname
  . exact acts_catSd
  . exact absurd (by decide) hname
  . exact acts_catVg lib

theorem acts_extendedCmds (lib : CLibrary) {e : CatEntry} (he : e ∈ extendedCmds lib)
    (hstatic : ¬ staticInside 4 e.case.tests)
    : e.case.Acts 4 := by
  have hmem : e ∈ (extendedCmds lib).filter (fun e => !staticInside 4 e.case.tests) :=
    List.mem_filter.mpr ⟨he, by simpa using hstatic⟩
  rw [filter_extendedCmds] at hmem
  simp only [List.mem_cons, List.not_mem_nil, or_false] at hmem
  rcases hmem with rfl | rfl | rfl | rfl | rfl | rfl | rfl | rfl | rfl | rfl | rfl | rfl | rfl | rfl
    | rfl | rfl | rfl | rfl | rfl | rfl | rfl
  . exact acts_moveCase 0 (by decide)
  . exact acts_stepsCase 0 (-1)
  . exact acts_stepsCase 0 1
  . exact acts_moveCase 0 (by decide)
  . exact acts_stepsCase 1 (-1)
  . exact acts_stepsCase 1 1
  . exact acts_moveCase 1 (by decide)
  . exact acts_moveCase 1 (by decide)
  . exact acts_bandCase _ 0
  . exact acts_bandCase _ 1
  . exact acts_frequencyCase _ 0 (by decide)
  . exact acts_frequencyCase _ 1 (by decide)
  . exact acts_catZzfh
  . exact acts_catZzfl
  . exact acts_catZzmg
  . exact acts_catZzza
  . exact acts_catZzzd
  . exact acts_catZzze
  . exact acts_catZzzp
  . exact acts_catZzzs
  . exact acts_catZzzu

variable {lib : CLibrary} {body : List CChar} {c : CatCase}

-- the effect of a command is a function of its text
def TextDecides (lib : CLibrary) (body : List CChar) : Prop :=
  ∀ command command' : CommandBuffer, command.Holds (commandText body) →
    command'.Holds (commandText body) → ∀ s : Rig, s.radio.config.receivers ≤ 2 →
      parseCmd lib command s = parseCmd lib command' s

theorem inside_of_acts {m : Nat} (hacts : c.Acts m) (hc : textCase lib body = some c)
    (hbody : semicolon ∉ body) (hm : m ≤ body.length) (hown : TextDecides lib body)
    : TestsInside body.length c.tests := by
  by_contra hout
  have ⟨j, last, hlast, hj, heffect⟩ := hacts
  have hjlt : j < maxDataSize := Nat.lt_of_lt_of_le hj (by decide)
  have ⟨command, _, _, hidle⟩ := hlast.idle_of_own hc hbody hm hjlt hout hown
  have ⟨s, hs, hne⟩ := heffect (last.args.flatMap (CatArg.read command))
  exact hne (hidle s hs)

theorem ksSet_ne {x : Int} (hx : 1 ≤ x ∧ x ≤ 60)
    : ∃ s : Rig, s.radio.config.receivers ≤ 2 ∧ ksSet x s ≠ s.silent := by
  let s : Rig := { startRig with cwKeyerSpeed := x + 1 }
  refine ⟨s, receivers_startRig, ne_of_state (·.cwKeyerSpeed) ?_⟩
  rw [ksSet, if_pos hx]
  exact (by omega : x ≠ x + 1)

-- a speed in range is set
theorem ignored_of_catKs (hc : textCase lib body = some catKs) (hbody : semicolon ∉ body)
    (hm : 2 ≤ body.length) (hout : ¬ TestsInside body.length catKs.tests)
    (hown : TextDecides lib body)
    : ¬ (1 ≤ atoi (body.drop 2) ∧ atoi (body.drop 2) ≤ 60) := by
  intro hx
  have hlast : catKs.Last 2 5 (.atoi 5 2 ksSet) := last_of_two rfl rfl (by decide) rfl
  have ⟨command, hholds, _, hidle⟩ := hlast.idle_of_own hc hbody hm (by decide) hout hown
  have ⟨s, hs, hne⟩ := ksSet_ne hx
  apply hne
  rw [← atoi_behind hholds (by omega)]
  exact hidle s hs

theorem squelch_radioSetSquelch {s : Rig} {id : Int} (h : id < s.receivers) (value : ℚ)
    : ((s.radioSetSquelch id value).rx id).squelch = value := by
  unfold Rig.radioSetSquelch Rig.setRx
  rw [if_neg (by omega)]
  simp

theorem radioSetSquelch_ne {id : Int} (hid : id ≤ 1) (value : ℚ)
    : ∃ s : Rig, s.radio.config.receivers ≤ 2 ∧ s.radioSetSquelch id value ≠ s := by
  let s : Rig := { startRig with rx := fun _ => { startRig.rx 0 with squelch := value + 1 } }
  refine ⟨s, receivers_startRig, ?_⟩
  intro heq
  have hvalue := squelch_radioSetSquelch (s := s) (Int.lt_add_one_of_le hid) value
  rw [heq] at hvalue
  exact absurd hvalue.symm (ne_of_lt (lt_add_one value))

-- also a negative number is taken for a receiver
theorem ignored_of_catSq (hc : textCase lib body = some catSq) (hbody : semicolon ∉ body)
    (hm : 2 ≤ body.length) (hout : ¬ TestsInside body.length catSq.tests)
    (hown : TextDecides lib body)
    : 1 < atoi (body.drop 2) := by
  by_contra hx
  have hlast : catSq.Last 2 6 (catSq.branches.getLast (by decide)) :=
    last_of_two rfl rfl (by decide) rfl
  have ⟨command, hholds, _, hidle⟩ := hlast.idle_of_own hc hbody hm (by decide) hout hown
  have ⟨s, hs, hne⟩ := radioSetSquelch_ne (Int.not_lt.mp hx)
    ((atoi (command.behind 3) : Int) / 255 * 100 + 1 / 2)
  apply hne
  rw [← atoi_behind hholds (by omega)]
  exact congrArg Prod.fst (hidle s hs)

-- the two digits of the mode are bytes of the buffer
theorem saSet_reply {c2 c6 c7 : CChar} (h : c2 = 49 → c6 = 48 ∧ c7 = 48) (s : Rig)
    : (saSet c2 c6 c7 s).2 = none := by
  unfold saSet
  split_ifs with h0 h1 h2 h3 h4
  all_goals first | rfl | exact absurd (h h1) h2

theorem ignored_of_catSa (hc : textCase lib body = some catSa) (hbody : semicolon ∉ body)
    (hm : 2 ≤ body.length) (hout : ¬ TestsInside body.length catSa.tests)
    (hown : TextDecides lib body)
    : textByte body 2 = 49 ∧ 5 ≤ body.length := by
  have hlast : catSa.Last 2 9 (catSa.branches.getLast (by decide)) :=
    last_of_two rfl rfl (by decide) rfl
  have ⟨hbehind, _⟩ := hlast.outside hm hout
  have ⟨command, hholds, hrest, hidle⟩ := hlast.idle_of_own hc hbody hm (by decide) hout hown
  by_contra hnot
  have hreply : (saSet (command.byte 2) (command.byte 6) (command.byte 7) startRig).2 = none := by
    apply saSet_reply
    intro hone
    rw [byte_eq_textByte hholds (by omega)] at hone
    have hlen : ¬ 5 ≤ body.length := fun h => hnot ⟨hone, h⟩
    have h6 := hrest 6 (by omega) (by decide) (by decide)
    have h7 := hrest 7 (by omega) (by decide) (by decide)
    exact ⟨h6, h7⟩
  have heq := congrArg Prod.snd (hidle startRig receivers_startRig)
  exact absurd (hreply.symm.trans heq) (Option.some_ne_none _).symm

theorem ignored_of_mayIgnore {e : CatEntry} (he : e ∈ standardCmds lib)
    (hname : (e.outer, e.inner) ∈ mayIgnore) (hletters : textLetter body 0 = e.outer
      ∧ textLetter body 1 = e.inner)
    (hc : textCase lib body = some e.case) (hbody : semicolon ∉ body) (hm : 2 ≤ body.length)
    (hout : ¬ TestsInside body.length e.case.tests) (hown : TextDecides lib body)
    : ArgumentIgnored body := by
  have hmem : e ∈ (standardCmds lib).filter (fun e => decide ((e.outer, e.inner) ∈ mayIgnore)) :=
    List.mem_filter.mpr ⟨he, decide_eq_true hname⟩
  have hentries : (standardCmds lib).filter (fun e => decide ((e.outer, e.inner) ∈ mayIgnore))
      = [⟨'K', 'S', catKs⟩, ⟨'S', 'A', catSa⟩, ⟨'S', 'Q', catSq⟩] := by
    rfl
  have htext : (textLetter body 0, textLetter body 1) = (e.outer, e.inner) := by
    rw [hletters.1, hletters.2]
  rw [hentries] at hmem
  simp only [List.mem_cons, List.not_mem_nil, or_false] at hmem
  rcases hmem with rfl | rfl | rfl
  . exact .inl ⟨htext, ignored_of_catKs hc hbody hm hout hown⟩
  . exact .inr (.inr ⟨htext, ignored_of_catSa hc hbody hm hout hown⟩)
  . exact .inr (.inl ⟨htext, ignored_of_catSq hc hbody hm hout hown⟩)

theorem ownText_of_textDecides (hbody : semicolon ∉ body) (hown : TextDecides lib body)
    : OwnText lib body := by
  unfold OwnText
  cases hc : textCase lib body with
  | none => trivial
  | some c =>
    by_cases hin : TestsInside body.length c.tests
    . left
      exact hin
    . cases entry_of_textCase hc with
      | inl hstandard =>
        have ⟨e, he, hcase, hm, hletters⟩ := hstandard
        subst hcase
        have hstatic : ¬ staticInside 2 e.case.tests :=
          fun hstatic => hin (testsInside_of_static hstatic hm)
        by_cases hname : (e.outer, e.inner) ∈ mayIgnore
        . right
          exact ignored_of_mayIgnore he hname hletters hc hbody hm hin hown
        . left
          exact inside_of_acts (acts_standardCmds lib he hstatic hname) hc hbody hm hown
      | inr hextended =>
        have ⟨e, he, hcase, hm⟩ := hextended
        subst hcase
        have hstatic : ¬ staticInside 4 e.case.tests :=
          fun hstatic => hin (testsInside_of_static hstatic hm)
        left
        exact inside_of_acts (acts_extendedCmds lib he hstatic) hc hbody hm hown

theorem textDecides_iff_ownText (lib : CLibrary) (body : List CChar) (hbody : semicolon ∉ body)
    : TextDecides lib body ↔ OwnText lib body := by
  constructor
  . exact ownText_of_textDecides hbody
  . intro hown command command' h h' s hs
    exact parseCmd_eq_of_ownText h h' hbody hown hs

theorem textDecides_fa : TextDecides zeroLibrary (codes ['F', 'A']) :=
  (textDecides_iff_ownText zeroLibrary (codes ['F', 'A']) (by decide)).mpr (.inl ⟨by decide, .inl rfl⟩)

theorem dial_frequencySet (v : Fin 2) (f : Int) (s : Rig)
    : ((s.setRadio (s.radio.vfoIdSetFrequency v f)).1.radio.vfo v).dial = f :=
  s.radio.dial_vfoIdSetFrequency v f

-- `FA1;` does nothing, or sets VFO A to 1 Hz if an earlier command has left a `;` at place 13
theorem not_textDecides_fa1 : ¬ TextDecides zeroLibrary (codes ['F', 'A', '1']) := by
  intro h
  let body := codes ['F', 'A', '1']
  let plain := CommandBuffer.ofText (commandText body) fun _ => 48
  let marked := CommandBuffer.ofText (commandText body) fun i => if i = 13 then semicolon else 48
  have hplain : plain.Holds (commandText body) := holds_ofText (by decide) _
  have hmarked : marked.Holds (commandText body) := holds_ofText (by decide) _
  have hlast : catFa.Last 2 13 (.atoll 13 2 fun f s => s.setRadio (s.radio.vfoIdSetFrequency 0 f)) :=
    last_of_two rfl rfl (by decide) rfl
  have hc : textCase zeroLibrary body = some catFa := rfl
  have hout : ¬ TestsInside body.length catFa.tests :=
    (by decide : ¬ (2 ≤ 4 ∧ (2 = 3 ∨ 13 ≤ 4 ∧ (13 = 3 ∨ True))))
  have heq := h marked plain hmarked hplain startRig receivers_startRig
  rw [parseCmd_eq_textCase hmarked, parseCmd_eq_textCase hplain, hc] at heq
  dsimp only at heq
  rw [hlast.exec hmarked (by decide) (by decide) hout,
    hlast.exec hplain (by decide) (by decide) hout, if_pos, if_neg] at heq
  . rw [CatBranch.exec_atoll] at heq
    have hf : atoll (marked.behind 2) = 1 := by
      rw [atoll, parse_behind hmarked (by decide : 2 ≤ body.length + 1)]
      decide +kernel
    rw [hf] at heq
    have hset := congrArg (fun o : Outcome => (o.1.radio.vfo 0).dial) heq
    have hone := (dial_frequencySet 0 1 startRig).symm.trans hset
    exact absurd hone (by decide : (1 : Int) ≠ 14010000)
  . rw [byte_ofText (by decide) (by decide)]
    decide
  . rw [byte_ofText (by decide) (by decide)]
    decide

end Rigctl
