import Pihpsdr.Rigctl.Lemmas.Effects
import Pihpsdr.Rigctl.Lemmas.InBounds

/-!
The commands that set a mode, an AGC, a CTCSS tone or a receiver, or look up a speed, without a check
of their number: exactly they can leave the ranges and the tables.
-/

namespace Rigctl

def CommandBuffer.Named (command : CommandBuffer) (name : List Char) : Prop :=
  (List.range name.length).map (fun i => letter (command.byte i)) = name

instance (command : CommandBuffer) (name : List Char) : Decidable (command.Named name) :=
  inferInstanceAs (Decidable (_ = _))

-- the `;` stands at `stop`, and not at the place for a reading command
def CommandBuffer.Sets (command : CommandBuffer) (name : List Char) (off stop : Nat) : Prop :=
  command.Named name ∧ command.byte off ≠ semicolon ∧ command.byte stop = semicolon

-- the numbers that no command checks
inductive LeavesRange (command : CommandBuffer) (s : Rig) : Prop where
  | cn (hsets : command.Sets ['C', 'N'] 2 4) (htx : s.hasTransmitter)
      (h : ¬ CtcssExists (atoi (command.behind 2) - 1))
  | gt (hsets : command.Sets ['G', 'T'] 2 5) (h : ¬ AgcExists ((atoi (command.behind 2)).tdiv 5))
  | sq (hsets : command.Sets ['S', 'Q'] 3 6) (h : atoi (command.behind 2) < 0)
  | zzgt (hsets : command.Sets ['Z', 'Z', 'G', 'T'] 4 5) (h : ¬ AgcExists (atoi (command.behind 4)))
  | zzgu (hsets : command.Sets ['Z', 'Z', 'G', 'U'] 4 5) (hsecond : secondReceiver s)
      (h : ¬ AgcExists (atoi (command.behind 4)))
  | zzmd (hsets : command.Sets ['Z', 'Z', 'M', 'D'] 4 6) (h : ¬ ModeExists (atoi (command.behind 4)))
  | zzme (hsets : command.Sets ['Z', 'Z', 'M', 'E'] 4 6) (h : ¬ ModeExists (atoi (command.behind 4)))
  | zzzd (hname : command.Named ['Z', 'Z', 'Z', 'D']) (hsets : command.byte 6 = semicolon)
      (h : twoDigits (command.byte 4) (command.byte 5) < 0)
  | zzzu (hname : command.Named ['Z', 'Z', 'Z', 'U']) (hsets : command.byte 6 = semicolon)
      (h : twoDigits (command.byte 4) (command.byte 5) < 0)

variable {lib : CLibrary} {o : Surroundings} {command : CommandBuffer} {s : Rig}

theorem CatCase.Safe.exec {c : CatCase} (hc : c.Safe o) (command : CommandBuffer)
    (hs : s.radio.InRange)
    : Agree o (c.exec command s) (c.exec command (s.within o)) := by
  unfold CatCase.exec
  cases hfind : c.branches.find? (·.taken command) with
  | none => exact hc.otherwise s hs
  | some branch => exact hc.branch branch (List.mem_of_find?_eq_some hfind) _ s hs

-- a case with two branches, of which the second one needs a condition
theorem agree_exec_two {c : CatCase} {first second : CatBranch} {i j : Nat}
    (hc : c.branches = [first, second]) (hfirst : first.test = some i) (hsecond : second.test = some j)
    (hs : s.radio.InRange) (hread : first.Safe o)
    (hset : command.byte i ≠ semicolon → command.byte j = semicolon →
      Agree o (second.exec command s) (second.exec command (s.within o)))
    (hotherwise : Safe o c.otherwise)
    : Agree o (c.exec command s) (c.exec command (s.within o)) := by
  unfold CatCase.exec
  rw [hc, List.find?_cons, taken_of_some hfirst]
  by_cases hi : command.byte i = semicolon
  . rw [decide_eq_true hi]
    exact hread _ s hs
  . rw [decide_eq_false hi, List.find?_cons, taken_of_some hsecond]
    by_cases hj : command.byte j = semicolon
    . rw [decide_eq_true hj]
      exact hset hi hj
    . rw [decide_eq_false hj]
      exact hotherwise s hs

theorem agree_catCn (hs : s.radio.InRange)
    (h : command.byte 2 ≠ semicolon → command.byte 4 = semicolon → s.hasTransmitter →
      CtcssExists (atoi (command.behind 2) - 1))
    : Agree o (catCn.exec command s) (catCn.exec command (s.within o)) := by
  refine agree_exec_two rfl rfl rfl hs ?_ ?_ safe_silent
  . intro args s hs
    apply agree_withTransmitter hs
    intro tx htx
    exact agree_answer hs rfl
  . intro hread hset
    apply agree_withTransmitter hs
    intro tx htx
    apply agree_txSetCtcss hs
    apply h hread hset
    rw [Rig.hasTransmitter, htx]
    rfl

theorem agree_catGt (hs : s.radio.InRange)
    (h : command.byte 2 ≠ semicolon → command.byte 5 = semicolon →
      AgcExists ((atoi (command.behind 2)).tdiv 5))
    : Agree o (catGt.exec command s) (catGt.exec command (s.within o)) := by
  refine agree_exec_two rfl rfl rfl hs (fun _ _ hs => agree_answer hs rfl) ?_ safe_silent
  intro hread hset
  exact agree_setRadio (hs.alike.setAgc 0 (h hread hset))

theorem agree_radioSetSquelch (hs : s.radio.InRange) {id : Int} (hid : 0 ≤ id) (value : ℚ)
    : Agree o (s.radioSetSquelch id value, none) ((s.within o).radioSetSquelch id value, none) := by
  unfold Rig.radioSetSquelch
  by_cases hlarge : id ≥ s.receivers
  . have hlarge' : id ≥ (s.within o).receivers := hlarge
    rw [if_pos hlarge, if_pos hlarge']
    exact safe_silent s hs
  . have hlarge' : ¬ id ≥ (s.within o).receivers := hlarge
    have hhas : Table.Has 2 id := by
      have hreceivers := hs.receivers
      unfold Rig.receivers at hlarge
      exact ⟨hid, by omega⟩
    rw [if_neg hlarge, if_neg hlarge']
    apply agree_setRx hs hhas
    rw [rx_within hhas]

theorem agree_catSq (hs : s.radio.InRange)
    (h : command.byte 3 ≠ semicolon → command.byte 6 = semicolon → 0 ≤ atoi (command.behind 2))
    : Agree o (catSq.exec command s) (catSq.exec command (s.within o)) := by
  refine agree_exec_two rfl rfl rfl hs (fun _ => safe_sqRead _) ?_ safe_silent
  intro hread hset
  exact agree_radioSetSquelch hs (h hread hset) _

theorem agree_agcCase (name : List Char) (id : Fin 2) (hs : s.radio.InRange)
    (h : command.byte 4 ≠ semicolon → command.byte 5 = semicolon →
      AgcExists (atoi (command.behind 4)))
    : Agree o ((agcCase name id).exec command s) ((agcCase name id).exec command (s.within o)) := by
  refine agree_exec_two rfl rfl rfl hs (fun _ _ hs => agree_answer hs rfl) ?_ safe_silent
  intro hread hset
  exact agree_setRadio (hs.alike.setAgc id (h hread hset))

theorem agree_catZzgu (hs : s.radio.InRange)
    (h : command.byte 4 ≠ semicolon → command.byte 5 = semicolon → secondReceiver s →
      AgcExists (atoi (command.behind 4)))
    : Agree o (catZzgu.exec command s) (catZzgu.exec command (s.within o)) := by
  unfold catZzgu
  rw [exec_guarded, exec_guarded, secondReceiver_within]
  by_cases hsecond : secondReceiver s
  . rw [if_pos hsecond, if_pos hsecond]
    exact agree_agcCase _ 1 hs fun hread hset => h hread hset hsecond
  . rw [if_neg hsecond, if_neg hsecond]
    exact safe_silent s hs

-- `ZZMD` and `ZZME`
theorem agree_modeCase (v : Fin 2) (hs : s.radio.InRange)
    (h : command.byte 4 ≠ semicolon → command.byte 6 = semicolon →
      ModeExists (atoi (command.behind 4)))
    : Agree o ((CatCase.readSet 4 6 (modeRead v) modeSet).exec command s)
        ((CatCase.readSet 4 6 (modeRead v) modeSet).exec command (s.within o)) := by
  refine agree_exec_two rfl rfl rfl hs (fun _ _ hs => agree_answer hs rfl) ?_ safe_silent
  intro hread hset
  exact agree_setRadio (hs.alike.vfoIdModeChanged 0 (h hread hset))

theorem dialSteps_within {steps : Int} (h : 0 ≤ steps)
    : dialSteps (s.within o) steps = dialSteps s steps := by
  have hlast : (s.within o).speedup 31 = s.speedup 31 :=
    Table.within_of_has (by decide : Table.Has 32 31) _ o.speedup
  unfold dialSteps
  split
  next hle =>
    have hhas : Table.Has 32 steps := ⟨h, by omega⟩
    exact Table.within_of_has hhas _ o.speedup
  next => rw [hlast]

-- `ZZZD` and `ZZZU`
theorem agree_dialCase {c : CatCase} (sign : Int) (hc : c.branches = [dialBranch sign])
    (hotherwise : Safe o c.otherwise) (hs : s.radio.InRange)
    (h : command.byte 6 = semicolon → 0 ≤ twoDigits (command.byte 4) (command.byte 5))
    : Agree o (c.exec command s) (c.exec command (s.within o)) := by
  have htest : (dialBranch sign).test = some 6 := rfl
  unfold CatCase.exec
  rw [hc, List.find?_cons, taken_of_some htest]
  by_cases hsemi : command.byte 6 = semicolon
  . rw [decide_eq_true hsemi]
    apply agree_call hs
    have hsteps := dialSteps_within (o := o) (s := s) (h hsemi)
    exact congrArg (fun x => RigCall.scheduleVfo (sign * x)) hsteps
  . rw [decide_eq_false hsemi]
    exact hotherwise s hs

-- the commands whose numbers are not checked
def uncheckedStandard : List (Char × Char) :=
  [('C', 'N'), ('G', 'T'), ('S', 'Q')]

def uncheckedExtended : List (Char × Char) :=
  [('G', 'T'), ('G', 'U'), ('M', 'D'), ('M', 'E'), ('Z', 'D'), ('Z', 'U')]

theorem safe_standardCmds (lib : CLibrary)
    : ∀ e ∈ standardCmds lib, (e.outer, e.inner) ∈ uncheckedStandard ∨ e.case.Safe o := by
  simp only [standardCmds, List.forall_mem_cons]
  exact ⟨.inr safe_catShutdown, .inr (safe_catAg lib), .inr safe_catAi, .inr safe_catBd,
    .inr safe_catBu, .inl (by decide), .inr safe_catCt, .inr safe_catDn,
    .inr (safe_frequencyCase _ 0), .inr (safe_frequencyCase _ 1), .inr safe_catFr, .inr safe_catFt,
    .inr safe_catFw, .inl (by decide), .inr safe_catId, .inr safe_catIf, .inr safe_catKs,
    .inr safe_catKy, .inr safe_catLk, .inr safe_catMd, .inr safe_catMg, .inr safe_catNb,
    .inr safe_catNr, .inr safe_catNt, .inr safe_catPa, .inr safe_catPc, .inr safe_catPl,
    .inr safe_catPs, .inr safe_catRa, .inr safe_catRc, .inr safe_catRd, .inr safe_catRt,
    .inr safe_catRu, .inr safe_catRx, .inr safe_catSa, .inr safe_catSd, .inr safe_catSh,
    .inr safe_catSl, .inr safe_catSm, .inl (by decide), .inr safe_catTx, .inr safe_catTy,
    .inr safe_catUp, .inr (safe_catVg lib), .inr safe_catVx, .inr safe_catXt,
    fun _ hmem => absurd hmem List.not_mem_nil⟩

theorem safe_extendedCmds (lib : CLibrary)
    : ∀ e ∈ extendedCmds lib, (e.outer, e.inner) ∈ uncheckedExtended ∨ e.case.Safe o := by
  simp only [extendedCmds, List.forall_mem_cons]
  exact ⟨.inr safe_catZzac, .inr (safe_moveCase 0 (-1)), .inr (safe_stepsCase 0 (-1)),
    .inr (safe_stepsCase 0 1), .inr (safe_catZzag lib), .inr safe_catZzai,
    .inr (safe_thresholdCase _ 0), .inr safe_catZzas, .inr (safe_moveCase 0 1), .inr safe_catZzba,
    .inr safe_catZzbb, .inr safe_catZzbd, .inr (safe_stepsCase 1 (-1)), .inr (safe_stepsCase 1 1),
    .inr (safe_moveCase 1 (-1)), .inr (safe_moveCase 1 1), .inr (safe_bandCase _ 0),
    .inr (safe_bandCase _ 1), .inr safe_catZzbu, .inr safe_catZzby, .inr (safe_ctunCase _ 0),
    .inr (safe_ctunCase _ 1), .inr (safe_frequencyCase _ 0), .inr (safe_frequencyCase _ 1),
    .inr safe_catZzfh, .inr safe_catZzfl, .inl (by decide), .inl (by decide),
    .inr (safe_catZzla lib), .inr (safe_catZzlc lib), .inr safe_catZzli,
    .inr (safe_muteCase (by decide)), .inr safe_catZzmb, .inl (by decide), .inl (by decide),
    .inr safe_catZzmg, .inr (safe_oneStepCase 0 (-1)), .inr (safe_oneStepCase 0 1),
    .inr (safe_oneStepCase 1 (-1)), .inr (safe_oneStepCase 1 1), .inr safe_catZztx,
    .inr safe_catZzuu, .inr safe_catZzvs, .inr safe_catZzxv, .inr safe_catZzyr, .inr safe_catZzza,
    .inl (by decide), .inr safe_catZzze, .inr safe_catZzzp, .inr safe_catZzzs, .inl (by decide),
    fun _ hmem => absurd hmem List.not_mem_nil⟩

theorem filter_uncheckedStandard (lib : CLibrary)
    : (standardCmds lib).filter (fun e => decide ((e.outer, e.inner) ∈ uncheckedStandard))
        = [⟨'C', 'N', catCn⟩, ⟨'G', 'T', catGt⟩, ⟨'S', 'Q', catSq⟩] := by
  rfl

theorem filter_uncheckedExtended (lib : CLibrary)
    : (extendedCmds lib).filter (fun e => decide ((e.outer, e.inner) ∈ uncheckedExtended))
        =
      [⟨'G', 'T', catZzgt⟩, ⟨'G', 'U', catZzgu⟩, ⟨'M', 'D', catZzmd⟩, ⟨'M', 'E', catZzme⟩,
        ⟨'Z', 'D', catZzzd⟩, ⟨'Z', 'U', catZzzu⟩] := by
  rfl

theorem named_of_two {a b : Char} (h0 : letter (command.byte 0) = a) (h1 : letter (command.byte 1) = b)
    : command.Named [a, b] := by
  simp [CommandBuffer.Named, List.range_succ, h0, h1]

theorem named_of_four {a b : Char} (hz : letter (command.byte 0) = 'Z' ∧ letter (command.byte 1) = 'Z')
    (h2 : letter (command.byte 2) = a) (h3 : letter (command.byte 3) = b)
    : command.Named ['Z', 'Z', a, b] := by
  simp [CommandBuffer.Named, List.range_succ, hz.1, hz.2, h2, h3]

theorem agree_standard (hs : s.radio.InRange) (h : ¬ LeavesRange command s) {e : CatEntry}
    (he : e ∈ standardCmds lib) (hname : command.Named [e.outer, e.inner])
    : Agree o (e.case.exec command s) (e.case.exec command (s.within o)) := by
  cases safe_standardCmds lib e he with
  | inr hsafe => exact hsafe.exec command hs
  | inl hunchecked =>
    have hmem : e ∈ (standardCmds lib).filter fun e => decide ((e.outer, e.inner) ∈ uncheckedStandard) :=
      List.mem_filter.mpr ⟨he, decide_eq_true hunchecked⟩
    rw [filter_uncheckedStandard] at hmem
    simp only [List.mem_cons, List.not_mem_nil, or_false] at hmem
    rcases hmem with rfl | rfl | rfl
    . apply agree_catCn hs
      intro hread hset htx
      by_contra hnot
      exact h (.cn ⟨hname, hread, hset⟩ htx hnot)
    . apply agree_catGt hs
      intro hread hset
      by_contra hnot
      exact h (.gt ⟨hname, hread, hset⟩ hnot)
    . apply agree_catSq hs
      intro hread hset
      by_contra hnot
      exact h (.sq ⟨hname, hread, hset⟩ (by omega))

theorem agree_extended (hs : s.radio.InRange) (h : ¬ LeavesRange command s) {e : CatEntry}
    (he : e ∈ extendedCmds lib) (hname : command.Named ['Z', 'Z', e.outer, e.inner])
    : Agree o (e.case.exec command s) (e.case.exec command (s.within o)) := by
  cases safe_extendedCmds lib e he with
  | inr hsafe => exact hsafe.exec command hs
  | inl hunchecked =>
    have hmem : e ∈ (extendedCmds lib).filter fun e => decide ((e.outer, e.inner) ∈ uncheckedExtended) :=
      List.mem_filter.mpr ⟨he, decide_eq_true hunchecked⟩
    rw [filter_uncheckedExtended] at hmem
    simp only [List.mem_cons, List.not_mem_nil, or_false] at hmem
    rcases hmem with rfl | rfl | rfl | rfl | rfl | rfl
    . apply agree_agcCase _ 0 hs
      intro hread hset
      by_contra hnot
      exact h (.zzgt ⟨hname, hread, hset⟩ hnot)
    . apply agree_catZzgu hs
      intro hread hset hsecond
      by_contra hnot
      exact h (.zzgu ⟨hname, hread, hset⟩ hsecond hnot)
    . apply agree_modeCase 0 hs
      intro hread hset
      by_contra hnot
      exact h (.zzmd ⟨hname, hread, hset⟩ hnot)
    . apply agree_modeCase 1 hs
      intro hread hset
      by_contra hnot
      exact h (.zzme ⟨hname, hread, hset⟩ hnot)
    . apply agree_dialCase (-1) rfl safe_unimplemented hs
      intro hset
      by_contra hnot
      exact h (.zzzd hname hset (by omega))
    . apply agree_dialCase 1 rfl safe_silent hs
      intro hset
      by_contra hnot
      exact h (.zzzu hname hset (by omega))

theorem agree_parseCmd (lib : CLibrary) (hs : s.radio.InRange) (h : ¬ LeavesRange command s)
    : Agree o (parseCmd lib command s) (parseCmd lib command (s.within o)) := by
  unfold parseCmd
  cases hc : catCase lib fun i => letter (command.byte i) with
  | none => exact safe_unimplemented s hs
  | some c =>
    unfold catCase at hc
    split at hc
    next hz =>
      have ⟨e, hmem, houter, hinner, hcase⟩ := mem_of_findCase hc
      rw [← hcase]
      exact agree_extended hs h hmem (named_of_four hz houter.symm hinner.symm)
    next =>
      have ⟨e, hmem, houter, hinner, hcase⟩ := mem_of_findCase hc
      rw [← hcase]
      exact agree_standard hs h hmem (named_of_two houter.symm hinner.symm)

-- what the command does does not depend on the memory around the tables, and does not change it
def InBounds (lib : CLibrary) (command : CommandBuffer) (s : Rig) : Prop :=
  ∀ o : Surroundings, parseCmd lib command (s.within o)
    = ((parseCmd lib command s).1.within o, (parseCmd lib command s).2)

def KeepsBounds (lib : CLibrary) (command : CommandBuffer) (s : Rig) : Prop :=
  (parseCmd lib command s).1.radio.InRange ∧ InBounds lib command s

theorem keepsBounds_of_not_leavesRange (lib : CLibrary) (hs : s.radio.InRange)
    (h : ¬ LeavesRange command s)
    : KeepsBounds lib command s := by
  constructor
  . have o : Surroundings := ⟨⟨s.radio.profile, s.radio.config.filters⟩, s.rx, s.speedup,
      s.ctcssFrequencies⟩
    exact (agree_parseCmd (o := o) lib hs h).inRange
  . intro o
    have hagree := agree_parseCmd (o := o) lib hs h
    exact Prod.ext hagree.state hagree.reply

theorem parseCmd_of_two {a b : Char} {c : CatCase} (hname : command.Named [a, b]) (ha : a ≠ 'Z')
    (hfind : findCase (standardCmds lib) a b = some c) (s : Rig)
    : parseCmd lib command s = c.exec command s := by
  have hletters : letter (command.byte 0) = a ∧ letter (command.byte 1) = b := by
    simpa [CommandBuffer.Named, List.range_succ] using hname
  rw [parseCmd, catCase, if_neg (fun hz => ha (hletters.1.symm.trans hz.1)), hletters.1, hletters.2,
    hfind]

theorem parseCmd_of_four {a b : Char} {c : CatCase} (hname : command.Named ['Z', 'Z', a, b])
    (hfind : findCase (extendedCmds lib) a b = some c) (s : Rig)
    : parseCmd lib command s = c.exec command s := by
  have hletters : letter (command.byte 0) = 'Z' ∧ letter (command.byte 1) = 'Z'
      ∧ letter (command.byte 2) = a ∧ letter (command.byte 3) = b := by
    simpa [CommandBuffer.Named, List.range_succ] using hname
  have ⟨h0, h1, h2, h3⟩ := hletters
  rw [parseCmd, catCase, if_pos ⟨h0, h1⟩, h2, h3, hfind]

theorem not_inRange_of_agc {r : RadioState} {id : Fin 2} {agc : Int} (h : ¬ AgcExists agc)
    : ¬ (r.setAgc id agc).InRange := by
  intro hr
  have hagc := hr.agc id
  rw [RadioState.agc_setAgc] at hagc
  exact h hagc

theorem not_inRange_of_mode {r : RadioState} {m : Int} (h : ¬ ModeExists m)
    : ¬ (r.vfoIdModeChanged 0 m).InRange := by
  intro hr
  have hmode := (hr.vfoInRange 0).mode
  rw [RadioState.mode_vfoIdModeChanged] at hmode
  exact h hmode

-- a receiver with a negative number lies outside of the array, and is written
theorem not_inBounds_squelch {id : Int} (hid : id < 0) (value : ℚ)
    : ∃ o : Surroundings, (s.within o).radioSetSquelch id value
        ≠ (s.radioSetSquelch id value).within o := by
  let o : Surroundings := ⟨⟨s.radio.profile, s.radio.config.filters⟩,
    fun _ => { s.rx 0 with squelch := value + 1 }, s.speedup, s.ctcssFrequencies⟩
  refine ⟨o, ?_⟩
  intro heq
  have hsmall : ∀ s : Rig, ¬ id ≥ s.receivers := by
    intro s
    unfold Rig.receivers
    omega
  have hset := congrArg (fun s : Rig => (s.rx id).squelch) heq
  have hnot : ¬ Table.Has 2 id := fun h => by
    have := h.1
    omega
  have hleft : (((s.within o).radioSetSquelch id value).rx id).squelch = value := by
    unfold Rig.radioSetSquelch Rig.setRx
    rw [if_neg (hsmall _)]
    simp
  have hright : (((s.radioSetSquelch id value).within o).rx id).squelch = value + 1 := by
    have hrx := Table.within_of_not_has hnot (s.radioSetSquelch id value).rx o.rx
    exact congrArg RigReceiver.squelch hrx
  have := hleft.symm.trans (hset.trans hright)
  exact absurd this (ne_of_lt (lt_add_one value))

theorem not_inBounds_speedup {steps sign : Int} (hsteps : steps < 0) (hsign : sign ≠ 0)
    : ∃ o : Surroundings, (s.within o).call (.scheduleVfo (sign * dialSteps (s.within o) steps))
        ≠ ((s.call (.scheduleVfo (sign * dialSteps s steps))).1.within o, none) := by
  let o : Surroundings := ⟨⟨s.radio.profile, s.radio.config.filters⟩, s.rx,
    fun _ => s.speedup steps + 1, s.ctcssFrequencies⟩
  refine ⟨o, ?_⟩
  intro heq
  have hnot : ¬ Table.Has 32 steps := fun h => by
    have := h.1
    omega
  have hle : steps ≤ 30 := by omega
  have hleft : dialSteps (s.within o) steps = s.speedup steps + 1 := by
    rw [dialSteps, if_pos hle]
    exact Table.within_of_not_has hnot _ o.speedup
  have hright : dialSteps s steps = s.speedup steps := if_pos hle
  rw [hleft, hright] at heq
  have hcalls := congrArg (fun x : Outcome => x.1.calls) heq
  have hlast := List.append_cancel_left hcalls
  have hcall : sign * (s.speedup steps + 1) = sign * s.speedup steps := by
    simpa using hlast
  have := mul_left_cancel₀ hsign hcall
  omega

theorem not_inRange_catCn (hread : command.byte 2 ≠ semicolon) (hset : command.byte 4 = semicolon)
    (htx : s.hasTransmitter) (h : ¬ CtcssExists (atoi (command.behind 2) - 1))
    : ¬ (catCn.exec command s).1.radio.InRange := by
  have ⟨tx, htx⟩ := Option.isSome_iff_exists.mp htx
  have hexec := exec_second (c := catCn) rfl rfl rfl hread hset s
  rw [CatBranch.exec_atoi, Rig.withTransmitter, htx] at hexec
  intro hr
  rw [hexec] at hr
  exact h (hr.ctcss _ rfl)

theorem not_inRange_agcCase (name : List Char) (id : Fin 2) (hread : command.byte 4 ≠ semicolon)
    (hset : command.byte 5 = semicolon) (h : ¬ AgcExists (atoi (command.behind 4)))
    : ¬ ((agcCase name id).exec command s).1.radio.InRange := by
  rw [exec_second (c := agcCase name id) rfl rfl rfl hread hset]
  exact not_inRange_of_agc h

theorem not_inRange_modeCase (v : Fin 2) (hread : command.byte 4 ≠ semicolon)
    (hset : command.byte 6 = semicolon) (h : ¬ ModeExists (atoi (command.behind 4)))
    : ¬ ((CatCase.readSet 4 6 (modeRead v) modeSet).exec command s).1.radio.InRange := by
  rw [exec_second (c := CatCase.readSet 4 6 (modeRead v) modeSet) rfl rfl rfl hread hset]
  exact not_inRange_of_mode h

theorem not_inBounds_dialCase {c : CatCase} {sign : Int} (hc : c.branches = [dialBranch sign])
    (hsign : sign ≠ 0) (hset : command.byte 6 = semicolon)
    (h : twoDigits (command.byte 4) (command.byte 5) < 0)
    : ∃ o : Surroundings, c.exec command (s.within o)
        ≠ ((c.exec command s).1.within o, (c.exec command s).2) := by
  have htest : (dialBranch sign).test = some 6 := rfl
  have hexec (s : Rig) : c.exec command s = (dialBranch sign).exec command s := by
    rw [CatCase.exec, hc, List.find?_cons, taken_of_some htest, decide_eq_true hset]
  obtain ⟨o, hne⟩ := not_inBounds_speedup (s := s) h hsign
  refine ⟨o, ?_⟩
  rw [hexec, hexec]
  exact hne

theorem not_keepsBounds_of_leavesRange (lib : CLibrary) (h : LeavesRange command s)
    : ¬ KeepsBounds lib command s := by
  intro ⟨hr, hin⟩
  cases h with
  | cn hsets htx hnot =>
    rw [parseCmd_of_two hsets.1 (by decide) rfl] at hr
    exact not_inRange_catCn hsets.2.1 hsets.2.2 htx hnot hr
  | gt hsets hnot =>
    rw [parseCmd_of_two hsets.1 (by decide) rfl,
      exec_second (c := catGt) rfl rfl rfl hsets.2.1 hsets.2.2] at hr
    have hagc : (s.radio.setAgc 0 ((atoi (command.behind 2)).tdiv 5)).InRange := hr
    exact not_inRange_of_agc hnot hagc
  | sq hsets hnot =>
    have hparse (s : Rig) : parseCmd lib command s = catSq.exec command s :=
      parseCmd_of_two hsets.1 (by decide) rfl s
    have hexec (s : Rig) := (hparse s).trans
      (exec_second (c := catSq) rfl rfl rfl hsets.2.1 hsets.2.2 s)
    have ⟨o, hne⟩ := not_inBounds_squelch (s := s) hnot
      ((atoi (command.behind 3) : Int) / 255 * 100 + 1 / 2)
    have heq := hin o
    rw [hexec, hexec] at heq
    exact hne (congrArg Prod.fst heq)
  | zzgt hsets hnot =>
    rw [parseCmd_of_four hsets.1 rfl] at hr
    exact not_inRange_agcCase _ 0 hsets.2.1 hsets.2.2 hnot hr
  | zzgu hsets hsecond hnot =>
    rw [parseCmd_of_four hsets.1 rfl, catZzgu, exec_guarded, if_pos hsecond] at hr
    exact not_inRange_agcCase _ 1 hsets.2.1 hsets.2.2 hnot hr
  | zzmd hsets hnot =>
    rw [parseCmd_of_four hsets.1 rfl] at hr
    exact not_inRange_modeCase 0 hsets.2.1 hsets.2.2 hnot hr
  | zzme hsets hnot =>
    rw [parseCmd_of_four hsets.1 rfl] at hr
    exact not_inRange_modeCase 1 hsets.2.1 hsets.2.2 hnot hr
  | zzzd hname hset hnot =>
    have ⟨o, hne⟩ := not_inBounds_dialCase (c := catZzzd) (s := s) rfl (by decide) hset hnot
    have heq := hin o
    rw [parseCmd_of_four hname rfl, parseCmd_of_four hname rfl] at heq
    exact hne heq
  | zzzu hname hset hnot =>
    have ⟨o, hne⟩ := not_inBounds_dialCase (c := catZzzu) (s := s) rfl (by decide) hset hnot
    have heq := hin o
    rw [parseCmd_of_four hname rfl, parseCmd_of_four hname rfl] at heq
    exact hne heq

-- between two commands the rest of the program may change the state
inductive RigEvent where
  | command (command : CommandBuffer)
  | elsewhere (s : Rig)

def rigStep (lib : CLibrary) (s : Rig) : RigEvent → Rig
  | .command command => (parseCmd lib command s).1
  | .elsewhere s' => s'

-- all values exist after the step, and the tables are used inside of their bounds
def StepKeepsBounds (lib : CLibrary) (s : Rig) : RigEvent → Prop
  | .command command => KeepsBounds lib command s
  | .elsewhere s' => s'.radio.InRange

def StaysInRange (s : Rig) : RigEvent → Prop
  | .command command => ¬ LeavesRange command s
  | .elsewhere s' => s'.radio.InRange

theorem stepKeepsBounds_iff (lib : CLibrary) (hs : s.radio.InRange) (e : RigEvent)
    : StepKeepsBounds lib s e ↔ StaysInRange s e := by
  cases e with
  | command command =>
    constructor
    . intro hkeeps hleaves
      exact not_keepsBounds_of_leavesRange lib hleaves hkeeps
    . exact keepsBounds_of_not_leavesRange lib hs
  | elsewhere s' => rfl

theorem inRange_rigStep (lib : CLibrary) {e : RigEvent} (h : StepKeepsBounds lib s e)
    : (rigStep lib s e).radio.InRange := by
  cases e with
  | command command => exact h.1
  | elsewhere s' => exact h

theorem keepsBounds_run_iff (lib : CLibrary) (s : Rig) (hs : s.radio.InRange) (es : List RigEvent)
    : Run.Along (rigStep lib) (StepKeepsBounds lib) s es
        ↔ Run.Along (rigStep lib) StaysInRange s es := by
  induction es generalizing s with
  | nil => rfl
  | cons e es ih =>
    rw [Run.along_cons, Run.along_cons, stepKeepsBounds_iff lib hs e]
    constructor
    . intro ⟨hstays, hrest⟩
      have hkeeps := (stepKeepsBounds_iff lib hs e).mpr hstays
      exact ⟨hstays, (ih _ (inRange_rigStep lib hkeeps)).mp hrest⟩
    . intro ⟨hstays, hrest⟩
      have hkeeps := (stepKeepsBounds_iff lib hs e).mpr hstays
      exact ⟨hstays, (ih _ (inRange_rigStep lib hkeeps)).mpr hrest⟩

theorem inRange_startRig : startRig.radio.InRange where
  toIndicesValid := by
    constructor
    . decide
    . decide
  vfoInRange _ := ⟨(by decide : ModeExists 4), (by decide : FilterExists 4)⟩
  stackInRange _ _ _ :=
    ⟨(by decide : ModeExists 4), (by decide : FilterExists 4), (by decide : CtcssExists 0)⟩
  agc _ := (by decide : AgcExists 3)
  ctcss tx htx := by
    cases htx
    exact (by decide : CtcssExists 0)
  profileInRange _ _ := ⟨(by decide : FilterExists 4), (by decide : AgcExists 3)⟩
  receivers := by decide

theorem first_of_named {a : Char} {name : List Char} (h : command.Named (a :: name))
    : letter (command.byte 0) = a := by
  unfold CommandBuffer.Named at h
  rw [List.length_cons, List.range_succ_eq_map, List.map_cons] at h
  exact (List.cons_eq_cons.mp h).1

theorem first_of_leavesRange (h : LeavesRange command s)
    : letter (command.byte 0) ∈ ['C', 'G', 'S', 'Z'] := by
  cases h with
  | cn hsets | gt hsets | sq hsets | zzgt hsets | zzgu hsets | zzmd hsets | zzme hsets =>
    rw [first_of_named hsets.1]
    decide
  | zzzd hname | zzzu hname =>
    rw [first_of_named hname]
    decide

def frequencyCommand : CommandBuffer :=
  CommandBuffer.ofText (commandText (codes ['F', 'A'])) fun _ => 0

theorem not_leavesRange_frequencyCommand (s : Rig) : ¬ LeavesRange frequencyCommand s := by
  intro h
  have hfirst := first_of_leavesRange h
  have hholds : frequencyCommand.Holds (commandText (codes ['F', 'A'])) :=
    holds_ofText (by decide) _
  rw [byte_eq_textByte hholds (Nat.zero_le _)] at hfirst
  exact absurd hfirst (by decide)

theorem keepsBounds_run_fa
    : Run.Along (rigStep zeroLibrary) (StepKeepsBounds zeroLibrary) startRig
        [.command frequencyCommand, .command frequencyCommand] :=
  (keepsBounds_run_iff zeroLibrary startRig inRange_startRig
    [.command frequencyCommand, .command frequencyCommand]).mpr
    ⟨not_leavesRange_frequencyCommand _, not_leavesRange_frequencyCommand _, trivial⟩

def modeBody : List CChar :=
  codes ['Z', 'Z', 'M', 'D', '9', '9']

def modeCommand : CommandBuffer :=
  CommandBuffer.ofText (commandText modeBody) fun _ => 0

theorem holds_modeCommand : modeCommand.Holds (commandText modeBody) :=
  holds_ofText (by decide) _

theorem byte_modeCommand {i : Nat} (hi : i ≤ 7) : modeCommand.byte i = textByte modeBody i :=
  byte_eq_textByte holds_modeCommand hi

theorem leavesRange_modeCommand (s : Rig) : LeavesRange modeCommand s := by
  have hname : modeCommand.Named ['Z', 'Z', 'M', 'D'] := by
    apply named_of_four
    . rw [byte_modeCommand (by decide), byte_modeCommand (by decide)]
      decide
    . rw [byte_modeCommand (by decide)]
      decide
    . rw [byte_modeCommand (by decide)]
      decide
  have hmode : atoi (modeCommand.behind 4) = 99 := by
    rw [atoi_behind holds_modeCommand (by decide : 4 ≤ modeBody.length + 1)]
    decide +kernel
  apply LeavesRange.zzmd
  . refine ⟨hname, ?_, ?_⟩
    . rw [byte_modeCommand (by decide)]
      decide
    . rw [byte_modeCommand (by decide)]
      decide
  . rw [hmode]
    decide

-- `ZZMD99;` stores the mode 99
theorem not_keepsBounds_zzmd : ¬ KeepsBounds zeroLibrary modeCommand startRig :=
  not_keepsBounds_of_leavesRange zeroLibrary (leavesRange_modeCommand startRig)

end Rigctl
