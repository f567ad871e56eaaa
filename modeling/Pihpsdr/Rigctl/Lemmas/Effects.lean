import Pihpsdr.Rigctl.Lemmas.FilterCommands
import Pihpsdr.Rigctl.Lemmas.OwnText
import Pihpsdr.Vfo.Lemmas.Tuning

/-!
Each command whose last test may look behind its end does something in that branch, whatever the
arguments are: there is a state in which this makes a difference.
-/

namespace RadioState

variable (s : RadioState)

theorem agc_setAgc (id : Fin 2) (agc : Int) : ((s.setAgc id agc).receiver id).agc = agc := by
  dsimp only [setAgc, rxSetAgc]
  split_ifs
  all_goals simp

theorem dial_rxSetFrequency (v : Fin 2) (f : Int) : ((s.rxSetFrequency v f).vfo v).dial = f := by
  dsimp only [rxSetFrequency, rxFrequencyChanged]
  simp

theorem dial_vfoIdSetFrequency (v : Fin 2) (f : Int)
    : ((s.vfoIdSetFrequency v f).vfo v).dial = f := by
  dsimp only [vfoIdSetFrequency]
  split_ifs with hv hctun
  . apply dial_rxSetFrequency
  . rw [toTuningState_setVfo, TuningState.vfo_setVfo, Function.update_self]
    rfl
  . rw [toTuningState_setVfo, TuningState.vfo_setVfo, Function.update_self]
    exact if_neg hctun

theorem mode_vfoIdModeChanged (id : Fin 2) (m : Int)
    : ((s.vfoIdModeChanged id m).vfo id).mode = m := by
  rw [toTuningState_vfoIdModeChanged, TuningState.vfo_setVfo, Function.update_self]
  dsimp only
  split
  . rw [VfoState.mode_loadProfile]
  . rfl

-- the commands for the edges of the filter switch to `Var1`
theorem filter_applyVar1Edges (e : FilterEdges)
    : ((s.applyVar1Edges e).vfo 0).filter = filterVar1 := by
  simp [applyVar1Edges]

theorem filter_fwSet (x : Int) : ((s.fwSet x).vfo 0).filter = filterVar1 := by
  dsimp only [fwSet]
  split_ifs
  . apply filter_applyVar1Edges
  . simp [fwSetFmn]
  . apply filter_applyVar1Edges
  . apply filter_applyVar1Edges
  . dsimp only [setVar1Edges, setFilterEdges]
    simp

-- without satellite mode the other VFO stays where it is
theorem dial_setDial_satFollow (hsat : s.satMode = satModeNone) (v : Fin 2) (f delta : Int)
    : ((((s.setDial v f).satFollow v delta).rxFrequencyChangedIfRunning v).vfo v).dial = f := by
  have hsat' : (s.setDial v f).satMode = satModeNone := by
    rw [toTuningState_setDial, TuningState.satMode_setVfo, hsat]
  have hstay : (s.setDial v f).satFollow v delta = s.setDial v f := by
    dsimp only [satFollow]
    rw [hsat', if_neg (by decide), if_neg (by decide)]
  have htuned := congrFun (tuned_rxFrequencyChangedIfRunning (s.setDial v f) v) v
  rw [tuned_setDial, Function.update_self] at htuned
  rw [hstay]
  exact congrArg Prod.snd htuned

theorem mode_vfoIdBandChanged {v : Fin 2} {b : BandIndex} (hb : b = (s.vfo v).band)
    : ((s.vfoIdBandChanged v b).vfo v).mode = (s.bandEntry v b).mode := by
  unfold vfoIdBandChanged
  rw [if_neg (fun h => h.1 hb), toTuningState_vfoVfosChanged]
  dsimp only
  rw [settled, mode_settle, enterBand_eq, toTuningState_applyIfMoved, toTuningState_enterEntry,
    TuningState.vfo_setVfo, Function.update_self]
  dsimp only
  split
  . rw [VfoState.mode_loadProfile, VfoState.mode_enter]
  . rw [VfoState.mode_enter]

variable {v : Fin 2} (hlocked : s.config.locked = false) (hsat : s.satMode = satModeNone)
  (hctun : (s.vfo v).ctun = 0)
include hlocked hsat hctun

theorem dial_vfoIdStep (st : Int)
    : ((s.vfoIdStep v st).vfo v).dial = stepRound (s.vfo v).dial st (s.vfo v).step := by
  dsimp only [vfoIdStep]
  rw [hlocked, if_neg (by decide), if_neg (fun h => h.1 hctun)]
  exact s.dial_setDial_satFollow hsat v _ _

theorem dial_vfoIdMove (hz : Int)
    : ((s.vfoIdMove v hz false).vfo v).dial = (s.vfo v).frequency - hz := by
  dsimp only [vfoIdMove]
  rw [hlocked, if_neg (by decide), if_neg (fun h => h.1 hctun), s.dial_setDial_satFollow hsat v]
  simp [hctun]

end RadioState

namespace Rigctl

-- the last branch of a case does something in some state, for all arguments
def CatCase.Acts (m : Nat) (c : CatCase) : Prop :=
  ∃ j last, c.Last m j last ∧ j < 16
    ∧ ∀ args, ∃ s : Rig, s.radio.config.receivers ≤ 2 ∧ last.run args s ≠ c.otherwise s

theorem last_of_one {c : CatCase} {last : CatBranch} {m j : Nat} (hc : c.branches = [last])
    (htest : last.test = some j)
    : c.Last m j last :=
  ⟨htest, [], hc, by simp⟩

theorem last_of_two {c : CatCase} {first last : CatBranch} {m i j : Nat}
    (hc : c.branches = [first, last]) (hfirst : first.test = some i) (hi : i ≤ m + 1)
    (htest : last.test = some j)
    : c.Last m j last :=
  ⟨htest, [first], hc, by simpa using ⟨i, hi, hfirst⟩⟩

theorem ne_of_state {α : Type} (f : Rig → α) {o o' : Outcome} (h : f o.1 ≠ f o'.1) : o ≠ o' := by
  intro heq
  rw [heq] at h
  exact h rfl

theorem ne_of_reply {o o' : Outcome} (h : o.2 ≠ o'.2) : o ≠ o' := by
  intro heq
  rw [heq] at h
  exact h rfl

theorem receivers_startRig : startRig.radio.config.receivers ≤ 2 := by
  decide

theorem volume_radioSetAfGain {s : Rig} {id : Int} (h : id < s.receivers) (value : ℚ)
    : ((s.radioSetAfGain id value).rx id).volume = value := by
  unfold Rig.radioSetAfGain Rig.setRx
  rw [if_neg (by omega)]
  simp

theorem setOne_lt_two (c : CChar) : setOne c < 2 := by
  unfold setOne
  split <;> decide

theorem acts_catAg (lib : CLibrary) : (catAg lib).Acts 2 := by
  refine ⟨6, _, last_of_two rfl rfl (by decide) rfl, by decide, ?_⟩
  intro args
  let vol := if args.getD 1 0 < 3 then -40 else 20 * lib.log10 ((args.getD 1 0 : Int) / 255)
  let s : Rig := { startRig with rx := fun _ => { startRig.rx 0 with volume := vol + 1 } }
  refine ⟨s, receivers_startRig, ne_of_state (fun s => (s.rx (setOne (args.getD 0 0))).volume) ?_⟩
  have hvolume := volume_radioSetAfGain (s := s) (setOne_lt_two (args.getD 0 0)) vol
  exact ne_of_eq_of_ne hvolume (ne_of_lt (lt_add_one vol))

theorem acts_frequencyCase (name : List Char) (v : Fin 2) (hname : name.length ≤ 4)
    : (frequencyCase name v).Acts name.length := by
  refine ⟨name.length + 11, _, last_of_two rfl rfl (Nat.le_succ _) rfl, by omega, ?_⟩
  intro args
  let f := args.getD 0 0
  let s : Rig :=
    { startRig with radio := startRadio.setVfo v { initialVfo with frequency := f + 1 } }
  refine ⟨s, receivers_startRig, ne_of_state (fun s => (s.radio.vfo v).dial) ?_⟩
  have hdial := s.radio.dial_vfoIdSetFrequency v f
  have hne : f ≠ (s.radio.vfo v).dial := by
    have hdial : (s.radio.vfo v).dial = f + 1 := by
      simp [s, VfoState.dial, initialVfo]
    omega
  exact ne_of_eq_of_ne hdial hne

theorem radio_fwSet (x : Int) (s : Rig) : (fwSet x s).1.radio = s.radio.fwSet x := by
  dsimp only [fwSet]
  split <;> rfl

theorem acts_catFw : catFw.Acts 2 := by
  refine ⟨6, _, last_of_two rfl rfl (by decide) rfl, by decide, ?_⟩
  intro args
  refine ⟨startRig, receivers_startRig, ne_of_state (fun s => (s.radio.vfo 0).filter) ?_⟩
  have hfilter := startRig.radio.filter_fwSet (args.getD 0 0)
  rw [← radio_fwSet] at hfilter
  exact ne_of_eq_of_ne hfilter (by decide : filterVar1 ≠ 4)

theorem acts_catGt : catGt.Acts 2 := by
  refine ⟨5, _, last_of_two rfl rfl (by decide) rfl, by decide, ?_⟩
  intro args
  let agc := (args.getD 0 0).tdiv 5
  let s : Rig :=
    { startRig with radio := startRadio.setReceiver 0 { initialReceiver with agc := agc + 1 } }
  refine ⟨s, receivers_startRig, ne_of_state (fun s => (s.radio.receiver 0).agc) ?_⟩
  have hagc := s.radio.agc_setAgc 0 agc
  have hne : agc ≠ (s.radio.receiver 0).agc := by
    simp [s]
  exact ne_of_eq_of_ne hagc hne

theorem micGain_radioSetMicGain {s : Rig} (h : s.hasTransmitter) (value : ℚ)
    : (s.radioSetMicGain value).tx.micGain = value := by
  rw [Rig.radioSetMicGain, if_pos h]

theorem acts_catMg : catMg.Acts 2 := by
  refine ⟨5, _, last_of_two rfl rfl (by decide) rfl, by decide, ?_⟩
  intro args
  let gain : ℚ := min 50 (max (-12) ((args.getD 0 0 : Int) / 100 * 62 - 12))
  let s : Rig := { startRig with tx := { startRig.tx with micGain := gain + 1 } }
  refine ⟨s, receivers_startRig, ne_of_state (·.tx.micGain) ?_⟩
  have hgain := micGain_radioSetMicGain (s := s) rfl gain
  exact ne_of_eq_of_ne hgain (ne_of_lt (lt_add_one gain))

theorem acts_catZzmg : catZzmg.Acts 4 := by
  refine ⟨7, _, last_of_two rfl rfl (by decide) rfl, by decide, ?_⟩
  intro args
  let gain : ℚ := (args.getD 0 0 : Int) * (8857 / 10000) - 12
  let s : Rig := { startRig with tx := { startRig.tx with micGain := gain + 1 } }
  refine ⟨s, receivers_startRig, ne_of_state (·.tx.micGain) ?_⟩
  have hgain := micGain_radioSetMicGain (s := s) rfl gain
  exact ne_of_eq_of_ne hgain (ne_of_lt (lt_add_one gain))

theorem drive_radioSetDrive {s : Rig} (h : s.hasTransmitter)
    (hmode : ¬ (s.radio.txMode = modeDigu ∨ s.radio.txMode = modeDigl)) (value : ℚ)
    : (s.radioSetDrive value).tx.drive = value := by
  rw [Rig.radioSetDrive, if_pos h]
  dsimp only
  rw [if_neg (fun hc => hmode hc.1)]

theorem acts_catPc : catPc.Acts 2 := by
  refine ⟨5, _, last_of_two rfl rfl (by decide) rfl, by decide, ?_⟩
  intro args
  let drive : ℚ := (args.getD 0 0 : Int)
  let s : Rig := { startRig with tx := { startRig.tx with drive := drive + 1 } }
  refine ⟨s, receivers_startRig, ne_of_state (·.tx.drive) ?_⟩
  have hmode : ¬ (startRadio.txMode = modeDigu ∨ startRadio.txMode = modeDigl) := by decide
  have hdrive := drive_radioSetDrive (s := s) rfl hmode drive
  exact ne_of_eq_of_ne hdrive (ne_of_lt (lt_add_one drive))

theorem acts_catPl : catPl.Acts 2 := by
  refine ⟨8, _, last_of_two rfl rfl (by decide) rfl, by decide, ?_⟩
  intro args
  let level : ℚ := 1 / 5 * (args.getD 0 0 : Int)
  let s : Rig := { startRig with tx := { startRig.tx with compressorLevel := level + 1 } }
  refine ⟨s, receivers_startRig, ne_of_state (·.tx.compressorLevel) ?_⟩
  exact ne_of_lt (lt_add_one level)

theorem rit_setVfoA (s : Rig) (v : VfoState) : ((s.setVfoA v).1.radio.vfo 0).rit = v.rit := rfl

theorem acts_catRd : catRd.Acts 2 := by
  refine ⟨7, _, last_of_two rfl rfl (by decide) rfl, by decide, ?_⟩
  intro args
  let rit := -args.getD 0 0
  let s : Rig := { startRig with radio := startRadio.setVfo 0 { initialVfo with rit := rit + 1 } }
  refine ⟨s, receivers_startRig, ne_of_state (fun s => (s.radio.vfo 0).rit) ?_⟩
  exact ne_of_eq_of_ne (rit_setVfoA s { s.radio.vfo 0 with rit := rit }) (by omega : rit ≠ rit + 1)

theorem acts_catRu : catRu.Acts 2 := by
  refine ⟨7, _, last_of_two rfl rfl (by decide) rfl, by decide, ?_⟩
  intro args
  let rit := args.getD 0 0
  let s : Rig := { startRig with radio := startRadio.setVfo 0 { initialVfo with rit := rit + 1 } }
  refine ⟨s, receivers_startRig, ne_of_state (fun s => (s.radio.vfo 0).rit) ?_⟩
  exact ne_of_eq_of_ne (rit_setVfoA s { s.radio.vfo 0 with rit := rit }) (by omega : rit ≠ rit + 1)

theorem acts_catSd : catSd.Acts 2 := by
  refine ⟨6, _, last_of_two rfl rfl (by decide) rfl, by decide, ?_⟩
  intro args
  refine ⟨startRig, receivers_startRig, ne_of_reply ?_⟩
  exact (Option.some_ne_none _).symm

theorem acts_catVg (lib : CLibrary) : (catVg lib).Acts 2 := by
  refine ⟨5, _, last_of_two rfl rfl (by decide) rfl, by decide, ?_⟩
  intro args
  let threshold := lib.atof args / 9
  let s : Rig := { startRig with voxThreshold := threshold + 1 }
  refine ⟨s, receivers_startRig, ne_of_state (·.voxThreshold) ?_⟩
  exact ne_of_lt (lt_add_one threshold)

theorem vfoGetStepFromIndex_pos (index : Int) : 0 < vfoGetStepFromIndex index := by
  have hpos : ∀ i < 17, 0 < vfoSteps.getD i 0 := by decide
  unfold vfoGetStepFromIndex
  dsimp only
  apply hpos
  split_ifs
  all_goals omega

theorem acts_moveCase (v : Fin 2) {sign : Int} (hsign : sign ≠ 0) : (moveCase v sign).Acts 4 := by
  refine ⟨6, _, last_of_one rfl rfl, by decide, ?_⟩
  intro args
  refine ⟨startRig, receivers_startRig, ne_of_state (fun s => (s.radio.vfo v).dial) ?_⟩
  let hz := sign * vfoGetStepFromIndex (args.getD 0 0)
  have hdial := startRadio.dial_vfoIdMove (v := v) rfl rfl rfl hz
  have hhz : hz ≠ 0 := mul_ne_zero hsign (ne_of_gt (vfoGetStepFromIndex_pos _))
  exact ne_of_eq_of_ne hdial (by omega : (14010000 : Int) - hz ≠ 14010000)

theorem stepRound_ne (st : Int) : stepRound 14010005 st 10 ≠ 14010005 := by
  unfold stepRound
  omega

-- a frequency that is no multiple of the step is rounded
theorem acts_stepsCase (v : Fin 2) (sign : Int) : (stepsCase v sign).Acts 4 := by
  refine ⟨6, _, last_of_one rfl rfl, by decide, ?_⟩
  intro args
  let w := { initialVfo with frequency := 14010005, step := 10 }
  let s : Rig := { startRig with radio := startRadio.setVfo v w }
  refine ⟨s, receivers_startRig, ne_of_state (fun s => (s.radio.vfo v).dial) ?_⟩
  have hvfo : s.radio.vfo v = w := by
    simp [s]
  have hctun : (s.radio.vfo v).ctun = 0 := by
    rw [hvfo]
    rfl
  have hdial := s.radio.dial_vfoIdStep rfl rfl hctun (sign * args.getD 0 0)
  have hne : stepRound (s.radio.vfo v).dial (sign * args.getD 0 0) (s.radio.vfo v).step
      ≠ (s.radio.vfo v).dial := by
    rw [hvfo]
    exact stepRound_ne _
  exact ne_of_eq_of_ne hdial hne

-- the entries of the band stacks are for CWU
theorem mode_bandEntry_start
    : ∀ v : Fin 2, ∀ b : BandIndex,
        ((startRadio.setVfo v { initialVfo with band := b, mode := modeLsb }).bandEntry v b).mode
          = modeCwu := by
  decide +kernel

theorem acts_bandCase (name : List Char) (v : Fin 2) : (bandCase name v).Acts 4 := by
  refine ⟨7, _, last_of_two rfl rfl (by decide) rfl, by decide, ?_⟩
  intro args
  let b := bandOfCode (args.getD 0 0)
  let w := { initialVfo with band := b, mode := modeLsb }
  let s : Rig := { startRig with radio := startRadio.setVfo v w }
  refine ⟨s, receivers_startRig, ne_of_state (fun s => (s.radio.vfo v).mode) ?_⟩
  have hvfo : s.radio.vfo v = w := by
    simp [s]
  have hmode := s.radio.mode_vfoIdBandChanged (v := v) (b := b) (by rw [hvfo])
  rw [mode_bandEntry_start v b] at hmode
  have hne : modeCwu ≠ (s.radio.vfo v).mode := by
    rw [hvfo]
    exact (by decide : modeCwu ≠ modeLsb)
  exact ne_of_eq_of_ne hmode hne

theorem acts_catZzfh : catZzfh.Acts 4 := by
  refine ⟨9, _, last_of_two rfl rfl (by decide) rfl, by decide, ?_⟩
  intro args
  refine ⟨startRig, receivers_startRig, ne_of_state (fun s => (s.radio.vfo 0).filter) ?_⟩
  have hfilter := startRadio.useFilterVar1.filter_applyVar1Edges
    { startRadio.useFilterVar1.var1Edges with high := RadioState.clampEdge (args.getD 0 0) }
  exact ne_of_eq_of_ne hfilter (by decide : filterVar1 ≠ 4)

theorem acts_catZzfl : catZzfl.Acts 4 := by
  refine ⟨9, _, last_of_two rfl rfl (by decide) rfl, by decide, ?_⟩
  intro args
  refine ⟨startRig, receivers_startRig, ne_of_state (fun s => (s.radio.vfo 0).filter) ?_⟩
  have hfilter := startRadio.useFilterVar1.filter_applyVar1Edges
    { startRadio.useFilterVar1.var1Edges with low := RadioState.clampEdge (args.getD 0 0) }
  exact ne_of_eq_of_ne hfilter (by decide : filterVar1 ≠ 4)

theorem acts_catZzza : catZzza.Acts 4 := by
  refine ⟨6, _, last_of_one rfl rfl, by decide, ?_⟩
  intro args
  refine ⟨startRig, receivers_startRig, ne_of_reply ?_⟩
  exact (Option.some_ne_none _).symm

theorem acts_catZzzd : catZzzd.Acts 4 := by
  refine ⟨6, _, last_of_one rfl rfl, by decide, ?_⟩
  intro args
  refine ⟨startRig, receivers_startRig, ne_of_reply ?_⟩
  exact (Option.some_ne_none _).symm

theorem acts_catZzzu : catZzzu.Acts 4 := by
  refine ⟨6, _, last_of_one rfl rfl, by decide, ?_⟩
  intro args
  refine ⟨startRig, receivers_startRig, ne_of_state (·.calls) ?_⟩
  exact List.cons_ne_nil _ _

theorem acts_catZzze : catZzze.Acts 4 := by
  refine ⟨7, _, last_of_one rfl rfl, by decide, ?_⟩
  intro args
  refine ⟨startRig, receivers_startRig, ne_of_reply ?_⟩
  dsimp only
  split_ifs
  all_goals exact (Option.some_ne_none _).symm

theorem acts_catZzzp : catZzzp.Acts 4 := by
  refine ⟨7, _, last_of_one rfl rfl, by decide, ?_⟩
  intro args
  refine ⟨startRig, receivers_startRig, ne_of_reply ?_⟩
  exact (Option.some_ne_none _).symm

theorem andromedaType_zzzsSet (x : Int) (s : Rig)
    : (zzzsSet x s).1.client.andromedaType = x := by
  dsimp only [zzzsSet]
  split <;> rfl

theorem acts_catZzzs : catZzzs.Acts 4 := by
  refine ⟨11, _, last_of_one rfl rfl, by decide, ?_⟩
  intro args
  let x := twoDigits (args.getD 0 0) (args.getD 1 0)
  let s : Rig := { startRig with client := { startRig.client with andromedaType := x + 1 } }
  refine ⟨s, receivers_startRig, ne_of_state (·.client.andromedaType) ?_⟩
  exact ne_of_eq_of_ne (andromedaType_zzzsSet x s) (by omega : x ≠ x + 1)

end Rigctl
