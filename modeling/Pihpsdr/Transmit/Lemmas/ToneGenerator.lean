import Pihpsdr.Transmit.Impl.Tune
import Pihpsdr.Transmit.Lemmas.Changes

/-!
The generator follows TUNE and the two-tone flag as long as only one of the two is used at a time: the
one that is switched off also stops the signal of the other.
-/

namespace Transmit

-- TUNE after any call
theorem RxTx.call_tune {s : RxTx} (c : TxEnv × SwitchCall)
    : (s.call c).tune = (s.callTune c).getD s.tune := by
  match c with
  | (env, .setMox state) =>
    dsimp only [RxTx.call, RxTx.callTune]
    cases hchange : s.moxChange env state with
    | none =>
      rw [radioSetMox_of_moxChange_none hchange]
      simp
    | some st =>
      rw [(hasFlags_radioSetMox hchange).tune]
      have ht : s.hasTransmitter := by
        unfold moxChange at hchange
        grind
      unfold tuneChange
      grind
  | (env, .setVox state) => exact radioSetVox_tune
  | (env, .setTune state) =>
    dsimp only [RxTx.call, RxTx.callTune]
    cases hchange : s.tuneChange env state with
    | none => rw [radioSetTune_of_tuneChange_none hchange, Option.getD_none]
    | some st => rw [(hasFlags_radioSetTune hchange).tune, Option.getD_some]
  | (env, .toggleTune) =>
    dsimp only [RxTx.call, RxTx.callTune]
    rw [radioToggleTune_eq]
    cases hchange : s.tuneChange env (if s.tune = 0 then 1 else 0) with
    | none => rw [radioSetTune_of_tuneChange_none hchange, Option.getD_none]
    | some st => rw [(hasFlags_radioSetTune hchange).tune, Option.getD_some]

namespace PostGen

variable {g : PostGen}

-- the signal that TUNE and the two-tone flag ask for
def Does (g : PostGen) (tune twotone : CInt) : Prop :=
  if tune ≠ 0 then
    g.run = true ∧ g.mode = .tone
  else if twotone ≠ 0 then
    g.run = true ∧ g.mode = .twoTone
  else
    g.run = false

instance (g : PostGen) (tune twotone : CInt) : Decidable (g.Does tune twotone) := by
  unfold Does
  infer_instance

theorem does_txSetSingletone {state : CInt} (hstate : state ≠ 0) (freq : ℚ) (twotone : CInt)
    : (g.txSetSingletone state freq).Does state twotone := by
  unfold txSetSingletone Does
  rw [if_pos hstate, if_pos hstate]
  exact ⟨rfl, rfl⟩

theorem does_txSetSingletone_zero_iff (freq : ℚ) (twotone : CInt)
    : (g.txSetSingletone 0 freq).Does 0 twotone ↔ twotone = 0 := by
  unfold txSetSingletone Does
  by_cases htt : twotone = 0 <;> simp [htt]

theorem does_txSetTt_iff (tune state : CInt) (mode : Mode) (tt1 tt2 : ℚ)
    : (g.txSetTt state mode tt1 tt2).Does tune state ↔ tune = 0 := by
  unfold txSetTt Does
  by_cases hstate : state = 0
  . by_cases htune : tune = 0 <;> simp [hstate, htune]
  . rw [if_pos hstate]
    by_cases htune : tune = 0 <;> grind

end PostGen

namespace ToneRadio

variable {s : ToneRadio} {env : TxEnv}

def GenFollows (s : ToneRadio) : Prop :=
  s.gen.Does s.radio.tune s.twotone

instance (s : ToneRadio) : Decidable s.GenFollows :=
  inferInstanceAs (Decidable (s.gen.Does _ _))

-- TUNE does not end while the two-tone flag is set
def EndsAlone (s : ToneRadio) (c : TxEnv × SwitchCall) : Prop :=
  s.radio.callTune c = some 0 → s.twotone = 0

/--
While the two-tone flag is set TUNE does not end, be it by a MOX request, and while TUNE is on the
flag does not change.
-/
def OneAtATime (s : ToneRadio) : TxEnv × ToneEvent → Prop
  | (env, .call c) => s.EndsAlone (env, c)
  | (_, .setTwotone state) => s.radio.hasTransmitter → state ≠ s.twotone → s.radio.tune = 0
  | (_, .mode _) => True
  | (env, .idle) => ∀ state, s.idle.head? = some state → s.EndsAlone (env, .setMox state)

theorem call_genFollows_iff (h : s.GenFollows) (c : SwitchCall)
    : (s.call env c).GenFollows ↔ s.EndsAlone (env, c) := by
  unfold EndsAlone
  unfold GenFollows at h ⊢
  change PostGen.Does _ (s.radio.call (env, c)).tune s.twotone ↔ _
  rw [RxTx.call_tune]
  dsimp only [call]
  cases s.radio.callTune (env, c) with
  | none => exact iff_of_true h (by simp)
  | some state =>
    rw [Option.getD_some]
    by_cases hstate : state = 0
    . rw [hstate, PostGen.does_txSetSingletone_zero_iff]
      simp
    . apply iff_of_true (PostGen.does_txSetSingletone hstate 0 s.twotone)
      intro hzero
      exact absurd (Option.some.inj hzero) hstate

theorem radioSetTwotone_genFollows_iff (h : s.GenFollows) (state : CInt)
    : (s.radioSetTwotone state).GenFollows ↔
        (s.radio.hasTransmitter → state ≠ s.twotone → s.radio.tune = 0) := by
  unfold radioSetTwotone txSetTwotone
  by_cases ht : s.radio.hasTransmitter
  . rw [if_pos ht]
    by_cases hsame : state = s.twotone
    . rw [if_pos hsame]
      exact iff_of_true h (fun _ hne => absurd hsame hne)
    . rw [if_neg hsame]
      unfold GenFollows
      rw [PostGen.does_txSetTt_iff]
      simp [ht, hsame]
  . rw [if_neg ht]
    exact iff_of_true h (fun ht' => absurd ht' ht)

theorem step_genFollows_iff (h : s.GenFollows) (e : TxEnv × ToneEvent)
    : (s.step e).GenFollows ↔ s.OneAtATime e := by
  match e with
  | (env, .call c) => exact call_genFollows_iff h c
  | (env, .setTwotone state) => exact radioSetTwotone_genFollows_iff h state
  | (env, .mode m) => exact iff_of_true h trivial
  | (env, .idle) =>
    dsimp only [step, OneAtATime]
    unfold runIdle
    split
    next hidle =>
      rw [hidle]
      exact iff_of_true h (by simp)
    next state idle hidle =>
      rw [hidle]
      have hcall : (call env { s with idle := idle } (.setMox state)).GenFollows ↔ _ :=
        call_genFollows_iff h (.setMox state)
      rw [hcall]
      simp only [List.head?_cons, Option.some.injEq]
      constructor
      . intro hends state' heq
        rw [← heq]
        exact hends
      . intro hends
        exact hends state rfl

/--
In every state that a radio reaches by any series of events the generator runs as TUNE and the
two-tone flag say, if and only if only one of them is used at a time.
-/
theorem genFollows_iff_oneAtATime (hasTransmitter duplex : Bool) (receivers : Nat) (txMode : Mode)
    (tt1Freq tt2Freq : ℚ) (es : List (TxEnv × ToneEvent))
    : (∀ pre, pre <+: es → (Run.exec step
          (receiving hasTransmitter duplex receivers txMode tt1Freq tt2Freq) pre).GenFollows) ↔
        Run.Along step OneAtATime
          (receiving hasTransmitter duplex receivers txMode tt1Freq tt2Freq) es := by
  apply Run.forall_prefix_iff_along
  . intro s e h
    exact step_genFollows_iff h e
  . exact rfl

-- the two-tone signal is on when TUNE is switched on and off again
theorem tune_stops_twotone
    : ¬ (Run.exec step (receiving true false 1 .usb 700 1900)
        [(⟨true, false⟩, .setTwotone 1), (⟨true, false⟩, .idle),
          (⟨true, false⟩, .call (.setTune 1)), (⟨true, false⟩, .call (.setTune 0))]).GenFollows := by
  decide +kernel

end ToneRadio

end Transmit
