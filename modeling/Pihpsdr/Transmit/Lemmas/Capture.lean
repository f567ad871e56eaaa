import Pihpsdr.Transmit.Impl.Capture

/-!
The DSP after a replay of captured audio. The post-equaliser of the CFC and the downward expander are
taken out of service at the beginning, and only a change of their settings brings them back.
-/

namespace Transmit

namespace TxState

variable {ρ : Type} {pow10 : ℚ → ℚ}

-- the DSP follows the settings: the post-equaliser of the CFC, the downward expander, the phase rotator
def PeqSet (s : TxState ρ) : Prop :=
  s.dsp.comp.cfcompPeqRun = s.tx.comp.cfcEq

def DexpSet (s : TxState ρ) : Prop :=
  s.dsp.dexp.dexpRun = s.tx.dexp.dexp

def PhrotSet (s : TxState ρ) : Prop :=
  s.dsp.phrot = s.tx.phrot.dsp

/--
What a replay changes in the DSP is what the settings of the transmitter imply.
-/
structure Restored (pow10 : ℚ → ℚ) (s : TxState ρ) : Prop where
  eqRun : s.dsp.eqRun = s.tx.eq.eqEnable
  panelGain1 : s.dsp.panelGain1 = pow10 (s.tx.micGain / 20)
  levelerSt : s.dsp.comp.levelerSt = s.tx.comp.dsp.levelerSt
  cfcompPrePeq : s.dsp.comp.cfcompPrePeq = s.tx.comp.dsp.cfcompPrePeq
  cfcompRun : s.dsp.comp.cfcompRun = s.tx.comp.dsp.cfcompRun
  cfcompPeqRun : s.PeqSet
  osctrlRun : s.dsp.comp.osctrlRun = s.tx.comp.dsp.osctrlRun
  compressorRun : s.dsp.comp.compressorRun = s.tx.comp.dsp.compressorRun
  dexpRun : s.DexpSet

theorem restored_txXmitCapturedDataEnd (s : TxState ρ)
    : (s.txXmitCapturedDataEnd pow10).Restored pow10 ↔ s.PeqSet ∧ s.DexpSet :=
  ⟨fun h => ⟨h.cfcompPeqRun, h.dexpRun⟩, fun h => ⟨rfl, rfl, rfl, rfl, rfl, h.1, rfl, rfl, h.2⟩⟩

theorem exec_peqSet (s : TxState ρ) (es : List SettingsChange)
    : (Run.exec (TxState.change pow10) s es).PeqSet ↔
        s.PeqSet ∨ ∃ e ∈ es, e.setsCompressor := by
  apply Run.exec_iff_or_exists
  . intro s e he
    cases e with
    | compressor txMode comp => rfl
    | loadProfile txMode m => rfl
    | _ => contradiction
  . intro s e he
    cases e with
    | compressor txMode comp => exact absurd rfl he
    | loadProfile txMode m => exact absurd rfl he
    | _ => exact Iff.rfl

theorem exec_dexpSet (s : TxState ρ) (es : List SettingsChange)
    : (Run.exec (TxState.change pow10) s es).DexpSet ↔
        s.DexpSet ∨ ∃ e ∈ es, e.setsDexp := by
  apply Run.exec_iff_or_exists
  . intro s e he
    cases e with
    | dexp txMode dexp => rfl
    | loadProfile txMode m => rfl
    | _ => contradiction
  . intro s e he
    cases e with
    | dexp txMode dexp => exact absurd rfl he
    | loadProfile txMode m => exact absurd rfl he
    | _ => exact Iff.rfl

theorem PhrotSet.change {s : TxState ρ} (h : s.PhrotSet) (e : SettingsChange)
    : (s.change pow10 e).PhrotSet := by
  cases e with
  | phrot txMode phrot => rfl
  | loadProfile txMode m => rfl
  | _ => exact h

theorem replay_phrotSet {s : TxState ρ} (h : s.PhrotSet) (es : List SettingsChange)
    : (s.replay pow10 es).PhrotSet := by
  have hstart : s.txXmitCapturedDataStart.PhrotSet := h
  change (Run.exec (TxState.change pow10) s.txXmitCapturedDataStart es).PhrotSet
  exact Run.exec_invariant (I := PhrotSet) (fun _ e h _ => h.change e) hstart (Run.along_true _ es)

/--
A replay restores all that it has changed, and leaves the phase rotator as it is, exactly if the
post-equaliser of the CFC and the downward expander are off or set anew meanwhile.
-/
theorem replay_restored_iff (pow10 : ℚ → ℚ) (s : TxState ρ) (es : List SettingsChange)
    : ((s.replay pow10 es).Restored pow10 ∧ (s.PhrotSet → (s.replay pow10 es).PhrotSet)) ↔
        (s.tx.comp.cfcEq = false ∨ ∃ e ∈ es, e.setsCompressor) ∧
          (s.tx.dexp.dexp = false ∨ ∃ e ∈ es, e.setsDexp) := by
  have hphrot : s.PhrotSet → (s.replay pow10 es).PhrotSet := fun h => replay_phrotSet h es
  rw [and_iff_left hphrot]
  unfold replay
  rw [restored_txXmitCapturedDataEnd, exec_peqSet, exec_dexpSet]
  have hpeq : s.txXmitCapturedDataStart.PeqSet ↔ s.tx.comp.cfcEq = false := eq_comm
  have hdexp : s.txXmitCapturedDataStart.DexpSet ↔ s.tx.dexp.dexp = false := eq_comm
  rw [hpeq, hdexp]

-- settings with the CFC, its post-equaliser and the downward expander on
def studio : TxProfile where
  comp := ⟨false, 0, true, true, fun _ => 0, fun _ => 0, fun _ => 0⟩
  phrot := ⟨false, false, 8, 338⟩
  dexp := ⟨true, false, 0, 0, 0, 0, 0, -25, 0, 0, 20⟩
  eq := ⟨false, fun _ => 0, fun _ => 0⟩
  filter := ⟨false, 150, 2850⟩
  micGain := 0
  pttDelay := 0

theorem replay_not_restored
    : ¬ ((inSync (fun _ => 1) studio .usb).replay (fun _ => 1) []).Restored (fun _ => 1) := by
  intro h
  have hpeq := h.cfcompPeqRun
  contradiction

end TxState

end Transmit

/-!
An automatic press is in the queue exactly while what it was scheduled for waits to be ended, unless the
operator ends it before.
-/

namespace Transmit

def Press.session? : Press → Option Nat
  | .user _ => none
  | .automatic _ session => some session

namespace Capture

variable {s : Capture}

def automatics (s : Capture) : List Nat :=
  s.queue.filterMap Press.session?

-- what ends a recording, a transmission or a replay, or hides the display
def Waits (s : Capture) (session : Nat) : Prop :=
  s.state.Pending ∧ s.session = session

/--
Each automatic press finds what it was scheduled for. It ends this, starts nothing and keeps what has been
recorded.
-/
structure AutomaticSound (s : Capture) : Prop where
  waits : ∀ n ∈ s.automatics, s.Waits n
  ends : ∀ action n queue, s.queue = .automatic action n :: queue →
    s.process.state = (if s.state = .gotoSleep then .sleeping else .avail) ∧
      s.process.session = s.session ∧ s.process.recordPointer = s.recordPointer

-- the operator does not press a button whose automatic press is in the queue
def NotForestalled (s : Capture) : CaptureEvent → Prop
  | .process => ∀ action queue, s.queue = .user action :: queue → ¬ s.state.Pending
  | _ => True

-- the only automatic press is the one that the state waits for
def Single (s : Capture) : Prop :=
  s.automatics = if s.state.Pending then [s.session] else []

theorem schedule_automatics (action : CaptureAction)
    : (s.schedule action).automatics = s.automatics ++ [s.session] := by
  unfold automatics schedule
  rw [List.filterMap_append]
  rfl

theorem processAction_pending (h : s.state.Pending) (action : CaptureAction)
    : s.processAction action =
        { s with state := if s.state = .gotoSleep then .sleeping else .avail } := by
  unfold processAction
  cases hstate : s.state <;> rw [hstate] at h <;> first | rfl | contradiction

theorem processAction_not_pending (action : CaptureAction) : ¬ (s.processAction action).state.Pending := by
  unfold processAction start
  cases s.state <;> cases action <;> dsimp only <;> (repeat' split) <;> exact not_false

theorem processAction_queue (action : CaptureAction) : (s.processAction action).queue = s.queue := by
  unfold processAction start
  cases s.state <;> cases action <;> dsimp only <;> (repeat' split) <;> rfl

theorem Single.automatics_eq_nil (h : s.Single) (hs : ¬ s.state.Pending) : s.automatics = [] := by
  rw [h, if_neg hs]

theorem single_of_not_pending (hnone : s.automatics = []) (hs : ¬ s.state.Pending) : s.Single := by
  unfold Single
  rw [hnone, if_neg hs]

theorem single_schedule (hnone : s.automatics = []) (hs : s.state.Pending) (action : CaptureAction)
    : (s.schedule action).Single := by
  unfold Single
  rw [schedule_automatics, hnone]
  exact (if_pos hs).symm

-- something ends, and its automatic press is scheduled
theorem Single.finish (h : s.Single) (hs : ¬ s.state.Pending) (c : CaptureState) (hc : c.Pending)
    (action : CaptureAction)
    : ({ s with state := c }.schedule action).Single := by
  apply single_schedule
  . exact h.automatics_eq_nil hs
  . exact hc

theorem Single.process (h : s.Single) (he : s.NotForestalled .process) : s.process.Single := by
  unfold Capture.process
  cases hqueue : s.queue with
  | nil => exact h
  | cons p queue =>
    dsimp only
    apply single_of_not_pending _ (processAction_not_pending _)
    unfold automatics
    rw [processAction_queue]
    cases p with
    | user action =>
      have hnone := h.automatics_eq_nil (he action queue hqueue)
      unfold automatics at hnone
      rwa [hqueue] at hnone
    | automatic action n =>
      unfold Single automatics at h
      rw [hqueue] at h
      have hcons : n :: queue.filterMap Press.session? = if s.state.Pending then [s.session] else [] := h
      split at hcons
      next => exact (List.cons.inj hcons).2
      next => contradiction

theorem Single.replaySample (h : s.Single) : s.replaySample.Single := by
  unfold Capture.replaySample
  split
  next hstate =>
    split
    next => exact h
    next =>
      exact h.finish (by rw [hstate]; exact not_false) .replayDone trivial _
  next => exact h

theorem Single.recordSample (h : s.Single) : s.recordSample.Single := by
  unfold Capture.recordSample
  split
  next hstate =>
    split
    next => exact h
    next =>
      exact h.finish (by rw [hstate]; exact not_false) .recordDone trivial _
  next => exact h

theorem Single.xmitSample (h : s.Single) : s.xmitSample.Single := by
  unfold Capture.xmitSample
  split
  next hstate =>
    split
    next => exact h
    next =>
      exact h.finish (by rw [hstate]; exact not_false) .xmitDone trivial _
  next => exact h

theorem Single.abort (h : s.Single) : s.abort.Single := by
  unfold Capture.abort
  split
  next hstate =>
    exact h.finish (by rw [hstate]; exact not_false) .recordDone trivial _
  next hstate =>
    exact h.finish (by rw [hstate]; exact not_false) .xmitDone trivial _
  next hstate =>
    exact h.finish (by rw [hstate]; exact not_false) .replayDone trivial _
  next => exact h

theorem Single.call (h : s.Single) (c : TxEnv × SwitchCall) : (s.call c).Single := by
  unfold Capture.call
  dsimp only
  split
  next => exact h.abort
  next => exact h

theorem Single.draw (h : s.Single) : s.draw.Single := by
  unfold Capture.draw
  split
  next hstate =>
    split
    next =>
      apply single_schedule
      . exact h.automatics_eq_nil (by rw [hstate]; exact not_false)
      . trivial
    next => exact h
  next => exact h

theorem Single.press (h : s.Single) (action : CaptureAction) : (s.step (.press action)).Single := by
  have hautomatics : (s.step (.press action)).automatics = s.automatics := by
    unfold automatics Capture.step
    rw [List.filterMap_append]
    exact List.append_nil _
  unfold Single
  rw [hautomatics]
  exact h

theorem Single.step (s : Capture) (e : CaptureEvent) (h : s.Single) (he : s.NotForestalled e)
    : (s.step e).Single := by
  cases e with
  | press action => exact h.press action
  | process => exact h.process he
  | rxSample => exact h.replaySample.recordSample
  | micSample => exact h.xmitSample
  | call c => exact h.call c
  | draw => exact h.draw

theorem Single.sound (h : s.Single) : s.AutomaticSound := by
  have hwaits : ∀ n ∈ s.automatics, s.Waits n := by
    intro n hn
    rw [h] at hn
    split at hn
    next hs => exact ⟨hs, (List.mem_singleton.mp hn).symm⟩
    next => contradiction
  refine ⟨hwaits, ?_⟩
  intro action n queue hqueue
  have hn : n ∈ s.automatics := by
    unfold automatics
    rw [hqueue]
    exact List.mem_cons_self
  unfold Capture.process
  rw [hqueue]
  dsimp only
  rw [processAction_pending (s := { s with queue := queue }) (hwaits n hn).1]
  exact ⟨rfl, rfl, rfl⟩

end Capture

end Transmit
