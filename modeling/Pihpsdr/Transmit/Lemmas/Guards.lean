import Pihpsdr.Lib.Run
import Pihpsdr.Transmit.Impl.Station
import Pihpsdr.Transmit.Lemmas.Changes

/-!
The guards of a transmission: only VOX goes from receiving to transmitting without a look at
`TransmitAllowed`, and no request gets past the inhibit input.
-/

namespace Transmit

namespace RxTx

variable {s : RxTx} {state : CInt} {env : TxEnv}

theorem HasFlags.receives_iff {mox vox tune : CInt} (h : s.HasFlags mox vox tune)
    : s.Receives ↔ mox = 0 ∧ vox = 0 ∧ tune = 0 := by
  unfold Receives
  rw [h.mox, h.vox, h.tune]

theorem tuneChange_guards {st : CInt} (h : s.tuneChange env state = some st) (hst : st ≠ 0)
    : env.transmitAllowed ∧ ¬ env.txInhibit := by
  unfold tuneChange at h
  grind

theorem moxChange_guards {st : CInt} (h : s.moxChange env state = some st) (hst : st ≠ 0)
    : env.transmitAllowed ∧ ¬ env.txInhibit := by
  unfold moxChange at h
  grind

theorem radioSetTune_guards (hrx : s.Receives) (htx : ¬ (s.radioSetTune env state).Receives)
    : env.transmitAllowed ∧ ¬ env.txInhibit := by
  cases hchange : s.tuneChange env state with
  | none =>
    rw [radioSetTune_of_tuneChange_none hchange] at htx
    contradiction
  | some st =>
    apply tuneChange_guards hchange
    intro hst
    rw [(hasFlags_radioSetTune hchange).receives_iff, hst] at htx
    simp at htx

theorem radioSetMox_guards (hrx : s.Receives) (htx : ¬ (s.radioSetMox env state).Receives)
    : env.transmitAllowed ∧ ¬ env.txInhibit := by
  cases hchange : s.moxChange env state with
  | none =>
    rw [radioSetMox_of_moxChange_none hchange] at htx
    contradiction
  | some st =>
    apply moxChange_guards hchange
    intro hst
    rw [(hasFlags_radioSetMox hchange).receives_iff, hst] at htx
    simp at htx

-- VOX is switched on wherever the radio is tuned to
theorem radioSetVox_receives_iff (hrx : s.Receives)
    : (s.radioSetVox env state).Receives ↔
        ¬ (s.hasTransmitter ∧ state ≠ 0 ∧ ¬ env.txInhibit) := by
  have ⟨hmox, hvox, htune⟩ := hrx
  by_cases hchange : s.VoxChanges env state
  . rw [(hasFlags_radioSetVox hchange).receives_iff]
    unfold VoxChanges at hchange
    tauto
  . rw [radioSetVox_of_not_voxChanges hchange]
    unfold VoxChanges at hchange
    tauto

-- while it is inhibited no call makes the radio transmit
theorem call_receives_of_txInhibit (hrx : s.Receives) (hinh : env.txInhibit) (c : SwitchCall)
    : (s.call (env, c)).Receives := by
  by_contra htx
  match c with
  | .setMox state => exact (radioSetMox_guards hrx htx).2 hinh
  | .setVox state =>
    apply htx
    dsimp only [RxTx.call]
    rw [radioSetVox_receives_iff hrx]
    tauto
  | .setTune state => exact (radioSetTune_guards hrx htx).2 hinh
  | .toggleTune =>
    dsimp only [RxTx.call] at htx
    rw [radioToggleTune_eq] at htx
    exact (radioSetTune_guards hrx htx).2 hinh

theorem call_setMox_zero_receives (ht : s.hasTransmitter)
    : (s.call (env, .setMox 0)).Receives := by
  have hchange : s.moxChange env 0 = some 0 := by
    unfold moxChange
    simp [ht]
  have := hasFlags_radioSetMox hchange
  exact ⟨this.mox, this.vox, this.tune⟩

end RxTx

namespace Station

variable {s : Station}

-- the call that the event makes at once
def request (s : Station) : StationEvent → Option SwitchCall
  | .call c => some c
  | .idle => s.idle.head?
  | _ => none

-- of the VOX engine a setting changes only whether it is enabled and what it knows of CFC
theorem set_eq (v : VoxSetting)
    : ∃ cfc voxCfc enabled localVoxState,
        s.set v =
          { s with
            cfc := cfc
            vox :=
              { s.vox with cfc := voxCfc, enabled := enabled, localVoxState := localVoxState } } := by
  cases v with
  | toggleVox =>
    dsimp only [set]
    unfold toggleVox
    split <;> exact ⟨_, _, _, _, rfl⟩
  | catVx x => exact ⟨_, _, _, _, rfl⟩
  | openVoxMenu =>
    dsimp only [set]
    unfold openVoxMenu
    split <;> exact ⟨_, _, _, _, rfl⟩
  | checkVoxMenu active => exact ⟨_, _, _, _, rfl⟩
  | closeVoxMenu => exact ⟨_, _, _, _, rfl⟩
  | checkVoxSlider active =>
    dsimp only [set]
    unfold checkVoxSlider
    split <;> exact ⟨_, _, _, _, rfl⟩
  | setCfc cfc => exact ⟨_, _, _, _, rfl⟩

-- the inhibit input becomes active only together with a call that ends the transmission
theorem inhibitInput_eq (enable data : Bool)
    : (∃ txInhibit, (s.txInhibit = false → txInhibit = false) ∧
          s.inhibitInput enable data = { s with txInhibit := txInhibit })
        ∨ s.inhibitInput enable data =
            { s with txInhibit := true, idle := s.idle ++ [.setMox 0] } := by
  unfold inhibitInput
  split
  . cases data with
    | true => exact Or.inl ⟨false, fun _ => rfl, by simp⟩
    | false =>
      cases hinh : s.txInhibit with
      | true => exact Or.inl ⟨true, by simp, by simp [← hinh]⟩
      | false => exact Or.inr (by simp)
  . exact Or.inl ⟨false, fun _ => rfl, rfl⟩

theorem inhibitInput_radio {enable data : Bool}
    : (s.inhibitInput enable data).radio = s.radio := by
  rcases inhibitInput_eq (s := s) enable data with ⟨_, _, heq⟩ | heq <;> rw [heq]

theorem inhibitInput_vox {enable data : Bool} : (s.inhibitInput enable data).vox = s.vox := by
  rcases inhibitInput_eq (s := s) enable data with ⟨_, _, heq⟩ | heq <;> rw [heq]

theorem inhibitInput_dial {enable data : Bool} : (s.inhibitInput enable data).dial = s.dial := by
  rcases inhibitInput_eq (s := s) enable data with ⟨_, _, heq⟩ | heq <;> rw [heq]

theorem txAddMicSample_radio {x : ℚ} : (s.txAddMicSample x).radio = s.radio := by
  unfold txAddMicSample
  grind

theorem step_radio (e : StationEvent)
    : (s.step e).radio =
        match s.request e with
        | some c => s.radio.call (s.env, c)
        | none => s.radio := by
  cases e with
  | controlBytes enable device control1 => exact inhibitInput_radio
  | highPriority enable device byte59 => exact inhibitInput_radio
  | call c => rfl
  | dial d => rfl
  | micSample x => exact txAddMicSample_radio
  | set v =>
    have ⟨cfc, _, _, _, heq⟩ := set_eq (s := s) v
    dsimp only [step, request]
    rw [heq]
  | idle =>
    dsimp only [step, request]
    unfold runIdle
    split
    next hidle =>
      rw [hidle]
      rfl
    next c idle hidle =>
      rw [hidle]
      rfl

-- a step from receiving to transmitting has passed both guards
def Guarded (s : Station) (e : StationEvent) : Prop :=
  s.radio.Receives → ¬ (s.step e).radio.Receives → s.env.transmitAllowed ∧ ¬ s.env.txInhibit

-- a request that switches VOX on while the radio receives finds it in a band
def VoxInBand (s : Station) (e : StationEvent) : Prop :=
  ∀ state, s.request e = some (.setVox state) → s.radio.Receives → s.radio.hasTransmitter →
    state ≠ 0 → ¬ s.env.txInhibit → s.env.transmitAllowed

theorem guarded_iff (e : StationEvent) : s.Guarded e ↔ s.VoxInBand e := by
  unfold Guarded VoxInBand
  rw [step_radio]
  cases hrequest : s.request e with
  | none =>
    dsimp only
    apply iff_of_true
    . intro hrx htx
      contradiction
    . intro state hstate
      contradiction
  | some c =>
    dsimp only
    match c with
    | .setVox state =>
      dsimp only [RxTx.call]
      constructor
      . intro h state' hstate' hrx ht hne hinh
        have heq : state = state' := by simpa using hstate'
        subst heq
        exact (h hrx (by rw [RxTx.radioSetVox_receives_iff hrx]; tauto)).1
      . intro h hrx htx
        rw [RxTx.radioSetVox_receives_iff hrx, not_not] at htx
        have ⟨ht, hne, hinh⟩ := htx
        exact ⟨h state rfl hrx ht hne hinh, hinh⟩
    | .setMox state =>
      apply iff_of_true
      . intro hrx htx
        exact RxTx.radioSetMox_guards hrx htx
      . intro state' hstate'
        simp at hstate'
    | .setTune state =>
      apply iff_of_true
      . intro hrx htx
        exact RxTx.radioSetTune_guards hrx htx
      . intro state' hstate'
        simp at hstate'
    | .toggleTune =>
      apply iff_of_true
      . intro hrx htx
        dsimp only [RxTx.call] at htx
        rw [RxTx.radioToggleTune_eq] at htx
        exact RxTx.radioSetTune_guards hrx htx
      . intro state' hstate'
        simp at hstate'

/--
In a run of any events each step from receiving to transmitting has passed both guards if and only if
no VOX request of the run switches the transmitter on out of band.
-/
theorem along_guarded_iff (s : Station) (es : List StationEvent)
    : Run.Along step Guarded s es ↔ Run.Along step VoxInBand s es := by
  constructor
  . apply Run.Along.mono
    intro s e
    exact (guarded_iff e).mp
  . apply Run.Along.mono
    intro s e
    exact (guarded_iff e).mpr

-- one sample above the threshold of VOX, 1 kHz below the upper edge of the band
theorem vox_out_of_band
    : ¬ Run.Along step Guarded (on20m 14349000 true) [.micSample (1 / 2), .idle] := by
  intro h
  have hallowed := (guarded_iff _).mp h.2.1 1 (by decide +kernel) (by decide +kernel)
    (by decide +kernel) (by decide) (by decide +kernel)
  revert hallowed
  decide +kernel

-- the radio receives, if it can do anything else
def Quiet (s : Station) : Prop :=
  s.radio.hasTransmitter → s.radio.Receives

theorem Quiet.radioIsTransmitting (h : s.Quiet) : s.radio.radioIsTransmitting = 0 := by
  by_cases ht : s.radio.hasTransmitter
  . rw [RxTx.radioIsTransmitting_eq_zero_iff ht]
    exact h ht
  . unfold RxTx.radioIsTransmitting
    rw [if_neg ht]

theorem step_hasTransmitter (e : StationEvent)
    : (s.step e).radio.hasTransmitter = s.radio.hasTransmitter := by
  rw [step_radio]
  split
  . apply RxTx.call_hasTransmitter
  . rfl

theorem step_quiet (h : s.Quiet) (hinh : s.txInhibit) (e : StationEvent) : (s.step e).Quiet := by
  intro ht
  rw [step_hasTransmitter] at ht
  rw [step_radio]
  split
  . exact RxTx.call_receives_of_txInhibit (h ht) hinh _
  . exact h ht

theorem step_quiet_of_setMox {e : StationEvent} (he : s.request e = some (.setMox 0))
    : (s.step e).Quiet := by
  intro ht
  rw [step_hasTransmitter] at ht
  rw [step_radio, he]
  exact RxTx.call_setMox_zero_receives ht

theorem runIdle_idle : s.runIdle.idle = s.idle.tail := by
  unfold runIdle
  split
  next hidle => rw [hidle, List.tail_nil]
  next c idle hidle =>
    rw [hidle]
    rfl

theorem idle_prefix_inhibitInput {enable data : Bool}
    : s.idle <+: (s.inhibitInput enable data).idle := by
  rcases inhibitInput_eq (s := s) enable data with ⟨_, _, heq⟩ | heq
  . simp only [heq, List.prefix_rfl]
  . rw [heq]
    exact List.prefix_append _ _

theorem idle_prefix_txAddMicSample {x : ℚ} : s.idle <+: (s.txAddMicSample x).idle := by
  unfold txAddMicSample
  grind

-- only the main loop takes calls from its queue
theorem idle_prefix_step {e : StationEvent} (he : e.isIdle = false)
    : s.idle <+: (s.step e).idle := by
  cases e with
  | controlBytes enable device control1 => exact idle_prefix_inhibitInput
  | highPriority enable device byte59 => exact idle_prefix_inhibitInput
  | call c => exact List.prefix_rfl
  | dial d => exact List.prefix_rfl
  | micSample x => exact idle_prefix_txAddMicSample
  | set v =>
    have ⟨cfc, _, _, _, heq⟩ := set_eq (s := s) v
    simp only [step, heq, List.prefix_rfl]
  | idle => contradiction

theorem inhibitInput_of_set {enable data : Bool} (h : s.txInhibit = false)
    (h' : (s.inhibitInput enable data).txInhibit = true)
    : (s.inhibitInput enable data).idle = s.idle ++ [.setMox 0] := by
  rcases inhibitInput_eq (s := s) enable data with ⟨txInhibit, hkept, heq⟩ | heq
  . rw [heq] at h'
    have := hkept h
    simp_all
  . rw [heq]

-- the packet that sets `TxInhibit` leaves a call that ends the transmission with the main loop
theorem step_idle_of_set {e : StationEvent} (h : s.txInhibit = false)
    (h' : (s.step e).txInhibit = true)
    : (s.step e).idle = s.idle ++ [.setMox 0] := by
  have hsame : (s.step e).txInhibit = s.txInhibit →
      (s.step e).idle = s.idle ++ [.setMox 0] := by
    intro heq
    rw [heq, h] at h'
    contradiction
  cases e with
  | controlBytes enable device control1 => exact inhibitInput_of_set h h'
  | highPriority enable device byte59 => exact inhibitInput_of_set h h'
  | call c => exact hsame rfl
  | dial d => exact hsame rfl
  | micSample x =>
    apply hsame
    dsimp only [step]
    unfold txAddMicSample
    grind
  | set v =>
    apply hsame
    have ⟨cfc, _, _, _, heq⟩ := set_eq (s := s) v
    dsimp only [step]
    rw [heq]
  | idle =>
    apply hsame
    dsimp only [step]
    unfold runIdle
    split <;> rfl

def Inhibited (s : Station) (_ : StationEvent) : Prop :=
  s.txInhibit = true

instance (s : Station) (e : StationEvent) : Decidable (s.Inhibited e) :=
  inferInstanceAs (Decidable (_ = _))

theorem exec_quiet (h : s.Quiet) {es : List StationEvent} (hes : Run.Along step Inhibited s es)
    : (Run.exec step s es).Quiet :=
  Run.exec_invariant (I := Quiet) (fun _ e hq hinh => step_quiet hq hinh e) h hes

/--
The main loop has run all the calls up to the one that ends the transmission, and the inhibit input
has been active since then.
-/
theorem exec_quiet_of_queued {q : List SwitchCall} {es : List StationEvent}
    (hq : q ++ [.setMox 0] <+: s.idle) (hes : Run.Along step Inhibited s es)
    (hcount : q.length < es.countP StationEvent.isIdle)
    : (Run.exec step s es).Quiet := by
  induction es generalizing s q with
  | nil => contradiction
  | cons e es ih =>
    rw [List.countP_cons] at hcount
    cases he : e.isIdle with
    | false =>
      simp only [he, Bool.false_eq_true, if_false, Nat.add_zero] at hcount
      exact ih (hq.trans (idle_prefix_step he)) hes.2 hcount
    | true =>
      have he' : e = .idle := by
        cases e <;> first | rfl | contradiction
      subst he'
      cases q with
      | nil =>
        apply exec_quiet _ hes.2
        apply step_quiet_of_setMox
        have ⟨rest, hrest⟩ := hq
        dsimp only [request]
        rw [← hrest]
        rfl
      | cons c q =>
        apply ih (q := q) _ hes.2
        . simp only [he, if_true, List.length_cons] at hcount
          omega
        . have ⟨rest, hrest⟩ := hq
          dsimp only [step]
          rw [runIdle_idle, ← hrest]
          exact ⟨rest, rfl⟩

/--
An event `e` has set `TxInhibit`, which stays set in all that follows, and the main loop has run all
the calls that waited then, with the one from `e` the last of them: the radio does not transmit.
-/
theorem inhibit_effective (s : Station) (e : StationEvent) (es : List StationEvent)
    (hclear : s.txInhibit = false) (hset : (s.step e).txInhibit = true)
    (hes : Run.Along step Inhibited (s.step e) es)
    (hrun : (s.step e).idle.length ≤ es.countP StationEvent.isIdle)
    : (Run.exec step (s.step e) es).radio.radioIsTransmitting = 0 := by
  have hidle := step_idle_of_set hclear hset
  apply Quiet.radioIsTransmitting
  apply exec_quiet_of_queued (q := s.idle)
  . simp only [hidle, List.prefix_rfl]
  . exact hes
  . rw [hidle, List.length_append] at hrun
    exact hrun

-- MOX is on, the input becomes active, and MOX is asked for once more
theorem inhibit_effective_mox
    : (Run.exec step (on20m 14100000 false)
        [.call (.setMox 1), .controlBytes true .hermes 0, .idle, .call (.setMox 1)]
      ).radio.radioIsTransmitting = 0 :=
  inhibit_effective ((on20m 14100000 false).step (.call (.setMox 1)))
    (.controlBytes true .hermes 0) [.idle, .call (.setMox 1)] (by decide)
    (by decide) (by decide +kernel) (by decide +kernel)

end Station

end Transmit
