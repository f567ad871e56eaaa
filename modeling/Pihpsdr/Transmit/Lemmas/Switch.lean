import Pihpsdr.Transmit.Impl.Switch
import Pihpsdr.Lib.Run

/-!
MOX, VOX and TUNE exclude each other and the calls of `rxtx` alternate, as long as no flag goes from
one nonzero value to another.
-/

namespace Transmit

-- the calls of `rxtx`, the last one first, alternate from receiving on
def Alternate : List CInt → Prop
  | [] => True
  | state :: switches => ¬ (state ≠ 0 ↔ switches.headD 0 ≠ 0) ∧ Alternate switches

structure RxTx.Switched (s : RxTx) : Prop where
  mox_vox : s.mox = 0 ∨ s.vox = 0
  mox_tune : s.mox = 0 ∨ s.tune = 0
  vox_tune : s.vox = 0 ∨ s.tune = 0
  alternate : Alternate s.switches
  last_switch : s.switches.headD 0 ≠ 0 ↔ s.radioIsTransmitting ≠ 0
  receivers : s.duplex = false →
    ∀ r ∈ s.receivers, (r.running = true ↔ s.radioIsTransmitting = 0)

-- a flag that is up and is to go up again keeps its value
def SameLevel (old new : CInt) : Prop :=
  old = 0 ∨ new = 0 ∨ new = old

instance (old new : CInt) : Decidable (SameLevel old new) :=
  inferInstanceAs (Decidable (_ ∨ _))

/--
The call does not raise what is raised already to another value: for MOX what the radio transmits
with unless it is tuning, for VOX and TUNE the flag.
-/
def RxTx.KeepsLevel (s : RxTx) : TxEnv × SwitchCall → Prop
  | (env, .setMox state) =>
    s.hasTransmitter → env.transmitAllowed → ¬ env.txInhibit → s.tune = 0 →
      SameLevel s.radioIsTransmitting state
  | (env, .setVox state) =>
    s.hasTransmitter → s.mox = 0 → s.tune = 0 → ¬ env.txInhibit → SameLevel s.vox state
  | (env, .setTune state) =>
    s.hasTransmitter → env.transmitAllowed → ¬ env.txInhibit → SameLevel s.tune state
  | (_, .toggleTune) => True

namespace RxTx

variable {s : RxTx} {state : CInt} {d : Prop} {env : TxEnv}

@[simp]
theorem rxtx_mox : (s.rxtx state).mox = s.mox := by
  unfold rxtx
  grind [rxOff, rxOn]

@[simp]
theorem rxtx_vox : (s.rxtx state).vox = s.vox := by
  unfold rxtx
  grind [rxOff, rxOn]

@[simp]
theorem rxtx_tune : (s.rxtx state).tune = s.tune := by
  unfold rxtx
  grind [rxOff, rxOn]

@[simp]
theorem rxtx_duplex : (s.rxtx state).duplex = s.duplex := by
  unfold rxtx
  grind [rxOff, rxOn]

@[simp]
theorem rxtx_hasTransmitter : (s.rxtx state).hasTransmitter = s.hasTransmitter := by
  unfold rxtx
  grind [rxOff, rxOn]

theorem rxtx_switches (ht : s.hasTransmitter) : (s.rxtx state).switches = state :: s.switches := by
  unfold rxtx
  grind [rxOff, rxOn]

theorem rxtx_receivers (ht : s.hasTransmitter) (hd : s.duplex = false)
    : (s.rxtx state).receivers =
        s.receivers.map fun _ => if state = 0 then ⟨true, true⟩ else ⟨false, false⟩ := by
  unfold rxtx
  grind [rxOff, rxOn]

theorem rxtx_receivers_running (ht : s.hasTransmitter) (hd : s.duplex = false)
    : ∀ r ∈ (s.rxtx state).receivers, (r.running = true ↔ ¬ state ≠ 0) := by
  intro r hr
  rw [rxtx_receivers ht hd, List.mem_map] at hr
  have ⟨_, _, hr⟩ := hr
  by_cases hstate : state = 0
  . simp [← hr, hstate]
  . rw [← hr, if_neg hstate]
    simpa using hstate

theorem radioIsTransmitting_eq_zero_iff (ht : s.hasTransmitter)
    : s.radioIsTransmitting = 0 ↔ s.mox = 0 ∧ s.vox = 0 ∧ s.tune = 0 := by
  unfold radioIsTransmitting
  rw [if_pos ht]
  simp [BitVec.or_eq_zero_iff, and_assoc]

-- the switches alternate and the last one is to transmit iff `d`
def Follows (s : RxTx) (d : Prop) : Prop :=
  Alternate s.switches ∧ (s.switches.headD 0 ≠ 0 ↔ d)

theorem Switched.follows (h : s.Switched) : s.Follows (s.radioIsTransmitting ≠ 0) :=
  ⟨h.alternate, h.last_switch⟩

theorem Follows.rxtx (state : CInt) (h : s.Follows d) (ht : s.hasTransmitter)
    (hd : ¬ (state ≠ 0 ↔ d))
    : (s.rxtx state).Follows (state ≠ 0) := by
  unfold Follows
  rw [rxtx_switches ht]
  refine ⟨⟨?_, h.1⟩, Iff.rfl⟩
  rw [h.2]
  exact hd

theorem Follows.not_alternate (h : s.Follows d) (ht : s.hasTransmitter) (hd : state ≠ 0 ↔ d)
    : ¬ Alternate (s.rxtx state).switches := by
  rw [rxtx_switches ht]
  intro halt
  apply halt.1
  rw [h.2]
  exact hd

theorem receiving_switched (hasTransmitter duplex : Bool) (receivers : Nat)
    : (receiving hasTransmitter duplex receivers).Switched := by
  have hidle : (receiving hasTransmitter duplex receivers).radioIsTransmitting = 0 := by
    unfold radioIsTransmitting receiving
    simp
  constructor
  . exact Or.inl rfl
  . exact Or.inl rfl
  . exact Or.inl rfl
  . trivial
  . rw [hidle]
    exact Iff.rfl
  . intro _ r hr
    rw [hidle, List.eq_of_mem_replicate hr]
    simp

/--
After a transition to `state`, with flags in `s'` that exclude each other and say the same as
`state`, all is well exactly if the direction changed.
-/
theorem Follows.rxtx_iff (state : CInt) {s' : RxTx} (h : s.Follows d) (ht : s.hasTransmitter)
    (hsw : s'.switches = (s.rxtx state).switches) (hdup : s'.duplex = s.duplex)
    (hrx : s'.receivers = (s.rxtx state).receivers)
    (hmv : s'.mox = 0 ∨ s'.vox = 0) (hmt : s'.mox = 0 ∨ s'.tune = 0)
    (hvt : s'.vox = 0 ∨ s'.tune = 0) (hstate : s'.radioIsTransmitting ≠ 0 ↔ state ≠ 0)
    : s'.Switched ↔ ¬ (state ≠ 0 ↔ d) := by
  constructor
  . intro hs hd
    apply h.not_alternate ht hd
    rw [← hsw]
    exact hs.alternate
  . intro hd
    have ⟨halt, hlast⟩ := h.rxtx state ht hd
    constructor
    . exact hmv
    . exact hmt
    . exact hvt
    . rw [hsw]
      exact halt
    . rw [hsw, hstate]
      exact hlast
    . intro hduplex r hr
      rw [hdup] at hduplex
      rw [hrx] at hr
      rw [rxtx_receivers_running ht hduplex r hr, ← hstate, not_not]

theorem radioSetVox_eq_self (h : ¬ s.hasTransmitter ∨ s.mox ≠ 0 ∨ s.tune ≠ 0 ∨
    (state ≠ 0 ∧ env.txInhibit) ∨ s.vox = state)
    : s.radioSetVox env state = s := by
  unfold radioSetVox
  grind

theorem radioSetVox_of_ne (ht : s.hasTransmitter) (hmox : s.mox = 0) (htune : s.tune = 0)
    (hinh : ¬ (state ≠ 0 ∧ env.txInhibit)) (hvox : s.vox ≠ state)
    : s.radioSetVox env state = { s.rxtx state with vox := state } := by
  unfold radioSetVox
  rw [if_neg (not_not.mpr ht), if_neg (by simp [hmox, htune]), if_neg hinh, if_pos hvox]

theorem radioSetVox_switched_iff (h : s.Switched)
    : (s.radioSetVox env state).Switched ↔ s.KeepsLevel (env, .setVox state) := by
  dsimp only [KeepsLevel]
  by_cases hsame : ¬ s.hasTransmitter ∨ s.mox ≠ 0 ∨ s.tune ≠ 0 ∨
    (state ≠ 0 ∧ env.txInhibit) ∨ s.vox = state
  . rw [radioSetVox_eq_self hsame]
    apply iff_of_true h
    intro ht hmox htune hinh
    unfold SameLevel
    grind
  . simp only [not_or, not_not] at hsame
    have ⟨ht, hmox, htune, hinh, hvox⟩ := hsame
    have hswitch : (s.radioSetVox env state).Switched ↔
        ¬ (state ≠ 0 ↔ s.radioIsTransmitting ≠ 0) := by
      rw [radioSetVox_of_ne ht hmox htune hinh hvox]
      apply h.follows.rxtx_iff state ht
      . rfl
      . exact rxtx_duplex
      . rfl
      . exact Or.inl (by simp [hmox])
      . exact Or.inl (by simp [hmox])
      . exact Or.inr (by simp [htune])
      . rw [ne_eq, radioIsTransmitting_eq_zero_iff (by simpa using ht)]
        simp [hmox, htune]
    rw [hswitch, ne_eq, ne_eq, radioIsTransmitting_eq_zero_iff ht]
    unfold SameLevel
    grind

theorem radioSetTune_eq_self (h : ¬ s.hasTransmitter ∨ (state ≠ 0 ∧ env.txInhibit) ∨
    s.tune = (if state ≠ 0 ∧ ¬ env.transmitAllowed then 0 else state))
    : s.radioSetTune env state = s := by
  unfold radioSetTune
  grind

-- what `radio_set_tune` leaves of a transmission before it changes the flag
def endTransmission (s : RxTx) : RxTx :=
  if s.vox ≠ 0 ∨ s.mox ≠ 0 then { s.rxtx 0 with vox := 0, mox := 0 } else s

theorem radioSetTune_off (ht : s.hasTransmitter) (htune : s.tune ≠ 0)
    (hoff : state = 0 ∨ ¬ env.transmitAllowed) (hinh : ¬ (state ≠ 0 ∧ env.txInhibit))
    : s.radioSetTune env state = { s.endTransmission.rxtx 0 with tune := 0 } := by
  have hstate : (if state ≠ 0 ∧ ¬ env.transmitAllowed then 0 else state) = 0 := by
    grind
  unfold radioSetTune endTransmission
  rw [if_neg (not_not.mpr ht), if_neg hinh, hstate]
  simp only [if_pos htune, ne_eq, not_true_eq_false, if_false]

theorem radioSetTune_on (ht : s.hasTransmitter) (hstate : state ≠ 0) (htune : s.tune ≠ state)
    (hallowed : env.transmitAllowed) (hinh : ¬ env.txInhibit)
    : s.radioSetTune env state =
        RxTx.rxtx { (if s.duplex then s.endTransmission else s.endTransmission.rxOff) with
          tune := state } state := by
  have hstate' : (if state ≠ 0 ∧ ¬ env.transmitAllowed then 0 else state) = state := by
    grind
  have hdup : s.endTransmission.duplex = s.duplex := by
    unfold endTransmission
    split <;> simp
  rw [← hdup]
  unfold radioSetTune endTransmission
  rw [if_neg (not_not.mpr ht), if_neg (by simp [hinh]), hstate']
  simp only [if_pos htune, if_pos hstate]

theorem endTransmission_fields
    : s.endTransmission.hasTransmitter = s.hasTransmitter ∧
        s.endTransmission.duplex = s.duplex ∧ s.endTransmission.tune = s.tune := by
  unfold endTransmission
  split <;> simp

theorem endTransmission_mox : s.endTransmission.mox = 0 := by
  unfold endTransmission
  grind

theorem endTransmission_vox : s.endTransmission.vox = 0 := by
  unfold endTransmission
  grind

theorem endTransmission_follows (h : s.Switched) (ht : s.hasTransmitter)
    : s.endTransmission.Follows (s.tune ≠ 0) := by
  have hiff := radioIsTransmitting_eq_zero_iff ht
  unfold endTransmission
  split
  next hflag =>
    have htune : s.tune = 0 := by
      have := h.mox_tune
      have := h.vox_tune
      tauto
    have hon : s.radioIsTransmitting ≠ 0 := by
      rw [ne_eq, hiff]
      tauto
    have hoff := h.follows.rxtx 0 ht (fun hd => hd.mpr hon rfl)
    refine ⟨hoff.1, ?_⟩
    rw [hoff.2]
    simp [htune]
  next hflag =>
    rw [not_or, not_not, not_not] at hflag
    have := h.follows
    rwa [ne_eq, hiff, hflag.1, hflag.2, eq_self, true_and, true_and] at this

theorem radioSetTune_off_switched (h : s.Switched) (ht : s.hasTransmitter) (htune : s.tune ≠ 0)
    : RxTx.Switched { s.endTransmission.rxtx 0 with tune := 0 } := by
  have hf := endTransmission_follows h ht
  have ⟨ht', _, _⟩ := endTransmission_fields (s := s)
  rw [← ht'] at ht
  rw [hf.rxtx_iff 0 ht]
  . exact fun hd => hd.mpr htune rfl
  . rfl
  . exact rxtx_duplex
  . rfl
  . exact Or.inl (rxtx_mox.trans endTransmission_mox)
  . exact Or.inr rfl
  . exact Or.inr rfl
  . rw [ne_eq, radioIsTransmitting_eq_zero_iff (by simpa using ht)]
    simp [endTransmission_mox, endTransmission_vox]

theorem radioSetTune_switched_iff (h : s.Switched)
    : (s.radioSetTune env state).Switched ↔ s.KeepsLevel (env, .setTune state) := by
  dsimp only [KeepsLevel]
  by_cases hsame : ¬ s.hasTransmitter ∨ (state ≠ 0 ∧ env.txInhibit) ∨
    s.tune = (if state ≠ 0 ∧ ¬ env.transmitAllowed then 0 else state)
  . rw [radioSetTune_eq_self hsame]
    apply iff_of_true h
    unfold SameLevel
    grind
  simp only [not_or, not_not] at hsame
  have ⟨ht, hinh, htune⟩ := hsame
  by_cases hoff : state = 0 ∨ ¬ env.transmitAllowed
  . have htune : s.tune ≠ 0 := by grind
    rw [radioSetTune_off ht htune hoff hinh]
    apply iff_of_true (radioSetTune_off_switched h ht htune)
    unfold SameLevel
    grind
  . simp only [not_or, not_not] at hoff
    have ⟨hstate, hallowed⟩ := hoff
    rw [if_neg (by simp [hallowed])] at htune
    have ⟨ht', hdup, _⟩ := endTransmission_fields (s := s)
    have hswitch : (s.radioSetTune env state).Switched ↔ ¬ (state ≠ 0 ↔ s.tune ≠ 0) := by
      rw [radioSetTune_on ht hstate htune hallowed (by tauto)]
      have hf := endTransmission_follows h ht
      apply Follows.rxtx_iff state (s := { (if s.duplex then s.endTransmission else
        s.endTransmission.rxOff) with tune := state })
      . split <;> exact hf
      . split <;> exact ht'.trans ht
      . rfl
      . simp
      . rfl
      . apply Or.inl
        split <;> simp [endTransmission_mox, rxOff]
      . apply Or.inl
        split <;> simp [endTransmission_mox, rxOff]
      . apply Or.inl
        split <;> simp [endTransmission_vox, rxOff]
      . rw [ne_eq, radioIsTransmitting_eq_zero_iff]
        . split <;> simp [endTransmission_mox, endTransmission_vox, rxOff]
        . split <;> simp [ht', ht, rxOff]
    rw [hswitch]
    unfold SameLevel
    grind

theorem radioToggleTune_switched (h : s.Switched) : (s.radioToggleTune env).Switched := by
  unfold radioToggleTune
  split
  next =>
    apply (radioSetTune_switched_iff h).mpr
    intro _ _ _
    unfold SameLevel
    split <;> simp [*]
  next => exact h

theorem radioSetMox_eq_self (h : ¬ s.hasTransmitter ∨
    (state ≠ 0 ∧ env.transmitAllowed ∧ env.txInhibit))
    : s.radioSetMox env state = s := by
  unfold radioSetMox
  grind

-- the state that `radio_set_mox` goes on with, and what it does when tuning has ended
def moxState (env : TxEnv) (state : CInt) : CInt :=
  if state ≠ 0 ∧ ¬ env.transmitAllowed then 0 else state

def moxSwitch (s : RxTx) (state : CInt) : RxTx :=
  { (if state ≠ s.radioIsTransmitting then s.rxtx state else s) with
    mox := state, tune := 0, vox := 0 }

theorem radioSetMox_eq (ht : s.hasTransmitter) (hinh : ¬ (moxState env state ≠ 0 ∧ env.txInhibit))
    : s.radioSetMox env state =
        (if s.tune ≠ 0 then s.radioSetTune env 0 else s).moxSwitch (moxState env state) := by
  unfold radioSetMox moxSwitch
  rw [if_neg (not_not.mpr ht)]
  exact if_neg hinh

theorem moxSwitch_switched_iff (h : s.Switched) (ht : s.hasTransmitter)
    : (s.moxSwitch state).Switched ↔ SameLevel s.radioIsTransmitting state := by
  have hflags : (s.moxSwitch state).radioIsTransmitting = state := by
    have ht' : (s.moxSwitch state).hasTransmitter := by
      unfold moxSwitch
      split <;> simpa using ht
    unfold radioIsTransmitting
    rw [if_pos ht']
    unfold moxSwitch
    simp
  by_cases hsame : state = s.radioIsTransmitting
  . apply iff_of_true _ (Or.inr (Or.inr hsame))
    unfold moxSwitch at hflags ⊢
    rw [if_neg (by simpa using hsame)] at hflags ⊢
    constructor
    . exact Or.inr rfl
    . exact Or.inr rfl
    . exact Or.inl rfl
    . exact h.alternate
    . rw [hflags, hsame]
      exact h.last_switch
    . rw [hflags, hsame]
      exact h.receivers
  . have hswitch : (s.moxSwitch state).Switched ↔ ¬ (state ≠ 0 ↔ s.radioIsTransmitting ≠ 0) := by
      have heq : s.moxSwitch state = { s.rxtx state with mox := state, tune := 0, vox := 0 } := by
        unfold moxSwitch
        rw [if_pos hsame]
      rw [h.follows.rxtx_iff state ht]
      . rw [heq]
      . rw [heq]
        exact rxtx_duplex
      . rw [heq]
      . rw [heq]
        exact Or.inr rfl
      . rw [heq]
        exact Or.inr rfl
      . rw [heq]
        exact Or.inl rfl
      . rw [hflags]
    rw [hswitch]
    unfold SameLevel
    grind

theorem moxState_sameLevel {old : CInt} (hinh : ¬ (moxState env state ≠ 0 ∧ env.txInhibit))
    : SameLevel old (moxState env state) ↔
        (env.transmitAllowed → ¬ env.txInhibit → SameLevel old state) := by
  unfold moxState SameLevel at *
  grind

theorem radioSetMox_switched_iff (h : s.Switched)
    : (s.radioSetMox env state).Switched ↔ s.KeepsLevel (env, .setMox state) := by
  dsimp only [KeepsLevel]
  by_cases hself : ¬ s.hasTransmitter ∨ (state ≠ 0 ∧ env.transmitAllowed ∧ env.txInhibit)
  . rw [radioSetMox_eq_self hself]
    apply iff_of_true h
    tauto
  rw [not_or, not_not] at hself
  have ⟨ht, hinh⟩ := hself
  have hinh : ¬ (moxState env state ≠ 0 ∧ env.txInhibit) := by
    unfold moxState
    grind
  rw [radioSetMox_eq ht hinh]
  by_cases htune : s.tune = 0
  . rw [if_neg (by simpa using htune), moxSwitch_switched_iff h ht, moxState_sameLevel hinh]
    simp [ht, htune]
  . have hoff : s.radioSetTune env 0 = { s.endTransmission.rxtx 0 with tune := 0 } := by
      apply radioSetTune_off ht htune (Or.inl rfl) (by simp)
    have ht' : (s.radioSetTune env 0).hasTransmitter := by
      rw [hoff]
      exact rxtx_hasTransmitter.trans (endTransmission_fields.1.trans ht)
    have hidle : (s.radioSetTune env 0).radioIsTransmitting = 0 := by
      rw [radioIsTransmitting_eq_zero_iff ht', hoff]
      simp [endTransmission_mox, endTransmission_vox]
    have hs : (s.radioSetTune env 0).Switched := by
      rw [hoff]
      exact radioSetTune_off_switched h ht htune
    rw [if_pos htune, moxSwitch_switched_iff hs ht']
    apply iff_of_true (Or.inl hidle)
    tauto

theorem call_switched_iff (h : s.Switched) (call : TxEnv × SwitchCall)
    : (s.call call).Switched ↔ s.KeepsLevel call := by
  match call with
  | (env, .setMox state) => exact radioSetMox_switched_iff h
  | (env, .setVox state) => exact radioSetVox_switched_iff h
  | (env, .setTune state) => exact radioSetTune_switched_iff h
  | (env, .toggleTune) => exact iff_of_true (radioToggleTune_switched h) trivial

def SameFlags (s s' : RxTx) : Prop :=
  s'.mox = s.mox ∧ s'.vox = s.vox ∧ s'.tune = s.tune

theorem radioSetTune_idle (h : s.SameFlags (s.radioSetTune env state))
    : (s.radioSetTune env state).switches = s.switches := by
  by_cases hself : ¬ s.hasTransmitter ∨ (state ≠ 0 ∧ env.txInhibit) ∨
    s.tune = (if state ≠ 0 ∧ ¬ env.transmitAllowed then 0 else state)
  . rw [radioSetTune_eq_self hself]
  . simp only [not_or, not_not] at hself
    have ⟨ht, hinh, htune⟩ := hself
    by_cases hoff : state = 0 ∨ ¬ env.transmitAllowed
    . have htune : s.tune ≠ 0 := by grind
      have := h.2.2
      rw [radioSetTune_off ht htune hoff hinh] at this
      exact absurd this.symm htune
    . simp only [not_or, not_not] at hoff
      rw [if_neg (by simp [hoff])] at htune
      have := h.2.2
      rw [radioSetTune_on ht hoff.1 htune hoff.2 (by tauto), rxtx_tune] at this
      exact absurd this.symm htune

-- where nothing changes there is no transition
theorem call_idle (call : TxEnv × SwitchCall) (h : s.SameFlags (s.call call))
    : (s.call call).switches = s.switches := by
  match call with
  | (env, .setMox state) =>
    dsimp only [RxTx.call] at h ⊢
    by_cases hself : ¬ s.hasTransmitter ∨ (state ≠ 0 ∧ env.transmitAllowed ∧ env.txInhibit)
    . rw [radioSetMox_eq_self hself]
    . rw [not_or, not_not] at hself
      have hinh : ¬ (moxState env state ≠ 0 ∧ env.txInhibit) := by
        unfold moxState
        grind
      rw [radioSetMox_eq hself.1 hinh] at h ⊢
      have ⟨hmox, hvox, htune⟩ := h
      have htune : s.tune = 0 := htune.symm
      rw [if_neg (by simpa using htune)] at hmox ⊢
      have hon : s.radioIsTransmitting = moxState env state := by
        unfold radioIsTransmitting
        rw [if_pos hself.1, ← hmox, ← hvox, htune]
        simp [moxSwitch]
      unfold moxSwitch
      rw [if_neg (by simpa using hon.symm)]
  | (env, .setVox state) =>
    dsimp only [RxTx.call] at h ⊢
    by_cases hsame : ¬ s.hasTransmitter ∨ s.mox ≠ 0 ∨ s.tune ≠ 0 ∨
      (state ≠ 0 ∧ env.txInhibit) ∨ s.vox = state
    . rw [radioSetVox_eq_self hsame]
    . simp only [not_or, not_not] at hsame
      have ⟨ht, hmox, htune, hinh, hvox⟩ := hsame
      have := h.2.1
      rw [radioSetVox_of_ne ht hmox htune hinh hvox] at this
      exact absurd this.symm hvox
  | (env, .setTune state) => exact radioSetTune_idle h
  | (env, .toggleTune) =>
    dsimp only [RxTx.call] at h ⊢
    unfold radioToggleTune at h ⊢
    split at h
    next ht =>
      rw [if_pos ht]
      exact radioSetTune_idle h
    next ht => rw [if_neg ht]

/--
In every state that a radio reaches by a series of calls MOX, VOX and TUNE exclude each other, the
transitions alternate and without duplex the receivers run unless it transmits, and no call that
changes nothing makes a transition, if and only if no call raises what is raised to another value.
-/
theorem switched_iff_keepsLevel (hasTransmitter duplex : Bool) (receivers : Nat)
    (calls : List (TxEnv × SwitchCall))
    : ((∀ pre, pre <+: calls →
          (Run.exec call (receiving hasTransmitter duplex receivers) pre).Switched) ∧
        Run.Along call (fun s c => s.SameFlags (s.call c) → (s.call c).switches = s.switches)
          (receiving hasTransmitter duplex receivers) calls) ↔
      Run.Along call KeepsLevel (receiving hasTransmitter duplex receivers) calls := by
  have hs := receiving_switched hasTransmitter duplex receivers
  have hiff : (∀ pre, pre <+: calls →
      (Run.exec call (receiving hasTransmitter duplex receivers) pre).Switched) ↔
        Run.Along call KeepsLevel (receiving hasTransmitter duplex receivers) calls := by
    apply Run.forall_prefix_iff_along _ hs
    exact fun s c h => call_switched_iff h c
  rw [hiff, and_iff_left_iff_imp]
  intro _
  apply (Run.along_true _ calls).mono
  intro s c _
  exact call_idle c

/--
A client of the radio that sends MOX with the byte 1 and then with the byte 2: the radio is switched
to transmit twice in a row.
-/
theorem mox_raised_twice
    : ¬ (Run.exec call (receiving true false 2)
        [(⟨true, false⟩, .setMox 1), (⟨true, false⟩, .setMox 2)]).Switched := by
  intro h
  exact absurd h.alternate.1 (by decide)

structure AreFlags (s : RxTx) : Prop where
  mox : s.mox = 0 ∨ s.mox = 1
  vox : s.vox = 0 ∨ s.vox = 1
  tune : s.tune = 0 ∨ s.tune = 1

end RxTx

-- the state that the call asks for is a truth value, as in all calls of the program itself
def SwitchCall.IsFlag : SwitchCall → Prop
  | .setMox state => state = 0 ∨ state = 1
  | .setVox state => state = 0 ∨ state = 1
  | .setTune state => state = 0 ∨ state = 1
  | .toggleTune => True

namespace RxTx

variable {s : RxTx} {state : CInt} {env : TxEnv}

theorem radioSetTune_areFlags (h : s.AreFlags) (hstate : state = 0 ∨ state = 1)
    : (s.radioSetTune env state).AreFlags := by
  have ⟨hmox, hvox, htune⟩ := h
  unfold radioSetTune
  constructor <;> grind [rxOff, rxtx_mox, rxtx_vox, rxtx_tune]

theorem call_areFlags (h : s.AreFlags) (call : TxEnv × SwitchCall) (hcall : call.2.IsFlag)
    : (s.call call).AreFlags := by
  match call with
  | (env, .setMox state) =>
    dsimp only [SwitchCall.IsFlag] at hcall
    have ⟨hmox, hvox, htune⟩ := h
    dsimp only [RxTx.call]
    unfold radioSetMox
    constructor <;> grind
  | (env, .setVox state) =>
    dsimp only [SwitchCall.IsFlag] at hcall
    have ⟨hmox, hvox, htune⟩ := h
    dsimp only [RxTx.call]
    unfold radioSetVox
    constructor <;> grind [rxtx_mox, rxtx_tune]
  | (env, .setTune state) => exact radioSetTune_areFlags h hcall
  | (env, .toggleTune) =>
    dsimp only [RxTx.call]
    unfold radioToggleTune
    split
    next =>
      apply radioSetTune_areFlags h
      split <;> simp
    next => exact h

theorem keepsLevel_of_areFlags (h : s.AreFlags) (call : TxEnv × SwitchCall) (hcall : call.2.IsFlag)
    : s.KeepsLevel call := by
  have ⟨hmox, hvox, htune⟩ := h
  match call with
  | (env, .setMox state) =>
    intro ht _ _ _
    have hon : s.radioIsTransmitting = 0 ∨ s.radioIsTransmitting = 1 := by
      unfold radioIsTransmitting
      rw [if_pos ht]
      rcases hmox with h | h <;> rcases hvox with h' | h' <;> rcases htune with h'' | h'' <;>
        rw [h, h', h''] <;> decide
    dsimp only [SwitchCall.IsFlag] at hcall
    unfold SameLevel
    grind
  | (env, .setVox state) =>
    intro _ _ _ _
    dsimp only [SwitchCall.IsFlag] at hcall
    unfold SameLevel
    grind
  | (env, .setTune state) =>
    intro _ _ _
    dsimp only [SwitchCall.IsFlag] at hcall
    unfold SameLevel
    grind
  | (env, .toggleTune) => trivial

theorem along_keepsLevel (h : s.AreFlags) (calls : List (TxEnv × SwitchCall))
    (hcalls : ∀ c ∈ calls, c.2.IsFlag)
    : Run.Along call KeepsLevel s calls := by
  induction calls generalizing s with
  | nil => trivial
  | cons c calls ih =>
    refine ⟨keepsLevel_of_areFlags h c (hcalls c (by simp)), ?_⟩
    apply ih (call_areFlags h c (hcalls c (by simp)))
    intro c' hc'
    exact hcalls c' (by simp [hc'])

-- with truth values MOX, VOX and TUNE exclude each other and the transitions alternate
theorem switched_of_isFlag (hasTransmitter duplex : Bool) (receivers : Nat)
    (calls : List (TxEnv × SwitchCall)) (hcalls : ∀ c ∈ calls, c.2.IsFlag)
    : (Run.exec call (receiving hasTransmitter duplex receivers) calls).Switched := by
  have hlevel := along_keepsLevel (s := receiving hasTransmitter duplex receivers)
    ⟨Or.inl rfl, Or.inl rfl, Or.inl rfl⟩ calls hcalls
  apply Run.exec_invariant (fun s c h hc => (call_switched_iff h c).mpr hc) _ hlevel
  apply receiving_switched

end RxTx

end Transmit
