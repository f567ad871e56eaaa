import Pihpsdr.Transmit.Lemmas.Guards

/-!
The VOX switch follows its hang counter as long as the counter is neither stopped nor reset while VOX
is on or will be: then it runs out, and the call that switches VOX off gets to the main loop.
-/

namespace Transmit

def SwitchCall.voxState : SwitchCall → Option CInt
  | .setVox state => some state
  | _ => none

-- the state of the last VOX call that waits
def lastVox : List SwitchCall → Option CInt
  | [] => none
  | c :: idle => (lastVox idle).or c.voxState

theorem lastVox_append (idle : List SwitchCall) (c : SwitchCall)
    : lastVox (idle ++ [c]) = c.voxState.or (lastVox idle) := by
  induction idle with
  | nil => simp [lastVox]
  | cons c' idle ih => rw [List.cons_append, lastVox, ih, Option.or_assoc, lastVox]

theorem mem_of_lastVox {idle : List SwitchCall} {state : CInt} (h : lastVox idle = some state)
    : .setVox state ∈ idle := by
  induction idle with
  | nil => contradiction
  | cons c idle ih =>
    rw [lastVox, Option.or_eq_some_iff] at h
    rcases h with h | ⟨_, h⟩
    . exact List.mem_cons_of_mem _ (ih h)
    . cases c with
      | setVox state' =>
        have heq : state' = state := by simpa [SwitchCall.voxState] using h
        rw [heq]
        exact List.mem_cons_self
      | setMox => contradiction
      | setTune => contradiction
      | toggleTune => contradiction

theorem not_mem_of_lastVox_none {idle : List SwitchCall} (h : lastVox idle = none) (state : CInt)
    : .setVox state ∉ idle := by
  induction idle with
  | nil => exact List.not_mem_nil
  | cons c idle ih =>
    rw [lastVox, Option.or_eq_none_iff] at h
    intro hmem
    rcases List.mem_cons.mp hmem with hc | hmem
    . rw [← hc] at h
      exact absurd h.2 (by simp [SwitchCall.voxState])
    . exact ih h.1 hmem

namespace VoxEngine

variable {v : VoxEngine}

-- the longest hang time, with CFC
def longestHang (v : VoxEngine) : Nat :=
  ⌊max v.hang 350 * 48⌋.toNat

theorem hangCount_pos : 0 < v.hangCount := by
  have hmin : (150 : ℚ) ≤ if v.hang > v.minHang then v.hang else v.minHang := by
    have : (150 : ℚ) ≤ v.minHang := by
      unfold minHang
      split <;> norm_num
    split
    next h => exact this.trans h.le
    next h => exact this
  have hfloor : (7200 : Int) ≤ ⌊(if v.hang > v.minHang then v.hang else v.minHang) * 48⌋ := by
    rw [Int.le_floor]
    push_cast
    linarith
  unfold hangCount
  omega

theorem hangCount_le : v.hangCount ≤ v.longestHang := by
  unfold hangCount longestHang
  apply Int.toNat_le_toNat
  apply Int.floor_le_floor
  apply mul_le_mul_of_nonneg_right _ (by norm_num)
  split
  next h => exact le_max_left _ _
  next h =>
    apply le_trans _ (le_max_right _ _)
    unfold minHang
    split <;> norm_num

end VoxEngine

namespace Station

variable {s : Station}

-- what VOX will be when the main loop has run all the calls that wait
def voxTarget (s : Station) : CInt :=
  (lastVox s.idle).getD s.radio.vox

def VoxOn (s : Station) : Prop :=
  s.radio.vox ≠ 0 ∨ ∃ state, state ≠ 0 ∧ .setVox state ∈ s.idle

-- each further sample below the threshold lowers the hang counter
def CountsDown (s : Station) : Prop :=
  0 < s.vox.count ∧
    ∀ x, |x| < s.vox.threshold → (s.txAddMicSample x).vox.count + 1 = s.vox.count

def VoxHeld (s : Station) : Prop :=
  s.VoxOn → s.CountsDown ∨ .setVox 0 ∈ s.idle

-- the call `c` does not reset the hang counter while one of the calls in `idle` will switch VOX on
def VoxSafe (s : Station) (c : SwitchCall) (idle : List SwitchCall) : Prop :=
  s.radio.cancelsVox (s.env, c) → (lastVox idle).getD 0 = 0

/--
While VOX is on, or will be, it is not disabled and the mode is not changed to CW; no MOX or TUNE
request is handled while a call waits that switches VOX on; only the VOX engine switches VOX on.
-/
def VoxKept (s : Station) : StationEvent → Prop
  | .controlBytes .. => True
  | .highPriority .. => True
  | .call c => s.VoxSafe c s.idle ∧ ∀ state, c = .setVox state → state = 0
  | .dial d => s.voxTarget ≠ 0 → 0 < s.vox.threshold → Mode.isCw d.txVfo.mode = false
  | .micSample _ => True
  | .set v => s.voxTarget ≠ 0 → (s.set v).vox.enabled = true
  | .idle => ∀ c idle, s.idle = c :: idle → s.VoxSafe c idle

structure VoxTimed (s : Station) : Prop where
  exclusive : s.radio.Exclusive
  no_transmitter : ¬ s.radio.hasTransmitter → s.radio.vox = 0
  count_le : s.vox.count ≤ s.vox.longestHang
  count_pos : s.voxTarget ≠ 0 → 0 < s.vox.count
  enabled : s.voxTarget ≠ 0 → s.vox.enabled = true
  not_silent : s.voxTarget ≠ 0 → 0 < s.vox.threshold → ¬ s.Silent

theorem VoxTimed.countsDown (h : s.VoxTimed) (hon : s.voxTarget ≠ 0) : s.CountsDown := by
  refine ⟨h.count_pos hon, ?_⟩
  intro x hx
  have hpos := h.count_pos hon
  have hsilent := h.not_silent hon ((abs_nonneg x).trans_lt hx)
  unfold txAddMicSample
  simp only [if_neg hsilent, if_pos (h.enabled hon), if_neg (not_le.mpr hx)]
  grind

theorem VoxTimed.voxHeld (h : s.VoxTimed) : s.VoxHeld := by
  intro hvox
  by_cases hon : s.voxTarget ≠ 0
  . exact Or.inl (h.countsDown hon)
  . rw [not_not] at hon
    unfold voxTarget at hon
    cases hlast : lastVox s.idle with
    | some state =>
      rw [hlast, Option.getD_some] at hon
      rw [hon] at hlast
      exact Or.inr (mem_of_lastVox hlast)
    | none =>
      rw [hlast, Option.getD_none] at hon
      rcases hvox with hvox | ⟨state, _, hmem⟩
      . contradiction
      . exact absurd hmem (not_mem_of_lastVox_none hlast state)

section Call

variable {c : SwitchCall} {idle : List SwitchCall}

-- a call that waits no more leaves VOX to be switched on only where it was before
theorem VoxTimed.target_call (h : s.VoxTimed) (hsafe : s.VoxSafe c idle)
    (hon : (lastVox idle).getD (s.radio.call (s.env, c)).vox ≠ 0)
    : s.radio.cancelsVox (s.env, c) = false ∧
        ((lastVox idle).or c.voxState).getD s.radio.vox ≠ 0 := by
  have hcancel : s.radio.cancelsVox (s.env, c) = false := by
    by_contra hcancel
    rw [Bool.not_eq_false] at hcancel
    rw [RxTx.call_vox_of_cancelsVox hcancel] at hon
    exact hon (hsafe hcancel)
  refine ⟨hcancel, ?_⟩
  cases hlast : lastVox idle with
  | some state =>
    rw [hlast] at hon
    exact hon
  | none =>
    rw [hlast, Option.getD_none] at hon
    rw [Option.none_or]
    cases c with
    | setVox state =>
      dsimp only [RxTx.call] at hon
      by_cases hchange : s.radio.VoxChanges s.env state
      . rw [(RxTx.hasFlags_radioSetVox hchange).vox] at hon
        exact hon
      . rw [RxTx.radioSetVox_of_not_voxChanges hchange] at hon
        have := h.exclusive.mox_vox
        have := h.exclusive.vox_tune
        have := h.no_transmitter
        unfold RxTx.VoxChanges at hchange
        intro hstate
        change state = 0 at hstate
        tauto
    | setMox state => rwa [RxTx.call_of_not_cancelsVox hcancel (by simp)] at hon
    | setTune state => rwa [RxTx.call_of_not_cancelsVox hcancel (by simp)] at hon
    | toggleTune => rwa [RxTx.call_of_not_cancelsVox hcancel (by simp)] at hon

theorem call_vox_of_not_cancelsVox (hc : s.radio.cancelsVox (s.env, c) = false)
    : (s.call c).vox.count = s.vox.count ∧ (s.call c).vox.enabled = s.vox.enabled ∧
        (s.call c).vox.threshold = s.vox.threshold := by
  unfold call tuneVox
  rw [hc]
  grind

theorem call_vox_count_le : (s.call c).vox.count ≤ s.vox.count := by
  unfold call tuneVox VoxEngine.cancel
  grind

theorem call_vox_const (c : SwitchCall)
    : (s.call c).vox.threshold = s.vox.threshold ∧ (s.call c).vox.hang = s.vox.hang := by
  unfold call tuneVox VoxEngine.cancel
  grind

theorem call_vox_longestHang : (s.call c).vox.longestHang = s.vox.longestHang := by
  unfold VoxEngine.longestHang
  rw [(call_vox_const c).2]

theorem VoxTimed.call (h : s.VoxTimed) (hsafe : s.VoxSafe c idle)
    (htarget : ((lastVox idle).or c.voxState).getD s.radio.vox ≠ 0 → s.voxTarget ≠ 0)
    : VoxTimed ({ s with idle := idle }.call c) := by
  have hon : ({ s with idle := idle }.call c).voxTarget ≠ 0 →
      s.radio.cancelsVox (s.env, c) = false ∧ s.voxTarget ≠ 0 := by
    intro hon
    have ⟨hcancel, hbefore⟩ := h.target_call hsafe hon
    exact ⟨hcancel, htarget hbefore⟩
  constructor
  . exact RxTx.call_exclusive h.exclusive _
  . intro ht
    change ¬ (s.radio.call (s.env, c)).hasTransmitter at ht
    rw [RxTx.call_hasTransmitter] at ht
    change (s.radio.call (s.env, c)).vox = 0
    rw [RxTx.call_of_no_transmitter ht]
    exact h.no_transmitter ht
  . rw [call_vox_longestHang]
    exact call_vox_count_le.trans h.count_le
  . intro hafter
    have ⟨hcancel, hbefore⟩ := hon hafter
    rw [(call_vox_of_not_cancelsVox (s := { s with idle := idle }) hcancel).1]
    exact h.count_pos hbefore
  . intro hafter
    have ⟨hcancel, hbefore⟩ := hon hafter
    rw [(call_vox_of_not_cancelsVox (s := { s with idle := idle }) hcancel).2.1]
    exact h.enabled hbefore
  . intro hafter hthreshold hsilent
    have ⟨hcancel, hbefore⟩ := hon hafter
    rw [(call_vox_of_not_cancelsVox (s := { s with idle := idle }) hcancel).2.2] at hthreshold
    apply h.not_silent hbefore hthreshold
    unfold Silent at hsilent ⊢
    change (s.radio.call (s.env, c)).tune ≠ 0 ∨ _ at hsilent
    rwa [RxTx.call_tune_of_not_cancelsVox hcancel] at hsilent

end Call

theorem inhibitInput_target {enable data : Bool}
    : (s.inhibitInput enable data).voxTarget = s.voxTarget := by
  have happend := lastVox_append s.idle (.setMox 0)
  rw [show SwitchCall.voxState (.setMox 0) = none from rfl, Option.none_or] at happend
  unfold voxTarget
  rcases inhibitInput_eq (s := s) enable data with ⟨_, _, heq⟩ | heq
  . rw [heq]
  . rw [heq, happend]

theorem VoxTimed.inhibitInput (h : s.VoxTimed) {enable data : Bool}
    : (s.inhibitInput enable data).VoxTimed := by
  have ⟨hexcl, hno, hle, hpos, hen, hns⟩ := h
  constructor
  . rwa [inhibitInput_radio]
  . rwa [inhibitInput_radio]
  . rwa [inhibitInput_vox]
  . rwa [inhibitInput_target, inhibitInput_vox]
  . rwa [inhibitInput_target, inhibitInput_vox]
  . rw [inhibitInput_target, inhibitInput_vox]
    unfold Silent at hns ⊢
    rwa [inhibitInput_radio, inhibitInput_dial]

theorem VoxTimed.of_vox (h : s.VoxTimed) {cfc : Bool} {v : VoxEngine} {idle : List SwitchCall}
    (hle : v.count ≤ v.longestHang)
    (hon : (lastVox idle).getD s.radio.vox ≠ 0 →
      0 < v.count ∧ v.enabled = true ∧ (0 < v.threshold → ¬ s.Silent))
    : VoxTimed { s with cfc := cfc, vox := v, idle := idle } where
  exclusive := h.exclusive
  no_transmitter := h.no_transmitter
  count_le := hle
  count_pos := fun hafter => (hon hafter).1
  enabled := fun hafter => (hon hafter).2.1
  not_silent := fun hafter => (hon hafter).2.2

-- the VOX engine and the amplitude once `tx_add_mic_sample` has seen to TUNE and CW
def sampledVox (s : Station) : VoxEngine :=
  if s.Silent then s.vox.cancel else s.vox

def amplitude (s : Station) (x : ℚ) : ℚ :=
  if s.Silent then 0 else |x|

theorem amplitude_nonneg (x : ℚ) : 0 ≤ s.amplitude x := by
  unfold amplitude
  split
  . rfl
  . exact abs_nonneg x

theorem sampledVox_fields
    : s.sampledVox.enabled = s.vox.enabled ∧ s.sampledVox.threshold = s.vox.threshold ∧
        s.sampledVox.longestHang = s.vox.longestHang ∧ s.sampledVox.count ≤ s.vox.count := by
  unfold sampledVox VoxEngine.cancel VoxEngine.longestHang
  split <;> simp

theorem txAddMicSample_eq (x : ℚ)
    : s.txAddMicSample x =
        if s.sampledVox.enabled then
          if s.sampledVox.threshold ≤ s.amplitude x then
            { s with
              vox := { s.sampledVox with count := s.sampledVox.hangCount, triggered := true }
              idle := if s.sampledVox.triggered then s.idle else s.idle ++ [.setVox 1] }
          else if s.sampledVox.count > 1 then
            { s with vox := { s.sampledVox with count := s.sampledVox.count - 1 } }
          else if s.sampledVox.count = 1 then
            { s with
              vox := { s.sampledVox with count := 0, triggered := false }
              idle := s.idle ++ [.setVox 0] }
          else
            { s with vox := s.sampledVox }
        else
          { s with vox := s.sampledVox } := rfl

theorem lastVox_setVox (idle : List SwitchCall) (state : CInt)
    : lastVox (idle ++ [.setVox state]) = some state := by
  rw [lastVox_append]
  rfl

theorem VoxTimed.txAddMicSample (h : s.VoxTimed) (x : ℚ) : (s.txAddMicSample x).VoxTimed := by
  have ⟨henabled, hthreshold, hlongest, hcount⟩ := sampledVox_fields (s := s)
  have hle : s.sampledVox.count ≤ s.sampledVox.longestHang := by
    rw [hlongest]
    exact hcount.trans h.count_le
  rw [txAddMicSample_eq]
  split
  next hen =>
    have hon := henabled ▸ hen
    split
    next hloud =>
      apply h.of_vox VoxEngine.hangCount_le
      intro _
      refine ⟨VoxEngine.hangCount_pos, hen, ?_⟩
      intro hpos hsilent
      unfold amplitude at hloud
      rw [if_pos hsilent] at hloud
      exact absurd hpos (not_lt.mpr hloud)
    next hloud =>
      -- VOX cannot be on while the radio is silent
      have hpos : 0 < s.vox.threshold := by
        rw [← hthreshold]
        exact (amplitude_nonneg x).trans_lt (not_le.mp hloud)
      split
      next hcount' =>
        apply h.of_vox
        . exact (Nat.sub_le _ _).trans hle
        . intro hafter
          exact ⟨Nat.sub_pos_of_lt hcount', hen, fun _ => h.not_silent hafter hpos⟩
      next hcount' =>
        split
        next hone =>
          apply h.of_vox (Nat.zero_le _)
          intro hafter
          rw [lastVox_setVox] at hafter
          contradiction
        next hzero =>
          apply h.of_vox hle
          intro hafter
          have hnot := h.not_silent hafter hpos
          have hsame : s.sampledVox = s.vox := if_neg hnot
          have := h.count_pos hafter
          rw [hsame] at hcount' hzero
          omega
  next hen =>
    apply h.of_vox hle
    intro hafter
    rw [henabled] at hen
    exact absurd (h.enabled hafter) hen

theorem VoxTimed.set (h : s.VoxTimed) {v : VoxSetting}
    (hkept : s.voxTarget ≠ 0 → (s.set v).vox.enabled = true)
    : (s.set v).VoxTimed := by
  have ⟨cfc, _, _, _, heq⟩ := set_eq (s := s) v
  rw [heq] at hkept ⊢
  apply h.of_vox
  . exact h.count_le
  . intro hafter
    exact ⟨h.count_pos hafter, hkept hafter, h.not_silent hafter⟩

theorem VoxTimed.runIdle (h : s.VoxTimed)
    (hkept : ∀ c idle, s.idle = c :: idle → s.VoxSafe c idle)
    : s.runIdle.VoxTimed := by
  unfold Station.runIdle
  split
  next => exact h
  next c idle hidle =>
    apply h.call (hkept c idle hidle)
    intro hbefore
    unfold voxTarget
    rwa [hidle, lastVox]

-- only the VOX engine switches VOX on
theorem target_of_call {c : SwitchCall} (hvox : ∀ state, c = .setVox state → state = 0)
    (hbefore : ((lastVox s.idle).or c.voxState).getD s.radio.vox ≠ 0)
    : s.voxTarget ≠ 0 := by
  unfold voxTarget
  cases hlast : lastVox s.idle with
  | some state => rwa [hlast] at hbefore
  | none =>
    rw [hlast, Option.none_or] at hbefore
    cases c with
    | setVox state => exact absurd (hvox state rfl) hbefore
    | setMox => exact hbefore
    | setTune => exact hbefore
    | toggleTune => exact hbefore

theorem VoxTimed.step (h : s.VoxTimed) (e : StationEvent) (hkept : s.VoxKept e)
    : (s.step e).VoxTimed := by
  cases e with
  | controlBytes enable device control1 => exact h.inhibitInput
  | highPriority enable device byte59 => exact h.inhibitInput
  | call c => exact h.call hkept.1 (target_of_call hkept.2)
  | dial d =>
    have ⟨hexcl, hno, hle, hpos, hen, hns⟩ := h
    refine ⟨hexcl, hno, hle, hpos, hen, ?_⟩
    intro hon hthreshold hsilent
    rcases hsilent with htune | hcw
    . exact hns hon hthreshold (Or.inl htune)
    . change Mode.isCw d.txVfo.mode = true at hcw
      rw [hkept hon hthreshold] at hcw
      contradiction
  | micSample x => exact h.txAddMicSample x
  | set v => exact h.set hkept
  | idle => exact h.runIdle hkept

-- no event changes the threshold and the hang time
theorem step_vox_const (e : StationEvent)
    : (s.step e).vox.threshold = s.vox.threshold ∧ (s.step e).vox.hang = s.vox.hang := by
  cases e with
  | controlBytes enable device control1 =>
    change (s.inhibitInput _ _).vox.threshold = _ ∧ (s.inhibitInput _ _).vox.hang = _
    rw [inhibitInput_vox]
    exact ⟨rfl, rfl⟩
  | highPriority enable device byte59 =>
    change (s.inhibitInput _ _).vox.threshold = _ ∧ (s.inhibitInput _ _).vox.hang = _
    rw [inhibitInput_vox]
    exact ⟨rfl, rfl⟩
  | call c => exact call_vox_const c
  | dial d => exact ⟨rfl, rfl⟩
  | micSample x =>
    dsimp only [Station.step]
    unfold Station.txAddMicSample VoxEngine.cancel
    grind
  | set v =>
    have ⟨cfc, _, _, _, heq⟩ := set_eq (s := s) v
    dsimp only [Station.step]
    rw [heq]
    exact ⟨rfl, rfl⟩
  | idle =>
    dsimp only [Station.step]
    unfold Station.runIdle
    split
    next => exact ⟨rfl, rfl⟩
    next c idle hidle => exact call_vox_const c

def Below (threshold : ℚ) : StationEvent → Prop
  | .micSample x => |x| < threshold
  | _ => True

instance (threshold : ℚ) (e : StationEvent) : Decidable (Below threshold e) := by
  cases e <;> unfold Below <;> infer_instance

theorem not_loud {x : ℚ} (hx : |x| < s.vox.threshold)
    : ¬ s.sampledVox.threshold ≤ s.amplitude x := by
  rw [sampledVox_fields.2.1, not_le]
  unfold amplitude
  split
  . exact (abs_nonneg x).trans_lt hx
  . exact hx

theorem txAddMicSample_target {x : ℚ} (hx : |x| < s.vox.threshold)
    (hon : (s.txAddMicSample x).voxTarget ≠ 0)
    : s.voxTarget ≠ 0 := by
  have hquiet := not_loud hx
  have hoff := lastVox_setVox s.idle 0
  rw [txAddMicSample_eq] at hon
  unfold voxTarget at hon ⊢
  grind

-- without a sample above the threshold VOX is not switched on
theorem VoxTimed.target_step (h : s.VoxTimed) (e : StationEvent) (hkept : s.VoxKept e)
    (hbelow : Below s.vox.threshold e) (hon : (s.step e).voxTarget ≠ 0)
    : s.voxTarget ≠ 0 := by
  cases e with
  | controlBytes enable device control1 =>
    change (s.inhibitInput _ _).voxTarget ≠ 0 at hon
    rwa [inhibitInput_target] at hon
  | highPriority enable device byte59 =>
    change (s.inhibitInput _ _).voxTarget ≠ 0 at hon
    rwa [inhibitInput_target] at hon
  | call c => exact target_of_call hkept.2 (h.target_call hkept.1 hon).2
  | dial d => exact hon
  | micSample x => exact txAddMicSample_target hbelow hon
  | set v =>
    have ⟨cfc, _, _, _, heq⟩ := set_eq (s := s) v
    dsimp only [Station.step] at hon
    rwa [heq] at hon
  | idle =>
    dsimp only [Station.step] at hon
    unfold Station.runIdle at hon
    split at hon
    next => exact hon
    next c idle hidle =>
      unfold voxTarget
      rw [hidle]
      exact (h.target_call (hkept c idle hidle) hon).2

theorem VoxTimed.count_step (h : s.VoxTimed) (e : StationEvent)
    (hbelow : Below s.vox.threshold e) (hon : s.voxTarget ≠ 0)
    : (s.step e).vox.count + (if e.isMicSample then 1 else 0) ≤ s.vox.count := by
  cases e with
  | controlBytes enable device control1 =>
    change (s.inhibitInput _ _).vox.count ≤ _
    rw [inhibitInput_vox]
  | highPriority enable device byte59 =>
    change (s.inhibitInput _ _).vox.count ≤ _
    rw [inhibitInput_vox]
  | call c => exact call_vox_count_le
  | dial d => exact le_rfl
  | micSample x => exact ((h.countsDown hon).2 x hbelow).le
  | set v =>
    have ⟨cfc, _, _, _, heq⟩ := set_eq (s := s) v
    dsimp only [Station.step]
    rw [heq]
    rfl
  | idle =>
    dsimp only [Station.step]
    unfold Station.runIdle
    split
    next => exact le_rfl
    next c idle hidle => exact call_vox_count_le

-- once the amplitude stays below the threshold, as many samples as the hang counter says end VOX
theorem VoxTimed.voxTarget_exec (h : s.VoxTimed) {es : List StationEvent}
    (hkept : Run.Along Station.step VoxKept s es) (hbelow : ∀ e ∈ es, Below s.vox.threshold e)
    (hcount : s.voxTarget = 0 ∨ s.vox.count ≤ es.countP StationEvent.isMicSample)
    : (Run.exec Station.step s es).voxTarget = 0 := by
  induction es generalizing s with
  | nil =>
    rcases hcount with hoff | hcount
    . exact hoff
    . by_contra hon
      have := h.count_pos hon
      rw [List.countP_nil] at hcount
      omega
  | cons e es ih =>
    have hbelow' := hbelow e List.mem_cons_self
    apply ih (h.step e hkept.1) hkept.2
    . intro e' he'
      rw [(step_vox_const e).1]
      exact hbelow e' (List.mem_cons_of_mem _ he')
    . by_cases hafter : (s.step e).voxTarget = 0
      . exact Or.inl hafter
      . have hon := h.target_step e hkept.1 hbelow' hafter
        have hstep := h.count_step e hbelow' hon
        have hcount := hcount.resolve_left hon
        rw [List.countP_cons] at hcount
        exact Or.inr (by omega)

theorem receiving_voxTimed (hasTransmitter duplex : Bool) (receivers : Nat) (dial : Dial)
    (cfc enabled : Bool) (threshold hang : ℚ)
    : (receiving (.receiving hasTransmitter duplex receivers) dial cfc enabled threshold
        hang).VoxTimed where
  exclusive := ⟨Or.inl rfl, Or.inl rfl, Or.inl rfl⟩
  no_transmitter := fun _ => rfl
  count_le := Nat.zero_le _
  count_pos := fun hon => absurd rfl hon
  enabled := fun hon => absurd rfl hon
  not_silent := fun hon => absurd rfl hon

/--
In a run whose steps all keep VOX, VOX transmission always has a hang counter that counts down or a
VOX-off call waiting; and when in the last part of it the amplitude stays below the threshold for the
hang time, VOX is off as soon as the main loop has run the calls that wait.
-/
theorem vox_never_sticks (hasTransmitter duplex : Bool) (receivers : Nat) (dial : Dial)
    (cfc enabled : Bool) (threshold hang : ℚ) (es : List StationEvent)
    (hkept : Run.Along Station.step VoxKept
      (receiving (.receiving hasTransmitter duplex receivers) dial cfc enabled threshold hang) es)
    : let start := receiving (.receiving hasTransmitter duplex receivers) dial cfc enabled
        threshold hang
      (∀ pre, pre <+: es → (Run.exec Station.step start pre).VoxHeld) ∧
      ∀ pre post, pre ++ post = es → (∀ e ∈ post, Below threshold e) →
        start.vox.longestHang ≤ post.countP StationEvent.isMicSample →
        (Run.exec Station.step start es).idle = [] →
        (Run.exec Station.step start es).radio.vox = 0 := by
  intro start
  have hstart : start.VoxTimed := by apply receiving_voxTimed
  have hconst : ∀ pre, pre <+: es → (Run.exec Station.step start pre).VoxTimed ∧
      (Run.exec Station.step start pre).vox.threshold = threshold ∧
      (Run.exec Station.step start pre).vox.longestHang = start.vox.longestHang := by
    intro pre ⟨post, hpost⟩
    rw [← hpost, Run.along_append] at hkept
    apply Run.exec_invariant (I := fun s => s.VoxTimed ∧ s.vox.threshold = threshold ∧
      s.vox.longestHang = start.vox.longestHang) _ ⟨hstart, rfl, rfl⟩ hkept.1
    intro s e ⟨h, hthreshold, hlongest⟩ he
    have ⟨hthreshold', hhang'⟩ := step_vox_const (s := s) e
    refine ⟨h.step e he, hthreshold'.trans hthreshold, ?_⟩
    rw [← hlongest]
    unfold VoxEngine.longestHang
    rw [hhang']
  constructor
  . intro pre hpre
    exact (hconst pre hpre).1.voxHeld
  . intro pre post hes hbelow hlen hidle
    have ⟨h, hthreshold, hlongest⟩ := hconst pre ⟨post, hes⟩
    rw [← hes, Run.along_append] at hkept
    have hoff : (Run.exec Station.step (Run.exec Station.step start pre) post).voxTarget = 0 := by
      apply h.voxTarget_exec hkept.2
      . rwa [hthreshold]
      . have := h.count_le
        exact Or.inr (by omega)
    rw [← Run.exec_append, hes] at hoff
    unfold voxTarget at hoff
    rw [hidle] at hoff
    exact hoff

-- VOX fires and the main loop switches it on
theorem vox_never_sticks_fired
    : (Run.exec Station.step (on20m 14100000 true) [.micSample (1 / 2), .idle]).VoxHeld := by
  apply (vox_never_sticks true false 1 (on20m 14100000 true).dial false true (1 / 100) 250
    [.micSample (1 / 2), .idle] ⟨trivial, ?_, trivial⟩).1 _ List.prefix_rfl
  intro c idle hidle hcancel
  have hcall : (Station.step (on20m 14100000 true) (.micSample (1 / 2))).idle = [.setVox 1] := by
    decide +kernel
  change (Station.step (on20m 14100000 true) (.micSample (1 / 2))).idle = c :: idle at hidle
  rw [hcall] at hidle
  rw [← (List.cons.inj hidle).1] at hcancel
  contradiction

theorem vox_disabled_while_on
    : ¬ (Run.exec Station.step (on20m 14100000 true)
        [.micSample (1 / 2), .idle, .set .toggleVox]).VoxHeld := by
  intro h
  rcases h (Or.inl (by decide +kernel)) with ⟨_, hdown⟩ | hmem
  . have hstuck := hdown 0 (by decide +kernel)
    revert hstuck
    decide +kernel
  . revert hmem
    decide +kernel

end Station

end Transmit
