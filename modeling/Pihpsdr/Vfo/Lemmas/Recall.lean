import Pihpsdr.Vfo.Lemmas.Change

/-!
The recall of a memory slot: what it does to the VFOs, and when a VFO is left as it was.
-/

open ClientServer

-- the VFO with one of the two halves of a memory slot
def VfoState.loadSlot (v : VfoState) (bands : BandIndex → BandState) (b : BandIndex)
    (entry : BandstackEntry) : VfoState :=
  { v.loadEntry entry with
    band := b
    bandstack := (bands b).bandstack.currentEntry
    lo := (bands b).frequencyLo + (bands b).errorLo }

@[simp]
theorem VfoState.band_loadSlot (v : VfoState) (bands : BandIndex → BandState) (b : BandIndex)
    (entry : BandstackEntry) : (v.loadSlot bands b entry).band = b := rfl

@[simp]
theorem VfoState.mode_loadSlot (v : VfoState) (bands : BandIndex → BandState) (b : BandIndex)
    (entry : BandstackEntry) : (v.loadSlot bands b entry).mode = entry.mode := rfl

-- the settings of the mode come before the slot
def VfoState.recallMode (v : VfoState) (profile : Int → RxtxProfile) (load : Bool) (mode : Int)
    : VfoState :=
  if v.mode ≠ mode ∧ load then { v with mode := mode }.loadProfile (profile mode)
  else { v with mode := mode }

theorem VfoState.recallMode_of_eq {v : VfoState} {mode : Int} (h : v.mode = mode)
    (profile : Int → RxtxProfile) (load : Bool)
    : v.recallMode profile load mode = v := by
  subst h
  simp [recallMode]

namespace RadioState

variable (s : RadioState)

section

variable (id : Fin 2) (load : Bool) (b : BandIndex) (entry : BandstackEntry)

@[simp]
theorem toTuningState_recallVfo
    : (s.recallVfo id load b entry).toTuningState
        =
      s.toTuningState.setVfo id
        (((s.vfo id).recallMode s.profile load entry.mode).loadSlot s.bands b entry) := by
  simp [recallVfo, loadProfileIf_eq, VfoState.loadSlot, VfoState.recallMode]

theorem receiver_recallVfo_of_ne {id' : Fin 2} (h : id' ≠ id)
    : (s.recallVfo id load b entry).receiver id' = s.receiver id' := by
  simp [recallVfo, receiver_loadProfileIf_of_ne _ h]

@[simp]
theorem adc_recallVfo : (s.recallVfo id load b entry).adc = s.adc := by
  simp [recallVfo]

variable {id entry} in
theorem receiver_recallVfo_of_mode_eq (h : (s.vfo id).mode = entry.mode)
    : (s.recallVfo id load b entry).receiver = s.receiver := by
  simp [recallVfo, loadProfileIf, h]

end

def setSatMode (s : RadioState) (satMode : Int) : RadioState :=
  { s with satMode := satMode }

@[simp]
theorem toTuningState_setSatMode (satMode : Int)
    : (s.setSatMode satMode).toTuningState = { s.toTuningState with satMode := satMode } := rfl

theorem toTuningState_radioSetSplit (val : Int)
    : (s.radioSetSplit val).toTuningState
        =
      { s.toTuningState with split := if s.transmitter.isSome then val else s.split } := by
  unfold radioSetSplit
  split
  . rw [toTuningState_radioApplyBandSettings, toTuningState_radioTxVfoChanged]
  . rfl

@[simp]
theorem toPassband_radioSetSplit (val : Int) (id : Fin 2)
    : ((s.radioSetSplit val).receiver id).toPassband = (s.receiver id).toPassband := by
  unfold radioSetSplit
  split
  . rw [toPassband_radioApplyBandSettings, receiver_radioTxVfoChanged]
  . rfl

-- the part of a slot for each VFO in the satellite modes
def slotEntry (slot : Mem) (id : Fin 2) : BandstackEntry :=
  if id = 0 then memEntry slot else memAltEntry slot

def recallBoth (s : RadioState) (slot : Mem) (b : Fin 2 → BandIndex) : RadioState :=
  let s := s.recallVfo 0 true (b 0) (slotEntry slot 0)
  s.recallVfo 1 (s.config.receivers > 1) (b 1) (slotEntry slot 1)

def recallAny (s : RadioState) (slot : Mem) (b : Fin 2 → BandIndex) : RadioState :=
  if slot.satMode = satModeNone then
    s.recallVfo s.config.activeReceiver true (b 0) (slotEntry slot 0)
  else
    (s.recallBoth slot b).radioSetSplit slot.split

-- a recall with bands that exist
def recallSlot (s : RadioState) (slot : Mem) (b : Fin 2 → BandIndex) : RadioState :=
  (((s.setSatMode slot.satMode).recallAny slot b).setCtcss slot.ctcssEnabled
    slot.ctcss).vfoVfosChanged

theorem bandIndex?_val (b : BandIndex) : bandIndex? (b.val : Int) = some b := by
  have hb := b.isLt
  rw [bandIndex?, dif_pos ⟨by omega, by omega⟩]
  rfl

theorem recallMemorySlot_eq_of_none {index : Fin numMemories} {b : BandIndex}
    (hb : bandIndex? (s.mem index).bd = some b) (hsat : (s.mem index).satMode = satModeNone)
    : s.recallMemorySlot index = some (s.recallSlot (s.mem index) fun _ => b) := by
  dsimp only [recallMemorySlot, recallSlot, recallAny]
  rw [hb]
  simp only [if_pos hsat]
  rfl

theorem recallMemorySlot_eq {index : Fin numMemories} {b : Fin 2 → BandIndex}
    (hb : bandIndex? (s.mem index).bd = some (b 0))
    (haltB : bandIndex? (s.mem index).altBd = some (b 1))
    : s.recallMemorySlot index = some (s.recallSlot (s.mem index) b) := by
  dsimp only [recallMemorySlot, recallSlot, recallAny]
  rw [hb, haltB]
  by_cases hsat : (s.mem index).satMode = satModeNone
  . simp only [if_pos hsat]
    rfl
  . simp only [if_neg hsat]
    rfl

variable (slot : Mem) (b : Fin 2 → BandIndex)

@[simp]
theorem satMode_recallBoth : (s.recallBoth slot b).satMode = s.satMode := by
  simp [recallBoth]

@[simp]
theorem config_recallBoth : (s.recallBoth slot b).config = s.config := by
  simp [recallBoth]

@[simp]
theorem satMode_recallAny : (s.recallAny slot b).satMode = s.satMode := by
  unfold recallAny
  split
  . simp
  . simp [toTuningState_radioSetSplit]

@[simp]
theorem config_recallAny : (s.recallAny slot b).config = s.config := by
  unfold recallAny
  split
  . simp
  . simp [toTuningState_radioSetSplit]

theorem satMode_recallSlot : (s.recallSlot slot b).satMode = slot.satMode := by
  simp [recallSlot]

theorem vfo_recallSlot
    : (s.recallSlot slot b).vfo = ((s.setSatMode slot.satMode).recallAny slot b).settled := by
  rw [recallSlot, toTuningState_vfoVfosChanged]
  rfl

section

variable {slot} {id : Fin 2}

-- without a satellite mode, the other VFO only settles
theorem settled_recallAny_of_ne (hsat : slot.satMode = satModeNone)
    (h : id ≠ s.config.activeReceiver)
    : (s.recallAny slot b).settled id = s.settled id := by
  have hany : s.recallAny slot b
      = s.recallVfo s.config.activeReceiver true (b 0) (slotEntry slot 0) := if_pos hsat
  have hvfo : (s.recallAny slot b).vfo id = s.vfo id := by
    rw [hany, toTuningState_recallVfo, TuningState.vfo_setVfo, Function.update_of_ne h]
  rw [settled, hvfo]
  apply settle_congr
  . apply config_recallAny
  . rw [hany, receiver_recallVfo_of_ne _ _ _ _ _ h]

-- the transmitter may copy profiles before the second recall
variable (id slot) in
theorem vfo_recallBoth
    : ∃ profile load, (s.recallBoth slot b).vfo id
        =
      ((s.vfo id).recallMode profile load (slotEntry slot id).mode).loadSlot s.bands (b id)
        (slotEntry slot id) := by
  dsimp only [recallBoth]
  by_cases hid : id = 0
  . subst hid
    exists s.profile, true
    simp
  . have hid : id = 1 := by omega
    subst hid
    exists (s.recallVfo 0 true (b 0) (slotEntry slot 0)).profile,
      decide ((s.recallVfo 0 true (b 0) (slotEntry slot 0)).config.receivers > 1)
    simp

theorem toPassband_recallBoth (h : (s.vfo id).mode = (slotEntry slot id).mode)
    : ((s.recallBoth slot b).receiver id).toPassband = (s.receiver id).toPassband := by
  by_cases hid : id = 0
  . subst hid
    dsimp only [recallBoth]
    rw [receiver_recallVfo_of_ne, receiver_recallVfo_of_mode_eq _ _ _ h]
    decide
  . have hid : id = 1 := by omega
    subst hid
    dsimp only [recallBoth]
    rw [receiver_recallVfo_of_mode_eq, receiver_recallVfo_of_ne]
    . decide
    . rw [toTuningState_recallVfo]
      exact h

-- a VFO that is recalled and stays the same has had the mode before
theorem settled_recallAny_eq_iff (hsat : slot.satMode ≠ satModeNone)
    : (s.recallAny slot b).settled id = s.vfo id
        ↔
      s.settle id ((s.vfo id).loadSlot s.bands (b id) (slotEntry slot id)) = s.vfo id := by
  have hany : s.recallAny slot b = (s.recallBoth slot b).radioSetSplit slot.split := if_neg hsat
  have ⟨profile, load, hvfo⟩ := s.vfo_recallBoth slot b id
  have hsettled : (s.recallAny slot b).settled id
      = (s.recallBoth slot b).settle id (((s.vfo id).recallMode profile load
          (slotEntry slot id).mode).loadSlot s.bands (b id) (slotEntry slot id)) := by
    rw [hany, settled, toTuningState_radioSetSplit]
    dsimp only
    rw [hvfo]
    apply settle_congr
    . rw [toTuningState_radioSetSplit]
    . apply toPassband_radioSetSplit
  have hequal (h : (s.vfo id).mode = (slotEntry slot id).mode)
      : (s.recallAny slot b).settled id
        = s.settle id ((s.vfo id).loadSlot s.bands (b id) (slotEntry slot id)) := by
    rw [hsettled, VfoState.recallMode_of_eq h]
    apply settle_congr
    . apply config_recallBoth
    . apply toPassband_recallBoth s b h
  constructor
  . intro hsame
    have hmode := congrArg VfoState.mode hsame
    rw [hsettled, mode_settle, VfoState.mode_loadSlot] at hmode
    rw [← hequal hmode.symm, hsame]
  . intro hsame
    have hmode := congrArg VfoState.mode hsame
    rw [mode_settle, VfoState.mode_loadSlot] at hmode
    rw [hequal hmode.symm, hsame]

theorem vfo_recallSlot_of_ne (hsat : slot.satMode = satModeNone)
    (h : id ≠ s.config.activeReceiver)
    : (s.recallSlot slot b).vfo id = s.settled id := by
  rw [vfo_recallSlot]
  apply (s.setSatMode slot.satMode).settled_recallAny_of_ne b hsat h

theorem vfo_recallSlot_eq_iff (hsat : slot.satMode ≠ satModeNone)
    : (s.recallSlot slot b).vfo id = s.vfo id
        ↔
      s.settle id ((s.vfo id).loadSlot s.bands (b id) (slotEntry slot id)) = s.vfo id := by
  rw [vfo_recallSlot]
  apply (s.setSatMode slot.satMode).settled_recallAny_eq_iff b hsat

end

end RadioState
