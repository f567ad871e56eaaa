import Pihpsdr.Lib.Run
import Pihpsdr.Properties.Lemmas.Property
import Pihpsdr.Vfo.Impl.Memory
import Pihpsdr.Vfo.Lemmas.HearingChange

/-!
A memory slot that is stored and later recalled. The file has no split and duplex mode, so these are lost in
a restart. The VFO gets the LO frequency that its band has, and with CTUN the window may be moved for the
filter that the receiver still has.
-/

open ClientServer (Mem numMemories)
open Text Properties

theorem MemField.key_injective : Function.Injective MemField.key := by
  intro f g h
  cases f <;> cases g <;> first | rfl | (revert h; decide)

theorem mem_savedMemFields (f : MemField) : f ∈ savedMemFields := by
  cases f <;> decide

def memGroup : Properties.Group numMemories MemField where
  group := "mem"
  key := MemField.key
  group_ne_nil := by decide
  not_comment := by decide
  plain_group := by constructor <;> decide
  plain_key f := by cases f <;> constructor <;> decide
  key_injective := MemField.key_injective
  length_le i f := by
    revert i
    cases f <;> decide

-- a slot whose fields have the range of their types
def SlotInTypes (slot : Mem) : Prop :=
  ∀ f : MemField, -2 ^ (f.bits - 1) ≤ f.value slot ∧ f.value slot < 2 ^ (f.bits - 1)

theorem MemField.bits_eq (f : MemField) : f.bits = 32 ∨ f.bits = 64 := by
  cases f <;> simp [bits]

theorem memValue_saved {props : Properties} (hprops : WellFormed props)
    {mem : Fin numMemories → Mem} {index : Fin numMemories} (h : SlotInTypes (mem index))
    (f : MemField)
    : memValue (loadProperties (saveProperties (memSaveState mem props))) index f
        =
      f.value (mem index) := by
  have hget : getInt (loadProperties (saveProperties (memSaveState mem props)))
      (memName index f.key) = some (longLong (f.value (mem index))) :=
    memGroup.getInt_saved savedMemFields (fun index f => f.value (mem index)) hprops index
      (mem_savedMemFields f)
  obtain ⟨hlo, hhi⟩ := h f
  rw [memValue, hget]
  dsimp only
  cases f.bits_eq with
  | inl hbits =>
    rw [hbits] at hlo hhi ⊢
    rw [longLong_eq (by omega) (by omega), BitVec.toInt_ofInt]
    apply Int.bmod_eq_of_le <;> omega
  | inr hbits =>
    rw [hbits] at hlo hhi ⊢
    rw [longLong_eq (by omega) (by omega), BitVec.toInt_ofInt]
    apply Int.bmod_eq_of_le <;> omega

-- what a restart leaves of a slot
def forgotten (slot : Mem) : Mem :=
  { slot with split := 0, duplex := 0 }

theorem memRestoreState_saved {props : Properties} (hprops : WellFormed props)
    {mem : Fin numMemories → Mem} {index : Fin numMemories} (h : SlotInTypes (mem index))
    : memRestoreState startMem (loadProperties (saveProperties (memSaveState mem props))) index
        =
      forgotten (mem index) := by
  have hvalue := memValue_saved hprops h
  unfold memRestoreState forgotten
  simp only [hvalue]
  rfl

theorem slotInTypes_forgotten {slot : Mem} (h : SlotInTypes slot) : SlotInTypes (forgotten slot) := by
  intro f
  have hf := h f
  cases f <;> exact hf

namespace MemoryRadio

-- what happens between storing and recalling
inductive Event where
  | change (r : MemoryRadio)
  | restart (r : MemoryRadio) (props : Properties)

def Event.IsRestart : Event → Prop
  | .change _ => False
  | .restart _ _ => True

-- what else has been saved makes lines of the file
def Event.Saves : Event → Prop
  | .change _ => True
  | .restart _ props => WellFormed props

-- everything but the slot may change
def step (index : Fin numMemories) (s : MemoryRadio) : Event → MemoryRadio
  | .change r => { r with mem := Function.update r.mem index (s.mem index) }
  | .restart r props => s.restart r props

def Restarted (events : List Event) : Prop :=
  ∃ e ∈ events, e.IsRestart

theorem mem_exec {index : Fin numMemories} {events : List Event} (hevents : ∀ e ∈ events, e.Saves)
    {s : MemoryRadio} (h : SlotInTypes (s.mem index))
    : (¬ Restarted events → (Run.exec (step index) s events).mem index = s.mem index)
      ∧ (Restarted events → (Run.exec (step index) s events).mem index = forgotten (s.mem index)) := by
  induction events generalizing s with
  | nil =>
    constructor
    . intro _
      rfl
    . intro ⟨e, he, _⟩
      contradiction
  | cons e events ih =>
    have hrest : ∀ e ∈ events, e.Saves := fun e he => hevents e (List.mem_cons_of_mem _ he)
    cases e with
    | change r =>
      have hmem : (step index s (.change r)).mem index = s.mem index := Function.update_self ..
      have hiff : Restarted (.change r :: events) ↔ Restarted events := by
        simp [Restarted, Event.IsRestart]
      have hind := ih hrest (s := step index s (.change r)) (by rwa [hmem])
      rw [hmem] at hind
      rw [Run.exec_cons, hiff]
      exact hind
    | restart r props =>
      have hprops : WellFormed props := hevents _ List.mem_cons_self
      have hmem : (step index s (.restart r props)).mem index = forgotten (s.mem index) :=
        memRestoreState_saved hprops h
      have hrestarted : Restarted (.restart r props :: events) :=
        ⟨_, List.mem_cons_self, trivial⟩
      have hind := ih hrest (s := step index s (.restart r props))
        (by rw [hmem]; exact slotInTypes_forgotten h)
      rw [hmem] at hind
      rw [Run.exec_cons]
      refine ⟨fun hnot => absurd hrestarted hnot, fun _ => ?_⟩
      by_cases hagain : Restarted events
      . exact hind.2 hagain
      . exact hind.1 hagain

end MemoryRadio

/--
The VFO `w` has what a memory slot keeps of the VFO `v`.
-/
structure Restored (v w : VfoState) : Prop where
  frequency : w.frequency = v.frequency
  ctun : w.ctun = v.ctun
  ctunFrequency : w.ctunFrequency = v.ctunFrequency
  mode : w.mode = v.mode
  filter : w.filter = v.filter
  deviation : w.deviation = v.deviation
  band : w.band = v.band
  lo : w.lo = v.lo

-- the window of a VFO with CTUN holds the filter `p` of its receiver
def VfoState.KeepsWindow (v : VfoState) (p : Passband) (rate : Int) : Prop :=
  v.ctun ≠ 0 → v.ctunFrequency ≠ v.frequency → (v.hearing p rate).InWindow p v.frequency

theorem frequency_frequencyChanged_eq_iff (v : VfoState) (p : Passband) (rate : Int)
    : (v.frequencyChanged p rate).frequency = v.frequency ↔ v.KeepsWindow p rate := by
  unfold VfoState.frequencyChanged VfoState.KeepsWindow Hearing.InWindow VfoState.hearing
  dsimp only
  by_cases hctun : v.ctun = 0
  . simp [hctun]
  . rw [if_pos hctun]
    dsimp only
    split <;> omega

namespace RadioState

variable (s : RadioState)

theorem frequency_settle_eq_iff (id : Fin 2) (v : VfoState)
    : (s.settle id v).frequency = v.frequency
        ↔
      (id = 0 ∨ s.config.receivers = 2 →
        v.KeepsWindow (s.receiver id).toPassband (s.config.sampleRate id)) := by
  unfold settle
  split
  next h => rw [frequency_frequencyChanged_eq_iff, forall_prop_of_true h]
  next h => rw [forall_prop_of_false h, iff_true]

-- only the window moves
theorem settle_eq (id : Fin 2) (v : VfoState)
    : s.settle id v
        =
      { v with frequency := (s.settle id v).frequency, offset := (s.settle id v).offset } := by
  unfold settle VfoState.frequencyChanged
  dsimp only
  split
  . split <;> rfl
  . rfl

-- a VFO that has been loaded with the settings of `v` settles
theorem restored_settle_iff (id : Fin 2) (u v : VfoState) (bands : BandIndex → BandState)
    (e c : Int)
    : Restored v (s.settle id (u.loadSlot bands v.band (v.saveEntry e c)))
        ↔
      v.lo = (bands v.band).lo
        ∧ (id = 0 ∨ s.config.receivers = 2 →
          v.KeepsWindow (s.receiver id).toPassband (s.config.sampleRate id)) := by
  have hfrequency : (s.settle id (u.loadSlot bands v.band (v.saveEntry e c))).frequency = v.frequency
      ↔ (id = 0 ∨ s.config.receivers = 2 →
        v.KeepsWindow (s.receiver id).toPassband (s.config.sampleRate id)) :=
    s.frequency_settle_eq_iff id (u.loadSlot bands v.band (v.saveEntry e c))
  rw [← hfrequency, settle_eq]
  constructor
  . intro h
    exact ⟨h.lo.symm, h.frequency⟩
  . intro ⟨hlo, hsame⟩
    exact ⟨hsame, rfl, rfl, rfl, rfl, rfl, rfl, hlo.symm⟩

/--
The window of the VFO `v` when it comes to the receiver `id`, which still has its filter, or that of the
new mode if the mode changes.
-/
def WindowIn (s : RadioState) (id : Fin 2) (profile : Int → RxtxProfile) (v : VfoState) : Prop :=
  id = 0 ∨ s.config.receivers = 2 →
    v.KeepsWindow (s.recallFilter id profile (v.saveEntry 0 0)) (s.config.sampleRate id)

variable {s} {slot : Mem} {b : Fin 2 → BandIndex} {v : VfoState} {e c : Int}

theorem restored_recallSlot_iff_of_none (hsat : slot.satMode = satModeNone)
    (hentry : slotEntry slot 0 = v.saveEntry e c) (hb : b 0 = v.band)
    : Restored v ((s.recallSlot slot b).vfo s.config.activeReceiver)
        ↔
      v.lo = (s.bands v.band).lo ∧ s.WindowIn s.config.activeReceiver s.profile v := by
  have hany : (s.setSatMode slot.satMode).recallAny slot b
      = (s.setSatMode slot.satMode).recallVfo s.config.activeReceiver true v.band
        (v.saveEntry e c) := by
    rw [← hentry, ← hb]
    exact if_pos hsat
  have hvfo := congrArg (fun t => t.vfo s.config.activeReceiver)
    ((s.setSatMode slot.satMode).toTuningState_recallVfo s.config.activeReceiver true v.band
      (v.saveEntry e c))
  rw [TuningState.vfo_setVfo, Function.update_self] at hvfo
  rw [vfo_recallSlot, hany, settled, hvfo, restored_settle_iff, toPassband_recallVfo,
    config_recallVfo]
  exact Iff.rfl

theorem toPassband_recallBoth_zero
    : ((s.recallBoth slot b).receiver 0).toPassband
        =
      s.recallFilter 0 s.profile (slotEntry slot 0) := by
  dsimp only [recallBoth]
  rw [receiver_recallVfo_of_ne _ _ _ _ _ (by decide), toPassband_recallVfo]

theorem toPassband_recallBoth_one (h : s.config.receivers = 2)
    : ((s.recallBoth slot b).receiver 1).toPassband
        =
      s.recallFilter 1 (s.recalledProfile (slotEntry slot 0)) (slotEntry slot 1) := by
  have hload : decide ((s.recallVfo 0 true (b 0) (slotEntry slot 0)).config.receivers > 1) = true := by
    rw [config_recallVfo, h]
    decide
  dsimp only [recallBoth]
  rw [hload, toPassband_recallVfo, profile_recallVfo]
  apply recallFilter_congr
  . apply config_recallVfo
  . rw [receiver_recallVfo_of_ne _ _ _ _ _ (by decide)]
  . rw [toTuningState_recallVfo, TuningState.vfo_setVfo, Function.update_of_ne (by decide)]

-- the settings of the modes when the VFO `id` is recalled
def satProfile (s : RadioState) (id : Fin 2) (slot : Mem) : Int → RxtxProfile :=
  if id = 0 then s.profile else (s.setSatMode slot.satMode).recalledProfile (slotEntry slot 0)

theorem toPassband_recallBoth_eq {id : Fin 2} (h : id = 0 ∨ s.config.receivers = 2)
    : (((s.setSatMode slot.satMode).recallBoth slot b).receiver id).toPassband
        =
      (s.setSatMode slot.satMode).recallFilter id (s.satProfile id slot) (slotEntry slot id) := by
  unfold satProfile
  by_cases hid : id = 0
  . subst hid
    rw [if_pos rfl, toPassband_recallBoth_zero]
    rfl
  . have hone : id = 1 := by omega
    subst hone
    rw [if_neg hid]
    exact toPassband_recallBoth_one (s := s.setSatMode slot.satMode) (h.resolve_left hid)

theorem restored_recallSlot_iff {id : Fin 2} (hsat : slot.satMode ≠ satModeNone)
    (hentry : slotEntry slot id = v.saveEntry e c) (hb : b id = v.band)
    : Restored v ((s.recallSlot slot b).vfo id)
        ↔
      v.lo = (s.bands v.band).lo ∧ s.WindowIn id (s.satProfile id slot) v := by
  have hany : (s.setSatMode slot.satMode).recallAny slot b
      = ((s.setSatMode slot.satMode).recallBoth slot b).radioSetSplit slot.split := if_neg hsat
  obtain ⟨profile, load, hvfo⟩ := (s.setSatMode slot.satMode).vfo_recallBoth slot b id
  rw [hentry, hb] at hvfo
  have hsplit : (((s.setSatMode slot.satMode).recallBoth slot b).radioSetSplit slot.split).vfo id
      = ((s.setSatMode slot.satMode).recallBoth slot b).vfo id := by
    rw [toTuningState_radioSetSplit]
  have hconfig : (((s.setSatMode slot.satMode).recallBoth slot b).radioSetSplit slot.split).config
      = s.config := by
    rw [toTuningState_radioSetSplit]
    apply config_recallBoth
  rw [vfo_recallSlot, hany, settled, hsplit, hvfo, restored_settle_iff, hconfig,
    toPassband_radioSetSplit]
  apply and_congr Iff.rfl
  apply forall_congr'
  intro h
  rw [toPassband_recallBoth_eq h, hentry]
  exact Iff.rfl

section

variable (s : RadioState)

@[simp]
theorem transmitter_storeWithBand (id : Fin 2) (store : BandState → BandState)
    : (s.storeWithBand id store).transmitter = s.transmitter := by
  unfold storeWithBand
  split <;> rfl

@[simp]
theorem transmitter_setReceiverIfRunning (id : Fin 2) (set : ReceiverState → ReceiverState)
    : (s.setReceiverIfRunning id set).transmitter = s.transmitter := by
  unfold setReceiverIfRunning
  split <;> rfl

theorem transmitter_applyLevels (id : Fin 2) (rxband : BandState)
    : (s.applyLevels id rxband).transmitter = s.transmitter := by
  unfold applyLevels radioSetC25Att radioSetAttenuation radioSetRfGain
  grind [transmitter_storeWithBand]

theorem transmitter_radioSetAgcGain (id : Fin 2) (value : ℚ)
    : (s.radioSetAgcGain id value).transmitter = s.transmitter := by
  dsimp only [radioSetAgcGain]
  split
  . rfl
  . split
    . apply transmitter_storeWithBand
    . rfl

theorem transmitter_applyDisplay (id : Fin 2) (rxband : BandState)
    : (s.applyDisplay id rxband).transmitter = s.transmitter := by
  have hpan : (((s.radioSetPanhigh id rxband.panhigh).radioSetPanlow id rxband.panlow).radioSetPanstep
      id rxband.panstep).transmitter = s.transmitter := by
    unfold radioSetPanhigh radioSetPanlow radioSetPanstep
    simp only [transmitter_storeWithBand, transmitter_setReceiverIfRunning]
  rw [applyDisplay]
  split
  . rw [transmitter_radioSetAgcGain, hpan]
  . exact hpan

@[simp]
theorem isSome_transmitter_radioApplyBandSettings (flag : Bool) (id : Fin 2)
    : (s.radioApplyBandSettings flag id).transmitter.isSome = s.transmitter.isSome := by
  have hantennas (rxadc : Fin 3) (rxband : BandState)
      : (s.applyAntennas flag rxadc rxband).transmitter.isSome = s.transmitter.isSome := by
    unfold applyAntennas
    split
    . rfl
    . simp
  dsimp only [radioApplyBandSettings]
  split
  . rw [transmitter_applyDisplay, transmitter_applyLevels, hantennas]
  . apply hantennas

@[simp]
theorem isSome_transmitter_radioSetSplit (val : Int)
    : (s.radioSetSplit val).transmitter.isSome = s.transmitter.isSome := by
  unfold radioSetSplit radioTxVfoChanged
  split
  . simp
  . rfl

@[simp]
theorem isSome_transmitter_vfoVfosChanged
    : s.vfoVfosChanged.transmitter.isSome = s.transmitter.isSome := by
  have hvfo (s : RadioState) (id : Fin 2)
      : (s.rxVfoChanged id).transmitter.isSome = s.transmitter.isSome := by
    unfold rxVfoChanged rxModeChanged
    rw [isSome_transmitter_rxFilterChanged]
    rfl
  have hfirst : (((s.rxVfoChanged 0).radioTxVfoChanged).radioApplyBandSettings true 0).transmitter.isSome
      = s.transmitter.isSome := by
    simp [radioTxVfoChanged, hvfo]
  unfold vfoVfosChanged
  generalize ((s.rxVfoChanged 0).radioTxVfoChanged).radioApplyBandSettings true 0 = s' at hfirst ⊢
  dsimp only
  split
  . rw [isSome_transmitter_radioApplyBandSettings, hvfo, hfirst]
  . exact hfirst

theorem isSome_transmitter_recallSlot (slot : Mem) (b : Fin 2 → BandIndex)
    : (s.recallSlot slot b).transmitter.isSome = s.transmitter.isSome := by
  have hctcss (s : RadioState) (enabled ctcss : Int)
      : (s.setCtcss enabled ctcss).transmitter.isSome = s.transmitter.isSome := by
    unfold setCtcss
    simp
  rw [recallSlot, isSome_transmitter_vfoVfosChanged, hctcss, recallAny]
  split
  . rw [isSome_transmitter_recallVfo]
    rfl
  . rw [isSome_transmitter_radioSetSplit, recallBoth, isSome_transmitter_recallVfo,
      isSome_transmitter_recallVfo]
    rfl

theorem split_recallSlot {slot : Mem} (hsat : slot.satMode ≠ satModeNone) (b : Fin 2 → BandIndex)
    : (s.recallSlot slot b).split = if s.transmitter.isSome then slot.split else s.split := by
  have hboth : ((s.setSatMode slot.satMode).recallBoth slot b).transmitter.isSome
      = s.transmitter.isSome := by
    rw [recallBoth, isSome_transmitter_recallVfo, isSome_transmitter_recallVfo]
    rfl
  have hsplit : ((s.setSatMode slot.satMode).recallBoth slot b).split = s.split := by
    dsimp only [recallBoth]
    rw [toTuningState_recallVfo, toTuningState_recallVfo]
    rfl
  have hctcss (s : RadioState) (enabled ctcss : Int)
      : (s.setCtcss enabled ctcss).split = s.split := rfl
  rw [recallSlot, (onlyVfo_vfoVfosChanged _).split, hctcss, recallAny, if_neg hsat,
    toTuningState_radioSetSplit]
  dsimp only
  rw [hboth, hsplit]

theorem config_recallSlot (slot : Mem) (b : Fin 2 → BandIndex)
    : (s.recallSlot slot b).config = s.config := by
  have hctcss (s : RadioState) (enabled ctcss : Int)
      : (s.setCtcss enabled ctcss).config = s.config := rfl
  rw [recallSlot, (onlyVfo_vfoVfosChanged _).config, hctcss, config_recallAny]
  rfl

end

end RadioState

namespace MemoryRadio

variable {s : MemoryRadio}

/--
The slot holds the VFOs of `s`: that of the active receiver, or both of them in the satellite modes.
-/
structure SlotOf (s : MemoryRadio) (slot : Mem) : Prop where
  satMode : slot.satMode = s.satMode
  active : s.satMode = satModeNone →
    RadioState.slotEntry slot 0
      = (s.vfo s.config.activeReceiver).saveEntry slot.ctcssEnabled slot.ctcss
  bd : slot.bd
    = (if s.satMode = satModeNone then s.vfo s.config.activeReceiver else s.vfo 0).band.val
  both : s.satMode ≠ satModeNone → ∀ id,
    RadioState.slotEntry slot id = (s.vfo id).saveEntry slot.ctcssEnabled slot.ctcss
  altBd : s.satMode ≠ satModeNone → slot.altBd = (s.vfo 1).band.val

-- the two halves of a slot that both VFOs have been stored in
theorem slotEntry_storeVfos (slot : Mem) (v : Fin 2 → VfoState) (e c : Int) (id : Fin 2)
    : RadioState.slotEntry
          { storeAltVfo (storeVfo slot (v 0)) (v 1) with ctcssEnabled := e, ctcss := c } id
        =
      (v id).saveEntry e c := by
  by_cases hid : id = 0
  . subst hid
    rfl
  . have hone : id = 1 := by omega
    subst hone
    rfl

theorem slotOf_storedSlot (s : MemoryRadio) (slot : Mem) : SlotOf s (s.storedSlot slot) := by
  have hctcss : ∃ e c, s.storedSlot slot =
      { (if s.satMode = satModeNone then
          storeVfo { slot with satMode := s.satMode, split := s.split, duplex := s.duplex }
            (s.vfo s.config.activeReceiver)
        else
          storeAltVfo (storeVfo
            { slot with satMode := s.satMode, split := s.split, duplex := s.duplex } (s.vfo 0))
            (s.vfo 1)) with ctcssEnabled := e, ctcss := c } := by
    unfold storedSlot
    cases s.transmitter
    . exact ⟨_, _, rfl⟩
    . exact ⟨_, _, rfl⟩
  obtain ⟨e, c, hctcss⟩ := hctcss
  rw [hctcss]
  by_cases hsat : s.satMode = satModeNone
  . simp only [if_pos hsat]
    constructor
    . rfl
    . intro _
      rfl
    . rw [if_pos hsat]
      rfl
    . intro hnot
      contradiction
    . intro hnot
      contradiction
  . simp only [if_neg hsat]
    constructor
    . rfl
    . intro hnone
      contradiction
    . rw [if_neg hsat]
      rfl
    . intro _ id
      exact slotEntry_storeVfos _ s.vfo e c id
    . intro _
      rfl

theorem SlotOf.forgotten {slot : Mem} (h : SlotOf s slot) : SlotOf s (forgotten slot) where
  satMode := h.satMode
  active := h.active
  bd := h.bd
  both := h.both
  altBd := h.altBd

theorem split_storedSlot (s : MemoryRadio) (slot : Mem)
    : (s.storedSlot slot).split = s.split ∧ (s.storedSlot slot).duplex = s.duplex := by
  unfold storedSlot
  cases s.transmitter <;> dsimp only <;> split <;> exact ⟨rfl, rfl⟩

-- the VFOs that a slot of `s` is for, when it is stored and when it is recalled in `r`
def halves (s r : MemoryRadio) : List (Fin 2 × Fin 2) :=
  if s.satMode = satModeNone then [(s.config.activeReceiver, r.config.activeReceiver)]
  else [(0, 0), (1, 1)]

/--
What has been stored in `s` is back in `r`; without a transmitter, split and duplex are not recalled, and
duplex is not while the radio transmits.
-/
structure Restores (s r : MemoryRadio) : Prop where
  satMode : r.satMode = s.satMode
  vfo : ∀ p ∈ halves s r, Restored (s.vfo p.1) (r.vfo p.2)
  split : s.satMode ≠ satModeNone → r.transmitter.isSome → r.split = s.split
  duplex : s.satMode ≠ satModeNone → r.transmitter.isSome → ¬ r.transmitting → r.duplex = s.duplex

-- the settings of the modes when the VFO `id` is recalled
def recallProfile (s r : MemoryRadio) (id : Fin 2) : Int → RxtxProfile :=
  if s.satMode = satModeNone ∨ id = 0 then
    r.profile
  else
    (r.toRadioState.setSatMode s.satMode).recalledProfile ((s.vfo 0).saveEntry 0 0)

theorem radioSetDuplex_keeps (s : MemoryRadio) (state : Int)
    : (s.radioSetDuplex state).toRadioState = s.toRadioState
      ∧ (s.radioSetDuplex state).transmitting = s.transmitting := by
  unfold radioSetDuplex
  split <;> exact ⟨rfl, rfl⟩

theorem foldl_radioSetDuplex_keeps (calls : List Int) (s : MemoryRadio)
    : (calls.foldl radioSetDuplex s).toRadioState = s.toRadioState
      ∧ (calls.foldl radioSetDuplex s).transmitting = s.transmitting := by
  induction calls generalizing s with
  | nil => exact ⟨rfl, rfl⟩
  | cons call calls ih =>
    have hcall := s.radioSetDuplex_keeps call
    have hrest := ih (s.radioSetDuplex call)
    rw [hcall.1, hcall.2] at hrest
    exact hrest

theorem duplex_radioSetDuplex (h : s.transmitter.isSome) (state : Int)
    : (s.radioSetDuplex state).duplex = state := by
  have hsome : ¬ s.transmitter.isNone := by
    rw [Option.isNone_iff_eq_none]
    intro hnone
    rw [hnone] at h
    contradiction
  unfold radioSetDuplex
  split
  next hkeep => exact (hkeep.resolve_left hsome).symm
  next => rfl

-- of the calls that wait, the last one decides
theorem duplex_runCalls (h : s.transmitter.isSome) {calls : List Int} {state : Int}
    (hcalls : s.duplexCalls = calls ++ [state])
    : s.runCalls.duplex = state := by
  have hkeeps := (foldl_radioSetDuplex_keeps calls s).1
  unfold runCalls
  dsimp only
  rw [hcalls, List.foldl_append]
  apply duplex_radioSetDuplex
  rw [hkeeps]
  exact h

variable {r : MemoryRadio} {index : Fin numMemories} {slot : Mem}

-- the recall with the bands of the slot, and when it brings the VFOs back
theorem exists_recallMemorySlot (hmem : r.mem index = slot) (h : SlotOf s slot)
    : ∃ b, r.toRadioState.recallMemorySlot index = some (r.toRadioState.recallSlot slot b)
        ∧ ∀ p ∈ halves s r, Restored (s.vfo p.1) ((r.toRadioState.recallSlot slot b).vfo p.2)
          ↔
        (s.vfo p.1).lo = (r.bands (s.vfo p.1).band).lo
          ∧ r.WindowIn p.2 (recallProfile s r p.2) (s.vfo p.1) := by
  have hbd := h.bd
  unfold halves recallProfile
  by_cases hsat : s.satMode = satModeNone
  . have hslot : slot.satMode = satModeNone := h.satMode.trans hsat
    rw [if_pos hsat] at hbd
    refine ⟨fun _ => (s.vfo s.config.activeReceiver).band, ?_, ?_⟩
    . rw [← hmem]
      apply r.toRadioState.recallMemorySlot_eq_of_none
      . rw [hmem, hbd, RadioState.bandIndex?_val]
      . rw [hmem, hslot]
    . intro p hp
      rw [if_pos hsat, List.mem_singleton] at hp
      subst hp
      rw [if_pos (.inl hsat)]
      apply RadioState.restored_recallSlot_iff_of_none (v := s.vfo s.config.activeReceiver) hslot
      . exact h.active hsat
      . rfl
  . have hslot : slot.satMode ≠ satModeNone := by
      rw [h.satMode]
      exact hsat
    rw [if_neg hsat] at hbd
    refine ⟨fun id => (s.vfo id).band, ?_, ?_⟩
    . rw [← hmem]
      apply r.toRadioState.recallMemorySlot_eq
      . rw [hmem, hbd, RadioState.bandIndex?_val]
      . rw [hmem, h.altBd hsat, RadioState.bandIndex?_val]
    . have hid (id : Fin 2)
          : Restored (s.vfo id) ((r.toRadioState.recallSlot slot fun id => (s.vfo id).band).vfo id)
              ↔
            (s.vfo id).lo = (r.bands (s.vfo id).band).lo
              ∧ r.WindowIn id (if s.satMode = satModeNone ∨ id = 0 then r.profile
                else (r.toRadioState.setSatMode s.satMode).recalledProfile
                  ((s.vfo 0).saveEntry 0 0)) (s.vfo id) := by
        have hprofile : r.toRadioState.satProfile id slot
            = if s.satMode = satModeNone ∨ id = 0 then r.profile
              else (r.toRadioState.setSatMode s.satMode).recalledProfile
                ((s.vfo 0).saveEntry 0 0) := by
          rw [RadioState.satProfile, h.both hsat 0, h.satMode]
          simp only [hsat, false_or]
          rfl
        rw [← hprofile]
        apply RadioState.restored_recallSlot_iff (v := s.vfo id) hslot
        . exact h.both hsat id
        . rfl
      intro p hp
      rw [if_neg hsat, List.mem_cons, List.mem_singleton] at hp
      obtain rfl | rfl := hp
      . dsimp only
        exact hid 0
      . dsimp only
        exact hid 1

/--
When the recall in `r` brings back what has been stored in `s`: the VFOs have the LO frequencies of their
bands, no window is moved, and no split or duplex mode was to be kept in the file.
-/
structure RestoresWhen (s r : MemoryRadio) (restarted : Prop) : Prop where
  lo : ∀ p ∈ halves s r, (s.vfo p.1).lo = (r.bands (s.vfo p.1).band).lo
  window : ∀ p ∈ halves s r, r.WindowIn p.2 (recallProfile s r p.2) (s.vfo p.1)
  split : restarted → s.satMode ≠ satModeNone → r.transmitter.isSome → s.split = 0
  duplex : restarted → s.satMode ≠ satModeNone → r.transmitter.isSome → ¬ r.transmitting →
    s.duplex = 0

-- what the recall of `slot` and the calls in the main loop do
structure Recalls (s r : MemoryRadio) (slot : Mem) (r' : MemoryRadio) : Prop where
  halves : MemoryRadio.halves s r' = MemoryRadio.halves s r
  isSome_transmitter : r'.transmitter.isSome = r.transmitter.isSome
  transmitting : r'.transmitting = r.transmitting
  satMode : r'.satMode = s.satMode
  vfo : ∀ p ∈ MemoryRadio.halves s r, Restored (s.vfo p.1) (r'.vfo p.2)
    ↔
      (s.vfo p.1).lo = (r.bands (s.vfo p.1).band).lo
        ∧ r.WindowIn p.2 (recallProfile s r p.2) (s.vfo p.1)
  split : s.satMode ≠ satModeNone → r.transmitter.isSome → r'.split = slot.split
  duplex : s.satMode ≠ satModeNone → r.transmitter.isSome → ¬ r.transmitting →
    r'.duplex = slot.duplex

theorem recalls_runCalls (h : SlotOf s slot) {b : Fin 2 → BandIndex}
    (hvfo : ∀ p ∈ halves s r, Restored (s.vfo p.1) ((r.toRadioState.recallSlot slot b).vfo p.2)
      ↔
        (s.vfo p.1).lo = (r.bands (s.vfo p.1).band).lo
          ∧ r.WindowIn p.2 (recallProfile s r p.2) (s.vfo p.1))
    {r' : MemoryRadio} (hradio : r'.toRadioState = r.toRadioState.recallSlot slot b)
    (htransmitting : r'.transmitting = r.transmitting)
    (hcalls : slot.satMode ≠ satModeNone → ¬ r.transmitting →
      r'.duplexCalls = r.duplexCalls ++ [slot.duplex])
    : Recalls s r slot r'.runCalls := by
  have hkeeps := foldl_radioSetDuplex_keeps r'.duplexCalls r'
  have hradio' : r'.runCalls.toRadioState = r.toRadioState.recallSlot slot b :=
    hkeeps.1.trans hradio
  have hslot (hs : s.satMode ≠ satModeNone) : slot.satMode ≠ satModeNone := by
    rw [h.satMode]
    exact hs
  constructor
  . unfold MemoryRadio.halves
    rw [hradio', RadioState.config_recallSlot]
  . rw [hradio', RadioState.isSome_transmitter_recallSlot]
  . exact hkeeps.2.trans htransmitting
  . rw [hradio', RadioState.satMode_recallSlot, h.satMode]
  . intro p hp
    rw [hradio', hvfo p hp]
  . intro hs ht
    rw [hradio', RadioState.split_recallSlot _ (hslot hs), if_pos ht]
  . intro hs ht hrx
    apply duplex_runCalls
    . rw [hradio, RadioState.isSome_transmitter_recallSlot, ht]
    . exact hcalls (hslot hs) hrx

theorem exists_recalls (hmem : r.mem index = slot) (h : SlotOf s slot)
    : ∃ r', r.recallMemorySlot index = some r' ∧ Recalls s r slot r'.runCalls := by
  obtain ⟨b, hrecall, hvfo⟩ := exists_recallMemorySlot hmem h
  generalize hrecalled : r.toRadioState.recallSlot slot b = recalled at hrecall
  have hsome : r.recallMemorySlot index = some
      (MemoryRadio.mk recalled r.duplex r.transmitting
        (if slot.satMode ≠ satModeNone ∧ ¬ r.transmitting then r.duplexCalls ++ [slot.duplex]
          else r.duplexCalls)) := by
    dsimp only [recallMemorySlot]
    rw [hrecall, hmem]
    rfl
  refine ⟨_, hsome, ?_⟩
  apply recalls_runCalls h hvfo
  . exact hrecalled.symm
  . rfl
  . intro hs hrx
    exact if_pos ⟨hs, hrx⟩

theorem restores_recall_iff (hmem : r.mem index = slot) (h : SlotOf s slot)
    : (∃ r', r.recallMemorySlot index = some r' ∧ Restores s r'.runCalls)
        ↔
      (∀ p ∈ halves s r, (s.vfo p.1).lo = (r.bands (s.vfo p.1).band).lo
          ∧ r.WindowIn p.2 (recallProfile s r p.2) (s.vfo p.1))
        ∧ (s.satMode ≠ satModeNone → r.transmitter.isSome → slot.split = s.split)
        ∧ (s.satMode ≠ satModeNone → r.transmitter.isSome → ¬ r.transmitting →
          slot.duplex = s.duplex) := by
  obtain ⟨r', hsome, hrecalls⟩ := exists_recalls hmem h
  constructor
  . intro ⟨r₁, hr₁, hrestores⟩
    rw [hsome, Option.some.injEq] at hr₁
    subst hr₁
    refine ⟨?_, ?_, ?_⟩
    . intro p hp
      rw [← hrecalls.vfo p hp]
      apply hrestores.vfo
      rw [hrecalls.halves]
      exact hp
    . intro hs ht
      rw [← hrecalls.split hs ht]
      apply hrestores.split hs
      rw [hrecalls.isSome_transmitter]
      exact ht
    . intro hs ht hrx
      rw [← hrecalls.duplex hs ht hrx]
      apply hrestores.duplex hs
      . rw [hrecalls.isSome_transmitter]
        exact ht
      . rw [hrecalls.transmitting]
        exact hrx
  . intro ⟨hvfo, hsplit, hduplex⟩
    refine ⟨r', hsome, ?_⟩
    constructor
    . exact hrecalls.satMode
    . intro p hp
      rw [hrecalls.halves] at hp
      rw [hrecalls.vfo p hp]
      exact hvfo p hp
    . intro hs ht
      rw [hrecalls.isSome_transmitter] at ht
      rw [hrecalls.split hs ht, hsplit hs ht]
    . intro hs ht hrx
      rw [hrecalls.isSome_transmitter] at ht
      rw [hrecalls.transmitting] at hrx
      rw [hrecalls.duplex hs ht hrx, hduplex hs ht hrx]

/--
A slot is stored, whatever else happens, and the slot is recalled: exactly then it restores what has been
stored.
-/
theorem recall_restores_iff (s : MemoryRadio) (index : Fin numMemories) (events : List Event)
    (hevents : ∀ e ∈ events, e.Saves) (h : SlotInTypes (s.storedSlot (s.mem index)))
    : (∃ r, (Run.exec (step index) (s.storeMemorySlot index) events).recallMemorySlot index = some r
          ∧ Restores s r.runCalls)
        ↔
      RestoresWhen s (Run.exec (step index) (s.storeMemorySlot index) events)
        (Restarted events) := by
  have hstored : (s.storeMemorySlot index).mem index = s.storedSlot (s.mem index) :=
    Function.update_self ..
  have hslot := slotOf_storedSlot s (s.mem index)
  obtain ⟨hsplit, hduplex⟩ := split_storedSlot s (s.mem index)
  have hmem := mem_exec hevents (s := s.storeMemorySlot index) (by rwa [hstored])
  rw [hstored] at hmem
  generalize Run.exec (step index) (s.storeMemorySlot index) events = r at *
  by_cases hrestarted : Restarted events
  . rw [restores_recall_iff (hmem.2 hrestarted) hslot.forgotten]
    constructor
    . intro ⟨hvfo, hs, hd⟩
      exact ⟨fun p hp => (hvfo p hp).1, fun p hp => (hvfo p hp).2,
        fun _ hsat ht => (hs hsat ht).symm, fun _ hsat ht hrx => (hd hsat ht hrx).symm⟩
    . intro hwhen
      exact ⟨fun p hp => ⟨hwhen.lo p hp, hwhen.window p hp⟩,
        fun hsat ht => (hwhen.split hrestarted hsat ht).symm,
        fun hsat ht hrx => (hwhen.duplex hrestarted hsat ht hrx).symm⟩
  . rw [restores_recall_iff (hmem.1 hrestarted) hslot, hsplit, hduplex]
    constructor
    . intro ⟨hvfo, _⟩
      exact ⟨fun p hp => (hvfo p hp).1, fun p hp => (hvfo p hp).2,
        fun hyes => absurd hyes hrestarted, fun hyes => absurd hyes hrestarted⟩
    . intro hwhen
      exact ⟨fun p hp => ⟨hwhen.lo p hp, hwhen.window p hp⟩, fun _ _ => rfl, fun _ _ _ => rfl⟩

-- SAT mode with split and duplex
def satRadio : MemoryRadio where
  toRadioState :=
    { initialState with
      satMode := satModeSat
      split := 1
      transmitter := some ⟨0, 2500, 0, 0, 0⟩ }
  duplex := 1
  transmitting := false
  duplexCalls := []

-- then VFO A is tuned, and SAT mode, split and duplex are switched off
def tunedRadio : MemoryRadio where
  toRadioState :=
    { initialState.setVfo 0 { initialVfo with frequency := 14200000 } with
      transmitter := some ⟨0, 2500, 0, 0, 0⟩ }
  duplex := 0
  transmitting := false
  duplexCalls := []

theorem slotInTypes_satRadio : SlotInTypes (satRadio.storedSlot (satRadio.mem 0)) := by
  intro f
  cases f <;> decide

theorem satRadio_restored
    : ∃ r, (Run.exec (step 0) (satRadio.storeMemorySlot 0) [.change tunedRadio]).recallMemorySlot 0
          = some r
        ∧ Restores satRadio r.runCalls := by
  apply (recall_restores_iff satRadio 0 [.change tunedRadio] _ slotInTypes_satRadio).mpr
  . constructor
    . intro p hp
      obtain rfl | rfl := List.mem_pair.mp hp <;> rfl
    . intro p hp _ hctun
      obtain rfl | rfl := List.mem_pair.mp hp <;> exact absurd rfl hctun
    . rintro ⟨e, he, hrestart⟩
      rw [List.mem_singleton.mp he] at hrestart
      contradiction
    . rintro ⟨e, he, hrestart⟩
      rw [List.mem_singleton.mp he] at hrestart
      contradiction
  . intro e he
    rw [List.mem_singleton.mp he]
    trivial

theorem not_restored_after_restart
    : ¬ ∃ r, (Run.exec (step 0) (satRadio.storeMemorySlot 0) [.restart tunedRadio []]).recallMemorySlot 0
          = some r
        ∧ Restores satRadio r.runCalls := by
  have hstored : (satRadio.storeMemorySlot 0).mem 0 = satRadio.storedSlot (satRadio.mem 0) := rfl
  have hmem : (Run.exec (step 0) (satRadio.storeMemorySlot 0) [.restart tunedRadio []]).mem 0
      = forgotten (satRadio.storedSlot (satRadio.mem 0)) :=
    memRestoreState_saved WellFormed.nil (hstored ▸ slotInTypes_satRadio)
  rw [restores_recall_iff hmem (slotOf_storedSlot satRadio (satRadio.mem 0)).forgotten]
  intro ⟨_, hsplit, _⟩
  exact absurd (hsplit (by decide) rfl) (by decide)

end MemoryRadio
