import Pihpsdr.Rigctl.Impl.Rig
import Pihpsdr.Vfo.Lemmas.Change

/-!
What tuning leaves alone: everything but the VFOs, as far as the settings of the bands, the filters and
the ADCs are not looked at.
-/

-- The states differ in the VFOs only.
structure OnlyVfo (t t' : TuningState) : Prop where
  config : t'.config = t.config
  bands : t'.bands = t.bands
  mem : t'.mem = t.mem
  satMode : t'.satMode = t.satMode
  split : t'.split = t.split

theorem OnlyVfo.refl (t : TuningState) : OnlyVfo t t where
  config := rfl
  bands := rfl
  mem := rfl
  satMode := rfl
  split := rfl

theorem OnlyVfo.trans {t t' t'' : TuningState} (h : OnlyVfo t t') (h' : OnlyVfo t' t'')
    : OnlyVfo t t'' where
  config := h'.config.trans h.config
  bands := h'.bands.trans h.bands
  mem := h'.mem.trans h.mem
  satMode := h'.satMode.trans h.satMode
  split := h'.split.trans h.split

theorem onlyVfo_setVfo (t : TuningState) (id : Fin 2) (v : VfoState) : OnlyVfo t (t.setVfo id v) where
  config := rfl
  bands := rfl
  mem := rfl
  satMode := rfl
  split := rfl

namespace RadioState

variable (s : RadioState) (id : Fin 2)

theorem onlyVfo_of_setVfo {s' : RadioState} {v : VfoState}
    (h : s'.toTuningState = s.toTuningState.setVfo id v)
    : OnlyVfo s.toTuningState s'.toTuningState := by
  rw [h]
  apply onlyVfo_setVfo

theorem onlyVfo_vfoIdAdjustBand (f : Int)
    : OnlyVfo s.toTuningState (s.vfoIdAdjustBand id f).toTuningState :=
  s.onlyVfo_of_setVfo id (s.toTuningState_vfoIdAdjustBand id f)

theorem onlyVfo_setDial (f : Int) : OnlyVfo s.toTuningState (s.setDial id f).toTuningState :=
  s.onlyVfo_of_setVfo id (s.toTuningState_setDial id f)

theorem onlyVfo_rxSetFrequency (f : Int)
    : OnlyVfo s.toTuningState (s.rxSetFrequency id f).toTuningState := by
  unfold rxSetFrequency
  have hset : OnlyVfo s.toTuningState (s.setVfo id ((s.vfo id).setDial f)).toTuningState :=
    onlyVfo_setVfo _ _ _
  exact hset.trans (onlyVfo_of_setVfo _ id (toTuningState_rxFrequencyChanged _ id))

section

variable {s} {t : TuningState} (h : OnlyVfo t s.toTuningState)
include h

theorem OnlyVfo.rxFrequencyChangedIfRunning
    : OnlyVfo t (s.rxFrequencyChangedIfRunning id).toTuningState := by
  unfold RadioState.rxFrequencyChangedIfRunning
  split
  . exact h.trans (s.onlyVfo_of_setVfo id (s.toTuningState_rxFrequencyChanged id))
  . exact h

theorem OnlyVfo.satFollow (delta : Int) : OnlyVfo t (s.satFollow id delta).toTuningState := by
  dsimp only [RadioState.satFollow]
  split
  . exact OnlyVfo.rxFrequencyChangedIfRunning _ (h.trans (s.onlyVfo_setDial _ _))
  . split
    . exact OnlyVfo.rxFrequencyChangedIfRunning _ (h.trans (s.onlyVfo_setDial _ _))
    . exact h

theorem OnlyVfo.satFollowTo (delta : Int) : OnlyVfo t (s.satFollowTo id delta).toTuningState := by
  dsimp only [RadioState.satFollowTo]
  split
  . apply OnlyVfo.rxFrequencyChangedIfRunning
    apply OnlyVfo.trans _ (onlyVfo_vfoIdAdjustBand _ _ _)
    exact h.trans (onlyVfo_setVfo _ _ _)
  . exact OnlyVfo.satFollow id h delta

end

theorem onlyVfo_tune (c : TuneCommand)
    : OnlyVfo s.toTuningState (s.tune id c).toTuningState := by
  cases c with
  | step st =>
    dsimp only [tune, vfoIdStep]
    split
    . apply OnlyVfo.refl
    . split
      . apply OnlyVfo.refl
      . exact OnlyVfo.rxFrequencyChangedIfRunning _ (OnlyVfo.satFollow _ (s.onlyVfo_setDial id _) _)
  | move hz rounded =>
    dsimp only [tune, vfoIdMove]
    split
    . apply OnlyVfo.refl
    . split
      . apply OnlyVfo.refl
      . exact OnlyVfo.rxFrequencyChangedIfRunning _ (OnlyVfo.satFollow _ (s.onlyVfo_setDial id _) _)
  | moveTo f rounded =>
    dsimp only [tune, vfoIdMoveTo]
    generalize (if rounded = true then stepRound f 0 (s.vfo id).step else f) = f
    split
    . apply OnlyVfo.refl
    . have hfollow := OnlyVfo.satFollowTo id (s.onlyVfo_setDial id f) (f - (s.vfo id).dial)
      split
      . exact hfollow.trans (onlyVfo_of_setVfo _ id (toTuningState_rxVfoChanged _ id))
      . exact hfollow

theorem onlyVfo_vfoIdSetFrequency (f : Int)
    : OnlyVfo s.toTuningState (s.vfoIdSetFrequency id f).toTuningState := by
  have hadjust := s.onlyVfo_vfoIdAdjustBand id f
  dsimp only [vfoIdSetFrequency]
  split
  . exact hadjust.trans (onlyVfo_rxSetFrequency _ id f)
  . split
    . exact hadjust.trans (onlyVfo_setVfo _ _ _)
    . exact hadjust.trans (onlyVfo_setVfo _ _ _)

theorem onlyVfo_vfoIdCtunUpdate (state : Int)
    : OnlyVfo s.toTuningState (s.vfoIdCtunUpdate id state).toTuningState := by
  have hend {s' : RadioState} (h : OnlyVfo s.toTuningState s'.toTuningState) (f : Int)
      : OnlyVfo s.toTuningState
        (if (s'.vfoIdAdjustBand id f).Running id then (s'.vfoIdAdjustBand id f).rxSetFrequency id f
        else s'.vfoIdAdjustBand id f).toTuningState := by
    have hadjust := h.trans (s'.onlyVfo_vfoIdAdjustBand id f)
    split
    . exact hadjust.trans (onlyVfo_rxSetFrequency _ id f)
    . exact hadjust
  dsimp only [vfoIdCtunUpdate]
  split
  . apply OnlyVfo.refl
  . split
    . apply hend
      apply onlyVfo_setVfo
    . apply hend
      split
      . exact onlyVfo_setVfo _ _ _
      . exact onlyVfo_setVfo _ _ _

theorem onlyVfo_vfoVfosChanged : OnlyVfo s.toTuningState s.vfoVfosChanged.toTuningState := by
  rw [toTuningState_vfoVfosChanged]
  exact ⟨rfl, rfl, rfl, rfl, rfl⟩

end RadioState

/-!
The functions that change one VFO leave the other one, and the receiver with its number, as they are.
-/

namespace RadioState

-- a VFO and the receiver with its number are the same
structure Untouched (id : Fin 2) (s s' : RadioState) : Prop where
  vfo : s'.vfo id = s.vfo id
  receiver : s'.receiver id = s.receiver id

theorem Untouched.refl (id : Fin 2) (s : RadioState) : Untouched id s s :=
  ⟨rfl, rfl⟩

variable {id id' : Fin 2} {s t : RadioState}

section

variable (h : Untouched id s t)
include h

theorem Untouched.of_same {t' : RadioState} (hvfo : t'.vfo = t.vfo) (hreceiver : t'.receiver = t.receiver)
    : Untouched id s t' :=
  ⟨(congrFun hvfo id).trans h.vfo, (congrFun hreceiver id).trans h.receiver⟩

theorem Untouched.ite {c : Prop} [Decidable c] {t' : RadioState} (h' : Untouched id s t')
    : Untouched id s (if c then t else t') := by
  split
  . exact h
  . exact h'

theorem Untouched.setBand (b : BandIndex) (band : BandState) : Untouched id s (t.setBand b band) :=
  h.of_same rfl rfl

theorem Untouched.storeWithBand (store : BandState → BandState)
    : Untouched id s (t.storeWithBand id' store) :=
  (h.setBand _ _).ite h

theorem Untouched.txSetFilter : Untouched id s t.txSetFilter := by
  apply h.of_same
  . rw [toTuningState_txSetFilter]
  . rw [receiver_txSetFilter]

theorem Untouched.applyAntennas (flag : Bool) (rxadc : Fin 3) (rxband : BandState)
    : Untouched id s (t.applyAntennas flag rxadc rxband) :=
  h.ite (h.of_same rfl rfl)

theorem Untouched.radioSetC25Att (val : Int) : Untouched id s (t.radioSetC25Att id' val) := by
  unfold RadioState.radioSetC25Att
  apply h.ite
  apply Untouched.ite _ h
  exact h.of_same rfl rfl

theorem Untouched.radioSetAttenuation (value : Int)
    : Untouched id s (t.radioSetAttenuation id' value) := by
  apply h.ite
  apply Untouched.storeWithBand
  exact h.of_same rfl rfl

theorem Untouched.radioSetRfGain (value : ℚ) : Untouched id s (t.radioSetRfGain id' value) := by
  apply h.ite
  apply Untouched.storeWithBand
  exact h.of_same rfl rfl

theorem Untouched.applyLevels (rxband : BandState) : Untouched id s (t.applyLevels id' rxband) := by
  unfold RadioState.applyLevels
  apply Untouched.ite
  . exact h.radioSetC25Att _
  . exact (h.radioSetAttenuation _).radioSetRfGain _

end

section

variable (h : Untouched id s t) (hid : id ≠ id')
include h hid

theorem Untouched.setVfo (v : VfoState) : Untouched id s (t.setVfo id' v) := by
  refine ⟨?_, h.receiver⟩
  rw [toTuningState_setVfo, TuningState.vfo_setVfo, Function.update_of_ne hid]
  exact h.vfo

theorem Untouched.setReceiver (rx : ReceiverState) : Untouched id s (t.setReceiver id' rx) := by
  refine ⟨h.vfo, ?_⟩
  rw [receiver_setReceiver, Function.update_of_ne hid]
  exact h.receiver

theorem Untouched.setReceiverIfRunning (set : ReceiverState → ReceiverState)
    : Untouched id s (t.setReceiverIfRunning id' set) :=
  (h.setReceiver hid _).ite h

theorem Untouched.radioSetAgcGain (value : ℚ) : Untouched id s (t.radioSetAgcGain id' value) := by
  apply h.ite
  have hset := h.setReceiver hid { t.receiver id' with agcGain := value }
  exact (hset.storeWithBand _).ite hset

theorem Untouched.applyDisplay (rxband : BandState) : Untouched id s (t.applyDisplay id' rxband) := by
  have hpan : Untouched id s (((t.radioSetPanhigh id' rxband.panhigh).radioSetPanlow id'
      rxband.panlow).radioSetPanstep id' rxband.panstep) := by
    apply Untouched.storeWithBand
    apply Untouched.setReceiverIfRunning _ hid
    apply Untouched.storeWithBand
    apply Untouched.setReceiverIfRunning _ hid
    apply Untouched.storeWithBand
    exact h.setReceiverIfRunning hid _
  exact (hpan.radioSetAgcGain hid _).ite hpan

theorem Untouched.radioApplyBandSettings (flag : Bool)
    : Untouched id s (t.radioApplyBandSettings flag id') := by
  have hantennas := h.applyAntennas flag (if t.Running id' then t.config.rxAdc id' else 0)
    (t.bands (t.vfo id').band)
  apply Untouched.ite _ hantennas
  exact (hantennas.applyLevels _).applyDisplay hid _

theorem Untouched.vfoIdAdjustBand (f : Int) : Untouched id s (t.vfoIdAdjustBand id' f) := by
  apply h.ite
  exact ((h.setVfo hid _).radioApplyBandSettings hid true).ite h

theorem Untouched.rxFrequencyChanged : Untouched id s (t.rxFrequencyChanged id') :=
  h.setVfo hid _

theorem Untouched.rxSetFrequency (f : Int) : Untouched id s (t.rxSetFrequency id' f) :=
  (h.setVfo hid _).rxFrequencyChanged hid

theorem Untouched.vfoIdCtunUpdate (state : Int) : Untouched id s (t.vfoIdCtunUpdate id' state) := by
  apply h.ite
  apply Untouched.ite
  . have hband := (h.setVfo hid
      { t.vfo id' with ctun := state, ctunFrequency := (t.vfo id').frequency, offset := 0 }).vfoIdAdjustBand
      hid (t.vfo id').frequency
    exact (hband.rxSetFrequency hid _).ite hband
  . have hnotches : Untouched id s (if t.Running id' then t.setReceiver id' (moveNotches (t.receiver id')
        ((t.vfo id').frequency - (t.vfo id').ctunFrequency)) else t) :=
      (h.setReceiver hid _).ite h
    have hband := (hnotches.setVfo hid
      { t.vfo id' with ctun := state, frequency := (t.vfo id').ctunFrequency, offset := 0 }).vfoIdAdjustBand
      hid (t.vfo id').ctunFrequency
    exact (hband.rxSetFrequency hid _).ite hband

theorem Untouched.rxFilterChanged : Untouched id s (t.rxFilterChanged id') := by
  have hset : Untouched id s (t.rxSetFilter id') := h.setReceiver hid _
  cases t.rxFilterChanged_eq id' with
  | inl heq =>
    rw [heq]
    exact hset
  | inr heq =>
    rw [heq]
    exact hset.txSetFilter

theorem Untouched.profilesLoadRxtxProfile : Untouched id s (t.profilesLoadRxtxProfile id') := by
  refine ⟨?_, ?_⟩
  . rw [toTuningState_profilesLoadRxtxProfile, TuningState.vfo_setVfo, Function.update_of_ne hid]
    exact h.vfo
  . rw [receiver_profilesLoadRxtxProfile_of_ne _ hid]
    exact h.receiver

theorem Untouched.vfoIdModeChanged (m : Int) : Untouched id s (t.vfoIdModeChanged id' m) := by
  have hmode := h.setVfo hid { t.vfo id' with mode := m }
  apply Untouched.txSetFilter
  apply Untouched.ite _ hmode
  exact ((hmode.profilesLoadRxtxProfile hid).rxFilterChanged hid).rxFilterChanged hid

end

theorem Untouched.radioSetSplit (h : Untouched id s t) (val : Int)
    : Untouched id s (t.radioSetSplit val) := by
  have hsplit : Untouched id s { t with split := val } := h.of_same rfl rfl
  unfold RadioState.radioSetSplit
  apply Untouched.ite _ h
  exact hsplit.txSetFilter.applyAntennas false _ _

end RadioState
