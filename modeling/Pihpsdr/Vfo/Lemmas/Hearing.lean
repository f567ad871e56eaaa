import Pihpsdr.Vfo.Lemmas.Transverter

/-!
The offset that a receiver is tuned to. It is derived from CTUN and RIT of the VFO, and with CTUN the
filter has to be in the window that is received.
-/

-- what a receiver uses of its VFO and its filter
structure Hearing where
  frequency : Int
  ctun : Int
  ctunFrequency : Int
  offset : Int
  rit : Int
  filter : Passband
  rate : Int

namespace Hearing

variable (h : Hearing) (p : Passband)

-- the filter is in the window around `center`
def InWindow (center : Int) : Prop :=
  center - h.rate.tdiv 2 ≤ h.ctunFrequency + p.filterLow
    ∧ h.ctunFrequency + p.filterHigh ≤ center + h.rate.tdiv 2

instance (center : Int) : Decidable (h.InWindow p center) := by
  unfold InWindow
  infer_instance

structure Agrees : Prop where
  offset : h.offset = (if h.ctun ≠ 0 then h.ctunFrequency - h.frequency else 0) + h.rit
  window : h.ctun ≠ 0 → h.InWindow h.filter h.frequency

def refresh : Hearing :=
  if h.ctun ≠ 0 then
    let frequency :=
      if h.InWindow h.filter h.frequency then h.frequency else h.ctunFrequency
    { h with frequency := frequency, offset := h.ctunFrequency - frequency + h.rit }
  else
    { h with offset := h.rit }

def refilter : Hearing :=
  { h with filter := p }

-- The window is moved for the filter that there is, and not again for the next one.
def Ready : Prop :=
  h.ctun ≠ 0 →
    if h.InWindow h.filter h.frequency then h.InWindow p h.frequency
    else h.InWindow p h.ctunFrequency

variable {h p}

-- with CTUN, once it is known where the window is
theorem agrees_moved_iff (hctun : h.ctun ≠ 0) (frequency : Int)
    : ({ h with
          frequency := frequency
          offset := h.ctunFrequency - frequency + h.rit
          filter := p } : Hearing).Agrees
        ↔
      h.InWindow p frequency := by
  constructor
  . intro hagrees
    exact hagrees.window hctun
  . intro hwindow
    constructor
    . rw [if_pos hctun]
    . intro _
      exact hwindow

theorem agrees_refresh_refilter_iff : (h.refresh.refilter p).Agrees ↔ h.Ready p := by
  unfold Ready refresh
  by_cases hctun : h.ctun ≠ 0
  . rw [if_pos hctun, forall_prop_of_true hctun]
    split
    . exact agrees_moved_iff hctun _
    . exact agrees_moved_iff hctun _
  . rw [if_neg hctun]
    apply iff_of_true
    . constructor
      . simp [refilter, hctun]
      . intro hctun'
        contradiction
    . intro hctun'
      contradiction

theorem refilter_refresh : h.refresh.refilter h.filter = h.refresh := by
  unfold refresh
  split <;> rfl

theorem refresh_setOffset (h : Hearing) (offset : Int)
    : { h with offset := offset }.refresh = h.refresh := by
  unfold refresh
  split <;> rfl

theorem Agrees.refresh_eq (hagrees : h.Agrees) : h.refresh = h := by
  have hoffset := hagrees.offset
  unfold refresh
  split
  next hctun =>
    rw [if_pos hctun] at hoffset
    rw [if_pos (hagrees.window hctun)]
    dsimp only
    rw [← hoffset]
  next hctun =>
    rw [if_neg hctun, Int.zero_add] at hoffset
    exact congrArg (fun offset => { h with offset := offset }) hoffset.symm

theorem Agrees.ready_iff (hagrees : h.Agrees)
    : h.Ready p ↔ (h.ctun ≠ 0 → h.InWindow p h.frequency) := by
  unfold Ready
  constructor
  . intro hready hctun
    have hready := hready hctun
    rwa [if_pos (hagrees.window hctun)] at hready
  . intro hwindow hctun
    rw [if_pos (hagrees.window hctun)]
    exact hwindow hctun

-- CTUN is set, and the offset is only set to zero if it is off
def setCtun (h : Hearing) (ctun : Int) : Hearing :=
  { h with
    ctun := ctun
    offset := if ctun = 0 then 0 else h.offset
    ctunFrequency := h.frequency }

theorem Agrees.setCtun_iff (hagrees : h.Agrees) (ctun : Int)
    : (h.setCtun ctun).Agrees
        ↔
      if ctun = 0 then
        h.rit = 0
      else
        (h.ctun ≠ 0 → h.ctunFrequency = h.frequency)
          ∧ { h with ctunFrequency := h.frequency }.InWindow h.filter h.frequency := by
  have hoffset := hagrees.offset
  have hset : (h.setCtun ctun).offset = if ctun = 0 then 0 else h.offset := rfl
  have hsame : (h.setCtun ctun).ctunFrequency - (h.setCtun ctun).frequency = 0 :=
    Int.sub_self h.frequency
  have hrit : (h.setCtun ctun).rit = h.rit := rfl
  have hderived : (h.setCtun ctun).offset
        = (if (h.setCtun ctun).ctun ≠ 0 then
            (h.setCtun ctun).ctunFrequency - (h.setCtun ctun).frequency else 0)
          + (h.setCtun ctun).rit
      ↔ (if ctun = 0 then 0 else h.offset) = h.rit := by
    rw [hsame, ite_self, Int.zero_add, hrit, hset]
  by_cases hoff : ctun = 0
  . rw [if_pos hoff] at hderived ⊢
    constructor
    . intro hagrees'
      exact (hderived.mp hagrees'.offset).symm
    . intro hzero
      constructor
      . exact hderived.mpr hzero.symm
      . intro hon
        contradiction
  . rw [if_neg hoff] at hderived ⊢
    constructor
    . intro hagrees'
      have hrit := hderived.mp hagrees'.offset
      refine ⟨?_, hagrees'.window hoff⟩
      intro hon
      rw [if_pos hon] at hoffset
      omega
    . intro hon
      constructor
      . apply hderived.mpr
        rw [hoffset]
        split
        next hctun =>
          have heq := hon.1 hctun
          omega
        next => omega
      . intro _
        exact hon.2

end Hearing

namespace VfoState

variable (v : VfoState)

def ritPart : Int :=
  if v.ritEnabled ≠ 0 then v.rit else 0

def hearing (p : Passband) (rate : Int) : Hearing where
  frequency := v.frequency
  ctun := v.ctun
  ctunFrequency := v.ctunFrequency
  offset := v.offset
  rit := v.ritPart
  filter := p
  rate := rate

-- the edges of the filter that the VFO has selected
def passband (config : RadioConfig) : Passband :=
  let filter := config.filters v.mode v.filter
  if v.mode = modeCwl then
    ⟨-config.cwKeyerSidetoneFrequency + filter.low,
      -config.cwKeyerSidetoneFrequency + filter.high⟩
  else if v.mode = modeCwu then
    ⟨config.cwKeyerSidetoneFrequency + filter.low, config.cwKeyerSidetoneFrequency + filter.high⟩
  else if v.mode = modeFmn then
    ⟨-(3000 + v.deviation), 3000 + v.deviation⟩
  else
    ⟨filter.low, filter.high⟩

theorem toPassband_setFilter (rx : ReceiverState) (config : RadioConfig)
    : (rx.setFilter config v).toPassband = v.passband config := by
  dsimp only [ReceiverState.setFilter, passband]
  split_ifs <;> rfl

@[simp]
theorem passband_adjustBand (config config' : RadioConfig) (bands : BandIndex → BandState) (f : Int)
    : (v.adjustBand config' bands f).passband config = v.passband config := by
  rw [adjustBand_eq]
  rfl

@[simp]
theorem passband_setDial (config : RadioConfig) (f : Int)
    : (v.setDial f).passband config = v.passband config := by
  unfold setDial
  split <;> rfl

@[simp]
theorem passband_frequencyChanged (config : RadioConfig) (p : Passband) (rate : Int)
    : (v.frequencyChanged p rate).passband config = v.passband config := by
  dsimp only [frequencyChanged]
  split <;> rfl

@[simp]
theorem hearing_adjustBand (config : RadioConfig) (bands : BandIndex → BandState) (f : Int)
    (p : Passband) (rate : Int)
    : (v.adjustBand config bands f).hearing p rate = v.hearing p rate := by
  rw [adjustBand_eq]
  rfl

@[simp]
theorem hearing_loadProfile (profile : RxtxProfile) (p : Passband) (rate : Int)
    : (v.loadProfile profile).hearing p rate = v.hearing p rate := rfl

theorem hearing_frequencyChanged (p : Passband) (rate : Int)
    : (v.frequencyChanged p rate).hearing p rate = (v.hearing p rate).refresh := by
  have hleaves (f : Int) : v.ctunFrequency + p.filterLow < f - rate.tdiv 2
        ∨ v.ctunFrequency + p.filterHigh > f + rate.tdiv 2
      ↔ ¬ (v.hearing p rate).InWindow p f := by
    simp only [Hearing.InWindow, hearing]
    omega
  have hctun : (v.hearing p rate).ctun = v.ctun := rfl
  dsimp only [frequencyChanged, Hearing.refresh]
  rw [hctun]
  split
  . rw [if_congr (hleaves v.frequency) rfl rfl, ite_not]
    rfl
  . rfl

end VfoState

theorem OnlyVfo.running_iff {t t' : TuningState} (h : OnlyVfo t t') (id : Fin 2)
    : t'.Running id ↔ t.Running id := by
  unfold TuningState.Running
  rw [h.config]

namespace RadioState

variable (s : RadioState) (id : Fin 2)

-- what the receiver of the VFO `id` would use of `v`
def heard (s : RadioState) (id : Fin 2) (v : VfoState) : Hearing :=
  v.hearing (s.receiver id).toPassband (s.config.sampleRate id)

def hearing (s : RadioState) (id : Fin 2) : Hearing :=
  s.heard id (s.vfo id)

section

variable {s id} {s' : RadioState} {v : VfoState}

theorem heard_congr (hconfig : s'.config = s.config)
    (hfilter : (s'.receiver id).toPassband = (s.receiver id).toPassband) (v : VfoState)
    : s'.heard id v = s.heard id v := by
  unfold heard
  rw [hconfig, hfilter]

theorem hearing_of_setVfo (hvfo : s'.toTuningState = s.toTuningState.setVfo id v)
    (hfilter : ∀ id, (s'.receiver id).toPassband = (s.receiver id).toPassband)
    : s'.hearing = Function.update s.hearing id (s.heard id v) := by
  have hconfig : s'.config = s.config := by
    rw [hvfo]
    rfl
  funext id'
  unfold hearing
  rw [heard_congr hconfig (hfilter id'), hvfo, TuningState.vfo_setVfo]
  by_cases hid : id' = id
  . subst hid
    rw [Function.update_self, Function.update_self]
  . rw [Function.update_of_ne hid, Function.update_of_ne hid]

theorem hearing_of_refilter {p : Passband} (htuning : s'.toTuningState = s.toTuningState)
    (hfilter : (s'.receiver id).toPassband = p)
    (hother : ∀ id', id' ≠ id → (s'.receiver id').toPassband = (s.receiver id').toPassband)
    : s'.hearing = Function.update s.hearing id ((s.hearing id).refilter p) := by
  funext id'
  by_cases hid : id' = id
  . subst hid
    rw [Function.update_self]
    unfold hearing heard
    rw [hfilter, htuning]
    rfl
  . rw [Function.update_of_ne hid]
    unfold hearing heard
    rw [hother id' hid, htuning]

end

@[simp]
theorem hearing_setVfo (v : VfoState)
    : (s.setVfo id v).hearing = Function.update s.hearing id (s.heard id v) :=
  hearing_of_setVfo rfl fun _ => rfl

@[simp]
theorem hearing_vfoIdAdjustBand (f : Int) : (s.vfoIdAdjustBand id f).hearing = s.hearing := by
  rw [hearing_of_setVfo (s.toTuningState_vfoIdAdjustBand id f) (s.toPassband_vfoIdAdjustBand id f),
    heard, VfoState.hearing_adjustBand]
  apply Function.update_eq_self

theorem hearing_setDial (f : Int)
    : (s.setDial id f).hearing
        =
      Function.update s.hearing id (s.heard id ((s.vfo id).setDial f)) := by
  rw [setDial, hearing_vfoIdAdjustBand, hearing_setVfo]

theorem hearing_rxFrequencyChanged
    : (s.rxFrequencyChanged id).hearing
        =
      Function.update s.hearing id (s.hearing id).refresh := by
  rw [hearing_of_setVfo (s.toTuningState_rxFrequencyChanged id) (fun _ => rfl), heard,
    VfoState.hearing_frequencyChanged]
  rfl

theorem hearing_rxFrequencyChangedIfRunning (h : s.Running id)
    : (s.rxFrequencyChangedIfRunning id).hearing
        =
      Function.update s.hearing id (s.hearing id).refresh := by
  rw [rxFrequencyChangedIfRunning, if_pos h, hearing_rxFrequencyChanged]

theorem hearing_rxFrequencyChangedIfRunning_of_ne {id' : Fin 2} (h : id' ≠ id)
    : (s.rxFrequencyChangedIfRunning id).hearing id' = s.hearing id' := by
  unfold rxFrequencyChangedIfRunning
  split
  . rw [hearing_rxFrequencyChanged, Function.update_of_ne h]
  . rfl

theorem hearing_refreshed_congr {s s' : RadioState} (id : Fin 2) (h : s'.hearing = s.hearing)
    (hconfig : s'.config = s.config)
    : (s'.rxFrequencyChangedIfRunning id).hearing = (s.rxFrequencyChangedIfRunning id).hearing := by
  have hrunning : s'.Running id ↔ s.Running id := by
    unfold TuningState.Running
    rw [hconfig]
  by_cases hid : s.Running id
  . rw [hearing_rxFrequencyChangedIfRunning _ _ hid, hearing_rxFrequencyChangedIfRunning _ _
      (hrunning.mpr hid), h]
  . unfold rxFrequencyChangedIfRunning
    rw [if_neg hid, if_neg (fun hid' => hid (hrunning.mp hid')), h]

theorem hearing_rxFilterChanged
    : (s.rxFilterChanged id).hearing
        =
      Function.update s.hearing id ((s.hearing id).refilter ((s.vfo id).passband s.config)) := by
  apply hearing_of_refilter (s.toTuningState_rxFilterChanged id)
  . rw [receiver_rxFilterChanged, Function.update_self, VfoState.toPassband_setFilter]
  . intro id' hid
    rw [receiver_rxFilterChanged, Function.update_of_ne hid]

theorem hearing_rxVfoChanged
    : (s.rxVfoChanged id).hearing
        =
      Function.update s.hearing id
        ((s.hearing id).refresh.refilter ((s.vfo id).passband s.config)) := by
  rw [rxVfoChanged, rxModeChanged, hearing_rxFilterChanged, hearing_rxFrequencyChanged,
    Function.update_self, Function.update_idem, toTuningState_rxFrequencyChanged,
    TuningState.vfo_setVfo, Function.update_self, VfoState.passband_frequencyChanged]
  rfl

section

variable {s} {s' : RadioState}

theorem hearing_of_receiver (htuning : s'.toTuningState = s.toTuningState)
    (hreceiver : s'.receiver = s.receiver)
    : s'.hearing = s.hearing := by
  unfold hearing heard
  rw [htuning, hreceiver]

end

theorem hearing_txSetFilter : s.txSetFilter.hearing = s.hearing :=
  hearing_of_receiver s.toTuningState_txSetFilter s.receiver_txSetFilter

theorem hearing_radioApplyBandSettings (flag : Bool)
    : (s.radioApplyBandSettings flag id).hearing = s.hearing := by
  unfold hearing heard
  rw [toTuningState_radioApplyBandSettings]
  simp only [toPassband_radioApplyBandSettings]

-- what the end of a large change does to the receivers that run
theorem hearing_vfoVfosChanged {s : RadioState} (hreceivers : s.config.receivers ≤ 2) {id : Fin 2}
    (h : s.Running id)
    : s.vfoVfosChanged.hearing id
        =
      (s.hearing id).refresh.refilter ((s.vfo id).passband s.config) := by
  have hzero : (((s.rxVfoChanged 0).radioTxVfoChanged).radioApplyBandSettings true 0).hearing
      = (s.rxVfoChanged 0).hearing := by
    rw [hearing_radioApplyBandSettings, radioTxVfoChanged, hearing_txSetFilter]
  have hconfig : (((s.rxVfoChanged 0).radioTxVfoChanged).radioApplyBandSettings true 0).toTuningState
      = (s.rxVfoChanged 0).toTuningState := by
    rw [toTuningState_radioApplyBandSettings, toTuningState_radioTxVfoChanged]
  have hvfo : (s.rxVfoChanged 0).vfo 1 = s.vfo 1 := by
    rw [toTuningState_rxVfoChanged, TuningState.vfo_setVfo, Function.update_of_ne (by decide)]
  have hsame : (s.rxVfoChanged 0).config = s.config := by
    rw [toTuningState_rxVfoChanged, TuningState.config_setVfo]
  dsimp only [vfoVfosChanged]
  rw [hconfig, hsame]
  by_cases hid : id = 0
  . subst hid
    split
    . rw [hearing_radioApplyBandSettings, hearing_rxVfoChanged, Function.update_of_ne (by decide),
        hzero, hearing_rxVfoChanged, Function.update_self]
    . rw [hzero, hearing_rxVfoChanged, Function.update_self]
  . have hid : id = 1 := by omega
    subst hid
    have htwo : s.config.receivers = 2 := by
      have hone : 1 < s.config.receivers := h
      omega
    rw [if_pos htwo, hearing_radioApplyBandSettings, hearing_rxVfoChanged, Function.update_self,
      hzero, hearing_rxVfoChanged, Function.update_of_ne (by decide), hconfig, hvfo, hsame]

end RadioState

/-!
What a receiver hears when a VFO is tuned, and when its mode or its filter is changed.
-/

namespace RadioState

variable (s : RadioState) (id : Fin 2)

-- the receiver `id`, where it runs, agrees with its VFO
def AgreesAt (s : RadioState) (id : Fin 2) : Prop :=
  s.Running id → (s.hearing id).Agrees

/--
The VFO `w` is refreshed for a receiver with the filter `before`, which then gets the filter `after`: the
second filter is in the window that has been chosen for the first one.
-/
def FitsIn (s : RadioState) (id : Fin 2) (w : VfoState) (before after : Passband) : Prop :=
  s.Running id → (w.hearing before (s.config.sampleRate id)).Ready after

-- the filter `p` is in the window that the receiver has
def FiltersIn (s : RadioState) (id : Fin 2) (p : Passband) : Prop :=
  s.Running id → (s.vfo id).ctun ≠ 0 → (s.hearing id).InWindow p (s.vfo id).frequency

-- the VFO `w` with the filter that the receiver has
def DialsIn (s : RadioState) (id : Fin 2) (w : VfoState) : Prop :=
  s.FitsIn id w (s.receiver id).toPassband (s.receiver id).toPassband

section

variable {s id} {s' : RadioState}

theorem agreesAt_refresh_iff {w : VfoState} {before after : Passband}
    (hrunning : s'.Running id ↔ s.Running id)
    (hearing : s.Running id → s'.hearing id
      = (w.hearing before (s.config.sampleRate id)).refresh.refilter after)
    : s'.AgreesAt id ↔ s.FitsIn id w before after := by
  unfold AgreesAt FitsIn
  rw [hrunning]
  apply forall_congr'
  intro h
  rw [hearing h, Hearing.agrees_refresh_refilter_iff]

theorem agreesAt_refreshed_iff {w : VfoState} (hrunning : s'.Running id ↔ s.Running id)
    (hearing : s.Running id → s'.hearing id = (s.heard id w).refresh)
    : s'.AgreesAt id ↔ s.DialsIn id w := by
  apply agreesAt_refresh_iff hrunning
  intro h
  rw [hearing h]
  exact Hearing.refilter_refresh.symm

theorem agreesAt_refilter_iff {p : Passband} (hs : s.AgreesAt id)
    (hrunning : s'.Running id ↔ s.Running id)
    (hearing : s.Running id → s'.hearing id = (s.hearing id).refilter p)
    : s'.AgreesAt id ↔ s.FiltersIn id p := by
  unfold AgreesAt FiltersIn
  rw [hrunning]
  apply forall_congr'
  intro h
  have hready := (hs h).ready_iff (p := p)
  rw [← Hearing.agrees_refresh_refilter_iff, (hs h).refresh_eq] at hready
  rw [hearing h, hready]
  rfl

theorem agreesAt_same_iff (hrunning : s'.Running id ↔ s.Running id)
    (hearing : s.Running id → s'.hearing id = s.hearing id)
    : s'.AgreesAt id ↔ s.AgreesAt id := by
  unfold AgreesAt
  rw [hrunning]
  apply forall_congr'
  intro h
  rw [hearing h]

end

section

variable (delta : Int)

theorem satLookup_setDial (f : Int)
    : (s.setDial id f).satLookup id delta = s.satLookup id delta := by
  dsimp only [satLookup]
  rw [(s.onlyVfo_setDial id f).satMode, s.vfo_setDial_other id f]

theorem hearing_satFollow_self : (s.satFollow id delta).hearing id = s.hearing id := by
  have hother := (other_ne id).symm
  dsimp only [satFollow]
  split
  . rw [hearing_rxFrequencyChangedIfRunning_of_ne _ _ hother, hearing_setDial,
      Function.update_of_ne hother]
  . split
    . rw [hearing_rxFrequencyChangedIfRunning_of_ne _ _ hother, hearing_setDial,
        Function.update_of_ne hother]
    . rfl

theorem vfo_rxFrequencyChangedIfRunning_of_ne {id' : Fin 2} (h : id' ≠ id)
    : (s.rxFrequencyChangedIfRunning id).vfo id' = s.vfo id' := by
  unfold rxFrequencyChangedIfRunning
  split
  . rw [toTuningState_rxFrequencyChanged, TuningState.vfo_setVfo, Function.update_of_ne h]
  . rfl

theorem vfo_setDial_of_ne {id' : Fin 2} (h : id' ≠ id) (f : Int)
    : (s.setDial id f).vfo id' = s.vfo id' := by
  rw [toTuningState_setDial, TuningState.vfo_setVfo, Function.update_of_ne h]

theorem vfo_satFollow_self : (s.satFollow id delta).vfo id = s.vfo id := by
  have hother := (other_ne id).symm
  dsimp only [satFollow]
  split
  . rw [vfo_rxFrequencyChangedIfRunning_of_ne _ _ hother, vfo_setDial_of_ne _ _ hother]
  . split
    . rw [vfo_rxFrequencyChangedIfRunning_of_ne _ _ hother, vfo_setDial_of_ne _ _ hother]
    . rfl

theorem vfo_satFollowTo_self : (s.satFollowTo id delta).vfo id = s.vfo id := by
  have hother := (other_ne id).symm
  dsimp only [satFollowTo]
  split
  . rw [vfo_rxFrequencyChangedIfRunning_of_ne _ _ hother, toTuningState_vfoIdAdjustBand,
      TuningState.vfo_setVfo, Function.update_of_ne hother, toTuningState_setVfo,
      TuningState.vfo_setVfo, Function.update_of_ne hother]
  . apply vfo_satFollow_self

theorem hearing_setDial_refresh {s : RadioState} {id : Fin 2} (h : s.Running id) (f : Int)
    : ((s.setDial id f).rxFrequencyChangedIfRunning id).hearing id
        =
      (s.heard id ((s.vfo id).setDial f)).refresh := by
  have hrunning : (s.setDial id f).Running id := by
    unfold TuningState.Running
    rwa [(s.onlyVfo_setDial id f).config]
  rw [hearing_rxFrequencyChangedIfRunning _ _ hrunning, Function.update_self, hearing_setDial,
    Function.update_self]

theorem hearing_satFollow_other {s : RadioState} {id : Fin 2} (h : s.Running (1 - id))
    : (s.satFollow id delta).hearing (1 - id)
        =
      (s.satLookup id delta).elim (s.hearing (1 - id)) fun f =>
        (s.heard (1 - id) ((s.vfo (1 - id)).setDial f)).refresh := by
  dsimp only [satFollow, satLookup]
  split
  . rw [hearing_setDial_refresh h]
    rfl
  . split
    . rw [hearing_setDial_refresh h]
      rfl
    . rfl

-- one VFO and the other
theorem forall_fin_two_iff {P : Fin 2 → Prop} (id : Fin 2)
    : (∀ v, P v) ↔ P id ∧ P (1 - id) := by
  constructor
  . intro h
    exact ⟨h id, h (1 - id)⟩
  . intro h v
    by_cases hv : v = 1 - id
    . rw [hv]
      exact h.2
    . rw [eq_of_ne_other hv]
      exact h.1

-- another lookup of the band makes no difference
theorem hearing_satFollowTo : (s.satFollowTo id delta).hearing = (s.satFollow id delta).hearing := by
  dsimp only [satFollowTo]
  split
  next hfollow =>
    have hset : { s.vfo (1 - id) with ctunFrequency := (s.vfo (1 - id)).ctunFrequency + delta }
        = (s.vfo (1 - id)).setDial ((s.vfo (1 - id)).dial + delta) := by
      unfold VfoState.setDial VfoState.dial
      rw [if_pos hfollow.2, if_pos hfollow.2]
    have hset' (f : Int) : ((s.setVfo (1 - id)
          ((s.vfo (1 - id)).setDial ((s.vfo (1 - id)).dial + delta))).vfoIdAdjustBand (1 - id) f).hearing
        = (s.setDial (1 - id) ((s.vfo (1 - id)).dial + delta)).hearing := by
      rw [hearing_vfoIdAdjustBand, hearing_setVfo, hearing_setDial]
    dsimp only [satFollow]
    rw [if_pos hfollow.1, hset]
    apply hearing_refreshed_congr _ (hset' _)
    rw [toTuningState_vfoIdAdjustBand, TuningState.config_setVfo, toTuningState_setVfo,
      TuningState.config_setVfo, (s.onlyVfo_setDial _ _).config]
  next => rfl

end

theorem agreesAt_elim_iff {s s' : RadioState} {id : Fin 2} {f : Option Int} (hs : s.AgreesAt id)
    (hrunning : s'.Running id ↔ s.Running id)
    (hearing : s.Running id → s'.hearing id = f.elim (s.hearing id) fun f =>
      (s.heard id ((s.vfo id).setDial f)).refresh)
    : s'.AgreesAt id ↔ ∀ g ∈ f, s.DialsIn id ((s.vfo id).setDial g) := by
  cases f with
  | none =>
    rw [agreesAt_same_iff hrunning hearing]
    simp [hs]
  | some f =>
    rw [agreesAt_refreshed_iff hrunning hearing]
    simp

section

variable (f : Int) (delta : Int)

theorem onlyVfo_setDial_satFollow
    : OnlyVfo s.toTuningState ((s.setDial id f).satFollow id delta).toTuningState :=
  OnlyVfo.satFollow id (s.onlyVfo_setDial id f) delta

theorem hearing_setDial_satFollow
    : ((s.setDial id f).satFollow id delta).hearing id = s.heard id ((s.vfo id).setDial f) := by
  rw [hearing_satFollow_self, hearing_setDial, Function.update_self]

theorem hearing_setDial_satFollow_other {s : RadioState} {id : Fin 2} (h : s.Running (1 - id))
    : ((s.setDial id f).satFollow id delta).hearing (1 - id)
        =
      (s.satLookup id delta).elim (s.hearing (1 - id)) fun f =>
        (s.heard (1 - id) ((s.vfo (1 - id)).setDial f)).refresh := by
  have hrunning := ((s.onlyVfo_setDial id f).running_iff (1 - id)).mpr h
  have hheard (v : VfoState) : (s.setDial id f).heard (1 - id) v = s.heard (1 - id) v := by
    apply heard_congr (s.onlyVfo_setDial id f).config
    rw [setDial, toPassband_vfoIdAdjustBand, receiver_setVfo]
  rw [hearing_satFollow_other _ hrunning, satLookup_setDial, hearing_setDial,
    Function.update_of_ne (other_ne id), vfo_setDial_other]
  simp only [hheard]

-- the other VFO, once one has been tuned
theorem agreesAt_follow_iff {s s' : RadioState} {id : Fin 2} (hs : s.AgreesAt (1 - id))
    (hrunning : s'.Running (1 - id) ↔ s.Running (1 - id))
    (hearing : s'.hearing (1 - id) = ((s.setDial id f).satFollow id delta).hearing (1 - id))
    : s'.AgreesAt (1 - id)
        ↔
      ∀ g ∈ s.satLookup id delta, s.DialsIn (1 - id) ((s.vfo (1 - id)).setDial g) := by
  apply agreesAt_elim_iff hs hrunning
  intro h
  rw [hearing, hearing_setDial_satFollow_other f delta h]

theorem agreesAt_dialed_iff {s : RadioState} {id : Fin 2} (hs : ∀ id, s.AgreesAt id)
    : (∀ v, (((s.setDial id f).satFollow id delta).rxFrequencyChangedIfRunning id).AgreesAt v)
        ↔
      s.DialsIn id ((s.vfo id).setDial f)
        ∧ ∀ g ∈ s.satLookup id delta, s.DialsIn (1 - id) ((s.vfo (1 - id)).setDial g) := by
  have honly := OnlyVfo.rxFrequencyChangedIfRunning id (s.onlyVfo_setDial_satFollow id f delta)
  rw [forall_fin_two_iff id]
  apply and_congr
  . apply agreesAt_refreshed_iff (honly.running_iff id)
    intro h
    rw [hearing_rxFrequencyChangedIfRunning, Function.update_self, hearing_setDial_satFollow]
    . exact ((s.onlyVfo_setDial_satFollow id f delta).running_iff id).mpr h
  . apply agreesAt_follow_iff f delta (hs (1 - id)) (honly.running_iff (1 - id))
    rw [hearing_rxFrequencyChangedIfRunning_of_ne _ _ (other_ne id)]

end

-- what has to fit when a VFO is tuned to `f`
def TunesIn (s : RadioState) (id : Fin 2) (f : Int) (after : Passband) : Prop :=
  s.FitsIn id ((s.vfo id).setDial f) (s.receiver id).toPassband after
    ∧ ∀ g ∈ s.satLookup id (f - (s.vfo id).dial), s.DialsIn (1 - id) ((s.vfo (1 - id)).setDial g)

-- the filter after a command, which `vfo_id_move_to` selects anew
def tuneFilter (s : RadioState) (id : Fin 2) : TuneCommand → Passband
  | .moveTo _ _ => (s.vfo id).passband s.config
  | _ => (s.receiver id).toPassband

theorem agreesAt_tune_iff (hs : ∀ id, s.AgreesAt id) (c : TuneCommand)
    : (∀ v, (s.tune id c).AgreesAt v)
        ↔
      ∀ f ∈ s.tuneTarget id c, s.TunesIn id f (s.tuneFilter id c) := by
  cases c with
  | step st =>
    dsimp only [tune, vfoIdStep, tuneTarget]
    split
    . simp [hs]
    . split
      . simp [hs]
      . rw [agreesAt_dialed_iff _ _ hs]
        simp [TunesIn, DialsIn, tuneFilter]
  | move hz rounded =>
    dsimp only [tune, vfoIdMove, tuneTarget]
    split
    . simp [hs]
    . split
      . simp [hs]
      . rw [agreesAt_dialed_iff _ _ hs]
        simp only [TunesIn, DialsIn, tuneFilter]
        split_ifs <;> simp
  | moveTo f rounded =>
    dsimp only [tune, vfoIdMoveTo, tuneTarget, tuneFilter]
    generalize (if rounded = true then stepRound f 0 (s.vfo id).step else f) = f
    split
    . simp [hs]
    . have honly := OnlyVfo.satFollowTo id (s.onlyVfo_setDial id f) (f - (s.vfo id).dial)
      have hrunning := honly.running_iff
      simp only [Option.mem_some_iff, forall_eq', TunesIn]
      rw [forall_fin_two_iff id]
      by_cases hid : s.Running id
      . rw [if_pos ((hrunning id).mpr hid)]
        have hvfo := onlyVfo_of_setVfo _ id (toTuningState_rxVfoChanged
          ((s.setDial id f).satFollowTo id (f - (s.vfo id).dial)) id)
        have hboth := (honly.trans hvfo).running_iff
        apply and_congr
        . apply agreesAt_refresh_iff (hboth id)
          intro _
          rw [hearing_rxVfoChanged, Function.update_self, hearing_satFollowTo,
            hearing_setDial_satFollow, honly.config, vfo_satFollowTo_self, toTuningState_setDial,
            TuningState.vfo_setVfo, Function.update_self, VfoState.passband_adjustBand,
            VfoState.passband_setDial]
          rfl
        . apply agreesAt_follow_iff f _ (hs (1 - id)) (hboth (1 - id))
          rw [hearing_rxVfoChanged, Function.update_of_ne (other_ne id), hearing_satFollowTo]
      . rw [if_neg (fun h => hid ((hrunning id).mp h))]
        apply and_congr
        . apply iff_of_true
          . intro h
            exact absurd ((hrunning id).mp h) hid
          . intro h
            contradiction
        . apply agreesAt_follow_iff f _ (hs (1 - id)) (hrunning (1 - id))
          rw [hearing_satFollowTo]

-- an operation on one VFO
theorem forall_agreesAt_iff {s s' : RadioState} {id : Fin 2} (hs : ∀ id, s.AgreesAt id)
    (hrunning : ∀ v, s'.Running v ↔ s.Running v)
    (hearing : s'.hearing (1 - id) = s.hearing (1 - id))
    : (∀ v, s'.AgreesAt v) ↔ s'.AgreesAt id := by
  rw [forall_fin_two_iff id, agreesAt_same_iff (hrunning (1 - id)) (fun _ => hearing)]
  exact and_iff_left (hs (1 - id))

theorem hearing_rxSetFrequency (f : Int)
    : (s.rxSetFrequency id f).hearing
        =
      Function.update s.hearing id (s.heard id ((s.vfo id).setDial f)).refresh := by
  rw [rxSetFrequency, hearing_rxFrequencyChanged, hearing_setVfo, Function.update_idem,
    Function.update_self]

theorem agreesAt_vfoIdSetFrequency_iff (hs : ∀ id, s.AgreesAt id) (hreceivers : s.config.receivers ≤ 2)
    (f : Int)
    : (∀ v, (s.vfoIdSetFrequency id f).AgreesAt v) ↔ s.DialsIn id ((s.vfo id).setDial f) := by
  have hrunning := (s.onlyVfo_vfoIdSetFrequency id f).running_iff
  have hadjusted : (s.vfoIdAdjustBand id f).config = s.config :=
    (s.onlyVfo_vfoIdAdjustBand id f).config
  rw [forall_agreesAt_iff hs hrunning]
  . apply agreesAt_refreshed_iff (hrunning id)
    intro h
    have hid : id = 0 ∨ s.config.receivers = 2 := by
      have hlt : id.val < s.config.receivers := h
      omega
    have hheard : (s.vfoIdAdjustBand id f).heard id (((s.vfoIdAdjustBand id f).vfo id).setDial f)
        = s.heard id ((s.vfo id).setDial f) := by
      rw [heard_congr hadjusted (s.toPassband_vfoIdAdjustBand id f id), toTuningState_vfoIdAdjustBand,
        TuningState.vfo_setVfo, Function.update_self, VfoState.adjustBand_eq]
      unfold VfoState.setDial
      dsimp only
      split <;> rfl
    dsimp only [vfoIdSetFrequency]
    rw [hadjusted, if_pos hid, hearing_rxSetFrequency, Function.update_self, hheard]
  . have hid := other_ne id
    dsimp only [vfoIdSetFrequency]
    split
    . rw [hearing_rxSetFrequency, Function.update_of_ne hid, hearing_vfoIdAdjustBand]
    . split
      . rw [hearing_setVfo, Function.update_of_ne hid, hearing_vfoIdAdjustBand]
      . rw [hearing_setVfo, Function.update_of_ne hid, hearing_vfoIdAdjustBand]

-- CTUN that is switched on puts the receiver in the middle of the window
def CtunIn (s : RadioState) (id : Fin 2) (state : Int) : Prop :=
  (s.vfo id).ctun ≠ state →
    s.DialsIn id { s.vfo id with ctun := state, ctunFrequency := (s.vfo id).frequency }

section

variable {s id} {s₁ : RadioState} (hconfig : s₁.config = s.config) (hhearing : s₁.hearing = s.hearing)
  (hfilter : (s₁.receiver id).toPassband = (s.receiver id).toPassband) (w : VfoState) (f : Int)
include hconfig hhearing hfilter

-- the end of a change of CTUN
theorem hearing_dialled
    : let s₂ := (s₁.setVfo id w).vfoIdAdjustBand id f
      (if s₂.Running id then s₂.rxSetFrequency id f else s₂).hearing
        =
      Function.update s.hearing id
        (if s.Running id then (s.heard id (w.setDial f)).refresh else s.heard id w) := by
  have hrunning : ((s₁.setVfo id w).vfoIdAdjustBand id f).Running id ↔ s.Running id := by
    unfold TuningState.Running
    rw [(onlyVfo_vfoIdAdjustBand _ _ _).config]
    exact iff_of_eq (congrArg (fun config => id.val < config.receivers) hconfig)
  have hheard : ((s₁.setVfo id w).vfoIdAdjustBand id f).heard id
        ((((s₁.setVfo id w).vfoIdAdjustBand id f).vfo id).setDial f)
      = s.heard id (w.setDial f) := by
    have hsame : ((s₁.setVfo id w).vfoIdAdjustBand id f).config = s.config := by
      rw [(onlyVfo_vfoIdAdjustBand _ _ _).config]
      exact hconfig
    rw [heard_congr hsame ((toPassband_vfoIdAdjustBand _ _ _ _).trans hfilter),
      toTuningState_vfoIdAdjustBand, TuningState.vfo_setVfo, Function.update_self,
      toTuningState_setVfo, TuningState.vfo_setVfo, Function.update_self, VfoState.adjustBand_eq]
    unfold VfoState.setDial
    dsimp only
    split <;> rfl
  dsimp only
  by_cases h : s.Running id
  . rw [if_pos h, if_pos (hrunning.mpr h), hearing_rxSetFrequency, hheard, hearing_vfoIdAdjustBand,
      hearing_setVfo, Function.update_idem, hhearing]
  . rw [if_neg h, if_neg (fun h' => h (hrunning.mp h')), hearing_vfoIdAdjustBand, hearing_setVfo,
      hhearing, heard_congr hconfig hfilter]

end

theorem hearing_setReceiver_moveNotches (delta : Int)
    : (s.setReceiver id (moveNotches (s.receiver id) delta)).hearing = s.hearing := by
  have hsame := s.sameTuning_setReceiver id
    (show (moveNotches (s.receiver id) delta).toPassband = (s.receiver id).toPassband from rfl)
  funext id'
  unfold hearing heard
  rw [hsame.toTuningState, hsame.toPassband]

theorem hearing_vfoIdCtunUpdate (state : Int)
    : (s.vfoIdCtunUpdate id state).hearing
        =
      let v := s.vfo id
      if v.ctun = state then s.hearing
      else
        let f := if state ≠ 0 then v.frequency else v.ctunFrequency
        let w :=
          if state ≠ 0 then { v with ctun := state, ctunFrequency := v.frequency, offset := 0 }
          else { v with ctun := state, frequency := v.ctunFrequency, offset := 0 }
        Function.update s.hearing id
          (if s.Running id then (s.heard id (w.setDial f)).refresh else s.heard id w) := by
  dsimp only [vfoIdCtunUpdate]
  split
  . rfl
  . by_cases hstate : state ≠ 0
    . simp only [if_pos hstate]
      apply hearing_dialled
      . rfl
      . rfl
      . rfl
    . simp only [if_neg hstate]
      apply hearing_dialled
      . split <;> rfl
      . split
        . apply hearing_setReceiver_moveNotches
        . rfl
      . split
        . rw [receiver_setReceiver, Function.update_self]
          rfl
        . rfl

theorem dialsIn_of_ctun_eq_zero {s : RadioState} {id : Fin 2} {w : VfoState} (h : w.ctun = 0)
    : s.DialsIn id w := by
  intro _ hctun
  exact absurd h hctun

theorem agreesAt_vfoIdCtunUpdate_iff (hs : ∀ id, s.AgreesAt id) (state : Int)
    : (∀ v, (s.vfoIdCtunUpdate id state).AgreesAt v) ↔ s.CtunIn id state := by
  have hrunning := (s.onlyVfo_vfoIdCtunUpdate id state).running_iff
  have hearing := s.hearing_vfoIdCtunUpdate id state
  unfold CtunIn
  by_cases hsame : (s.vfo id).ctun = state
  . have heq : s.vfoIdCtunUpdate id state = s := if_pos hsame
    rw [heq]
    exact iff_of_true hs fun h => absurd hsame h
  . simp only [if_neg hsame] at hearing
    rw [forall_prop_of_true hsame, forall_agreesAt_iff hs hrunning]
    . by_cases hstate : state ≠ 0
      . simp only [if_pos hstate] at hearing
        apply agreesAt_refreshed_iff (hrunning id)
        intro h
        rw [hearing, Function.update_self, if_pos h, VfoState.setDial, if_pos hstate]
        apply Hearing.refresh_setOffset (s.heard id
          { s.vfo id with ctun := state, ctunFrequency := (s.vfo id).frequency }) 0
      . simp only [if_neg hstate] at hearing
        have hzero : state = 0 := not_not.mp hstate
        rw [agreesAt_refreshed_iff (hrunning id) fun h => by
          rw [hearing, Function.update_self, if_pos h]]
        apply iff_of_true
        . apply dialsIn_of_ctun_eq_zero
          rw [VfoState.setDial, if_neg hstate]
          exact hzero
        . apply dialsIn_of_ctun_eq_zero
          exact hzero
    . rw [hearing, Function.update_of_ne (other_ne id)]

theorem hearing_setVfo_same {v : VfoState}
    (h : s.heard id v = s.hearing id) : (s.setVfo id v).hearing = s.hearing := by
  rw [hearing_setVfo, h]
  apply Function.update_eq_self

theorem hearing_setAgc (agc : Int)
    : (s.setReceiver id { s.receiver id with agc := agc }).hearing = s.hearing := by
  have hsame := s.sameTuning_setReceiver id
    (show ({ s.receiver id with agc := agc } : ReceiverState).toPassband
      = (s.receiver id).toPassband from rfl)
  funext id'
  unfold hearing heard
  rw [hsame.toTuningState, hsame.toPassband]

theorem hearing_profilesLoadRxProfile (m : Int)
    : (s.profilesLoadRxProfile id m).hearing
        =
      Function.update s.hearing id
        ((s.hearing id).refilter (((s.vfo id).loadProfile (s.profile m)).passband s.config)) := by
  have hset : (s.setVfo id ((s.vfo id).loadProfile (s.profile m))).hearing = s.hearing :=
    s.hearing_setVfo_same id rfl
  dsimp only [profilesLoadRxProfile]
  rw [hearing_rxFilterChanged, hearing_setAgc, hset,
    toTuningState_setReceiver, toTuningState_setVfo, TuningState.vfo_setVfo, Function.update_self]
  rfl

theorem hearing_profilesLoadRxtxProfile
    : (s.profilesLoadRxtxProfile id).hearing
        =
      Function.update s.hearing id
        ((s.hearing id).refilter
          (((s.vfo id).loadProfile (s.profile (s.vfo id).mode)).passband s.config)) := by
  rw [← hearing_profilesLoadRxProfile]
  cases s.profilesLoadRxtxProfile_eq id with
  | inl h => rw [h]
  | inr h =>
    rw [h]
    apply hearing_of_receiver
    . apply toTuningState_profilesLoadTxProfile
    . apply receiver_profilesLoadTxProfile

-- the VFO `v` in the mode `m`, with the settings that are stored with the mode
def inMode (s : RadioState) (v : VfoState) (m : Int) : VfoState :=
  { v with mode := m }.loadProfile (s.profile m)

theorem hearing_vfoIdModeChanged (m : Int)
    : (s.vfoIdModeChanged id m).hearing
        =
      if s.Running id then
        Function.update s.hearing id
          ((s.hearing id).refilter ((s.inMode (s.vfo id) m).passband s.config))
      else
        s.hearing := by
  dsimp only [vfoIdModeChanged]
  rw [hearing_txSetFilter]
  have hset : (s.setVfo id { s.vfo id with mode := m }).hearing = s.hearing :=
    s.hearing_setVfo_same id rfl
  have hrunning : (s.setVfo id { s.vfo id with mode := m }).Running id ↔ s.Running id := Iff.rfl
  split
  next h =>
    have hvfo : ((s.setVfo id { s.vfo id with mode := m }).profilesLoadRxtxProfile id).vfo id
        = s.inMode (s.vfo id) m := by
      rw [toTuningState_profilesLoadRxtxProfile, TuningState.vfo_setVfo, Function.update_self,
        toTuningState_setVfo, TuningState.vfo_setVfo, Function.update_self]
      rfl
    have hconfig : ((s.setVfo id { s.vfo id with mode := m }).profilesLoadRxtxProfile id).config
        = s.config := by
      rw [toTuningState_profilesLoadRxtxProfile]
      rfl
    have hloaded : ((s.setVfo id { s.vfo id with mode := m }).profilesLoadRxtxProfile id).hearing
        = Function.update s.hearing id
          ((s.hearing id).refilter ((s.inMode (s.vfo id) m).passband s.config)) := by
      rw [hearing_profilesLoadRxtxProfile, hset, toTuningState_setVfo, TuningState.vfo_setVfo,
        Function.update_self]
      rfl
    rw [if_pos (hrunning.mp h), hearing_rxFilterChanged, rxModeChanged, toTuningState_rxFilterChanged,
      hearing_rxFilterChanged, hloaded, hvfo, hconfig]
    simp [Hearing.refilter]
  next h => rw [if_neg (fun h' => h (hrunning.mpr h')), hset]

theorem agreesAt_vfoIdModeChanged_iff (hs : ∀ id, s.AgreesAt id) (m : Int)
    : (∀ v, (s.vfoIdModeChanged id m).AgreesAt v)
        ↔
      s.FiltersIn id ((s.inMode (s.vfo id) m).passband s.config) := by
  have honly := s.onlyVfo_of_setVfo id (s.toTuningState_vfoIdModeChanged id m)
  have hearing := s.hearing_vfoIdModeChanged id m
  rw [forall_agreesAt_iff hs honly.running_iff]
  . apply agreesAt_refilter_iff (hs id) (honly.running_iff id)
    intro h
    rw [hearing, if_pos h, Function.update_self]
  . rw [hearing]
    split
    . rw [Function.update_of_ne (other_ne id)]
    . rfl

theorem hearing_storeFilter (f : Int) : (s.storeFilter id f).hearing = s.hearing := by
  apply hearing_of_receiver
  . apply toTuningState_storeFilter
  . dsimp only [storeFilter]
    split <;> rfl

theorem hearing_rxFilterChangedIfRunning (v : Fin 2)
    : (s.rxFilterChangedIfRunning id).hearing v
        =
      if s.Running v ∧ v = id then
        (s.hearing v).refilter ((s.vfo v).passband s.config)
      else
        s.hearing v := by
  unfold rxFilterChangedIfRunning
  by_cases hv : v = id
  . subst hv
    simp only [and_true]
    split
    . rw [hearing_rxFilterChanged, Function.update_self]
    . rfl
  . have hnot : ¬ (s.Running v ∧ v = id) := fun h => hv h.2
    rw [if_neg hnot]
    by_cases h : s.Running id
    . rw [if_pos h, hearing_rxFilterChanged, Function.update_of_ne hv]
    . rw [if_neg h]

-- the filters of both receivers are applied
theorem hearing_rxFilterChangedIfRunning_both (v : Fin 2)
    : ((s.rxFilterChangedIfRunning 0).rxFilterChangedIfRunning 1).hearing v
        =
      if s.Running v then
        (s.hearing v).refilter ((s.vfo v).passband s.config)
      else
        s.hearing v := by
  rw [hearing_rxFilterChangedIfRunning, hearing_rxFilterChangedIfRunning,
    toTuningState_rxFilterChangedIfRunning]
  match v with
  | 0 => simp
  | 1 => simp

-- the filter of which VFOs is applied once more when a filter is selected
def Refiltered (id v : Fin 2) (f : Int) : Prop :=
  v = id ∨ f = filterVar1 ∨ f = filterVar2

instance (id v : Fin 2) (f : Int) : Decidable (Refiltered id v f) := by
  unfold Refiltered
  infer_instance

theorem hearing_vfoIdFilterChanged (f : Int) (v : Fin 2)
    : (s.vfoIdFilterChanged id f).hearing v
        =
      if s.Running v ∧ Refiltered id v f then
        (s.hearing v).refilter
          ((Function.update s.vfo id { s.vfo id with filter := f } v).passband s.config)
      else
        s.hearing v := by
  have hstored : ((s.setVfo id { s.vfo id with filter := f }).storeFilter id f).toTuningState
      = s.toTuningState.setVfo id { s.vfo id with filter := f } := by
    rw [toTuningState_storeFilter, toTuningState_setVfo]
  have hearing : ((s.setVfo id { s.vfo id with filter := f }).storeFilter id f).hearing
      = s.hearing := by
    rw [hearing_storeFilter]
    exact s.hearing_setVfo_same id rfl
  dsimp only [vfoIdFilterChanged]
  unfold Refiltered
  split
  next hvar =>
    simp only [hvar, or_true, and_true]
    rw [hearing_rxFilterChangedIfRunning_both, hstored, hearing]
    rfl
  next hvar =>
    simp only [hvar, or_false]
    rw [hearing_rxFilterChangedIfRunning, hstored, hearing]
    rfl

theorem agreesAt_vfoIdFilterChanged_iff (hs : ∀ id, s.AgreesAt id) (f : Int)
    : (∀ v, (s.vfoIdFilterChanged id f).AgreesAt v)
        ↔
      ∀ v, Refiltered id v f →
        s.FiltersIn v
          ((Function.update s.vfo id { s.vfo id with filter := f } v).passband s.config) := by
  have hrunning := (s.onlyVfo_of_setVfo id (s.toTuningState_vfoIdFilterChanged id f)).running_iff
  apply forall_congr'
  intro v
  have hearing := s.hearing_vfoIdFilterChanged id f v
  by_cases hv : Refiltered id v f
  . rw [forall_prop_of_true hv]
    apply agreesAt_refilter_iff (hs v) (hrunning v)
    intro h
    rw [hearing, if_pos ⟨h, hv⟩]
  . rw [agreesAt_same_iff (hrunning v) fun _ => by rw [hearing, if_neg fun h => hv h.2]]
    simp [hv, hs v]

end RadioState
