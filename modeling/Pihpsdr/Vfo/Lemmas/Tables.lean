import Pihpsdr.Lib.Assoc
import Pihpsdr.Vfo.Lemmas.Fits

/-!
The tables of the modes and the filters are used inside of their bounds only: what lies around them
neither matters nor changes, as long as all modes and filters exist.
-/

def FilterExists (f : Int) : Prop :=
  0 ≤ f ∧ f < 12

def AgcExists (agc : Int) : Prop :=
  0 ≤ agc ∧ agc < 7

def CtcssExists (i : Int) : Prop :=
  0 ≤ i ∧ i < 38

instance (f : Int) : Decidable (FilterExists f) :=
  inferInstanceAs (Decidable (_ ∧ _))

instance (agc : Int) : Decidable (AgcExists agc) :=
  inferInstanceAs (Decidable (_ ∧ _))

instance (i : Int) : Decidable (CtcssExists i) :=
  inferInstanceAs (Decidable (_ ∧ _))

structure VfoState.InRange (v : VfoState) : Prop where
  mode : ModeExists v.mode
  filter : FilterExists v.filter

structure BandstackEntry.InRange (entry : BandstackEntry) : Prop where
  mode : ModeExists entry.mode
  filter : FilterExists entry.filter
  ctcss : CtcssExists entry.ctcss

structure RxtxProfile.InRange (profile : RxtxProfile) : Prop where
  filter : FilterExists profile.filter
  agc : AgcExists profile.agc

def BandstackState.InRange (stack : BandstackState) : Prop :=
  ∀ i, stack.Contains i → (stack.entry i).InRange

structure RadioState.InRange (s : RadioState) : Prop extends s.toTuningState.IndicesValid where
  vfoInRange : ∀ id, (s.vfo id).InRange
  stackInRange : ∀ b, (s.bands b).bandstack.InRange
  agc : ∀ id, AgcExists (s.receiver id).agc
  ctcss : ∀ tx, s.transmitter = some tx → CtcssExists tx.ctcss
  profileInRange : ∀ m, ModeExists m → (s.profile m).InRange
  receivers : s.config.receivers ≤ 2

-- the memory around the tables of the profiles and of the filters
structure TableSurroundings where
  profile : Int → RxtxProfile
  filters : Int → Int → FilterEdges

namespace RadioState

def within (s : RadioState) (o : TableSurroundings) : RadioState :=
  { s with
    config := { s.config with filters := Table.within₂ 12 12 s.config.filters o.filters }
    profile := Table.within 12 s.profile o.profile }

/--
The states `s` and `t` differ in the memory around the tables only, and all values of `s` exist.
-/
structure Alike (o : TableSurroundings) (s t : RadioState) : Prop where
  inRange : s.InRange
  eq : t = s.within o

variable {o : TableSurroundings} {s t : RadioState}

theorem InRange.alike (h : s.InRange) : Alike o s (s.within o) :=
  ⟨h, rfl⟩

theorem Alike.ite {c c' : Prop} [Decidable c] [Decidable c'] (hc : c' ↔ c) {s' t' : RadioState}
    (h : Alike o s t) (h' : Alike o s' t')
    : Alike o (if c then s else s') (if c' then t else t') := by
  by_cases hcond : c
  . rw [if_pos hcond, if_pos (hc.mpr hcond)]
    exact h
  . rw [if_neg hcond, if_neg (fun hcond' => hcond (hc.mp hcond'))]
    exact h'

-- a function that is applied under a condition
theorem Alike.applyIf (h : Alike o s t) (c : RadioState → Prop) [∀ s, Decidable (c s)]
    (g : RadioState → RadioState) (hc : ∀ s, c (s.within o) ↔ c s)
    (hg : ∀ {s t}, Alike o s t → Alike o (g s) (g t))
    : Alike o (if c s then g s else s) (if c t then g t else t) := by
  apply Alike.ite _ (hg h) h
  rw [h.eq]
  apply hc

-- a part of the state that no range is about
theorem Alike.of_same (h : Alike o s t) {s' t' : RadioState} (hvfo : s'.vfo = s.vfo)
    (hstack : ∀ b, (s'.bands b).bandstack = (s.bands b).bandstack)
    (hagc : ∀ id, (s'.receiver id).agc = (s.receiver id).agc)
    (hctcss : ∀ tx, s'.transmitter = some tx → ∃ tx', s.transmitter = some tx' ∧ tx.ctcss = tx'.ctcss)
    (hprofile : s'.profile = s.profile) (hreceivers : s'.config.receivers = s.config.receivers)
    (heq : t' = s'.within o)
    : Alike o s' t' where
  inRange := by
    have hs := h.inRange
    constructor
    . constructor
      . intro id
        rw [hvfo, hstack]
        apply hs.vfo
      . intro b
        rw [hstack]
        apply hs.current
    . intro id
      rw [hvfo]
      apply hs.vfoInRange
    . intro b
      rw [hstack]
      apply hs.stackInRange
    . intro id
      rw [hagc]
      apply hs.agc
    . intro tx htx
      have ⟨tx', htx', hsame⟩ := hctcss tx htx
      rw [hsame]
      apply hs.ctcss tx' htx'
    . rw [hprofile]
      exact hs.profileInRange
    . rw [hreceivers]
      exact hs.receivers
  eq := heq

theorem Alike.setVfo (h : Alike o s t) (id : Fin 2) {v v' : VfoState} (hv : v.InRange)
    (hindex : (s.bands v.band).bandstack.Contains v.bandstack) (heq : v' = v)
    : Alike o (s.setVfo id v) (t.setVfo id v') where
  inRange := by
    have hs := h.inRange
    refine ⟨hs.toIndicesValid.setVfo id hindex, ?_, hs.stackInRange, hs.agc, hs.ctcss,
      hs.profileInRange, hs.receivers⟩
    intro id'
    rw [toTuningState_setVfo, TuningState.vfo_setVfo]
    by_cases hid : id' = id
    . rw [hid, Function.update_self]
      exact hv
    . rw [Function.update_of_ne hid]
      apply hs.vfoInRange
  eq := by
    rw [h.eq, heq]
    rfl

theorem Alike.setVfo_of_eq (h : Alike o s t) {id : Fin 2} {v v' : VfoState} (hv : v.InRange)
    (hband : v.band = (s.vfo id).band) (hindex : v.bandstack = (s.vfo id).bandstack) (heq : v' = v)
    : Alike o (s.setVfo id v) (t.setVfo id v') := by
  apply h.setVfo id hv _ heq
  rw [hband, hindex]
  apply h.inRange.vfo

theorem Alike.setReceiver (h : Alike o s t) (id : Fin 2) {rx rx' : ReceiverState}
    (hrx : AgcExists rx.agc) (heq : rx' = rx)
    : Alike o (s.setReceiver id rx) (t.setReceiver id rx') where
  inRange := by
    have hs := h.inRange
    refine ⟨hs.toIndicesValid, hs.vfoInRange, hs.stackInRange, ?_, hs.ctcss, hs.profileInRange, hs.receivers⟩
    intro id'
    rw [receiver_setReceiver]
    by_cases hid : id' = id
    . rw [hid, Function.update_self]
      exact hrx
    . rw [Function.update_of_ne hid]
      apply hs.agc
  eq := by
    rw [h.eq, heq]
    rfl

theorem Alike.setBandstack (h : Alike o s t) (b : BandIndex) {stack stack' : BandstackState}
    (hentries : stack.entries = (s.bands b).bandstack.entries)
    (hcurrent : stack.Contains stack.currentEntry) (hstack : stack.InRange) (heq : stack' = stack)
    : Alike o (s.setBandstack b stack) (t.setBandstack b stack') where
  inRange := by
    have hs := h.inRange
    refine ⟨hs.toIndicesValid.setBandstack b hentries hcurrent, hs.vfoInRange, ?_, hs.agc, hs.ctcss,
      hs.profileInRange, hs.receivers⟩
    intro b'
    rw [toTuningState_setBandstack]
    by_cases hb : b' = b
    . rw [hb, TuningState.bandstack_setBandstack_self]
      exact hstack
    . rw [TuningState.bandstack_setBandstack_of_ne _ hb]
      apply hs.stackInRange
  eq := by
    rw [h.eq, heq]
    rfl

theorem Alike.setBand (h : Alike o s t) (b : BandIndex) {band band' : BandState}
    (hstack : band.bandstack = (s.bands b).bandstack) (heq : band' = band)
    : Alike o (s.setBand b band) (t.setBand b band') := by
  refine h.of_same rfl ?_ (fun _ => rfl) (fun tx htx => ⟨tx, htx, rfl⟩) rfl rfl ?_
  . intro b'
    dsimp only [RadioState.setBand]
    rw [TuningState.bands_setBand]
    by_cases hb : b' = b
    . rw [hb, Function.update_self]
      exact hstack
    . rw [Function.update_of_ne hb]
  . rw [h.eq, heq]
    rfl

theorem Alike.setAdc (h : Alike o s t) {adc adc' : Adcs} (heq : adc' = adc)
    : Alike o { s with adc := adc } { t with adc := adc' } := by
  refine h.of_same rfl (fun _ => rfl) (fun _ => rfl) (fun tx htx => ⟨tx, htx, rfl⟩) rfl rfl ?_
  rw [h.eq, heq]
  rfl

theorem Alike.storeWithBand (h : Alike o s t) (id : Fin 2) {store : BandState → BandState}
    (hstore : ∀ band, (store band).bandstack = band.bandstack)
    : Alike o (s.storeWithBand id store) (t.storeWithBand id store) := by
  obtain ⟨hs, rfl⟩ := h
  apply Alike.ite Iff.rfl _ hs.alike
  exact hs.alike.setBand _ (hstore _) rfl

theorem Alike.radioSetAttenuation (h : Alike o s t) (id : Fin 2) (value : Int)
    : Alike o (s.radioSetAttenuation id value) (t.radioSetAttenuation id value) := by
  obtain ⟨hs, rfl⟩ := h
  apply Alike.ite Iff.rfl hs.alike
  apply Alike.storeWithBand
  . exact hs.alike.setAdc rfl
  . intro band
    rfl

theorem Alike.radioSetRfGain (h : Alike o s t) (id : Fin 2) (value : ℚ)
    : Alike o (s.radioSetRfGain id value) (t.radioSetRfGain id value) := by
  obtain ⟨hs, rfl⟩ := h
  apply Alike.ite Iff.rfl hs.alike
  apply Alike.storeWithBand
  . exact hs.alike.setAdc rfl
  . intro band
    rfl

theorem Alike.radioSetC25Att (h : Alike o s t) (id : Fin 2) (val : Int)
    : Alike o (s.radioSetC25Att id val) (t.radioSetC25Att id val) := by
  obtain ⟨hs, rfl⟩ := h
  apply Alike.ite Iff.rfl hs.alike
  apply Alike.ite Iff.rfl _ hs.alike
  exact hs.alike.setAdc rfl

theorem Alike.setReceiverIfRunning (h : Alike o s t) (id : Fin 2)
    {set : ReceiverState → ReceiverState} (hset : ∀ rx, (set rx).agc = rx.agc)
    : Alike o (s.setReceiverIfRunning id set) (t.setReceiverIfRunning id set) := by
  obtain ⟨hs, rfl⟩ := h
  apply Alike.ite Iff.rfl _ hs.alike
  apply hs.alike.setReceiver id _ rfl
  rw [hset]
  apply hs.agc

theorem Alike.radioSetPanhigh (h : Alike o s t) (id : Fin 2) (value : Int)
    : Alike o (s.radioSetPanhigh id value) (t.radioSetPanhigh id value) := by
  refine Alike.storeWithBand ?_ id (fun _ => rfl)
  exact h.setReceiverIfRunning id (fun _ => rfl)

theorem Alike.radioSetPanlow (h : Alike o s t) (id : Fin 2) (value : Int)
    : Alike o (s.radioSetPanlow id value) (t.radioSetPanlow id value) := by
  refine Alike.storeWithBand ?_ id (fun _ => rfl)
  exact h.setReceiverIfRunning id (fun _ => rfl)

theorem Alike.radioSetPanstep (h : Alike o s t) (id : Fin 2) (value : Int)
    : Alike o (s.radioSetPanstep id value) (t.radioSetPanstep id value) := by
  refine Alike.storeWithBand ?_ id (fun _ => rfl)
  exact h.setReceiverIfRunning id (fun _ => rfl)

theorem Alike.radioSetAgcGain (h : Alike o s t) (id : Fin 2) (value : ℚ)
    : Alike o (s.radioSetAgcGain id value) (t.radioSetAgcGain id value) := by
  obtain ⟨hs, rfl⟩ := h
  have hset : Alike o (s.setReceiver id { s.receiver id with agcGain := value })
      ((s.within o).setReceiver id { (s.within o).receiver id with agcGain := value }) :=
    hs.alike.setReceiver id (hs.agc id) rfl
  apply Alike.ite Iff.rfl hs.alike
  apply Alike.ite Iff.rfl _ hset
  exact hset.storeWithBand id (fun _ => rfl)

theorem Alike.applyAntennas (h : Alike o s t) (flag : Bool) (rxadc : Fin 3) (rxband : BandState)
    : Alike o (s.applyAntennas flag rxadc rxband) (t.applyAntennas flag rxadc rxband) := by
  obtain ⟨hs, rfl⟩ := h
  apply Alike.ite Iff.rfl hs.alike
  refine hs.alike.of_same rfl (fun _ => rfl) (fun _ => rfl) ?_ rfl rfl rfl
  intro tx htx
  have ⟨tx', htx', heq⟩ := Option.map_eq_some_iff.mp htx
  refine ⟨tx', htx', ?_⟩
  rw [← heq]

theorem Alike.applyLevels (h : Alike o s t) (id : Fin 2) (rxband : BandState)
    : Alike o (s.applyLevels id rxband) (t.applyLevels id rxband) := by
  obtain ⟨hs, rfl⟩ := h
  apply Alike.ite Iff.rfl
  . exact hs.alike.radioSetC25Att 0 _
  . exact (hs.alike.radioSetAttenuation id _).radioSetRfGain id _

theorem Alike.applyDisplay (h : Alike o s t) (id : Fin 2) (rxband : BandState)
    : Alike o (s.applyDisplay id rxband) (t.applyDisplay id rxband) := by
  have hpan := ((h.radioSetPanhigh id rxband.panhigh).radioSetPanlow id rxband.panlow).radioSetPanstep
    id rxband.panstep
  dsimp only [RadioState.applyDisplay]
  rw [hpan.eq]
  have hpan' := hpan.inRange.alike (o := o)
  apply Alike.ite Iff.rfl _ hpan'
  exact hpan'.radioSetAgcGain id _

theorem Alike.radioApplyBandSettings (h : Alike o s t) (flag : Bool) (id : Fin 2)
    : Alike o (s.radioApplyBandSettings flag id) (t.radioApplyBandSettings flag id) := by
  obtain ⟨hs, rfl⟩ := h
  have hantennas := hs.alike.applyAntennas (o := o) flag
    (if s.Running id then s.config.rxAdc id else 0) (s.bands (s.vfo id).band)
  apply Alike.ite Iff.rfl
  . exact (hantennas.applyLevels id _).applyDisplay id _
  . exact hantennas

theorem profilesCopyRxtxprofile_within {mode : Int} (hmode : ModeExists mode)
    (profile g : Int → RxtxProfile)
    : profilesCopyRxtxprofile (Table.within 12 profile g) mode
        = Table.within 12 (profilesCopyRxtxprofile profile mode) g := by
  have hcwu : Table.Has 12 modeCwu := by decide
  have hcwl : Table.Has 12 modeCwl := by decide
  have hdigu : Table.Has 12 modeDigu := by decide
  have hdigl : Table.Has 12 modeDigl := by decide
  have hlsb : Table.Has 12 modeLsb := by decide
  have husb : Table.Has 12 modeUsb := by decide
  have hdsb : Table.Has 12 modeDsb := by decide
  unfold profilesCopyRxtxprofile
  rw [Table.within_of_has hmode]
  split
  . rw [Table.update_within hcwu, Table.update_within hcwl]
  . split
    . rw [Table.update_within hdigu, Table.update_within hdigl]
    . split
      . rw [Table.update_within hlsb, Table.update_within husb, Table.update_within hdsb]
      . rfl

-- the profile of an existing mode
theorem profile_within {mode : Int} (hmode : ModeExists mode)
    : (s.within o).profile mode = s.profile mode :=
  Table.within_of_has hmode _ _

theorem Alike.storeProfile (h : Alike o s t) {mode : Int} (hmode : ModeExists mode)
    {p q : RxtxProfile} (hp : p.InRange) (heq : q = p)
    : Alike o
        { s with profile := profilesCopyRxtxprofile (Function.update s.profile mode p) mode }
        { t with profile := profilesCopyRxtxprofile (Function.update t.profile mode q) mode } where
  inRange := by
    have hs := h.inRange
    refine ⟨hs.toIndicesValid, hs.vfoInRange, hs.stackInRange, hs.agc, hs.ctcss, ?_, hs.receivers⟩
    apply forall_profilesCopyRxtxprofile RxtxProfile.InRange _ hmode
    exact forall_profile_update RxtxProfile.InRange hs.profileInRange hp
  eq := by
    have hprofile : t.profile = Table.within 12 s.profile o.profile := by
      rw [h.eq]
      rfl
    rw [hprofile, heq, Table.update_within hmode, profilesCopyRxtxprofile_within hmode, h.eq]
    rfl

theorem Alike.setTransmitter (h : Alike o s t) {x y : TransmitterState}
    (hctcss : CtcssExists x.ctcss) (heq : y = x)
    : Alike o { s with transmitter := some x } { t with transmitter := some y } where
  inRange := by
    have hs := h.inRange
    refine ⟨hs.toIndicesValid, hs.vfoInRange, hs.stackInRange, hs.agc, ?_, hs.profileInRange, hs.receivers⟩
    intro tx htx
    cases htx
    exact hctcss
  eq := by
    rw [h.eq, heq]
    rfl

theorem InRange.txMode (h : s.InRange) : ModeExists s.txMode :=
  (h.vfoInRange s.txVfo).mode

theorem Alike.txSetFilter (h : Alike o s t) : Alike o s.txSetFilter t.txSetFilter := by
  obtain ⟨hs, rfl⟩ := h
  have htransmitter : (s.within o).transmitter = s.transmitter := rfl
  unfold RadioState.txSetFilter
  rw [htransmitter]
  cases htx : s.transmitter with
  | none => exact hs.alike
  | some tx =>
    have hprofile := hs.profileInRange s.txMode hs.txMode
    have hstored := hs.alike.storeProfile (o := o) hs.txMode
      (p := { s.profile s.txMode with useRxFilter := tx.useRxFilter }) { hprofile with }
      (q := { (s.within o).profile s.txMode with useRxFilter := tx.useRxFilter })
      (by rw [profile_within hs.txMode])
    exact hstored.setTransmitter (x := { tx with deviation := (s.vfo s.txVfo).deviation })
      (hs.ctcss tx htx) rfl

theorem agc_setFilter (rx : ReceiverState) (config : RadioConfig) (v : VfoState)
    : (rx.setFilter config v).agc = rx.agc := by
  unfold ReceiverState.setFilter
  dsimp only
  split_ifs <;> rfl

-- the filter of a VFO is inside of the table
theorem setFilter_within (rx : ReceiverState) {v : VfoState} (hv : v.InRange)
    : rx.setFilter (s.within o).config v = rx.setFilter s.config v := by
  have hfilter : (s.within o).config.filters v.mode v.filter = s.config.filters v.mode v.filter :=
    Table.within₂_of_has hv.mode hv.filter _ _
  unfold ReceiverState.setFilter
  rw [hfilter]
  rfl

theorem Alike.rxSetFilter (h : Alike o s t) (id : Fin 2)
    : Alike o (s.rxSetFilter id) (t.rxSetFilter id) := by
  obtain ⟨hs, rfl⟩ := h
  apply hs.alike.setReceiver
  . rw [agc_setFilter]
    apply hs.agc
  . exact setFilter_within _ (hs.vfoInRange id)

theorem Alike.rxFilterChanged (h : Alike o s t) (id : Fin 2)
    : Alike o (s.rxFilterChanged id) (t.rxFilterChanged id) := by
  have hset := h.rxSetFilter id
  dsimp only [RadioState.rxFilterChanged]
  rw [hset.eq]
  have hset' := hset.inRange.alike (o := o)
  have htransmitter : ((s.rxSetFilter id).within o).transmitter = (s.rxSetFilter id).transmitter := rfl
  rw [htransmitter]
  cases (s.rxSetFilter id).transmitter with
  | none => exact hset'
  | some tx =>
    apply Alike.ite Iff.rfl _ hset'
    exact hset'.txSetFilter

theorem Alike.rxFilterChangedIfRunning (h : Alike o s t) (id : Fin 2)
    : Alike o (s.rxFilterChangedIfRunning id) (t.rxFilterChangedIfRunning id) := by
  obtain ⟨hs, rfl⟩ := h
  apply Alike.ite Iff.rfl _ hs.alike
  exact hs.alike.rxFilterChanged id

theorem Alike.profilesLoadRxProfile (h : Alike o s t) (id : Fin 2) {m : Int} (hm : ModeExists m)
    : Alike o (s.profilesLoadRxProfile id m) (t.profilesLoadRxProfile id m) := by
  obtain ⟨hs, rfl⟩ := h
  have hprofile := hs.profileInRange m hm
  apply Alike.rxFilterChanged
  apply Alike.setReceiver
  . apply hs.alike.setVfo_of_eq
    . exact ⟨(hs.vfoInRange id).mode, hprofile.filter⟩
    . rfl
    . rfl
    . rw [profile_within hm]
      rfl
  . exact hprofile.agc
  . rw [profile_setVfo, profile_setVfo, profile_within hm]
    rfl

theorem Alike.profilesLoadTxProfile (h : Alike o s t) {m : Int} (hm : ModeExists m)
    : Alike o (s.profilesLoadTxProfile m) (t.profilesLoadTxProfile m) := by
  obtain ⟨hs, rfl⟩ := h
  have htransmitter : (s.within o).transmitter = s.transmitter := rfl
  unfold RadioState.profilesLoadTxProfile
  rw [htransmitter]
  cases htx : s.transmitter with
  | none => exact hs.alike
  | some tx =>
    apply Alike.txSetFilter
    apply hs.alike.setTransmitter
    . exact hs.ctcss tx htx
    . rw [profile_within hm]

theorem Alike.profilesLoadRxtxProfile (h : Alike o s t) (id : Fin 2)
    : Alike o (s.profilesLoadRxtxProfile id) (t.profilesLoadRxtxProfile id) := by
  obtain ⟨hs, rfl⟩ := h
  have hm := (hs.vfoInRange id).mode
  have hload := hs.alike.profilesLoadRxProfile (o := o) id hm
  dsimp only [RadioState.profilesLoadRxtxProfile]
  have hmode : ((s.within o).vfo id).mode = (s.vfo id).mode := rfl
  rw [hmode, hload.eq]
  have hload' := hload.inRange.alike (o := o)
  apply Alike.ite Iff.rfl _ hload'
  exact hload'.profilesLoadTxProfile hm

theorem Alike.loadProfileIf (h : Alike o s t) (id : Fin 2) {changed changed' : Bool}
    (heq : changed' = changed)
    : Alike o (s.loadProfileIf id changed) (t.loadProfileIf id changed') := by
  rw [heq]
  apply Alike.ite Iff.rfl _ h
  exact h.profilesLoadRxtxProfile id

theorem inRange_frequencyChanged {v : VfoState} (h : v.InRange) (rx : Passband) (rate : Int)
    : (v.frequencyChanged rx rate).InRange := by
  dsimp only [VfoState.frequencyChanged]
  split
  . exact { h with }
  . exact { h with }

theorem Alike.rxFrequencyChanged (h : Alike o s t) (id : Fin 2)
    : Alike o (s.rxFrequencyChanged id) (t.rxFrequencyChanged id) := by
  obtain ⟨hs, rfl⟩ := h
  apply hs.alike.setVfo_of_eq
  . exact inRange_frequencyChanged (hs.vfoInRange id) _ _
  . apply VfoState.band_frequencyChanged
  . apply VfoState.bandstack_frequencyChanged
  . rfl

theorem Alike.rxFrequencyChangedIfRunning (h : Alike o s t) (id : Fin 2)
    : Alike o (s.rxFrequencyChangedIfRunning id) (t.rxFrequencyChangedIfRunning id) := by
  obtain ⟨hs, rfl⟩ := h
  apply Alike.ite Iff.rfl _ hs.alike
  exact hs.alike.rxFrequencyChanged id

theorem setDial_inRange {v : VfoState} (h : v.InRange) (f : Int) : (v.setDial f).InRange := by
  unfold VfoState.setDial
  split
  . exact { h with }
  . exact { h with }

theorem Alike.setVfoDial (h : Alike o s t) (id : Fin 2) (f : Int)
    : Alike o (s.setVfo id ((s.vfo id).setDial f)) (t.setVfo id ((t.vfo id).setDial f)) := by
  obtain ⟨hs, rfl⟩ := h
  apply hs.alike.setVfo_of_eq
  . exact setDial_inRange (hs.vfoInRange id) f
  . apply VfoState.band_setDial
  . unfold VfoState.setDial
    split <;> rfl
  . rfl

theorem Alike.rxSetFrequency (h : Alike o s t) (id : Fin 2) (f : Int)
    : Alike o (s.rxSetFrequency id f) (t.rxSetFrequency id f) :=
  (h.setVfoDial id f).rxFrequencyChanged id

theorem Alike.rxVfoChanged (h : Alike o s t) (id : Fin 2)
    : Alike o (s.rxVfoChanged id) (t.rxVfoChanged id) :=
  (h.rxFrequencyChanged id).rxFilterChanged id

theorem Alike.setSplit (h : Alike o s t) (val : Int)
    : Alike o { s with split := val } { t with split := val } := by
  refine h.of_same rfl (fun _ => rfl) (fun _ => rfl) (fun tx htx => ⟨tx, htx, rfl⟩) rfl rfl ?_
  rw [h.eq]
  rfl

theorem Alike.radioSetSplit (h : Alike o s t) (val : Int)
    : Alike o (s.radioSetSplit val) (t.radioSetSplit val) := by
  obtain ⟨hs, rfl⟩ := h
  apply Alike.ite Iff.rfl _ hs.alike
  exact (hs.alike.setSplit val).txSetFilter.radioApplyBandSettings false 0

theorem Alike.vfoIdAdjustBand (h : Alike o s t) (id : Fin 2) (f : Int)
    : Alike o (s.vfoIdAdjustBand id f) (t.vfoIdAdjustBand id f) := by
  obtain ⟨hs, rfl⟩ := h
  apply Alike.ite Iff.rfl hs.alike
  apply Alike.ite Iff.rfl _ hs.alike
  apply Alike.radioApplyBandSettings
  apply hs.alike.setVfo
  . exact { hs.vfoInRange id with }
  . apply hs.current
  . rfl

theorem Alike.setDial (h : Alike o s t) (id : Fin 2) (f : Int)
    : Alike o (s.setDial id f) (t.setDial id f) :=
  (h.setVfoDial id f).vfoIdAdjustBand id f

theorem Alike.satFollow (h : Alike o s t) (id : Fin 2) (delta : Int)
    : Alike o (s.satFollow id delta) (t.satFollow id delta) := by
  obtain ⟨hs, rfl⟩ := h
  apply Alike.ite Iff.rfl
  . exact (hs.alike.setDial _ _).rxFrequencyChangedIfRunning _
  . apply Alike.ite Iff.rfl _ hs.alike
    exact (hs.alike.setDial _ _).rxFrequencyChangedIfRunning _

theorem Alike.vfoIdStep (h : Alike o s t) (id : Fin 2) (st : Int)
    : Alike o (s.vfoIdStep id st) (t.vfoIdStep id st) := by
  obtain ⟨hs, rfl⟩ := h
  apply Alike.ite Iff.rfl hs.alike
  apply Alike.ite Iff.rfl hs.alike
  exact ((hs.alike.setDial _ _).satFollow _ _).rxFrequencyChangedIfRunning _

theorem Alike.vfoIdMove (h : Alike o s t) (id : Fin 2) (hz : Int) (rounded : Bool)
    : Alike o (s.vfoIdMove id hz rounded) (t.vfoIdMove id hz rounded) := by
  obtain ⟨hs, rfl⟩ := h
  apply Alike.ite Iff.rfl hs.alike
  apply Alike.ite Iff.rfl hs.alike
  exact ((hs.alike.setDial _ _).satFollow _ _).rxFrequencyChangedIfRunning _

theorem Alike.rxSetFrequencyIfRunning (h : Alike o s t) (id : Fin 2) (f : Int)
    : Alike o (if s.Running id then s.rxSetFrequency id f else s)
        (if t.Running id then t.rxSetFrequency id f else t) :=
  h.applyIf (·.Running id) (·.rxSetFrequency id f) (fun _ => Iff.rfl) (·.rxSetFrequency id f)

theorem Alike.moveNotchesIfRunning (h : Alike o s t) (id : Fin 2) (delta : Int)
    : Alike o (s.setReceiverIfRunning id (moveNotches · delta))
        (t.setReceiverIfRunning id (moveNotches · delta)) :=
  h.setReceiverIfRunning id (fun _ => rfl)

theorem Alike.vfoIdCtunUpdate (h : Alike o s t) (id : Fin 2) (state : Int)
    : Alike o (s.vfoIdCtunUpdate id state) (t.vfoIdCtunUpdate id state) := by
  obtain ⟨hs, rfl⟩ := h
  have hv := hs.vfoInRange id
  apply Alike.ite Iff.rfl hs.alike
  apply Alike.ite Iff.rfl
  . apply Alike.rxSetFrequencyIfRunning
    apply Alike.vfoIdAdjustBand
    exact hs.alike.setVfo_of_eq { hv with } rfl rfl rfl
  . apply Alike.rxSetFrequencyIfRunning
    apply Alike.vfoIdAdjustBand
    have hnotches := hs.alike.moveNotchesIfRunning (o := o) id
      ((s.vfo id).frequency - (s.vfo id).ctunFrequency)
    refine hnotches.setVfo id { hv with } ?_ rfl
    unfold RadioState.setReceiverIfRunning
    split <;> exact hs.vfo id

theorem Alike.setCtcss (h : Alike o s t) (enabled : Int) {ctcss : Int} (hctcss : CtcssExists ctcss)
    : Alike o (s.setCtcss enabled ctcss) (t.setCtcss enabled ctcss) where
  inRange := by
    have hs := h.inRange
    refine ⟨hs.toIndicesValid, hs.vfoInRange, hs.stackInRange, hs.agc, ?_, hs.profileInRange, hs.receivers⟩
    intro tx htx
    have ⟨_, _, heq⟩ := Option.map_eq_some_iff.mp htx
    rw [← heq]
    exact hctcss
  eq := by
    rw [h.eq]
    rfl

theorem inRange_save {stack : BandstackState} (h : stack.InRange) {v : VfoState} (hv : v.InRange)
    (hindex : stack.Contains v.bandstack) {transmitter : Option TransmitterState}
    (htx : ∀ tx, transmitter = some tx → CtcssExists tx.ctcss)
    : (stack.save v transmitter).InRange := by
  intro i hi
  dsimp only [BandstackState.save]
  by_cases heq : i = v.bandstack
  . rw [heq, Function.update_self]
    cases transmitter with
    | none => exact ⟨hv.mode, hv.filter, (h _ hindex).ctcss⟩
    | some tx => exact ⟨hv.mode, hv.filter, htx tx rfl⟩
  . rw [Function.update_of_ne heq]
    exact h i hi

theorem Alike.vfoSaveBandstack (h : Alike o s t) : Alike o s.vfoSaveBandstack t.vfoSaveBandstack := by
  obtain ⟨hs, rfl⟩ := h
  apply hs.alike.setBandstack
  . rfl
  . apply hs.vfo
  . exact inRange_save (hs.stackInRange _) (hs.vfoInRange 0) (hs.vfo 0) hs.ctcss
  . rfl

theorem Alike.radioTxVfoChanged (h : Alike o s t) : Alike o s.radioTxVfoChanged t.radioTxVfoChanged :=
  h.txSetFilter

theorem Alike.vfoVfosChanged (h : Alike o s t) : Alike o s.vfoVfosChanged t.vfoVfosChanged := by
  have hfirst := ((h.rxVfoChanged 0).radioTxVfoChanged).radioApplyBandSettings true 0
  dsimp only [RadioState.vfoVfosChanged]
  generalize (s.rxVfoChanged 0).radioTxVfoChanged.radioApplyBandSettings true 0 = s' at *
  generalize (t.rxVfoChanged 0).radioTxVfoChanged.radioApplyBandSettings true 0 = t' at *
  exact hfirst.applyIf (·.config.receivers = 2)
    (fun s => (s.rxVfoChanged 1).radioApplyBandSettings true 1) (fun _ => Iff.rfl)
    (fun h => (h.rxVfoChanged 1).radioApplyBandSettings true 1)

theorem vfo_within (s : RadioState) : (s.within o).vfo = s.vfo := rfl

theorem Alike.enterEntry (h : Alike o s t) (id : Fin 2) (oldmode : Int) {entry : BandstackEntry}
    (hentry : entry.InRange)
    : Alike o (s.enterEntry id oldmode entry) (t.enterEntry id oldmode entry) := by
  obtain ⟨hs, rfl⟩ := h
  have hload : Alike o (s.setVfo id ((s.vfo id).loadEntry entry))
      ((s.within o).setVfo id (((s.within o).vfo id).loadEntry entry)) :=
    hs.alike.setVfo_of_eq ⟨hentry.mode, hentry.filter⟩ rfl rfl rfl
  dsimp only [RadioState.enterEntry]
  rw [hload.eq, vfo_within]
  have hctcss := (hload.inRange.alike.vfoIdAdjustBand (o := o) id
    ((s.setVfo id ((s.vfo id).loadEntry entry)).vfo id).dial).setCtcss entry.ctcssEnabled
    hentry.ctcss
  apply hctcss.loadProfileIf
  rw [hctcss.eq]
  rfl

theorem Alike.savedFor (h : Alike o s t) (id : Fin 2)
    : Alike o (s.savedFor id) (t.savedFor id) := by
  apply Alike.ite Iff.rfl _ h
  exact h.vfoSaveBandstack

theorem inRange_stackBefore (h : s.InRange) (id : Fin 2) (b : BandIndex)
    : (s.stackBefore id b).InRange := by
  have hsaved := h.alike.savedFor (o := ⟨s.profile, s.config.filters⟩) id
  rw [← bandstack_savedFor]
  apply hsaved.inRange.stackInRange

theorem Alike.steppedFor (h : Alike o s t) (id : Fin 2) (b : BandIndex)
    : Alike o (s.steppedFor id b) (t.steppedFor id b) := by
  obtain ⟨hs, rfl⟩ := h
  have hsaved := hs.alike.savedFor (o := o) id
  apply Alike.ite Iff.rfl _ hsaved
  apply hsaved.setBandstack
  . rw [bandstack_savedFor]
  . exact contains_stackBefore hs.toIndicesValid id b
  . exact inRange_stackBefore hs id b
  . rfl

theorem Alike.applyIfMoved (h : Alike o s t) (id : Fin 2) (b : BandIndex)
    : Alike o (s.applyIfMoved id b) (t.applyIfMoved id b) :=
  h.applyIf (fun s => b ≠ (s.vfo id).band) (·.radioApplyBandSettings true id) (fun _ => Iff.rfl)
    (·.radioApplyBandSettings true id)

theorem Alike.enterBand (h : Alike o s t) (id : Fin 2) (b : BandIndex)
    : Alike o (s.enterBand id b) (t.enterBand id b) := by
  obtain ⟨hs, rfl⟩ := h
  rw [enterBand_eq, enterBand_eq]
  apply Alike.applyIfMoved
  apply Alike.enterEntry
  . apply (hs.alike.steppedFor id b).setVfo
    . exact { hs.vfoInRange id with }
    . exact contains_bandVfo hs.toIndicesValid id b
    . rw [bandVfo, bandVfo, (hs.alike.steppedFor id b).eq]
      rfl
  . exact inRange_stackBefore hs id b _ (contains_stackBefore hs.toIndicesValid id b)

theorem Alike.vfoIdBandChanged (h : Alike o s t) (id : Fin 2) (b : BandIndex)
    : Alike o (s.vfoIdBandChanged id b) (t.vfoIdBandChanged id b) := by
  obtain ⟨hs, rfl⟩ := h
  apply Alike.ite Iff.rfl hs.alike
  exact (hs.alike.enterBand id b).vfoVfosChanged

theorem Alike.bandSearch (next : BandIndex → BandIndex) (id : Fin 2) (n : Nat) (b : BandIndex)
    (h : Alike o s t)
    : Alike o (RadioState.bandSearch next id n b s) (RadioState.bandSearch next id n b t) := by
  induction n generalizing b s t with
  | zero => exact h
  | succ n ih =>
    have hchanged := h.vfoIdBandChanged id (next b)
    apply Alike.ite
    . rw [h.eq]
      rfl
    . exact ih (next b) h
    . apply Alike.ite
      . rw [hchanged.eq]
        rfl
      . exact hchanged
      . exact ih (next b) hchanged

theorem Alike.bandPlus (h : Alike o s t) (id : Fin 2) (n : Nat)
    : Alike o (s.bandPlus id n) (t.bandPlus id n) := by
  obtain ⟨hs, rfl⟩ := h
  exact Alike.bandSearch _ id n _ hs.alike

theorem Alike.bandMinus (h : Alike o s t) (id : Fin 2) (n : Nat)
    : Alike o (s.bandMinus id n) (t.bandMinus id n) := by
  obtain ⟨hs, rfl⟩ := h
  exact Alike.bandSearch _ id n _ hs.alike

theorem Alike.vfoIdModeChanged (h : Alike o s t) (id : Fin 2) {m : Int} (hm : ModeExists m)
    : Alike o (s.vfoIdModeChanged id m) (t.vfoIdModeChanged id m) := by
  obtain ⟨hs, rfl⟩ := h
  have hset : Alike o (s.setVfo id { s.vfo id with mode := m })
      ((s.within o).setVfo id { (s.within o).vfo id with mode := m }) :=
    hs.alike.setVfo_of_eq ⟨hm, (hs.vfoInRange id).filter⟩ rfl rfl rfl
  apply Alike.txSetFilter
  exact hset.applyIf (·.Running id)
    (fun s => ((s.profilesLoadRxtxProfile id).rxModeChanged id).rxFilterChanged id)
    (fun _ => Iff.rfl)
    (fun h => ((h.profilesLoadRxtxProfile id).rxFilterChanged id).rxFilterChanged id)

theorem Alike.storeFilter (h : Alike o s t) (id : Fin 2) {f : Int} (hf : FilterExists f)
    : Alike o (s.storeFilter id f) (t.storeFilter id f) := by
  obtain ⟨hs, rfl⟩ := h
  have hmode := (hs.vfoInRange id).mode
  apply Alike.ite Iff.rfl _ hs.alike
  apply hs.alike.storeProfile hmode
  . exact ⟨hf, (hs.profileInRange _ hmode).agc⟩
  . rw [vfo_within, profile_within hmode]

theorem Alike.vfoIdFilterChanged (h : Alike o s t) (id : Fin 2) {f : Int} (hf : FilterExists f)
    : Alike o (s.vfoIdFilterChanged id f) (t.vfoIdFilterChanged id f) := by
  obtain ⟨hs, rfl⟩ := h
  have hset : Alike o (s.setVfo id { s.vfo id with filter := f })
      ((s.within o).setVfo id { (s.within o).vfo id with filter := f }) :=
    hs.alike.setVfo_of_eq ⟨(hs.vfoInRange id).mode, hf⟩ rfl rfl rfl
  have hstore := hset.storeFilter id hf
  apply Alike.ite Iff.rfl
  . exact (hstore.rxFilterChangedIfRunning 0).rxFilterChangedIfRunning 1
  . exact hstore.rxFilterChangedIfRunning id

theorem Alike.vfoAToB (h : Alike o s t) : Alike o s.vfoAToB t.vfoAToB := by
  obtain ⟨hs, rfl⟩ := h
  dsimp only [RadioState.vfoAToB]
  apply Alike.vfoVfosChanged
  apply Alike.loadProfileIf
  . exact hs.alike.setVfo 1 (hs.vfoInRange 0) (hs.vfo 0) rfl
  . rfl

theorem Alike.vfoBToA (h : Alike o s t) : Alike o s.vfoBToA t.vfoBToA := by
  obtain ⟨hs, rfl⟩ := h
  dsimp only [RadioState.vfoBToA]
  apply Alike.vfoVfosChanged
  apply Alike.loadProfileIf
  . exact hs.alike.setVfo 0 (hs.vfoInRange 1) (hs.vfo 1) rfl
  . rfl

theorem Alike.vfoASwapB (h : Alike o s t) : Alike o s.vfoASwapB t.vfoASwapB := by
  obtain ⟨hs, rfl⟩ := h
  have hswap := (hs.alike.setVfo (o := o) 0 (hs.vfoInRange 1) (hs.vfo 1) rfl).setVfo 1
    (hs.vfoInRange 0) (hs.vfo 0) rfl
  have hload := hswap.loadProfileIf 0 (rfl : decide ((s.vfo 1).mode ≠ (s.vfo 0).mode) = _)
  dsimp only [RadioState.vfoASwapB]
  apply Alike.vfoVfosChanged
  apply hload.loadProfileIf
  rw [vfo_within, hload.eq]
  rfl

end RadioState
