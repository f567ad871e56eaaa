import Pihpsdr.ClientServer.Impl.RemoteCommand
import Pihpsdr.ClientServer.Lemmas.Wire
import Pihpsdr.Vfo.Lemmas.AdcChange
import Pihpsdr.Vfo.Lemmas.Bandstack

/-!
All values of the state have the range of the type or the enumeration that they belong to, so that
they fit into the messages. The operations on the VFOs keep this.
-/

open ClientServer

def ModeExists (m : Int) : Prop :=
  0 ≤ m ∧ m < 12

instance (m : Int) : Decidable (ModeExists m) :=
  inferInstanceAs (Decidable (_ ∧ _))

-- a frequency in Hz that is far from an overflow
def FrequencyFits (f : Int) : Prop :=
  -2 ^ 60 ≤ f ∧ f ≤ 2 ^ 60

instance (f : Int) : Decidable (FrequencyFits f) :=
  inferInstanceAs (Decidable (_ ∧ _))

structure VfoFits (v : VfoState) : Prop where
  frequency : FrequencyFits v.frequency
  ctun : Wire.u8.InRange v.ctun
  ctunFrequency : FrequencyFits v.ctunFrequency
  ritEnabled : Wire.u8.InRange v.ritEnabled
  ritStep : Wire.u16.InRange v.ritStep
  rit : FrequencyFits v.rit
  xitEnabled : Wire.u8.InRange v.xitEnabled
  xit : Wire.u64.InRange v.xit
  lo : Wire.u64.InRange v.lo
  offset : Wire.u64.InRange v.offset
  mode : ModeExists v.mode
  step : Wire.u64.InRange v.step
  filter : Wire.u8.InRange v.filter
  deviation : Wire.u16.InRange v.deviation
  cwAudioPeakFilter : Wire.u8.InRange v.cwAudioPeakFilter

structure EntryFits (entry : BandstackEntry) : Prop where
  frequency : FrequencyFits entry.frequency
  ctun : Wire.u8.InRange entry.ctun
  ctunFrequency : FrequencyFits entry.ctunFrequency
  mode : ModeExists entry.mode
  filter : Wire.u8.InRange entry.filter
  deviation : Wire.u16.InRange entry.deviation

structure ProfileFits (profile : RxtxProfile) : Prop where
  filter : Wire.u8.InRange profile.filter
  cwPeak : Wire.u8.InRange profile.cwPeak
  ritStep : Wire.u16.InRange profile.ritStep
  step : Wire.u64.InRange profile.step

structure BandFits (band : BandState) : Prop where
  entries : band.bandstack.entries ≤ 2 ^ 8
  entry : ∀ i, band.bandstack.Contains i → EntryFits (band.bandstack.entry i)
  lo : Wire.u64.InRange (band.frequencyLo + band.errorLo)
  rxAntenna : Wire.u8.InRange band.rxAntenna
  preamp : Wire.u8.InRange band.preamp
  dither : Wire.u8.InRange band.dither
  attenuation : Wire.u16.InRange band.attenuation
  alexAttenuation : Wire.u8.InRange band.alexAttenuation
  rfGain : DoubleInRange band.rfGain

structure SlotFits (slot : Mem) : Prop where
  main : EntryFits (memEntry slot)
  alt : EntryFits (memAltEntry slot)
  bd : (bandIndex? slot.bd).isSome
  altBd : (bandIndex? slot.altBd).isSome

structure TuningState.Fits (t : TuningState) : Prop extends t.IndicesValid where
  vfoFits : ∀ id, VfoFits (t.vfo id)
  bandFits : ∀ b, BandFits (t.bands b)
  slotFits : ∀ i, SlotFits (t.mem i)

structure RadioState.Fits (s : RadioState) : Prop extends s.toTuningState.Fits where
  profileFits : ∀ m, ModeExists m → ProfileFits (s.profile m)
  adcFits : ∀ i, (s.adc i).InWireRange AdcInt.wire

theorem VfoFits.inWireRange {v : VfoState} (h : VfoFits v) (hindex : Wire.u8.InRange v.bandstack)
    : VfoInWireRange v where
  bandstack := hindex
  mode := ⟨h.mode.1, by have := h.mode.2; omega⟩
  filter := h.filter
  ctun := h.ctun
  ritEnabled := h.ritEnabled
  xitEnabled := h.xitEnabled
  cwAudioPeakFilter := h.cwAudioPeakFilter
  ritStep := h.ritStep
  deviation := h.deviation
  frequency := by
    have hf := h.frequency
    unfold FrequencyFits at hf
    unfold Wire.InRange
    omega
  ctunFrequency := by
    have hf := h.ctunFrequency
    unfold FrequencyFits at hf
    unfold Wire.InRange
    omega
  rit := by
    have hf := h.rit
    unfold FrequencyFits at hf
    unfold Wire.InRange
    omega
  xit := h.xit
  lo := h.lo
  offset := h.offset
  step := h.step

theorem VfoFits.loadEntry {v : VfoState} (h : VfoFits v) {entry : BandstackEntry}
    (hentry : EntryFits entry)
    : VfoFits (v.loadEntry entry) :=
  { h with
    frequency := hentry.frequency
    ctun := hentry.ctun
    ctunFrequency := hentry.ctunFrequency
    mode := hentry.mode
    filter := hentry.filter
    deviation := hentry.deviation }

theorem VfoFits.loadProfile {v : VfoState} (h : VfoFits v) {profile : RxtxProfile}
    (hprofile : ProfileFits profile)
    : VfoFits (v.loadProfile profile) :=
  { h with
    filter := hprofile.filter
    cwAudioPeakFilter := hprofile.cwPeak
    ritStep := hprofile.ritStep
    step := hprofile.step }

theorem VfoFits.adjustBand {v : VfoState} (h : VfoFits v) (config : RadioConfig)
    (bands : BandIndex → BandState) (f : Int)
    : VfoFits (v.adjustBand config bands f) := by
  rw [VfoState.adjustBand_eq]
  exact { h with }

theorem VfoFits.frequencyChanged {v : VfoState} (h : VfoFits v) (rx : Passband) (rate : Int)
    : VfoFits (v.frequencyChanged rx rate) := by
  have hoffset {f g r : Int} (hf : FrequencyFits f) (hg : FrequencyFits g) (hr : FrequencyFits r)
      : Wire.u64.InRange (f - g + r) := by
    unfold FrequencyFits at hf hg hr
    unfold Wire.InRange
    omega
  have hrit : FrequencyFits (if v.ritEnabled ≠ 0 then v.rit else 0) := by
    split
    . exact h.rit
    . unfold FrequencyFits
      omega
  have hzero : FrequencyFits 0 := by
    unfold FrequencyFits
    omega
  have hself {f r : Int} (hf : FrequencyFits f) (hr : FrequencyFits r)
      : Wire.u64.InRange r := by
    have := hoffset hf hf hr
    rwa [Int.sub_self, Int.zero_add] at this
  dsimp only [VfoState.frequencyChanged]
  split
  . split
    . exact { h with
        frequency := h.ctunFrequency
        offset := hoffset h.ctunFrequency h.ctunFrequency hrit }
    . exact { h with offset := hoffset h.ctunFrequency h.frequency hrit }
  . exact { h with offset := hself h.frequency hrit }

namespace TuningState.Fits

variable {t : TuningState}

theorem inWireRange (h : t.Fits) (id : Fin 2) : VfoInWireRange (t.vfo id) := by
  apply (h.vfoFits id).inWireRange
  have hindex := h.vfo id
  have hentries := (h.bandFits (t.vfo id).band).entries
  unfold BandstackState.Contains at hindex
  unfold Wire.InRange
  omega

theorem setVfo (h : t.Fits) (id : Fin 2) {v : VfoState} (hv : VfoFits v)
    (hindex : (t.bands v.band).bandstack.Contains v.bandstack)
    : (t.setVfo id v).Fits where
  toIndicesValid := h.toIndicesValid.setVfo id hindex
  vfoFits id' := by
    rw [vfo_setVfo]
    by_cases hid : id' = id
    . rw [hid, Function.update_self]
      exact hv
    . rw [Function.update_of_ne hid]
      apply h.vfoFits
  bandFits := h.bandFits
  slotFits := h.slotFits

theorem setVfo_of_eq (h : t.Fits) {id : Fin 2} {v : VfoState} (hv : VfoFits v)
    (hband : v.band = (t.vfo id).band) (hindex : v.bandstack = (t.vfo id).bandstack)
    : (t.setVfo id v).Fits := by
  apply h.setVfo id hv
  rw [hband, hindex]
  apply h.vfo

theorem setBandstack (h : t.Fits) (b : BandIndex) {stack : BandstackState}
    (hentries : stack.entries = (t.bands b).bandstack.entries)
    (hcurrent : stack.Contains stack.currentEntry)
    (hentry : ∀ i, stack.Contains i → EntryFits (stack.entry i))
    : (t.setBandstack b stack).Fits where
  toIndicesValid := h.toIndicesValid.setBandstack b hentries hcurrent
  vfoFits := h.vfoFits
  bandFits b' := by
    by_cases hb : b' = b
    . subst hb
      have hb := h.bandFits b'
      rw [bands_setBandstack, bandstack_setBandstack_self]
      exact { hb with
        entries := by
          rw [hentries]
          exact hb.entries
        entry := hentry }
    . rw [bands_setBandstack, bandstack_setBandstack_of_ne _ hb]
      apply h.bandFits
  slotFits := h.slotFits

end TuningState.Fits

/--
What holds of the ADCs does not depend on a setting that fits into its message.
-/
structure AdcInvariant (P : Adcs → Prop) : Prop where
  setInt : ∀ {adc : Adcs} (i : Fin 3) (f : AdcInt) {x : Int}, P adc → f ≠ .overload →
    (AdcInt.wire f).InRange x → P (adc.setInt i f x)
  setGain : ∀ {adc : Adcs} (i : Fin 3) {x : ℚ}, P adc → DoubleInRange x → P (adc.setGain i x)

namespace AdcInvariant

variable {P : Adcs → Prop} (hP : AdcInvariant P) {adc : Adcs} {band : BandState}
include hP

theorem applyBand (h : P adc) (hband : BandFits band) (config : RadioConfig) (flag : Bool)
    (i : Fin 3)
    : P (adc.applyBand config flag i band) := by
  have hantenna := hP.setInt i .antenna h (by decide) hband.rxAntenna
  have hpreamp := hP.setInt i .preamp hantenna (by decide) hband.preamp
  have hdither := hP.setInt i .dither hpreamp (by decide) hband.dither
  dsimp only [Adcs.applyBand]
  split
  . split
    . apply hP.setInt i .alexAttenuation hdither (by decide) hband.alexAttenuation
    . exact hdither
  . exact hantenna

theorem setC25Att (h : P adc) (val : Int) : P (adc.setC25Att val) := by
  have hset (a p d : Int) (ha : Wire.u8.InRange a) (hp : Wire.u8.InRange p)
      (hd : Wire.u8.InRange d)
      : P (((adc.setInt 0 .alexAttenuation a).setInt 0 .preamp p).setInt 0 .dither d) := by
    have halex := hP.setInt 0 .alexAttenuation h (by decide) ha
    have hpreamp := hP.setInt 0 .preamp halex (by decide) hp
    apply hP.setInt 0 .dither hpreamp (by decide) hd
  dsimp only [Adcs.setC25Att]
  split_ifs <;> apply hset <;> decide

theorem setAttenuation (h : P adc) (hband : BandFits band) (i : Fin 3)
    : P (adc.setAttenuation i band.attenuation) := by
  have hset := hP.setInt i .attenuation h (by decide) hband.attenuation
  apply hP.setGain i hset
  norm_num [DoubleInRange]

theorem setRfGain (h : P adc) (hband : BandFits band) (i : Fin 3)
    : P (adc.setRfGain i band.rfGain) := by
  have hset := hP.setGain i h hband.rfGain
  apply hP.setInt i .attenuation hset (by decide)
  decide

theorem bandSettings (h : P adc) (hband : BandFits band) (config : RadioConfig) (flag : Bool)
    (id : Fin 2)
    : P (adc.bandSettings config flag id band) := by
  have hantennas : P (if config.protocol = .soapysdr then adc else
      adc.applyBand config flag (if id.val < config.receivers then config.rxAdc id else 0) band) := by
    split
    . exact h
    . apply hP.applyBand h hband
  dsimp only [Adcs.bandSettings]
  generalize (if config.protocol = .soapysdr then adc else
    adc.applyBand config flag (if id.val < config.receivers then config.rxAdc id else 0) band)
    = adc₁ at hantennas
  have hattenuation : P (if id.val < config.receivers ∧ config.haveRxAtt then
      adc₁.setAttenuation (config.rxAdc id) band.attenuation else adc₁) := by
    split
    . apply hP.setAttenuation hantennas hband
    . exact hantennas
  split
  . exact hantennas
  . split
    . apply hP.setC25Att hantennas
    . split
      . apply hP.setRfGain hattenuation hband
      . exact hattenuation

theorem vfoSettings (h : P adc) {bands : Fin 2 → BandState} (hbands : ∀ id, BandFits (bands id))
    (config : RadioConfig)
    : P (adc.vfoSettings config bands) := by
  have hfirst := hP.bandSettings h (hbands 0) config true 0
  dsimp only [Adcs.vfoSettings]
  split
  . apply hP.bandSettings hfirst (hbands 1)
  . exact hfirst

end AdcInvariant

theorem adcInvariant_inWireRange
    : AdcInvariant fun adc => ∀ i, (adc i).InWireRange AdcInt.wire := by
  constructor
  . intro adc i f x h _ hx i'
    unfold Adcs.setInt
    by_cases hi : i' = i
    . rw [hi, Function.update_self]
      constructor
      . apply (Function.forall_update_iff _ (fun f n => (AdcInt.wire f).InRange n)).mpr
        apply And.intro hx
        intro f' _
        apply (h i).int
      . apply (h i).double
    . rw [Function.update_of_ne hi]
      apply h
  . intro adc i x h hx i'
    unfold Adcs.setGain
    by_cases hi : i' = i
    . rw [hi, Function.update_self]
      constructor
      . apply (h i).int
      . apply (Function.forall_update_iff _ (fun _ y => DoubleInRange y)).mpr
        apply And.intro hx
        intro g _
        apply (h i).double
    . rw [Function.update_of_ne hi]
      apply h

-- no setting of a band is about an overload
theorem adcInvariant_overload (overload : Fin 3 → Int)
    : AdcInvariant fun adc => ∀ i, (adc i).int .overload = overload i := by
  constructor
  . intro adc i f x h hf _ i'
    unfold Adcs.setInt
    by_cases hi : i' = i
    . rw [hi, Function.update_self]
      dsimp only
      rw [Function.update_of_ne hf.symm]
      apply h
    . rw [Function.update_of_ne hi]
      apply h
  . intro adc i x h _ i'
    unfold Adcs.setGain
    by_cases hi : i' = i
    . rw [hi, Function.update_self]
      apply h
    . rw [Function.update_of_ne hi]
      apply h

theorem vfoFits_initialVfo : VfoFits initialVfo := by
  constructor <;> decide

theorem bandFits_initialBand {row : BandRow} (hentries : row.entries ≤ 2 ^ 8)
    (hfrequency : FrequencyFits row.frequencyMin)
    : BandFits (initialBand row) where
  entries := hentries
  entry _ _ :=
    { frequency := hfrequency
      ctun := Wire.inRange_zero .u8
      ctunFrequency := (by decide : FrequencyFits 0)
      mode := (by decide : ModeExists modeCwu)
      filter := (by decide : Wire.u8.InRange 4)
      deviation := (by decide : Wire.u16.InRange 2500) }
  lo := Wire.inRange_zero .u64
  rxAntenna := Wire.inRange_zero .u8
  preamp := Wire.inRange_zero .u8
  dither := Wire.inRange_zero .u8
  attenuation := Wire.inRange_zero .u16
  alexAttenuation := Wire.inRange_zero .u8
  rfGain := by norm_num [DoubleInRange, initialBand]

theorem bandFits_initialBands (b : BandIndex) : BandFits (initialBands b) := by
  apply bandFits_initialBand
  . revert b
    decide
  . revert b
    decide

theorem slotFits_initialMem : SlotFits initialMem := by
  constructor
  . constructor <;> decide
  . constructor <;> decide
  . decide
  . decide

theorem fits_initialState : initialState.Fits where
  toIndicesValid := RadioState.indicesValid_initialState
  vfoFits _ := vfoFits_initialVfo
  bandFits := bandFits_initialBands
  slotFits _ := slotFits_initialMem
  profileFits _ _ := by
    have hprofile : ProfileFits ⟨4, 0, 10, 100, 3, 0⟩ := by
      constructor <;> decide
    exact hprofile
  adcFits i := by
    constructor
    . intro f
      apply Wire.inRange_zero
    . intro g
      norm_num [DoubleInRange, initialState]

/-!
The operations on the VFOs keep all values in their ranges.
-/

open ClientServer

namespace RadioState

variable {s s' : RadioState}

theorem fits_of_sameTuning (h : s.Fits) (hsame : SameTuning s s')
    (hadc : ∀ i, (s'.adc i).InWireRange AdcInt.wire)
    : s'.Fits where
  toFits := by
    rw [hsame.toTuningState]
    exact h.toFits
  profileFits := by
    rw [hsame.profile]
    exact h.profileFits
  adcFits := hadc

theorem fits_setVfo (h : s.Fits) (id : Fin 2) {v : VfoState} (hv : VfoFits v)
    (hindex : (s.bands v.band).bandstack.Contains v.bandstack)
    : (s.setVfo id v).Fits where
  toFits := h.toFits.setVfo id hv hindex
  profileFits := h.profileFits
  adcFits := h.adcFits

theorem fits_setVfo_of_eq (h : s.Fits) {id : Fin 2} {v : VfoState} (hv : VfoFits v)
    (hband : v.band = (s.vfo id).band) (hindex : v.bandstack = (s.vfo id).bandstack)
    : (s.setVfo id v).Fits where
  toFits := h.toFits.setVfo_of_eq hv hband hindex
  profileFits := h.profileFits
  adcFits := h.adcFits

theorem fits_setReceiver (h : s.Fits) (id : Fin 2) (rx : ReceiverState)
    : (s.setReceiver id rx).Fits where
  toFits := h.toFits
  profileFits := h.profileFits
  adcFits := h.adcFits

theorem fits_setCtcss (h : s.Fits) (enabled ctcss : Int) : (s.setCtcss enabled ctcss).Fits where
  toFits := h.toFits
  profileFits := h.profileFits
  adcFits := h.adcFits

theorem profilesCopyRxtxprofile_eq (profile : Int → RxtxProfile) (mode m : Int)
    : profilesCopyRxtxprofile profile mode m = profile m
      ∨ profilesCopyRxtxprofile profile mode m = profile mode := by
  have hupdate {p : Int → RxtxProfile} (m' : Int) (h : p m = profile m ∨ p m = profile mode)
      : Function.update p m' (profile mode) m = profile m
        ∨ Function.update p m' (profile mode) m = profile mode := by
    by_cases hm : m = m'
    . right
      rw [hm, Function.update_self]
    . rw [Function.update_of_ne hm]
      exact h
  unfold profilesCopyRxtxprofile
  split
  . apply hupdate
    apply hupdate
    left
    rfl
  . split
    . apply hupdate
      apply hupdate
      left
      rfl
    . split
      . apply hupdate
        apply hupdate
        apply hupdate
        left
        rfl
      . left
        rfl

theorem forall_profilesCopyRxtxprofile (P : RxtxProfile → Prop) {profile : Int → RxtxProfile}
    {mode : Int} (h : ∀ m, ModeExists m → P (profile m)) (hmode : ModeExists mode)
    : ∀ m, ModeExists m → P (profilesCopyRxtxprofile profile mode m) := by
  intro m hm
  cases profilesCopyRxtxprofile_eq profile mode m with
  | inl heq =>
    rw [heq]
    apply h m hm
  | inr heq =>
    rw [heq]
    apply h mode hmode

theorem forall_profile_update (P : RxtxProfile → Prop) {profile : Int → RxtxProfile} {mode : Int}
    {p : RxtxProfile} (h : ∀ m, ModeExists m → P (profile m)) (hp : P p)
    : ∀ m, ModeExists m → P (Function.update profile mode p m) := by
  intro m hm
  by_cases heq : m = mode
  . rw [heq, Function.update_self]
    exact hp
  . rw [Function.update_of_ne heq]
    apply h m hm

theorem fits_txSetFilter (h : s.Fits) : s.txSetFilter.Fits where
  toFits := by
    rw [toTuningState_txSetFilter]
    exact h.toFits
  profileFits := by
    have hmode : ModeExists s.txMode := (h.vfoFits s.txVfo).mode
    unfold txSetFilter
    split
    . exact h.profileFits
    . apply forall_profilesCopyRxtxprofile ProfileFits _ hmode
      apply forall_profile_update ProfileFits h.profileFits
      exact { h.profileFits s.txMode hmode with }
  adcFits := by
    rw [adc_txSetFilter]
    exact h.adcFits

theorem fits_rxFilterChanged (h : s.Fits) (id : Fin 2) : (s.rxFilterChanged id).Fits := by
  have hset : (s.rxSetFilter id).Fits := fits_setReceiver h id _
  cases s.rxFilterChanged_eq id with
  | inl heq =>
    rw [heq]
    exact hset
  | inr heq =>
    rw [heq]
    apply fits_txSetFilter hset

theorem fits_rxFilterChangedIfRunning (h : s.Fits) (id : Fin 2)
    : (s.rxFilterChangedIfRunning id).Fits := by
  unfold rxFilterChangedIfRunning
  split
  . apply fits_rxFilterChanged h
  . exact h

theorem fits_profilesLoadRxProfile (h : s.Fits) (id : Fin 2) {m : Int} (hm : ModeExists m)
    : (s.profilesLoadRxProfile id m).Fits := by
  apply fits_rxFilterChanged
  apply fits_setReceiver
  apply fits_setVfo_of_eq h
  . apply (h.vfoFits id).loadProfile (h.profileFits m hm)
  . rfl
  . rfl

theorem fits_profilesLoadTxProfile (h : s.Fits) (m : Int) : (s.profilesLoadTxProfile m).Fits := by
  unfold profilesLoadTxProfile
  split
  . exact h
  . apply fits_txSetFilter
    exact ⟨h.toFits, h.profileFits, h.adcFits⟩

theorem fits_loadProfileIf (h : s.Fits) (id : Fin 2) (changed : Bool)
    : (s.loadProfileIf id changed).Fits := by
  have hload := fits_profilesLoadRxProfile h id (h.vfoFits id).mode
  unfold loadProfileIf
  split
  . dsimp only [profilesLoadRxtxProfile]
    split
    . apply fits_profilesLoadTxProfile hload
    . exact hload
  . exact h

theorem fits_rxVfoChanged (h : s.Fits) (id : Fin 2) : (s.rxVfoChanged id).Fits := by
  apply fits_rxFilterChanged
  apply fits_setVfo_of_eq h
  . apply (h.vfoFits id).frequencyChanged
  . apply VfoState.band_frequencyChanged
  . apply VfoState.bandstack_frequencyChanged

theorem fits_radioApplyBandSettings (h : s.Fits) (flag : Bool) (id : Fin 2)
    : (s.radioApplyBandSettings flag id).Fits := by
  apply fits_of_sameTuning h (s.sameTuning_radioApplyBandSettings flag id)
  rw [adc_radioApplyBandSettings]
  apply adcInvariant_inWireRange.bandSettings h.adcFits
  apply h.bandFits

theorem fits_vfoVfosChanged (h : s.Fits) : s.vfoVfosChanged.Fits := by
  have hfirst := fits_radioApplyBandSettings (fits_txSetFilter (fits_rxVfoChanged h 0)) true 0
  dsimp only [vfoVfosChanged]
  split
  . apply fits_radioApplyBandSettings
    apply fits_rxVfoChanged hfirst
  . exact hfirst

theorem fits_vfoIdAdjustBand (h : s.Fits) (id : Fin 2) (f : Int)
    : (s.vfoIdAdjustBand id f).Fits := by
  rw [vfoIdAdjustBand_eq]
  split
  . exact h
  . apply fits_radioApplyBandSettings
    apply fits_setVfo h
    . apply (h.vfoFits id).adjustBand
    . apply h.toIndicesValid.adjustBand (h.vfo id)

theorem fits_enterEntry (h : s.Fits) (id : Fin 2) (oldmode : Int) {entry : BandstackEntry}
    (hentry : EntryFits entry)
    : (s.enterEntry id oldmode entry).Fits := by
  apply fits_loadProfileIf
  apply fits_setCtcss
  apply fits_vfoIdAdjustBand
  apply fits_setVfo_of_eq h
  . apply (h.vfoFits id).loadEntry hentry
  . rfl
  . rfl

theorem entryFits_save {stack : BandstackState} {v : VfoState}
    (h : ∀ i, stack.Contains i → EntryFits (stack.entry i)) (hv : VfoFits v)
    (tx : Option TransmitterState)
    : ∀ i, stack.Contains i → EntryFits ((stack.save v tx).entry i) := by
  have hsave (enabled ctcss : Int) : EntryFits (v.saveEntry enabled ctcss) := { hv with }
  intro i hi
  dsimp only [BandstackState.save]
  by_cases heq : i = v.bandstack
  . rw [heq, Function.update_self]
    split
    . apply hsave
    . apply hsave
  . rw [Function.update_of_ne heq]
    apply h i hi

theorem fits_setBandstack (h : s.Fits) (b : BandIndex) {stack : BandstackState}
    (hentries : stack.entries = (s.bands b).bandstack.entries)
    (hcurrent : stack.Contains stack.currentEntry)
    (hentry : ∀ i, stack.Contains i → EntryFits (stack.entry i))
    : (s.setBandstack b stack).Fits where
  toFits := h.toFits.setBandstack b hentries hcurrent hentry
  profileFits := h.profileFits
  adcFits := h.adcFits

theorem fits_vfoSaveBandstack (h : s.Fits) : s.vfoSaveBandstack.Fits := by
  apply fits_setBandstack h
  . rfl
  . apply h.vfo
  . apply entryFits_save (h.bandFits (s.vfo 0).band).entry (h.vfoFits 0)

theorem fits_savedFor (h : s.Fits) (id : Fin 2) : (s.savedFor id).Fits := by
  unfold savedFor
  split
  . apply fits_vfoSaveBandstack h
  . exact h

theorem entryFits_stackBefore (h : s.Fits) (id : Fin 2) (b : BandIndex)
    : ∀ i, (s.stackBefore id b).Contains i → EntryFits ((s.stackBefore id b).entry i) := by
  rw [← bandstack_savedFor]
  exact ((fits_savedFor h id).bandFits b).entry

theorem fits_steppedFor (h : s.Fits) (id : Fin 2) (b : BandIndex) : (s.steppedFor id b).Fits := by
  dsimp only [steppedFor]
  split
  . apply fits_setBandstack (fits_savedFor h id)
    . rw [bandstack_savedFor]
    . apply contains_stackBefore h.toIndicesValid
    . apply entryFits_stackBefore h
  . apply fits_savedFor h

theorem fits_applyIfMoved (h : s.Fits) (id : Fin 2) (b : BandIndex)
    : (s.applyIfMoved id b).Fits := by
  unfold applyIfMoved
  split
  . apply fits_radioApplyBandSettings h
  . exact h

theorem fits_enterBand (h : s.Fits) (id : Fin 2) (b : BandIndex) : (s.enterBand id b).Fits := by
  have hstepped := fits_steppedFor h id b
  rw [enterBand_eq]
  apply fits_applyIfMoved
  apply fits_enterEntry
  . apply fits_setVfo hstepped
    . exact { h.vfoFits id with lo := (hstepped.bandFits b).lo }
    . apply contains_bandVfo h.toIndicesValid
  . apply entryFits_stackBefore h
    apply contains_stackBefore h.toIndicesValid

theorem fits_vfoIdBandChanged (h : s.Fits) (id : Fin 2) (b : BandIndex)
    : (s.vfoIdBandChanged id b).Fits := by
  unfold vfoIdBandChanged
  split
  . exact h
  . apply fits_vfoVfosChanged
    apply fits_enterBand h

theorem fits_enterBandstack (h : s.Fits) (id : Fin 2) {b : Int}
    (hb : (s.bands (s.vfo id).band).bandstack.Contains b)
    : (s.enterBandstack id b).Fits := by
  have hstack : (s.stackBefore id (s.vfo id).band).Contains b := by
    unfold BandstackState.Contains at *
    rwa [entries_stackBefore]
  have hjumped : (s.jumpedFor id b).Fits := by
    dsimp only [jumpedFor]
    split
    . apply fits_setBandstack (fits_savedFor h id)
      . rw [bandstack_savedFor]
      . exact hstack
      . apply entryFits_stackBefore h
    . exact h
  have hcontains : ((s.jumpedFor id b).bands (s.vfo id).band).bandstack.Contains b := by
    dsimp only [jumpedFor]
    split
    . rw [toTuningState_setBandstack, TuningState.bandstack_setBandstack_self]
      exact hstack
    . exact hb
  rw [enterBandstack_eq]
  apply fits_enterEntry
  . apply fits_setVfo hjumped
    . exact { h.vfoFits id with }
    . exact hcontains
  . apply entryFits_stackBefore h id _ b hstack

theorem fits_vfoIdBandstackChanged (h : s.Fits) (id : Fin 2) {b : Int}
    (hb : (s.bands (s.vfo id).band).bandstack.Contains b)
    : (s.vfoIdBandstackChanged id b).Fits := by
  apply fits_vfoVfosChanged
  apply fits_enterBandstack h id hb

theorem fits_profilesLoadRxtxProfile (h : s.Fits) (id : Fin 2)
    : (s.profilesLoadRxtxProfile id).Fits :=
  fits_loadProfileIf h id true

theorem fits_vfoIdModeChanged (h : s.Fits) (id : Fin 2) {m : Int} (hm : ModeExists m)
    : (s.vfoIdModeChanged id m).Fits := by
  have hset : (s.setVfo id { s.vfo id with mode := m }).Fits := by
    apply fits_setVfo_of_eq h
    . exact { h.vfoFits id with mode := hm }
    . rfl
    . rfl
  apply fits_txSetFilter
  split
  . apply fits_rxFilterChanged
    apply fits_rxFilterChanged
    apply fits_profilesLoadRxtxProfile hset
  . exact hset

theorem fits_storeFilter (h : s.Fits) (id : Fin 2) {f : Int} (hf : Wire.u8.InRange f)
    : (s.storeFilter id f).Fits := by
  have hmode := (h.vfoFits id).mode
  dsimp only [storeFilter]
  split
  . refine { toFits := h.toFits, profileFits := ?_, adcFits := h.adcFits }
    apply forall_profilesCopyRxtxprofile ProfileFits _ hmode
    apply forall_profile_update ProfileFits h.profileFits
    exact { h.profileFits _ hmode with filter := hf }
  . exact h

theorem fits_vfoIdFilterChanged (h : s.Fits) (id : Fin 2) {f : Int} (hf : Wire.u8.InRange f)
    : (s.vfoIdFilterChanged id f).Fits := by
  have hset : (s.setVfo id { s.vfo id with filter := f }).Fits := by
    apply fits_setVfo_of_eq h
    . exact { h.vfoFits id with filter := hf }
    . rfl
    . rfl
  have hstore := fits_storeFilter hset id hf
  dsimp only [vfoIdFilterChanged]
  split
  . apply fits_rxFilterChangedIfRunning
    apply fits_rxFilterChangedIfRunning hstore
  . apply fits_rxFilterChangedIfRunning hstore

theorem fits_vfoAToB (h : s.Fits) : s.vfoAToB.Fits := by
  dsimp only [vfoAToB]
  apply fits_vfoVfosChanged
  apply fits_loadProfileIf
  apply fits_setVfo h
  . apply h.vfoFits
  . apply h.vfo

theorem fits_vfoBToA (h : s.Fits) : s.vfoBToA.Fits := by
  dsimp only [vfoBToA]
  apply fits_vfoVfosChanged
  apply fits_loadProfileIf
  apply fits_setVfo h
  . apply h.vfoFits
  . apply h.vfo

theorem fits_vfoASwapB (h : s.Fits) : s.vfoASwapB.Fits := by
  dsimp only [vfoASwapB]
  apply fits_vfoVfosChanged
  apply fits_loadProfileIf
  apply fits_loadProfileIf
  apply fits_setVfo
  . apply fits_setVfo h
    . apply h.vfoFits
    . apply h.vfo
  . apply h.vfoFits
  . apply h.vfo

theorem fits_recallVfo (h : s.Fits) (id : Fin 2) (load : Bool) (b : BandIndex)
    {entry : BandstackEntry} (hentry : EntryFits entry)
    : (s.recallVfo id load b entry).Fits := by
  have hset : (s.setVfo id { s.vfo id with mode := entry.mode }).Fits := by
    apply fits_setVfo_of_eq h
    . exact { h.vfoFits id with mode := hentry.mode }
    . rfl
    . rfl
  have hload := fits_loadProfileIf hset id ((s.vfo id).mode ≠ entry.mode ∧ load)
  apply fits_setVfo hload
  . exact { (hload.vfoFits id).loadEntry hentry with lo := (hload.bandFits b).lo }
  . apply hload.current

theorem fits_radioSetSplit (h : s.Fits) (val : Int) : (s.radioSetSplit val).Fits := by
  unfold radioSetSplit
  split
  . apply fits_radioApplyBandSettings
    apply fits_txSetFilter
    exact ⟨⟨⟨h.vfo, h.current⟩, h.vfoFits, h.bandFits, h.slotFits⟩, h.profileFits, h.adcFits⟩
  . exact h

theorem fits_setSatMode (h : s.Fits) (satMode : Int) : (s.setSatMode satMode).Fits where
  toFits := ⟨⟨h.vfo, h.current⟩, h.vfoFits, h.bandFits, h.slotFits⟩
  profileFits := h.profileFits
  adcFits := h.adcFits

theorem fits_recallAny (h : s.Fits) {slot : Mem} (hslot : SlotFits slot) (b : Fin 2 → BandIndex)
    : (s.recallAny slot b).Fits := by
  unfold recallAny
  split
  . apply fits_recallVfo h _ _ _ hslot.main
  . apply fits_radioSetSplit
    apply fits_recallVfo _ _ _ _ hslot.alt
    apply fits_recallVfo h _ _ _ hslot.main

theorem fits_recallSlot (h : s.Fits) {slot : Mem} (hslot : SlotFits slot) (b : Fin 2 → BandIndex)
    : (s.recallSlot slot b).Fits := by
  apply fits_vfoVfosChanged
  apply fits_setCtcss
  apply fits_recallAny _ hslot
  apply fits_setSatMode h

-- what holds of the ADCs with all settings that fit holds after a change of the VFOs
section

variable {P : Adcs → Prop} {adc : Adcs} (hs : s.Fits) (hP : AdcInvariant P)
include hs hP

theorem Fits.moveSettings (h : P adc) (id : Fin 2) (b b' : BandIndex)
    : P (adc.moveSettings s.config s.bands id b b') := by
  unfold Adcs.moveSettings
  split
  . exact h
  . apply hP.bandSettings h (hs.bandFits b')

theorem Fits.vfoSettings (h : P adc) (b : Fin 2 → BandIndex) : P (s.vfoSettings adc b) := by
  apply hP.vfoSettings h
  intro id
  apply hs.bandFits

theorem Fits.bandstackSettings (h : P s.adc) (id : Fin 2) (b : Int)
    : P (s.bandstackSettings id b) := by
  apply hs.vfoSettings hP
  apply hs.moveSettings hP h

theorem Fits.bandSettings (h : P s.adc) (id : Fin 2) (b : BandIndex) : P (s.bandSettings id b) := by
  unfold RadioState.bandSettings
  split
  . exact h
  . apply hs.vfoSettings hP
    apply hs.moveSettings hP
    apply hs.moveSettings hP h

theorem Fits.recallSettings (h : P s.adc) (slot : Mem) (b : Fin 2 → BandIndex)
    : P (s.recallSettings slot b) := by
  apply hs.vfoSettings hP
  unfold splitSettings
  split
  . apply hP.bandSettings h
    apply hs.bandFits
  . exact h

end

end RadioState
