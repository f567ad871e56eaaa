import Pihpsdr.Vfo.Lemmas.Transverter

/-!
The settings of the first receiver that are stored with the bands: which of them a change of the band puts into
effect, and which records the setters and the changes of the band write.
-/

inductive SettingKind where
  | attenuation
  | rfGain
  | preamp
  | agcGain
  | panhigh
  | panlow
  | panstep
  deriving DecidableEq

inductive Setting where
  | attenuation (value : Int)
  | rfGain (value : ℚ)
  | preamp (value : Int)
  | agcGain (value : ℚ)
  | panhigh (value : Int)
  | panlow (value : Int)
  | panstep (value : Int)

def Setting.kind : Setting → SettingKind
  | .attenuation _ => .attenuation
  | .rfGain _ => .rfGain
  | .preamp _ => .preamp
  | .agcGain _ => .agcGain
  | .panhigh _ => .panhigh
  | .panlow _ => .panlow
  | .panstep _ => .panstep

namespace BandState

def store (band : BandState) : Setting → BandState
  | .attenuation value => { band with attenuation := value }
  | .rfGain value => { band with rfGain := value }
  | .preamp value => { band with preamp := value }
  | .agcGain value => { band with agcGain := value }
  | .panhigh value => { band with panhigh := value }
  | .panlow value => { band with panlow := value }
  | .panstep value => { band with panstep := value }

def Stores (band : BandState) : Setting → Prop
  | .attenuation value => band.attenuation = value
  | .rfGain value => band.rfGain = value
  | .preamp value => band.preamp = value
  | .agcGain value => band.agcGain = value
  | .panhigh value => band.panhigh = value
  | .panlow value => band.panlow = value
  | .panstep value => band.panstep = value

theorem stores_store_self (band : BandState) (x : Setting) : (band.store x).Stores x := by
  cases x
  all_goals rfl

theorem stores_store_of_ne {x y : Setting} (h : y.kind ≠ x.kind) (band : BandState)
    : (band.store y).Stores x ↔ band.Stores x := by
  cases x
  all_goals
    cases y
    all_goals first
      | exact absurd rfl h
      | exact Iff.rfl

end BandState

theorem SameStored.stores {bands bands' : BandIndex → BandState} (h : SameStored bands bands')
    (b : BandIndex) (x : Setting)
    : (bands' b).Stores x ↔ (bands b).Stores x := by
  rw [h b]
  cases x
  all_goals exact Iff.rfl

inductive SettingEvent where
  | set (id : Fin 2) (x : Setting)
  -- of VFO A
  | bandChanged (b : BandIndex)

namespace RadioState

variable (havePreamp : Bool) (s : RadioState)

def setSetting (id : Fin 2) : Setting → RadioState
  | .attenuation value => s.radioSetAttenuation id value
  | .rfGain value => s.radioSetRfGain id value
  | .preamp value => s.radioSetPreamp havePreamp id value
  | .agcGain value => s.radioSetAgcGain id value
  | .panhigh value => s.radioSetPanhigh id value
  | .panlow value => s.radioSetPanlow id value
  | .panstep value => s.radioSetPanstep id value

def settingStep : SettingEvent → RadioState
  | .set id x => s.setSetting havePreamp id x
  | .bandChanged b => s.vfoIdBandChanged 0 b

-- what the setting is for the first receiver
def InEffect : Setting → Prop
  | .attenuation value => (s.adc (s.config.rxAdc 0)).int .attenuation = value
  | .rfGain value => (s.adc (s.config.rxAdc 0)).double .gain = value
  | .preamp value => (s.adc (s.config.rxAdc 0)).int .preamp = value
  | .agcGain value => (s.receiver 0).agcGain = value
  | .panhigh value => (s.receiver 0).panadapterHigh = value
  | .panlow value => (s.receiver 0).panadapterLow = value
  | .panstep value => (s.receiver 0).panadapterStep = value

-- A setting of this kind is stored with the band, if the radio has it.
def Takes : SettingKind → Prop
  | .attenuation => s.config.haveRxAtt
  | .rfGain => s.config.haveRxGain
  | .preamp => havePreamp
  | .agcGain => (s.receiver 0).agc ≠ agcFixed
  | .panhigh | .panlow | .panstep => True

instance : (k : SettingKind) → Decidable (s.Takes havePreamp k)
  | .attenuation => inferInstanceAs (Decidable (_ = true))
  | .rfGain => inferInstanceAs (Decidable (_ = true))
  | .preamp => inferInstanceAs (Decidable (_ = true))
  | .agcGain => inferInstanceAs (Decidable (_ ≠ _))
  | .panhigh | .panlow | .panstep => isTrue trivial

/--
What is stored with the band of VFO A is what the first receiver gets: it has its own ADC, without a CHARLY25 board,
and its AGC is not fixed.
-/
def Gets : SettingKind → Prop
  | .attenuation | .rfGain | .preamp =>
    s.config.filterBoard ≠ .charly25
      ∧ (s.config.receivers = 2 → s.config.rxAdc 1 ≠ s.config.rxAdc 0)
  | .agcGain => (s.receiver 0).agc ≠ agcFixed
  | .panhigh | .panlow | .panstep => True

variable {havePreamp} {s} {id : Fin 2} {b : BandIndex}

theorem bands_storeWithBand (store : BandState → BandState)
    : (s.storeWithBand id store).bands b
        = if id = 0 ∧ b = (s.vfo 0).band then store (s.bands b) else s.bands b := by
  unfold storeWithBand
  by_cases hid : id = 0
  . subst hid
    rw [if_pos rfl]
    change Function.update s.bands (s.vfo 0).band _ b = _
    by_cases hb : b = (s.vfo 0).band
    . subst hb
      rw [Function.update_self, if_pos ⟨rfl, rfl⟩]
    . rw [Function.update_of_ne hb, if_neg fun h => hb h.2]
  . rw [if_neg hid, if_neg fun h => hid h.1]

theorem vfo_storeWithBand (store : BandState → BandState)
    : (s.storeWithBand id store).vfo = s.vfo := by
  unfold storeWithBand
  split
  . rfl
  . rfl

theorem toTuningState_setReceiverIfRunning (set : ReceiverState → ReceiverState)
    : (s.setReceiverIfRunning id set).toTuningState = s.toTuningState := by
  unfold setReceiverIfRunning
  split
  . rfl
  . rfl

-- A setter stores its value with the band of VFO A, or with none.
def StoresOrNot (havePreamp : Bool) (s : RadioState) (id : Fin 2) (x : Setting) : Prop :=
  ∃ t : RadioState, t.toTuningState = s.toTuningState
    ∧ (s.setSetting havePreamp id x = t.storeWithBand id (·.store x)
        ∧ (id = 0 → s.Takes havePreamp x.kind)
      ∨ s.setSetting havePreamp id x = t ∧ (id = 0 → ¬ s.Takes havePreamp x.kind))

theorem storesOrNot_of_guard (hrunning : s.Running 0) {x : Setting} (flag : Bool) (t : RadioState)
    (ht : t.toTuningState = s.toTuningState) (hflag : s.Takes havePreamp x.kind ↔ flag = true)
    (hset : s.setSetting havePreamp id x
      = if ¬ s.Running id ∨ flag = false then s else t.storeWithBand id (·.store x))
    : s.StoresOrNot havePreamp id x := by
  by_cases hguard : ¬ s.Running id ∨ flag = false
  . rw [if_pos hguard] at hset
    refine ⟨s, rfl, .inr ⟨hset, ?_⟩⟩
    rintro rfl
    rw [or_iff_right (not_not_intro hrunning)] at hguard
    rw [hflag, Bool.not_eq_true]
    exact hguard
  . rw [if_neg hguard] at hset
    rw [not_or, Bool.not_eq_false] at hguard
    exact ⟨t, ht, .inl ⟨hset, fun _ => hflag.mpr hguard.2⟩⟩

theorem storesOrNot_agcGain (hrunning : s.Running 0) (value : ℚ)
    : s.StoresOrNot havePreamp id (.agcGain value) := by
  let t := s.setReceiver id { s.receiver id with agcGain := value }
  have hset : s.setSetting havePreamp id (.agcGain value)
      = if ¬ s.Running id then
          s
        else if (s.receiver id).agc ≠ agcFixed then
          t.storeWithBand id (·.store (.agcGain value))
        else
          t := by
    unfold setSetting radioSetAgcGain
    dsimp only
    rw [receiver_setReceiver, Function.update_self]
    rfl
  by_cases hguard : ¬ s.Running id
  . rw [if_pos hguard] at hset
    refine ⟨s, rfl, .inr ⟨hset, ?_⟩⟩
    rintro rfl
    exact absurd hrunning hguard
  . rw [if_neg hguard] at hset
    by_cases hagc : (s.receiver id).agc ≠ agcFixed
    . rw [if_pos hagc] at hset
      refine ⟨t, rfl, .inl ⟨hset, ?_⟩⟩
      rintro rfl
      exact hagc
    . rw [if_neg hagc] at hset
      refine ⟨t, rfl, .inr ⟨hset, ?_⟩⟩
      rintro rfl
      exact hagc

theorem storesOrNot (hrunning : s.Running 0) (x : Setting)
    : s.StoresOrNot havePreamp id x := by
  cases x with
  | attenuation value =>
    exact storesOrNot_of_guard hrunning s.config.haveRxAtt
      { s with adc := s.adc.setAttenuation (s.config.rxAdc id) value } rfl Iff.rfl rfl
  | rfGain value =>
    exact storesOrNot_of_guard hrunning s.config.haveRxGain
      { s with adc := s.adc.setRfGain (s.config.rxAdc id) value } rfl Iff.rfl rfl
  | preamp value =>
    exact storesOrNot_of_guard hrunning havePreamp
      { s with adc := s.adc.setInt (s.config.rxAdc id) .preamp value } rfl Iff.rfl rfl
  | agcGain value => exact storesOrNot_agcGain hrunning value
  | panhigh value =>
    exact ⟨_, toTuningState_setReceiverIfRunning _, .inl ⟨rfl, fun _ => trivial⟩⟩
  | panlow value =>
    exact ⟨_, toTuningState_setReceiverIfRunning _, .inl ⟨rfl, fun _ => trivial⟩⟩
  | panstep value =>
    exact ⟨_, toTuningState_setReceiverIfRunning _, .inl ⟨rfl, fun _ => trivial⟩⟩

theorem bands_setSetting (hrunning : s.Running 0) (x : Setting)
    : (s.setSetting havePreamp id x).bands b
        = if (id = 0 ∧ b = (s.vfo 0).band) ∧ s.Takes havePreamp x.kind then
            (s.bands b).store x
          else
            s.bands b := by
  obtain ⟨t, ht, ⟨heq, htakes⟩ | ⟨heq, htakes⟩⟩ : s.StoresOrNot havePreamp id x :=
    storesOrNot hrunning x
  . rw [heq, bands_storeWithBand, ht]
    by_cases hhere : id = 0 ∧ b = (s.vfo 0).band
    . rw [if_pos hhere, if_pos ⟨hhere, htakes hhere.1⟩]
    . rw [if_neg hhere, if_neg fun h => hhere h.1]
  . rw [heq, ht, if_neg fun h => htakes h.1.1 h.2]

theorem config_setSetting (hrunning : s.Running 0) (x : Setting)
    : (s.setSetting havePreamp id x).config = s.config := by
  obtain ⟨t, ht, ⟨heq, _⟩ | ⟨heq, _⟩⟩ : s.StoresOrNot havePreamp id x := storesOrNot hrunning x
  . rw [heq, config_storeWithBand, ht]
  . rw [heq, ht]

theorem config_vfoIdBandChanged (id : Fin 2) (b : BandIndex)
    : (s.vfoIdBandChanged id b).config = s.config := by
  unfold vfoIdBandChanged
  split
  . rfl
  . rw [toTuningState_vfoVfosChanged, enterBand_eq, toTuningState_applyIfMoved,
      toTuningState_enterEntry]
    exact (s.sameSettings_steppedFor id b).config

theorem config_settingStep (hrunning : s.Running 0) (e : SettingEvent)
    : (s.settingStep havePreamp e).config = s.config := by
  cases e with
  | set id x => exact config_setSetting hrunning x
  | bandChanged b => exact config_vfoIdBandChanged 0 b

theorem running_settingStep (hrunning : s.Running 0) (e : SettingEvent)
    : (s.settingStep havePreamp e).Running 0 := by
  unfold TuningState.Running
  rw [config_settingStep hrunning]
  exact hrunning

-- a setting of this kind for the first receiver, with VFO A on the band
def Sets (b : BandIndex) (k : SettingKind) (s : RadioState) : SettingEvent → Prop
  | .set id x => id = 0 ∧ x.kind = k ∧ (s.vfo 0).band = b
  | .bandChanged _ => False

instance (b : BandIndex) (k : SettingKind) (s : RadioState) : (e : SettingEvent)
    → Decidable (s.Sets b k e)
  | .set _ _ => inferInstanceAs (Decidable (_ ∧ _))
  | .bandChanged _ => isFalse fun h => h

-- What is stored with a band stays until it is set again.
theorem stores_settingStep (hrunning : s.Running 0) {x : Setting} {e : SettingEvent}
    (hsets : ¬ (s.Sets b x.kind e ∧ s.Takes havePreamp x.kind))
    : ((s.settingStep havePreamp e).bands b).Stores x ↔ (s.bands b).Stores x := by
  cases e with
  | bandChanged b' => exact (s.sameStored_vfoIdBandChanged 0 b').stores b x
  | set id y =>
    change ((s.setSetting havePreamp id y).bands b).Stores x ↔ _
    rw [bands_setSetting hrunning]
    split
    next h =>
      obtain ⟨⟨hid, hb⟩, htakes⟩ := h
      apply BandState.stores_store_of_ne
      intro hkind
      rw [hkind] at htakes
      exact hsets ⟨⟨hid, hkind, hb.symm⟩, htakes⟩
    . exact Iff.rfl

theorem stores_exec (hrunning : s.Running 0) {x : Setting} {es : List SettingEvent}
    (hes : Run.Along (settingStep havePreamp)
      (fun s e => ¬ (s.Sets b x.kind e ∧ s.Takes havePreamp x.kind)) s es)
    (hstores : (s.bands b).Stores x)
    : ((Run.exec (settingStep havePreamp) s es).bands b).Stores x := by
  induction es generalizing s with
  | nil => exact hstores
  | cons e es ih =>
    exact ih (running_settingStep hrunning e) hes.2
      ((stores_settingStep hrunning hes.1).mpr hstores)

end RadioState

namespace Adcs

variable {adc : Adcs} {config : RadioConfig} {band : BandState}

theorem attenuation_setAttenuation (i : Fin 3) (value : Int)
    : ((adc.setAttenuation i value) i).int .attenuation = value := by
  simp [setAttenuation, setGain, setInt]

theorem preamp_setAttenuation (i : Fin 3) (value : Int)
    : ((adc.setAttenuation i value) i).int .preamp = (adc i).int .preamp := by
  simp [setAttenuation, setGain, setInt]

theorem gain_setRfGain (i : Fin 3) (value : ℚ)
    : ((adc.setRfGain i value) i).double .gain = value := by
  simp [setRfGain, setGain, setInt]

theorem preamp_setRfGain (i : Fin 3) (value : ℚ)
    : ((adc.setRfGain i value) i).int .preamp = (adc i).int .preamp := by
  simp [setRfGain, setGain, setInt]

theorem preamp_applyBand (i : Fin 3)
    : ((adc.applyBand config true i band) i).int .preamp = band.preamp := by
  unfold applyBand
  dsimp only
  rw [if_pos rfl]
  split
  . simp [setInt]
  . simp [setInt]

theorem setAttenuation_of_ne {i j : Fin 3} (h : j ≠ i) (value : Int)
    : (adc.setAttenuation i value) j = adc j := by
  simp [setAttenuation, setGain, setInt, h]

theorem setRfGain_of_ne {i j : Fin 3} (h : j ≠ i) (value : ℚ)
    : (adc.setRfGain i value) j = adc j := by
  simp [setRfGain, setGain, setInt, h]

theorem applyBand_of_ne {i j : Fin 3} (h : j ≠ i)
    : (adc.applyBand config true i band) j = adc j := by
  unfold applyBand
  dsimp only
  rw [if_pos rfl]
  split
  . simp [setInt, h]
  . simp [setInt, h]

-- without a CHARLY25 board, a receiver that runs has the settings of its band
theorem bandSettings_eq {id : Fin 2} (hrunning : id.val < config.receivers)
    (hboard : config.filterBoard ≠ .charly25)
    : adc.bandSettings config true id band
        =
      let adc :=
        if config.protocol = .soapysdr then adc
        else adc.applyBand config true (config.rxAdc id) band
      let adc :=
        if config.haveRxAtt then adc.setAttenuation (config.rxAdc id) band.attenuation else adc
      if config.haveRxGain then adc.setRfGain (config.rxAdc id) band.rfGain else adc := by
  unfold bandSettings
  dsimp only
  rw [if_neg (by decide), if_neg hboard, if_pos hrunning]
  simp only [hrunning, true_and]

section

variable {id : Fin 2} (hrunning : id.val < config.receivers)
  (hboard : config.filterBoard ≠ .charly25)
include hrunning hboard

theorem attenuation_bandSettings (hatt : config.haveRxAtt) (hgain : config.haveRxGain = false)
    : ((adc.bandSettings config true id band) (config.rxAdc id)).int .attenuation
        = band.attenuation := by
  rw [bandSettings_eq hrunning hboard]
  dsimp only
  rw [if_neg (Bool.eq_false_iff.mp hgain), if_pos hatt]
  apply attenuation_setAttenuation

theorem gain_bandSettings (hgain : config.haveRxGain)
    : ((adc.bandSettings config true id band) (config.rxAdc id)).double .gain = band.rfGain := by
  rw [bandSettings_eq hrunning hboard]
  dsimp only
  rw [if_pos hgain]
  apply gain_setRfGain

theorem preamp_bandSettings (hprotocol : config.protocol ≠ .soapysdr)
    : ((adc.bandSettings config true id band) (config.rxAdc id)).int .preamp = band.preamp := by
  rw [bandSettings_eq hrunning hboard]
  dsimp only
  rw [if_neg hprotocol]
  split
  . rw [preamp_setRfGain]
    split
    . rw [preamp_setAttenuation, preamp_applyBand]
    . rw [preamp_applyBand]
  . split
    . rw [preamp_setAttenuation, preamp_applyBand]
    . rw [preamp_applyBand]

theorem bandSettings_of_ne {i : Fin 3} (h : i ≠ config.rxAdc id)
    : (adc.bandSettings config true id band) i = adc i := by
  have hlevels (adc' : Adcs) (hadc' : adc' i = adc i)
      : (if config.haveRxAtt then adc'.setAttenuation (config.rxAdc id) band.attenuation
          else adc') i = adc i := by
    split
    . rw [setAttenuation_of_ne h, hadc']
    . exact hadc'
  have hband : (if config.protocol = .soapysdr then adc
      else adc.applyBand config true (config.rxAdc id) band) i = adc i := by
    split
    . rfl
    . exact applyBand_of_ne h
  rw [bandSettings_eq hrunning hboard]
  dsimp only
  split
  . rw [setRfGain_of_ne h, hlevels _ hband]
  . exact hlevels _ hband

end

end Adcs

-- what the receiver gets from its band
def ReceiverState.display (rx : ReceiverState) (band : BandState) : ReceiverState :=
  { rx with
    panadapterHigh := band.panhigh
    panadapterLow := band.panlow
    panadapterStep := band.panstep
    agcGain := if rx.agc ≠ agcFixed then band.agcGain else rx.agcGain }

namespace RadioState

variable {s : RadioState} {id : Fin 2}

theorem receiver_storeWithBand (store : BandState → BandState)
    : (s.storeWithBand id store).receiver = s.receiver := by
  unfold storeWithBand
  split
  . rfl
  . rfl

theorem receiver_applyLevels (band : BandState)
    : (s.applyLevels id band).receiver = s.receiver := by
  have hatt (t : RadioState) (value : Int)
      : (t.radioSetAttenuation id value).receiver = t.receiver := by
    unfold radioSetAttenuation
    split
    . rfl
    . rw [receiver_storeWithBand]
  have hgain (t : RadioState) (value : ℚ)
      : (t.radioSetRfGain id value).receiver = t.receiver := by
    unfold radioSetRfGain
    split
    . rfl
    . rw [receiver_storeWithBand]
  unfold applyLevels
  split
  . unfold radioSetC25Att
    split
    . rfl
    . rfl
  . rw [hgain, hatt]

-- The step from `s` to `t` has made the receiver `rx`.
structure Receives (s t : RadioState) (id : Fin 2) (rx : ReceiverState) : Prop where
  receiver : t.receiver = Function.update s.receiver id rx
  config : t.config = s.config

theorem Receives.refl (s : RadioState) (id : Fin 2) : Receives s s id (s.receiver id) where
  receiver := (Function.update_eq_self id s.receiver).symm
  config := rfl

section

variable {t : RadioState} {rx : ReceiverState} (hrunning : s.Running id) (h : Receives s t id rx)
include hrunning h

theorem Receives.running : t.Running id := by
  unfold TuningState.Running
  rwa [h.config]

omit hrunning in
theorem Receives.setReceiver (set : ReceiverState → ReceiverState)
    : Receives s (t.setReceiver id (set (t.receiver id))) id (set rx) where
  receiver := by
    rw [receiver_setReceiver, h.receiver, Function.update_self, Function.update_idem]
  config := h.config

theorem Receives.setAndStore (set : ReceiverState → ReceiverState) (store : BandState → BandState)
    : Receives s ((t.setReceiverIfRunning id set).storeWithBand id store) id (set rx) where
  receiver := by
    unfold setReceiverIfRunning
    rw [receiver_storeWithBand, if_pos (h.running hrunning)]
    exact (h.setReceiver set).receiver
  config := by
    rw [config_storeWithBand, toTuningState_setReceiverIfRunning, h.config]

theorem Receives.radioSetAgcGain (value : ℚ)
    : Receives s (t.radioSetAgcGain id value) id { rx with agcGain := value } := by
  have hset := h.setReceiver ({ · with agcGain := value })
  unfold RadioState.radioSetAgcGain
  dsimp only
  rw [if_neg (not_not_intro (h.running hrunning))]
  split
  . constructor
    . rw [receiver_storeWithBand]
      exact hset.receiver
    . rw [config_storeWithBand]
      exact hset.config
  . exact hset

theorem Receives.applyDisplay (band : BandState)
    : Receives s (t.applyDisplay id band) id (rx.display band) := by
  have hhigh := h.setAndStore hrunning ({ · with panadapterHigh := band.panhigh })
    ({ · with panhigh := band.panhigh })
  have hlow := hhigh.setAndStore hrunning ({ · with panadapterLow := band.panlow })
    ({ · with panlow := band.panlow })
  have hstep := hlow.setAndStore hrunning ({ · with panadapterStep := band.panstep })
    ({ · with panstep := band.panstep })
  have hagc := hstep.radioSetAgcGain hrunning band.agcGain
  have hmode := congrFun hstep.receiver id
  rw [Function.update_self] at hmode
  unfold RadioState.applyDisplay ReceiverState.display
  dsimp only
  split
  next happly =>
    have hfixed : rx.agc ≠ agcFixed := by
      intro hfixed
      exact happly.2 ((congrArg ReceiverState.agc hmode).trans hfixed)
    rw [if_pos hfixed]
    exact hagc
  next happly =>
    have hfixed : ¬ rx.agc ≠ agcFixed := by
      intro hfixed
      apply happly
      refine ⟨hstep.running hrunning, ?_⟩
      intro heq
      exact hfixed ((congrArg ReceiverState.agc hmode).symm.trans heq)
    rw [if_neg hfixed]
    exact hstep

end

theorem receives_radioApplyBandSettings (hrunning : s.Running id)
    : Receives s (s.radioApplyBandSettings true id) id
        ((s.receiver id).display (s.bands (s.vfo id).band)) := by
  have hantennas := s.sameTuning_applyAntennas true (s.config.rxAdc id) (s.bands (s.vfo id).band)
  have hreceiver : (s.applyAntennas true (s.config.rxAdc id) (s.bands (s.vfo id).band)).receiver
      = s.receiver := by
    unfold applyAntennas
    split
    . rfl
    . rfl
  have hlevels : Receives s ((s.applyAntennas true (s.config.rxAdc id)
      (s.bands (s.vfo id).band)).applyLevels id (s.bands (s.vfo id).band)) id (s.receiver id) := by
    constructor
    . rw [receiver_applyLevels, hreceiver, Function.update_eq_self]
    . exact (hantennas.applyLevels rfl).config
  unfold radioApplyBandSettings
  dsimp only
  rw [if_pos hrunning, if_pos rfl]
  exact hlevels.applyDisplay hrunning _

theorem receiver_vfoVfosChanged (hrunning : s.Running 0)
    : s.vfoVfosChanged.receiver 0
        = ((s.rxVfoChanged 0).receiver 0).display (s.bands (s.vfo 0).band) := by
  have hrunning' : (s.rxVfoChanged 0).radioTxVfoChanged.Running 0 := by
    unfold TuningState.Running
    rwa [toTuningState_radioTxVfoChanged, toTuningState_rxVfoChanged]
  have hfirst := (receives_radioApplyBandSettings hrunning').receiver
  have hbands : (s.rxVfoChanged 0).radioTxVfoChanged.bands
      ((s.rxVfoChanged 0).radioTxVfoChanged.vfo 0).band = s.bands (s.vfo 0).band := by
    rw [toTuningState_radioTxVfoChanged, toTuningState_rxVfoChanged, TuningState.bands_setVfo,
      TuningState.vfo_setVfo, Function.update_self, VfoState.band_frequencyChanged]
  have hzero := congrFun hfirst 0
  rw [Function.update_self, hbands, receiver_radioTxVfoChanged] at hzero
  unfold vfoVfosChanged
  dsimp only
  split
  next htwo =>
    generalize (s.rxVfoChanged 0).radioTxVfoChanged.radioApplyBandSettings true 0 = t at *
    have hone : (t.rxVfoChanged 1).Running 1 := by
      unfold TuningState.Running
      rw [toTuningState_rxVfoChanged, TuningState.config_setVfo, htwo]
      exact Nat.one_lt_two
    have hne : (0 : Fin 2) ≠ 1 := by decide
    rw [(receives_radioApplyBandSettings hone).receiver, Function.update_of_ne hne,
      receiver_rxVfoChanged_of_ne t hne, hzero]
  . exact hzero

end RadioState

-- what `radio_start` makes of the capabilities of the devices
structure RadioConfig.Equipped (config : RadioConfig) (havePreamp : Bool) : Prop where
  running : 0 < config.receivers
  haveRxGain : config.haveRxGain → config.haveRxAtt = false
  havePreamp : havePreamp → config.protocol ≠ .soapysdr

-- the radio has a setting of this kind
def RadioConfig.Has (config : RadioConfig) (havePreamp : Bool) : SettingKind → Prop
  | .attenuation => config.haveRxAtt
  | .rfGain => config.haveRxGain
  | .preamp => havePreamp
  | .agcGain | .panhigh | .panlow | .panstep => True

namespace RadioState

variable {havePreamp : Bool} {s : RadioState}

theorem Takes.has {k : SettingKind} (h : s.Takes havePreamp k) : s.config.Has havePreamp k := by
  cases k
  all_goals first
    | exact h
    | exact trivial

theorem adc_vfoVfosChanged_apply (hboard : s.config.filterBoard ≠ .charly25)
    (hother : s.config.receivers = 2 → s.config.rxAdc 1 ≠ s.config.rxAdc 0)
    : s.vfoVfosChanged.adc (s.config.rxAdc 0)
        = (s.adc.bandSettings s.config true 0 (s.bands (s.vfo 0).band)) (s.config.rxAdc 0) := by
  rw [adc_vfoVfosChanged]
  unfold Adcs.vfoSettings
  dsimp only
  split
  next htwo =>
    apply Adcs.bandSettings_of_ne _ hboard (hother htwo).symm
    rw [htwo]
    exact Nat.one_lt_two
  . rfl

-- The changes of the VFOs end with the settings of the band of VFO A.
theorem inEffect_vfoVfosChanged (hradio : s.config.Equipped havePreamp) {x : Setting}
    (hhas : s.config.Has havePreamp x.kind) (hstores : (s.bands (s.vfo 0).band).Stores x)
    (hgets : s.vfoVfosChanged.Gets x.kind)
    : s.vfoVfosChanged.InEffect x := by
  have hconfig : s.vfoVfosChanged.config = s.config := by
    rw [toTuningState_vfoVfosChanged]
  have hreceiver := receiver_vfoVfosChanged (s := s) hradio.running
  cases x with
  | attenuation value =>
    obtain ⟨hboard, hother⟩ := hgets
    rw [hconfig] at hboard hother
    have hgain : s.config.haveRxGain = false := by
      rw [Bool.eq_false_iff]
      intro hgain
      exact absurd ((hradio.haveRxGain hgain).symm.trans hhas) Bool.false_ne_true
    change (s.vfoVfosChanged.adc (s.vfoVfosChanged.config.rxAdc 0)).int .attenuation = value
    rw [hconfig, adc_vfoVfosChanged_apply hboard hother,
      Adcs.attenuation_bandSettings hradio.running hboard hhas hgain]
    exact hstores
  | rfGain value =>
    obtain ⟨hboard, hother⟩ := hgets
    rw [hconfig] at hboard hother
    change (s.vfoVfosChanged.adc (s.vfoVfosChanged.config.rxAdc 0)).double .gain = value
    rw [hconfig, adc_vfoVfosChanged_apply hboard hother,
      Adcs.gain_bandSettings hradio.running hboard hhas]
    exact hstores
  | preamp value =>
    obtain ⟨hboard, hother⟩ := hgets
    rw [hconfig] at hboard hother
    change (s.vfoVfosChanged.adc (s.vfoVfosChanged.config.rxAdc 0)).int .preamp = value
    rw [hconfig, adc_vfoVfosChanged_apply hboard hother,
      Adcs.preamp_bandSettings hradio.running hboard (hradio.havePreamp hhas)]
    exact hstores
  | agcGain value =>
    change (s.vfoVfosChanged.receiver 0).agc ≠ agcFixed at hgets
    change (s.vfoVfosChanged.receiver 0).agcGain = value
    rw [hreceiver] at hgets ⊢
    exact (if_pos hgets).trans hstores
  | panhigh value =>
    change (s.vfoVfosChanged.receiver 0).panadapterHigh = value
    rw [hreceiver]
    exact hstores
  | panlow value =>
    change (s.vfoVfosChanged.receiver 0).panadapterLow = value
    rw [hreceiver]
    exact hstores
  | panstep value =>
    change (s.vfoVfosChanged.receiver 0).panadapterStep = value
    rw [hreceiver]
    exact hstores

theorem inEffect_vfoIdBandChanged (hradio : s.config.Equipped havePreamp) {x : Setting}
    {b b' : BandIndex} (hhas : s.config.Has havePreamp x.kind) (hstores : (s.bands b).Stores x)
    (hleft : (s.vfo 0).band ≠ b) (hback : ((s.vfoIdBandChanged 0 b').vfo 0).band = b)
    (hgets : (s.vfoIdBandChanged 0 b').Gets x.kind)
    : (s.vfoIdBandChanged 0 b').InEffect x := by
  have hstored := (s.sameStored_vfoIdBandChanged 0 b').stores b x
  have hconfig := config_vfoIdBandChanged (s := s) 0 b'
  unfold vfoIdBandChanged at *
  by_cases hrange : b' ≠ (s.vfo 0).band ∧ OutOfRange s.config (s.bands b')
  . rw [if_pos hrange] at hback
    exact absurd hback hleft
  . rw [if_neg hrange] at *
    have hsame : ((s.enterBand 0 b').vfoVfosChanged).toTuningState
        = { (s.enterBand 0 b').toTuningState with vfo := (s.enterBand 0 b').settled } :=
      toTuningState_vfoVfosChanged _
    rw [hsame] at hstored hconfig hback
    change (s.enterBand 0 b').config = s.config at hconfig
    change ((s.enterBand 0 b').settled 0).band = b at hback
    unfold settled at hback
    rw [band_settle] at hback
    have hradio' : (s.enterBand 0 b').config.Equipped havePreamp := by
      rw [hconfig]
      exact hradio
    apply inEffect_vfoVfosChanged hradio'
    . rw [hconfig]
      exact hhas
    . rw [hback]
      exact hstored.mpr hstores
    . exact hgets

theorem config_exec (hrunning : s.Running 0) (es : List SettingEvent)
    : (Run.exec (settingStep havePreamp) s es).config = s.config := by
  induction es generalizing s with
  | nil => rfl
  | cons e es ih =>
    rw [Run.exec_cons, ih (running_settingStep hrunning e), config_settingStep hrunning]

-- The setters and the changes of the band leave the records of the other bands alone.
theorem bands_settingStep (hrunning : s.Running 0) (e : SettingEvent) {b : BandIndex}
    (hb : b ≠ (s.vfo 0).band)
    : (s.settingStep havePreamp e).bands b
        = { s.bands b with bandstack := ((s.settingStep havePreamp e).bands b).bandstack } := by
  cases e with
  | bandChanged b' => exact s.sameStored_vfoIdBandChanged 0 b' b
  | set id x =>
    have hbands : (s.settingStep havePreamp (.set id x)).bands b = s.bands b := by
      refine (bands_setSetting hrunning x).trans ?_
      rw [if_neg fun h => hb h.1.2]
    rw [hbands]

/--
A setting that is stored with the band of VFO A is in effect when VFO A returns to the band, if it was not set again
there and the first receiver gets what is stored; and no record of another band is changed.
-/
theorem settings_by_band (hradio : s.config.Equipped havePreamp)
    : (∀ (e : SettingEvent) (b : BandIndex), b ≠ (s.vfo 0).band →
          (s.settingStep havePreamp e).bands b
            = { s.bands b with bandstack := ((s.settingStep havePreamp e).bands b).bandstack })
        ∧ ∀ (x : Setting) (after : List SettingEvent) (b' : BandIndex), s.Takes havePreamp x.kind →
          Run.Along (settingStep havePreamp)
            (fun t e => ¬ (t.Sets (s.vfo 0).band x.kind e ∧ t.Takes havePreamp x.kind))
            (s.setSetting havePreamp 0 x) after →
          let t := Run.exec (settingStep havePreamp) (s.setSetting havePreamp 0 x) after
          (t.vfo 0).band ≠ (s.vfo 0).band →
          ((t.vfoIdBandChanged 0 b').vfo 0).band = (s.vfo 0).band →
          (t.vfoIdBandChanged 0 b').Gets x.kind →
          (t.vfoIdBandChanged 0 b').InEffect x := by
  refine ⟨fun e b hb => bands_settingStep hradio.running e hb, ?_⟩
  intro x after b' htakes hlast t hleft hback hgets
  have hfirst : (s.setSetting havePreamp 0 x).config = s.config :=
    config_setSetting hradio.running x
  have hrunning : (s.setSetting havePreamp 0 x).Running 0 := by
    unfold TuningState.Running
    rw [hfirst]
    exact hradio.running
  have hconfig : t.config = s.config := (config_exec hrunning after).trans hfirst
  have hstores : ((s.setSetting havePreamp 0 x).bands (s.vfo 0).band).Stores x := by
    rw [bands_setSetting hradio.running, if_pos ⟨⟨rfl, rfl⟩, htakes⟩]
    exact BandState.stores_store_self _ x
  have hradio' : t.config.Equipped havePreamp := by
    rw [hconfig]
    exact hradio
  apply inEffect_vfoIdBandChanged hradio' _ _ hleft hback hgets
  . rw [hconfig]
    exact htakes.has
  . exact stores_exec hrunning hlast hstores

-- 20 m with 10 dB, 40 m with 20 dB and a higher picture, and back
theorem settings_by_band_attenuation
    : let s : RadioState := { initialState with config := { initialConfig with receivers := 1 } }
      s.config.Equipped false
        ∧ ((Run.exec (settingStep false) (s.setSetting false 0 (.attenuation 10))
              [.bandChanged 5, .set 0 (.attenuation 20), .set 0 (.panhigh (-50))]).vfoIdBandChanged
            0 7).InEffect (.attenuation 10) := by
  have hequipped : RadioConfig.Equipped { initialConfig with receivers := 1 } false :=
    ⟨Nat.one_pos, fun h => absurd h (by decide), fun h => absurd h (by decide)⟩
  refine ⟨hequipped, ?_⟩
  apply (settings_by_band hequipped).2
  . exact rfl
  . decide
  . decide
  . decide
  . exact ⟨by decide, fun h => absurd h (by decide)⟩

-- The setting `x`, made now, is in effect when VFO A returns, if it was not set again on its band.
def ReturnsInEffect (havePreamp : Bool) (s : RadioState) (x : Setting) (after : List SettingEvent)
    (b' : BandIndex) : Prop :=
  s.config.Has havePreamp x.kind →
  Run.Along (settingStep havePreamp) (fun t e => ¬ t.Sets (s.vfo 0).band x.kind e)
    (s.setSetting havePreamp 0 x) after →
  let t := Run.exec (settingStep havePreamp) (s.setSetting havePreamp 0 x) after
  (t.vfo 0).band ≠ (s.vfo 0).band →
  ((t.vfoIdBandChanged 0 b').vfo 0).band = (s.vfo 0).band →
  (t.vfoIdBandChanged 0 b').InEffect x

-- The AGC is fixed; there is a CHARLY25 board; the other VFO is on 40 m and its receiver has the same ADC.
theorem not_returnsInEffect
    : ¬ ReturnsInEffect false
          { initialState with receiver := fun _ => { initialReceiver with agc := agcFixed } }
          (.agcGain 90) [.bandChanged 5, .set 0 (.agcGain 50)] 7
        ∧ ¬ ReturnsInEffect false
          { initialState with
            config := { initialConfig with receivers := 1, filterBoard := .charly25 } }
          (.attenuation 10) [.bandChanged 5, .set 0 (.attenuation 20)] 7
        ∧ ¬ ReturnsInEffect false
          (initialState.setVfo 1 { initialVfo with band := 5, frequency := 7010000 })
          (.attenuation 10) [.bandChanged 3] 7 := by
  refine ⟨?_, ?_, ?_⟩
  . intro h
    have heffect : _ = (90 : ℚ) :=
      h trivial (by decide) (by decide +kernel) (by decide +kernel)
    revert heffect
    decide
  . intro h
    have heffect : _ = (10 : Int) :=
      h rfl (by decide) (by decide +kernel) (by decide +kernel)
    revert heffect
    decide
  . intro h
    have heffect : _ = (10 : Int) :=
      h rfl (by decide) (by decide +kernel) (by decide +kernel)
    revert heffect
    decide

end RadioState
