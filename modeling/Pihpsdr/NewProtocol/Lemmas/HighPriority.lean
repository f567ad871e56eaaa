import Pihpsdr.Lib.Mask
import Pihpsdr.NewProtocol.Impl.HighPriority

/-!
The bits of the two ALEX words by groups (antennas, low pass filters, high pass filters, the relay), and
the attenuators: what the packet "high priority" switches while transmitting and receiving, and whether
the packet "transmit specific" says the same.
-/

namespace NewProtocol

def txAntennas : List (BitVec 32) :=
  [alexTxAntenna1, alexTxAntenna2, alexTxAntenna3]

def lpfs : List (BitVec 32) :=
  [alex160Lpf, alex80Lpf, alex6040Lpf, alex3020Lpf, alex1715Lpf, alex1210Lpf, alex6BypassLpf]

def hpfs : List (BitVec 32) :=
  [alexBypassHpf, alex15MhzHpf, alex65MhzHpf, alex95MhzHpf, alex13MhzHpf, alex20MhzHpf,
    alex6mPreamp]

def relays : List (BitVec 32) :=
  [alexTxRelay]

-- all that the attenuator, the filters and the antennas of the receivers can set
def rxWords : List (BitVec 32) :=
  [0, alexAttenuation10dB, alexAttenuation20dB, alexAttenuation30dB,
    alexRxAntennaExt1 ||| alexRxAntennaBypass, alexRxAntennaExt2 ||| alexRxAntennaBypass,
    alexRxAntennaXvtr ||| alexRxAntennaBypass, alexRxAntennaExt1 ||| alex0Anan7000RxSelect,
    alexRxAntennaXvtr ||| alex0Anan7000RxSelect, alexRxAntennaBypass, alexRxAntennaExt1,
    alexRxAntennaExt2, alexRxAntennaXvtr]

-- The limit up to which the source uses a low pass filter stands for its cut-off.
def lpfCutoff (lpf : BitVec 32) : Int :=
  if lpf = alex160Lpf then 2500000
  else if lpf = alex80Lpf then 5000000
  else if lpf = alex6040Lpf then 8000000
  else if lpf = alex3020Lpf then 16500000
  else if lpf = alex1715Lpf then 24000000
  else 35600000

-- the corners that `alex.h` names
def hpfCorner (hpf : BitVec 32) : Int :=
  if hpf = alex15MhzHpf then 1500000
  else if hpf = alex65MhzHpf then 6500000
  else if hpf = alex95MhzHpf then 9500000
  else if hpf = alex13MhzHpf then 13000000
  else if hpf = alex20MhzHpf then 20000000
  else 35000000

/-- The low pass filter is bypassed, or its cut-off is not below the frequency. -/
def LpfPasses (lpf : BitVec 32) (f : Int) : Prop :=
  lpf = alex6BypassLpf ∨ f ≤ lpfCutoff lpf

/-- The high pass filter is bypassed, or its corner is not above the frequency. -/
def HpfPasses (hpf : BitVec 32) (f : Int) : Prop :=
  hpf = alexBypassHpf ∨ hpfCorner hpf ≤ f

instance (lpf : BitVec 32) (f : Int) : Decidable (LpfPasses lpf f) :=
  inferInstanceAs (Decidable (_ ∨ _))

instance (hpf : BitVec 32) (f : Int) : Decidable (HpfPasses hpf f) :=
  inferInstanceAs (Decidable (_ ∨ _))

theorem LpfPasses.mono {lpf : BitVec 32} {f f' : Int} (h : LpfPasses lpf f) (hle : f' ≤ f)
    : LpfPasses lpf f' :=
  h.imp_right hle.trans

theorem HpfPasses.mono {hpf : BitVec 32} {f f' : Int} (h : HpfPasses hpf f) (hle : f ≤ f')
    : HpfPasses hpf f' :=
  h.imp_right fun hcorner => hcorner.trans hle

theorem mem_lpfs (f : Int) : lpfBits f ∈ lpfs := by
  unfold lpfBits
  split_ifs
  all_goals decide

theorem mem_hpfs (f : Int) : hpfBits f ∈ hpfs := by
  unfold hpfBits
  split_ifs
  all_goals decide

theorem passes_lpfBits (f : Int) : LpfPasses (lpfBits f) f := by
  unfold lpfBits
  split_ifs with h₁ h₂ h₃ h₄ h₅ h₆
  . exact .inl rfl
  . exact .inr (Int.not_lt.mp h₁)
  . exact .inr (Int.not_lt.mp h₂)
  . exact .inr (Int.not_lt.mp h₃)
  . exact .inr (Int.not_lt.mp h₄)
  . exact .inr (Int.not_lt.mp h₅)
  . exact .inr (Int.not_lt.mp h₆)

-- The filters are used from 300 kHz above their corners, or more, on.
theorem passes_hpfBits (f : Int) : HpfPasses (hpfBits f) f := by
  unfold hpfBits
  split_ifs with h₁ h₂ h₃ h₄ h₅ h₆
  . exact .inl rfl
  . exact .inr (show 1500000 ≤ f by omega)
  . exact .inr (Int.not_lt.mp h₂)
  . exact .inr (Int.not_lt.mp h₃)
  . exact .inr (Int.not_lt.mp h₄)
  . exact .inr (Int.not_lt.mp h₅)
  . exact .inr (show 35000000 ≤ f by omega)

-- the band pass filters share the bits of the high pass filters
theorem mem_hpfs_bpfBits (f : Int) : bpfBits f ∈ hpfs := by
  unfold bpfBits
  split_ifs
  all_goals decide

theorem mem_antennaBits (antenna : Int) : antennaBits antenna ∈ 0 :: txAntennas := by
  unfold antennaBits
  split_ifs
  all_goals decide

theorem selected_antennaBits {antenna : Int} (h : 0 ≤ antenna) (h' : antenna ≤ 2)
    : Mask.selected txAntennas (antennaBits antenna) = [antennaBits antenna] := by
  obtain rfl | rfl | rfl : antenna = 0 ∨ antenna = 1 ∨ antenna = 2 := by omega
  all_goals decide

theorem single_filters : Mask.Single lpfs ∧ Mask.Single hpfs := by
  decide

theorem selected_lpfBits (f : Int) : Mask.selected lpfs (lpfBits f) = [lpfBits f] :=
  single_filters.1 _ (mem_lpfs f)

theorem selected_hpfBits (f : Int) : Mask.selected hpfs (hpfBits f) = [hpfBits f] :=
  single_filters.2 _ (mem_hpfs f)

-- the relay, the bit for PureSignal and the bit that grounds the input of the second receiver
def otherBits : List (BitVec 32) :=
  [alexTxRelay, alexPsBit, alex1Anan7000RxGndOnTx]

-- No part of the words that belongs elsewhere has a bit of the group.
theorem apart_txAntennas
    : Mask.Apart txAntennas rxWords ∧ Mask.Apart txAntennas otherBits
        ∧ Mask.Apart txAntennas hpfs ∧ Mask.Apart txAntennas lpfs := by
  decide

theorem apart_lpfs
    : Mask.Apart lpfs rxWords ∧ Mask.Apart lpfs otherBits
        ∧ Mask.Apart lpfs hpfs ∧ Mask.Apart lpfs (0 :: txAntennas) := by
  decide

theorem apart_hpfs
    : Mask.Apart hpfs rxWords ∧ Mask.Apart hpfs otherBits
        ∧ Mask.Apart hpfs lpfs ∧ Mask.Apart hpfs (0 :: txAntennas) := by
  decide

theorem apart_relays
    : Mask.Apart relays rxWords ∧ Mask.Apart relays [alexPsBit, alex1Anan7000RxGndOnTx]
        ∧ Mask.Apart relays hpfs ∧ Mask.Apart relays lpfs
        ∧ Mask.Apart relays (0 :: txAntennas) := by
  decide

namespace RadioSettings

variable (s : RadioSettings)

theorem mem_alexAttenuationBits : s.alexAttenuationBits ∈ rxWords := by
  unfold alexAttenuationBits
  split_ifs
  all_goals decide

theorem mem_rxAntennaBits : s.rxAntennaBits ∈ rxWords := by
  unfold rxAntennaBits
  dsimp only
  split_ifs
  all_goals decide

theorem mem_rxFilterBits0 : s.rxFilterBits0 ∈ hpfs := by
  unfold rxFilterBits0
  split
  . apply mem_hpfs_bpfBits
  . split
    . apply mem_hpfs_bpfBits
    . apply mem_hpfs

theorem off_rxFilterBits1 (group : List (BitVec 32)) (hfilters : Mask.Apart group hpfs)
    (hgnd : Mask.Off group alex1Anan7000RxGndOnTx)
    : Mask.Off group s.rxFilterBits1 := by
  unfold rxFilterBits1 bitIf
  apply Mask.Off.ite
  . exact (hfilters _ (mem_hpfs_bpfBits _)).or (hgnd.ite Mask.off_zero)
  . exact Mask.off_zero

-- the part of the first word before the filters of the transmitter
theorem off_rxPart0 (group : List (BitVec 32)) (hrx : Mask.Apart group rxWords)
    (hother : Mask.Apart group otherBits)
    : Mask.Off group (s.alexAttenuationBits ||| bitIf (s.localPaEnabled && s.xmit) alexTxRelay
        ||| bitIf (s.puresignal && s.xmit) alexPsBit) := by
  have hrelay : Mask.Off group alexTxRelay := hother _ (by simp [otherBits])
  have hps : Mask.Off group alexPsBit := hother _ (by simp [otherBits])
  unfold bitIf
  exact ((hrx _ s.mem_alexAttenuationBits).or (hrelay.ite Mask.off_zero)).or
    (hps.ite Mask.off_zero)

theorem selected_txAntennas_alex0
    : Mask.selected txAntennas s.alex0 = Mask.selected txAntennas (antennaBits s.rxant) := by
  obtain ⟨hrx, hother, hhpf, hlpf⟩ := apart_txAntennas
  have hpart := s.off_rxPart0 txAntennas hrx hother
  unfold alex0
  rw [Mask.Off.selected_or_left]
  exact ((hpart.or (hhpf _ s.mem_rxFilterBits0)).or (hlpf _ (mem_lpfs _))).or
    (hrx _ s.mem_rxAntennaBits)

theorem selected_lpfs_alex0 : Mask.selected lpfs s.alex0 = [lpfBits s.lpfFreq] := by
  obtain ⟨hrx, hother, hhpf, hant⟩ := apart_lpfs
  have hpart := s.off_rxPart0 lpfs hrx hother
  unfold alex0
  rw [Mask.Off.selected_or_right (hant _ (mem_antennaBits _)),
    Mask.Off.selected_or_right (hrx _ s.mem_rxAntennaBits),
    Mask.Off.selected_or_left (hpart.or (hhpf _ s.mem_rxFilterBits0)), selected_lpfBits]

theorem selected_hpfs_alex0 : Mask.selected hpfs s.alex0 = Mask.selected hpfs s.rxFilterBits0 := by
  obtain ⟨hrx, hother, hlpf, hant⟩ := apart_hpfs
  have hpart := s.off_rxPart0 hpfs hrx hother
  unfold alex0
  rw [Mask.Off.selected_or_right (hant _ (mem_antennaBits _)),
    Mask.Off.selected_or_right (hrx _ s.mem_rxAntennaBits),
    Mask.Off.selected_or_right (hlpf _ (mem_lpfs _)), Mask.Off.selected_or_left hpart]

theorem selected_relays_alex0
    : Mask.selected relays s.alex0
        = if s.localPaEnabled && s.xmit then [alexTxRelay] else [] := by
  obtain ⟨hrx, hother, hhpf, hlpf, hant⟩ := apart_relays
  have hps : Mask.Off relays (bitIf (s.puresignal && s.xmit) alexPsBit) :=
    Mask.Off.ite (hother _ (by simp)) Mask.off_zero
  unfold alex0
  rw [Mask.Off.selected_or_right (hant _ (mem_antennaBits _)),
    Mask.Off.selected_or_right (hrx _ s.mem_rxAntennaBits),
    Mask.Off.selected_or_right (hlpf _ (mem_lpfs _)),
    Mask.Off.selected_or_right (hhpf _ s.mem_rxFilterBits0), Mask.Off.selected_or_right hps,
    Mask.Off.selected_or_left (hrx _ s.mem_alexAttenuationBits)]
  unfold bitIf
  split_ifs
  all_goals decide

-- the parts of the second word that are not of one of the groups
theorem off_rxPart1 (group : List (BitVec 32)) (hhpf : Mask.Apart group hpfs)
    (hother : Mask.Apart group otherBits)
    : Mask.Off group (bitIf s.localPaEnabled alexTxRelay ||| bitIf s.puresignal alexPsBit
        ||| s.rxFilterBits1) := by
  have hrelay : Mask.Off group alexTxRelay := hother _ (by simp [otherBits])
  have hps : Mask.Off group alexPsBit := hother _ (by simp [otherBits])
  have hfilter := s.off_rxFilterBits1 group hhpf (hother _ (by simp [otherBits]))
  unfold bitIf
  exact ((hrelay.ite Mask.off_zero).or (hps.ite Mask.off_zero)).or hfilter

theorem selected_txAntennas_alex1
    : Mask.selected txAntennas s.alex1 = Mask.selected txAntennas (antennaBits s.txant) := by
  obtain ⟨-, hother, hhpf, hlpf⟩ := apart_txAntennas
  have hpart := s.off_rxPart1 txAntennas hhpf hother
  unfold alex1
  rw [Mask.Off.selected_or_left (hpart.or (hlpf _ (mem_lpfs _)))]

theorem selected_lpfs_alex1 : Mask.selected lpfs s.alex1 = [lpfBits s.ducFrequency] := by
  obtain ⟨-, hother, hhpf, hant⟩ := apart_lpfs
  have hpart := s.off_rxPart1 lpfs hhpf hother
  unfold alex1
  rw [Mask.Off.selected_or_right (hant _ (mem_antennaBits _)),
    Mask.Off.selected_or_left hpart, selected_lpfBits]

theorem selected_relays_alex1
    : Mask.selected relays s.alex1 = if s.localPaEnabled then [alexTxRelay] else [] := by
  obtain ⟨-, hother, hhpf, hlpf, hant⟩ := apart_relays
  have hps : Mask.Off relays (bitIf s.puresignal alexPsBit) :=
    Mask.Off.ite (hother _ (by simp)) Mask.off_zero
  have hfilter := s.off_rxFilterBits1 relays hhpf (hother _ (by simp))
  unfold alex1
  rw [Mask.Off.selected_or_right (hant _ (mem_antennaBits _)),
    Mask.Off.selected_or_right (hlpf _ (mem_lpfs _)), Mask.Off.selected_or_right hfilter,
    Mask.Off.selected_or_right hps]
  unfold bitIf
  split_ifs
  all_goals decide

-- what the attenuators of the two ADCs are set to without PureSignal
def baseAttenuation0 (maximum : Bool) : BitVec 8 :=
  if maximum then 31 else BitVec.ofInt 8 (s.adcs 0).attenuation

def baseAttenuation1 (maximum : Bool) : BitVec 8 :=
  if maximum then
    31
  else
    BitVec.ofInt 8 (if s.diversityEnabled then (s.adcs 0).attenuation else (s.adcs 1).attenuation)

section Attenuators

variable (p : Packet)

theorem putAttenuators_of_ne {j : Nat} (h : j ≠ 1442) (h' : j ≠ 1443)
    : s.putAttenuators p j = p j := by
  unfold putAttenuators
  split_ifs
  all_goals simp only [Packet.set_of_ne _ h, Packet.set_of_ne _ h']

theorem putAttenuators_adc0
    : s.putAttenuators p 1443 = s.baseAttenuation0 (s.xmit && s.localPaEnabled) := by
  unfold putAttenuators baseAttenuation0
  have hne : 1443 ≠ 1442 := by decide
  simp only [Bool.and_eq_true]
  split_ifs
  all_goals simp only [Packet.set_of_ne _ hne, Packet.set_self]

theorem putAttenuators_adc1
    : s.putAttenuators p 1442
        = if s.xmit ∧ s.puresignal then BitVec.ofInt 8 s.txAttenuation
          else s.baseAttenuation1 (s.xmit && s.localPaEnabled) := by
  unfold putAttenuators baseAttenuation1
  have hne : 1442 ≠ 1443 := by decide
  simp only [Bool.and_eq_true]
  split_ifs
  all_goals simp only [Packet.set_of_ne _ hne, Packet.set_self]

theorem putTxAttenuators_adc0
    : s.putTxAttenuators p 59
        = if s.puresignal then BitVec.ofInt 8 s.txAttenuation
          else s.baseAttenuation0 s.localPaEnabled := by
  unfold putTxAttenuators baseAttenuation0
  have hne : 59 ≠ 58 := by decide
  split_ifs
  all_goals simp only [Packet.set_of_ne _ hne, Packet.set_self]

theorem putTxAttenuators_adc1 : s.putTxAttenuators p 58 = s.baseAttenuation1 s.localPaEnabled := by
  unfold putTxAttenuators baseAttenuation1
  have hne : 58 ≠ 59 := by decide
  split_ifs
  all_goals simp only [Packet.set_of_ne _ hne, Packet.set_self]

end Attenuators

section HighPriority

variable (sequence : BitVec 32) (phase : Int → BitVec 32)

theorem word_alex0 : (s.highPriority sequence phase).word 1432 = s.alex0 := by
  unfold highPriority Packet.word
  dsimp only
  rw [putAttenuators_of_ne, putAttenuators_of_ne, putAttenuators_of_ne, putAttenuators_of_ne]
  . exact (Packet.word_putWord_of_disjoint _ (by decide) _).trans
      (Packet.word_putWord_self _ 1432 s.alex0)
  all_goals decide

theorem word_alex1 : (s.highPriority sequence phase).word 1428 = s.alex1 := by
  unfold highPriority Packet.word
  dsimp only
  rw [putAttenuators_of_ne, putAttenuators_of_ne, putAttenuators_of_ne, putAttenuators_of_ne]
  . exact Packet.word_putWord_self _ 1428 s.alex1
  all_goals decide

theorem byte_power : s.highPriority sequence phase 345 = BitVec.ofInt 8 s.power := by
  unfold highPriority
  rw [putAttenuators_of_ne _ _ (by decide) (by decide), Packet.putWord_of_outside _ (by decide),
    Packet.putWord_of_outside _ (by decide), Packet.set_of_ne _ (by decide),
    Packet.set_of_ne _ (by decide), Packet.set_of_ne _ (by decide), Packet.set_of_ne _ (by decide),
    Packet.set_self]

end HighPriority

/-- What the packet switches for a transmission, but for the relay. -/
structure SwitchesSafely (p : Packet) : Prop where
  antenna0 : (Mask.selected txAntennas (p.word 1432)).length = 1
  antenna1 : (Mask.selected txAntennas (p.word 1428)).length = 1
  lpf0 : (Mask.selected lpfs (p.word 1432)).length = 1
  lpf1 : (Mask.selected lpfs (p.word 1428)).length = 1
  txAntenna : s.xmit →
    Mask.selected txAntennas (p.word 1432) = [antennaBits s.txant]
      ∧ Mask.selected txAntennas (p.word 1428) = [antennaBits s.txant]
  txLpf : s.xmit → ∀ lpf,
    lpf ∈ Mask.selected lpfs (p.word 1432) ∨ lpf ∈ Mask.selected lpfs (p.word 1428) →
      LpfPasses lpf s.ducFrequency
  drive : ¬ s.InBand → ¬ s.txOutOfBandAllowed → p 345 = 0
  attenuators : s.xmit → s.localPaEnabled → ¬ s.puresignal → p 1442 = 31 ∧ p 1443 = 31

/-- The relay is only switched while transmitting with the PA enabled, in both words. -/
structure SafeInBothWords (p : Packet) : Prop extends s.SwitchesSafely p where
  relay0 : alexTxRelay ∈ Mask.selected relays (p.word 1432) → s.xmit ∧ s.localPaEnabled
  relay1 : alexTxRelay ∈ Mask.selected relays (p.word 1428) → s.xmit ∧ s.localPaEnabled

/-- The relay is only switched with the PA enabled, and in the first word only while transmitting. -/
structure Safe (p : Packet) : Prop extends s.SwitchesSafely p where
  relay0 : alexTxRelay ∈ Mask.selected relays (p.word 1432) → s.xmit ∧ s.localPaEnabled
  relay1 : alexTxRelay ∈ Mask.selected relays (p.word 1428) → s.localPaEnabled

theorem txant_range : 0 ≤ s.txant ∧ s.txant ≤ 2 := by
  unfold txant
  split
  . decide
  . omega

theorem rxant_range (h : s.xmit ∨ 0 ≤ (s.adcs 0).antenna) : 0 ≤ s.rxant ∧ s.rxant ≤ 2 := by
  unfold rxant
  split
  . exact s.txant_range
  next hrx =>
    rw [not_or] at hrx
    exact ⟨h.resolve_left hrx.2, Int.not_lt.mp hrx.1⟩

theorem rxant_of_xmit (h : s.xmit) : s.rxant = s.txant :=
  if_pos (.inr h)

theorem lpfFreq_of_xmit (h : s.xmit) : s.lpfFreq = s.ducFrequency :=
  if_neg fun hrx => hrx.1 h

theorem power_of_outOfBand (h : ¬ s.InBand) (h' : ¬ s.txOutOfBandAllowed) : s.power = 0 :=
  if_neg fun hpower => hpower.elim h h'

section HighPriority

variable {s}

theorem switchesSafely_highPriority (h : s.xmit ∨ 0 ≤ (s.adcs 0).antenna) (sequence : BitVec 32)
    (phase : Int → BitVec 32)
    : s.SwitchesSafely (s.highPriority sequence phase) := by
  have ⟨hrx, hrx'⟩ := s.rxant_range h
  have ⟨htx, htx'⟩ := s.txant_range
  constructor
  . rw [word_alex0, selected_txAntennas_alex0, selected_antennaBits hrx hrx', List.length_singleton]
  . rw [word_alex1, selected_txAntennas_alex1, selected_antennaBits htx htx', List.length_singleton]
  . rw [word_alex0, selected_lpfs_alex0, List.length_singleton]
  . rw [word_alex1, selected_lpfs_alex1, List.length_singleton]
  . intro hxmit
    rw [word_alex0, word_alex1, selected_txAntennas_alex0, selected_txAntennas_alex1,
      rxant_of_xmit s hxmit, selected_antennaBits htx htx']
    exact ⟨rfl, rfl⟩
  . intro hxmit lpf
    rw [word_alex0, word_alex1, selected_lpfs_alex0, selected_lpfs_alex1, lpfFreq_of_xmit s hxmit,
      or_self, List.mem_singleton]
    rintro rfl
    apply passes_lpfBits
  . intro hband hallowed
    rw [byte_power, power_of_outOfBand s hband hallowed]
    rfl
  . intro hxmit hpa hps
    unfold highPriority
    rw [putAttenuators_adc1, putAttenuators_adc0, if_neg fun h => hps h.2, hxmit, hpa]
    exact ⟨rfl, rfl⟩

theorem relay_of_mem_alex0 (h : alexTxRelay ∈ Mask.selected relays s.alex0)
    : s.xmit ∧ s.localPaEnabled := by
  rw [selected_relays_alex0] at h
  split at h
  next hrelay => exact (Bool.and_eq_true_iff.mp hrelay).symm
  . contradiction

theorem relay_of_mem_alex1 (h : alexTxRelay ∈ Mask.selected relays s.alex1) : s.localPaEnabled := by
  rw [selected_relays_alex1] at h
  split at h
  next hpa => exact hpa
  . contradiction

-- The second word always has the state for transmitting.
theorem safe_highPriority (h : s.xmit ∨ 0 ≤ (s.adcs 0).antenna) (sequence : BitVec 32)
    (phase : Int → BitVec 32)
    : s.Safe (s.highPriority sequence phase) where
  toSwitchesSafely := switchesSafely_highPriority h sequence phase
  relay0 := by
    rw [word_alex0]
    exact relay_of_mem_alex0
  relay1 := by
    rw [word_alex1]
    exact relay_of_mem_alex1

/-- The attenuators of both ADCs are the same in both packets. -/
def AttenuatorsAgree (s : RadioSettings) (sequence sequence' : BitVec 32)
    (phase : Int → BitVec 32) : Prop :=
  s.highPriority sequence phase 1443 = s.transmitSpecific sequence' 59
    ∧ s.highPriority sequence phase 1442 = s.transmitSpecific sequence' 58

-- With PureSignal, one packet sets the attenuator of the wrong ADC.
theorem attenuatorsAgree_iff (h : s.xmit) (sequence sequence' : BitVec 32)
    (phase : Int → BitVec 32)
    : s.AttenuatorsAgree sequence sequence' phase
        ↔ (s.puresignal → BitVec.ofInt 8 s.txAttenuation = s.baseAttenuation0 s.localPaEnabled
          ∧ BitVec.ofInt 8 s.txAttenuation = s.baseAttenuation1 s.localPaEnabled) := by
  unfold AttenuatorsAgree highPriority transmitSpecific
  rw [putAttenuators_adc0, putAttenuators_adc1, putTxAttenuators_adc0, putTxAttenuators_adc1, h,
    Bool.true_and]
  cases s.puresignal with
  | false => simp
  | true => simp [eq_comm]

/-- The frequency of a receiver that gets its signal from the first ADC. -/
def HeardOnAdc0 (s : RadioSettings) (f : Int) : Prop :=
  (∃ id : Fin 2, id.val < s.receivers ∧ (s.receiver id).adc = 0 ∧ f = s.ddcFrequency id)
    ∨ (s.diversityEnabled ∧ f = s.ddcFrequency 0)

-- no filter, or one for the lowest of these frequencies
theorem hpfFreq_le {f : Int} (h : s.HeardOnAdc0 f) : s.hpfFreq = 0 ∨ s.hpfFreq ≤ f := by
  obtain ⟨id, hid, hadc, rfl⟩ | ⟨_, rfl⟩ := h
  . obtain rfl | rfl : id = 0 ∨ id = 1 := by omega
    . unfold hpfFreq
      dsimp only
      split_ifs
      all_goals omega
    . have hreceivers : s.receivers > 1 := hid
      simp only [hpfFreq, hreceivers, hadc, true_and]
      split_ifs
      all_goals omega
  . unfold hpfFreq
    dsimp only
    split_ifs
    all_goals omega

theorem le_lpfFreq {f : Int} (hrx : ¬ s.xmit) (hboard : ¬ s.bandPassFilters)
    (hantenna : (s.adcs 0).antenna < 3) (h : s.HeardOnAdc0 f)
    : s.lpfFreq = 40000000 ∨ f ≤ s.lpfFreq := by
  have hreceive : ¬ s.xmit ∧ ¬ s.bandPassFilters ∧ (s.adcs 0).antenna < 3 := ⟨hrx, hboard, hantenna⟩
  unfold lpfFreq
  rw [if_pos hreceive]
  obtain ⟨id, hid, hadc, rfl⟩ | ⟨_, rfl⟩ := h
  . obtain rfl | rfl : id = 0 ∨ id = 1 := by omega
    . dsimp only
      split_ifs
      all_goals omega
    . have hreceivers : s.receivers > 1 := hid
      simp only [hreceivers, hadc, true_and]
      split_ifs
      all_goals omega
  . dsimp only
    split_ifs
    all_goals omega

theorem hpfPasses_hpfFreq {f : Int} (h : s.HeardOnAdc0 f) : HpfPasses (hpfBits s.hpfFreq) f := by
  obtain hzero | hle := hpfFreq_le h
  . rw [hzero]
    exact .inl rfl
  . exact (passes_hpfBits _).mono hle

theorem rxFilterBits0_of_oldBoard (h : ¬ s.bandPassFilters) : s.rxFilterBits0 = hpfBits s.hpfFreq := by
  unfold bandPassFilters at h
  rw [decide_eq_true_eq, not_or] at h
  unfold rxFilterBits0
  rw [if_neg h.2, if_neg h.1]

-- The filters let through what each of the receivers at the first ADC is tuned to.
theorem filters_pass_highPriority (hboard : ¬ s.bandPassFilters) (hrx : ¬ s.xmit)
    (sequence : BitVec 32) (phase : Int → BitVec 32)
    : (∃ hpf, Mask.selected hpfs ((s.highPriority sequence phase).word 1432) = [hpf]
          ∧ ∀ f, s.HeardOnAdc0 f → HpfPasses hpf f)
        ∧ ((s.adcs 0).antenna < 3 →
          ∃ lpf, Mask.selected lpfs ((s.highPriority sequence phase).word 1432) = [lpf]
            ∧ ∀ f, s.HeardOnAdc0 f → LpfPasses lpf f) := by
  rw [word_alex0, selected_lpfs_alex0, selected_hpfs_alex0, rxFilterBits0_of_oldBoard hboard,
    selected_hpfBits]
  refine ⟨⟨_, rfl, fun f hf => hpfPasses_hpfFreq hf⟩, fun hantenna => ⟨_, rfl, fun f hf => ?_⟩⟩
  obtain hbypass | hle := le_lpfFreq hrx hboard hantenna hf
  . rw [hbypass]
    exact .inl rfl
  . exact (passes_lpfBits _).mono hle

end HighPriority

-- an ANAN-100D that receives 20m and 40m
def angelia : RadioSettings where
  device := .newAngelia
  nAdc := 2
  adc _ := ⟨0, 0⟩
  receivers := 2
  receivers_eq := receivers_two
  receiver _ := ⟨0, 192000, by decide⟩
  psFeedbackAdc := 0
  duplex := false
  puresignal := false
  diversityEnabled := false
  transmitting := false
  hpsdrPtt := false
  vfo id := ⟨0, .usb, if id = 0 then 14200000 else 7100000, false, 0, false, 0, 0⟩
  activeReceiver := 0
  split := false
  frequencyCalibration := 0
  p2running := true
  adcs _ := ⟨0, false, 0, 0⟩
  bands _ := ⟨14000000, 14350000, false, 0, 0⟩
  tune := false
  twotone := false
  driveLevel := 100
  txAttenuation := 10
  txAntenna := 1
  catCwIsActive := false
  midiCwIsActive := false
  keyer := ⟨true, false, .modeA, 50, 800, 16, 50, false, true, 500, 30, 9⟩
  txOutOfBandAllowed := false
  rigctlTcpRunning := false
  rigctlTcpPort := 19090
  fullTune := false
  memoryTune := false
  tuneTimeLeft := false
  ocTune := 0
  muteSpkrAmp := false
  muteSpkrXmit := false
  haveAlexAtt := true
  filterBoard := .alex
  paEnabled := true
  newPaBoard := false
  micLinein := false
  micBoost := false
  orionMicPttEnabled := false
  orionMicPttTip := false
  orionMicBiasEnabled := false
  g2MicInputXlr := false
  lineInGain := 23

theorem safe_highPriority_angelia : angelia.Safe (angelia.highPriority 0 fun _ => 0) :=
  safe_highPriority (.inr (by decide)) 0 fun _ => 0

-- an antenna number for the receiver that does not exist
def angeliaNoAntenna : RadioSettings :=
  { angelia with adcs := fun _ => ⟨-1, false, 0, 0⟩ }

-- Although it receives, the relay bit of the second word is set.
theorem not_safeInBothWords
    : ¬ angelia.SafeInBothWords (angelia.highPriority 0 fun _ => 0)
        ∧ ¬ angeliaNoAntenna.SwitchesSafely (angeliaNoAntenna.highPriority 0 fun _ => 0) := by
  constructor
  . intro h
    have hrelay := h.relay1
    rw [word_alex1, selected_relays_alex1] at hrelay
    revert hrelay
    decide
  . intro h
    have hantenna := h.antenna0
    rw [word_alex0, selected_txAntennas_alex0] at hantenna
    revert hantenna
    decide

theorem filters_pass_angelia
    : (∃ hpf, Mask.selected hpfs ((angelia.highPriority 0 fun _ => 0).word 1432) = [hpf]
          ∧ ∀ f, angelia.HeardOnAdc0 f → HpfPasses hpf f)
        ∧ ((angelia.adcs 0).antenna < 3 →
          ∃ lpf, Mask.selected lpfs ((angelia.highPriority 0 fun _ => 0).word 1432) = [lpf]
            ∧ ∀ f, angelia.HeardOnAdc0 f → LpfPasses lpf f) :=
  filters_pass_highPriority (by decide) (by decide) 0 fun _ => 0

-- the same radio while transmitting with PureSignal
def angeliaPs : RadioSettings :=
  { angelia with puresignal := true, transmitting := true }

theorem attenuatorsAgree_iff_angeliaPs
    : angeliaPs.AttenuatorsAgree 0 0 (fun _ => 0)
        ↔ (angeliaPs.puresignal →
          BitVec.ofInt 8 angeliaPs.txAttenuation = angeliaPs.baseAttenuation0 angeliaPs.localPaEnabled
            ∧ BitVec.ofInt 8 angeliaPs.txAttenuation
              = angeliaPs.baseAttenuation1 angeliaPs.localPaEnabled) :=
  attenuatorsAgree_iff (by decide) 0 0 fun _ => 0

-- The feedback at ADC0 is attenuated by 31 dB in one packet, and by 10 dB in the other one.
theorem not_attenuatorsAgree : ¬ angeliaPs.AttenuatorsAgree 0 0 fun _ => 0 := by
  intro h
  have hadc0 := h.1
  unfold highPriority transmitSpecific at hadc0
  rw [putAttenuators_adc0, putTxAttenuators_adc0] at hadc0
  revert hadc0
  decide

end RadioSettings

end NewProtocol
