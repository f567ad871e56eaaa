import Pihpsdr.Saturn.Lemmas.Registers

/-!
What the settings of the program say about the registers of the FPGA, and which operations of the handlers
put it there.
-/

namespace Saturn

open Mask
open NewProtocol (RadioSettings phaseWord txAntennas selected_antennaBits)

def flag (on : Bool) (n : Nat) : BitVec 32 := if on then bit n else 0

/-- A register, some of its bits, and a word that has what is in them. -/
abbrev Row := Reg × BitVec 32 × BitVec 32

section Wanted

variable (b : Board) (s : RadioSettings)

-- the attenuation of the first and second ADC while receiving
def rxAttenuation0 : BitVec 8 := s.baseAttenuation0 (s.xmit && s.localPaEnabled)

def rxAttenuation1 : BitVec 8 :=
  if s.xmit ∧ s.puresignal then BitVec.ofInt 8 s.txAttenuation
  else s.baseAttenuation1 (s.xmit && s.localPaEnabled)

-- and while transmitting
def txAttenuation0 : BitVec 8 :=
  if s.puresignal then BitVec.ofInt 8 s.txAttenuation else s.baseAttenuation0 s.localPaEnabled

def txAttenuation1 : BitVec 8 := s.baseAttenuation1 s.localPaEnabled

-- five bits of an attenuation, from bit `k` on
def attenuation (x : BitVec 8) (k : Nat) : BitVec 32 := (x.setWidth 32 &&& 0x1F) <<< k

def wantedHighPriority : List Row :=
  (List.finRange 4).map
      (fun i => (.ddc (channel i), BitVec.allOnes 32, s.ddcWord phaseWord i))
    ++ [(.rfGpio, bit 25, bit 25), (.rfGpio, bit 24, flag s.moxBit 24),
      (.txDuc, BitVec.allOnes 32, phaseWord s.ducFrequency),
      (.dacCtrl, BitVec.allOnes 32, txDriveLevel b (BitVec.ofInt 8 s.power)),
      (.rfGpio, bit 30, flag (s.relayBits.getLsbD 0) 30),
      (.rfGpio, bit 4, flag (s.relayBits.getLsbD 1) 4),
      (.rfGpio, 0x7F#32 <<< 16, (s.ocBits >>> 1 &&& 0x7F).setWidth 32 <<< 16),
      (.alexTxFilt, BitVec.allOnes 32, s.alex0 >>> 16),
      (.alexRx, 0xFFFF0000, s.alex1 <<< 16), (.alexRx, 0x0000FFFF, s.alex0),
      (.adcCtrl, 0x00007C1F, attenuation (rxAttenuation0 s) 0 ||| attenuation (rxAttenuation1 s) 10)]
    ++ (if b.saturnPcbVersion ≥ 3 then
        [(.txConfig, bit 27, flag (phaseWord s.ducFrequency > deltaPhiHpfCutIn) 27)]
      else [])
    ++ (if b.fpgaMinorVersion ≥ 12 then [(.alexTxAnt, BitVec.allOnes 32, s.alex1 >>> 16)] else [])

-- one bit for each ADC; the same for both of them if there is diversity
def forBothAdcs (first second : BitVec 8) : BitVec 8 :=
  first ||| (if s.diversity then first else second) <<< 1

def ditherByte : BitVec 8 := forBothAdcs s (s.adc 0).dither (s.adc 1).dither

def randomByte : BitVec 8 := forBothAdcs s (s.adc 0).random (s.adc 1).random

def wantedDdcSpecific : List Row :=
  (.rfGpio, 0x00003F00, flag ((ditherByte s).getLsbD 0) 10 ||| flag ((ditherByte s).getLsbD 1) 13
      ||| flag ((randomByte s).getLsbD 0) 8 ||| flag ((randomByte s).getLsbD 1) 11)
    :: (List.finRange 4).map fun i =>
      (.ddcInSel, 3#32 <<< (2 * (channel i).val), adcSelect (s.programmed.adc i) <<< (2 * (channel i).val))

def iambicBits : BitVec 32 :=
  (BitVec.ofInt 8 s.keyer.speed).setWidth 32 ||| (BitVec.ofInt 8 s.keyer.weight).setWidth 32 <<< 8
    ||| flag (s.keyerBits.getLsbD 2) 16 ||| flag (s.keyerBits.getLsbD 5) 18
    ||| flag (s.keyerBits.getLsbD 6) 19 ||| flag (s.keyerBits.getLsbD 3) 17

def sideToneBits : BitVec 32 :=
  BitVec.ofNat 32 (512 * (BitVec.ofInt 16 s.keyer.sidetoneFrequency).toNat / 375)
    ||| if s.keyerBits.getLsbD 4 then
      (BitVec.ofInt 8 s.keyer.sidetoneVolume &&& 0x7F).setWidth 32 <<< 24 else 0

def rampBits : BitVec 32 := cwRampEnd b (cwRampLength b (BitVec.ofInt 8 s.keyer.rampWidth))

def wantedDucSpecific : List Row :=
  [(.iambicConfig, 0x000FFFFF, iambicBits s), (.sideToneConfig, BitVec.allOnes 32, sideToneBits s),
    (.keyerConfig, 0x0003FFFF, s.rfDelay.setWidth 32
      ||| ((BitVec.ofInt 16 s.keyer.hangTime).setWidth 32 &&& 0x3FF) <<< 8),
    (.rfGpio, 0x0000000F, flag s.orionMicBiasEnabled 0 ||| flag s.orionMicPttTip 1
      ||| flag s.orionMicPttTip 2 ||| flag (!s.orionMicPttTip) 3),
    (.rfGpio, bit 5, flag s.g2MicInputXlr 5),
    (.adcCtrl, 0x000F83E0, attenuation (txAttenuation0 s) 5 ||| attenuation (txAttenuation1 s) 15)]
    ++ if BitVec.ofInt 8 s.keyer.rampWidth > 0 then [(.keyerConfig, 0x7FFC0000, rampBits b s)] else []

end Wanted

section Rows

variable {b : Board} {s : RadioSettings}

theorem effect_setBit (n : Nat) (on : Bool) : Change.effect (setBit n on) = (bit n, flag on n) := by
  cases on with
  | false =>
    show ((0#32 ||| bit n, 0#32 &&& ~~~bit n) : BitVec 32 × BitVec 32) = _
    rw [BitVec.zero_or, BitVec.zero_and]
    rfl
  | true =>
    show ((0#32 ||| bit n, 0#32 ||| bit n) : BitVec 32 × BitVec 32) = _
    rw [BitVec.zero_or]
    rfl

section HighPriority

variable (sequence : BitVec 32)

theorem put_setBit (r : Reg) (n : Nat) (on : Bool)
    : (Op.update r (setBit n on)).put = some (r, bit n, flag on n) := by
  rw [Op.put, effect_setBit]

theorem effect_append_clearSet {cs : List (Change 32)} {m x : BitVec 32}
    (h : Change.effect cs = (m, x)) (m' x' : BitVec 32)
    : Change.effect (cs ++ [.clear m', .set x']) = (m ||| m' ||| x', x &&& ~~~m' ||| x') := by
  rw [Change.effect] at h
  rw [Change.effect, List.foldl_append, h]
  rfl

theorem effect_clearSet (m x : BitVec 32)
    : Change.effect [.clear m, .set x] = (m ||| x, x) := by
  show (0#32 ||| m ||| x, 0#32 &&& ~~~m ||| x) = _
  rw [BitVec.zero_or, BitVec.zero_and, BitVec.zero_or]

theorem put_clearSet (r : Reg) (m x : BitVec 32)
    : (Op.update r [.clear m, .set x]).put = some (r, m ||| x, x) := by
  rw [Op.put, effect_clearSet]

theorem within_or (m x : BitVec 32) : m &&& ~~~(m ||| x) = 0#32 := by
  rw [BitVec.not_or, ← BitVec.and_assoc, BitVec.and_not_self]
  exact BitVec.zero_and

theorem bit_within (n : Nat) : bit n &&& ~~~bit n = 0#32 := BitVec.and_not_self (bit n)

end HighPriority

section DdcSpecific

end DdcSpecific

section DucSpecific

theorem effect_setIf {cs : List (Change 32)} {m x : BitVec 32} (h : Change.effect cs = (m, x))
    (on : Bool) (y : BitVec 32)
    : Change.effect (cs ++ setIf on y) = (m ||| (if on then y else 0), x ||| if on then y else 0) := by
  cases on with
  | false =>
    show Change.effect (cs ++ []) = (m ||| 0#32, x ||| 0#32)
    rw [List.append_nil, BitVec.or_zero, BitVec.or_zero]
    exact h
  | true =>
    rw [Change.effect] at h
    rw [Change.effect, List.foldl_append, h]
    rfl

theorem within_or_of {x y : BitVec 32} (h : x &&& ~~~y = 0#32) (z : BitVec 32)
    : x &&& ~~~(y ||| z) = 0#32 :=
  within_trans h (within_or y z)

theorem effect_clearSetSet (m x y : BitVec 32)
    : Change.effect [.clear m, .set x, .set y] = (m ||| x ||| y, x ||| y) := by
  show (0#32 ||| m ||| x ||| y, 0#32 &&& ~~~m ||| x ||| y) = _
  rw [BitVec.zero_or, BitVec.zero_and, BitVec.zero_or]

theorem put_sideTone (enabled : Bool) (volume : BitVec 8) (frequency : BitVec 16)
    : ∃ g, (setCwSideTone enabled volume frequency).put
          = some (.sideToneConfig, g, BitVec.ofNat 32 (512 * frequency.toNat / 375)
              ||| if enabled then volume.setWidth 32 <<< 24 else 0)
        ∧ BitVec.allOnes 32 &&& ~~~g = 0#32 := by
  have hassign (x : BitVec 32) : Change.effect [.assign x] = (BitVec.allOnes 32, x) := rfl
  have heffect := effect_setIf (hassign (BitVec.ofNat 32 (512 * frequency.toNat / 375))) enabled
    (volume.setWidth 32 <<< 24)
  refine ⟨_, congrArg (fun e => some (Reg.sideToneConfig, e)) heffect, ?_⟩
  exact within_or _ _

-- the delays before the ramp, and the ramp if there is one
theorem put_keyerParams (b : Board) (delay : BitVec 8) (hangTime : BitVec 16) (ramp : BitVec 8)
    : ∃ g x, (setKeyerParams b delay hangTime ramp).put = some (.keyerConfig, g, x)
        ∧ 0x0003FFFF &&& ~~~g = 0#32
        ∧ x &&& 0x0003FFFF#32
          = (delay.setWidth 32 ||| (hangTime.setWidth 32 &&& 0x3FF) <<< 8) &&& 0x0003FFFF
        ∧ (ramp > 0 → 0x7FFC0000 &&& ~~~g = 0#32
            ∧ x &&& 0x7FFC0000#32 = cwRampEnd b (cwRampLength b ramp) &&& 0x7FFC0000) := by
  have hdelays := effect_clearSetSet 0x0003FFFF (delay.setWidth 32)
    ((hangTime.setWidth 32 &&& 0x3FF) <<< 8)
  by_cases hramp : ramp > 0
  . have hend : cwRampEnd b (cwRampLength b ramp) &&& 0x0003FFFF = 0#32 := by
      have hshift (x : BitVec 32) : x <<< 18 &&& 0x0003FFFF = 0#32 := by
        rw [← BitVec.setWidth_eq x]
        exact field_apart x 18 0x0003FFFF (by decide)
      unfold cwRampEnd
      split
      . exact hshift _
      . exact hshift _
    have hkeep (x y : BitVec 32) (hy : y &&& 0x0003FFFF = 0#32)
        : (x &&& ~~~0x7FFC0000 ||| y) &&& 0x0003FFFF = x &&& 0x0003FFFF := by
      rw [BitVec.and_or_distrib_right, hy, BitVec.or_zero, BitVec.and_assoc]
      rfl
    have hnew (x y : BitVec 32)
        : (x &&& ~~~0x7FFC0000 ||| y) &&& 0x7FFC0000 = y &&& 0x7FFC0000 := by
      have hnone : ~~~0x7FFC0000 &&& 0x7FFC0000 = 0#32 := by decide
      rw [BitVec.and_or_distrib_right, BitVec.and_assoc, hnone, BitVec.and_zero, BitVec.zero_or]
    have heffect := effect_append_clearSet hdelays 0x7FFC0000 (cwRampEnd b (cwRampLength b ramp))
    rw [setKeyerParams, if_pos hramp]
    refine ⟨_, _, congrArg (fun e => some (Reg.keyerConfig, e)) heffect, ?_, hkeep _ _ hend,
      fun _ => ⟨?_, hnew _ _⟩⟩
    . exact within_or_of (within_or_of (within_or_of (within_or _ _) _) _) _
    . apply within_or_of
      rw [BitVec.or_comm]
      exact within_or _ _
  . rw [setKeyerParams, if_neg hramp]
    refine ⟨_, _, congrArg (fun e => some (Reg.keyerConfig, e)) hdelays, ?_, rfl, ?_⟩
    . exact within_or_of (within_or _ _) _
    . intro h
      contradiction

end DucSpecific

/-! The relay of the amplifier, on which two handlers agree, and the source of the modulation. -/

section Relay

def relayRow (s : RadioSettings) : Row := (.rfGpio, bit 27, flag (!s.localPaEnabled) 27)

end Relay

section Modulation

def modulationRow (s : RadioSettings) : Row :=
  (.txConfig, 3, if s.keyerBits.getLsbD 1 then 3 else 0)

end Modulation

section Sent

/-- The packets that the program sends with the settings `s`. -/
inductive Sent (s : RadioSettings) : Handler → Packet → Prop where
  | general (sequence : BitVec 32) : Sent s .general (s.general sequence)
  | highPriority (sequence : BitVec 32) : Sent s .highPriority (s.highPriority sequence phaseWord)
  | ddcSpecific (sequence : BitVec 32) : Sent s .ddcSpecific (s.newProtocolReceiveSpecific sequence)
  | ducSpecific (sequence : BitVec 32) : Sent s .ducSpecific (s.transmitSpecific sequence)
  | rxThread (p : Packet) : Sent s .rxThread p

-- what each handler has to put, and which of them do
def wanted (b : Board) (s : RadioSettings) : List (List Handler × List Row) :=
  [([.highPriority], wantedHighPriority b s), ([.ddcSpecific], wantedDdcSpecific s),
    ([.ducSpecific], wantedDucSpecific b s),
    ([.general, .highPriority], if b.fpgaMinorVersion ≥ 12 then [relayRow s] else [])]

end Sent

end Rows

end Saturn
