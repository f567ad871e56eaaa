import Pihpsdr.NewProtocol.Impl.Ddc
import Pihpsdr.OldProtocol.Impl.OzySend
import Pihpsdr.Radio.Band
import Pihpsdr.Transmit.Impl.Station

/-!
The frequency range that `TransmitAllowed` checks, and that of the signal which the DUC sends: only
the latter has the XIT offset.
-/

namespace Transmit

namespace Dial

variable (d : Dial)

-- what the DUC is set to, before the calibration and without the offset of a transverter
def ducFrequency : Int :=
  d.txVfo.txFrequency - d.txVfo.lo

theorem ducFrequency_oldProtocol (e : OldProtocol.P1Settings) (hvfo : e.vfo = d.vfo)
    (hsplit : e.split = d.split) (hactive : e.activeReceiver = d.activeReceiver)
    : e.ducFrequency = e.calibratedFrequency d.ducFrequency := by
  unfold OldProtocol.P1Settings.ducFrequency OldProtocol.P1Settings.txVfo ducFrequency txVfo
  rw [hvfo, hsplit, hactive]

theorem ducFrequency_newProtocol (s : NewProtocol.DdcSettings) (hvfo : s.vfo = d.vfo)
    (hsplit : s.split = d.split) (hactive : s.activeReceiver = d.activeReceiver)
    : s.ducFrequency = s.calibratedFrequency d.ducFrequency := by
  unfold NewProtocol.DdcSettings.ducFrequency NewProtocol.DdcSettings.vfoGetTxVfo ducFrequency
    txVfo
  rw [hvfo, hsplit, hactive]

def onAir : Int :=
  d.ducFrequency + d.txVfo.lo

-- the passband of a signal, which is one point in CW
def passbandLow : Int :=
  if Mode.isCw d.txVfo.mode then 0 else d.filterLow

def passbandHigh : Int :=
  if Mode.isCw d.txVfo.mode then 0 else d.filterHigh

def xitOffset : Int :=
  if d.txVfo.xitEnabled then d.txVfo.xit else 0

theorem onAir_eq : d.onAir = d.txFreq + d.xitOffset := by
  unfold onAir ducFrequency Vfo.txFrequency txFreq xitOffset
  omega

def channelLow (c : Channel60m) : Int :=
  c.frequency - c.width.tdiv 2

def channelHigh (c : Channel60m) : Int :=
  c.frequency + c.width.tdiv 2

/-- From `low` to `high` is one band, or one channel of the 60m band. -/
def Segment (b : Nat) (low high : Int) : Prop :=
  if b = band60m then
    ∃ c ∈ d.bandChannels60m, low = channelLow c ∧ high = channelHigh c
  else
    low = d.frequencyMin b ∧ high = d.frequencyMax b

/-- A segment of a band that is assigned to amateur radio or to a transverter. -/
def Assigned (low high : Int) : Prop :=
  ∃ b < numBands + numXvtrs, b ∉ bandsWithoutTx ∧ d.Segment b low high

/-- The passband around the frequency `f` is inside a segment of the band `b`. -/
def Inside (b : Nat) (f : Int) : Prop :=
  ∃ low high, d.Segment b low high ∧ low ≤ f + d.passbandLow ∧ f + d.passbandHigh ≤ high

-- If the check succeeds, the signal is inside one segment.
def Protected (hasTransmitter : Bool) : Prop :=
  d.transmitAllowed hasTransmitter = true → d.txOutOfBandAllowed = false
    → ∃ low high, d.Assigned low high ∧ low ≤ d.onAir + d.passbandLow
      ∧ d.onAir + d.passbandHigh ≤ high

theorem inside_iff (b : Nat) (f : Int)
    : d.Inside b f
      ↔ if b = band60m then
          ∃ c ∈ d.bandChannels60m,
            channelLow c ≤ f + d.passbandLow ∧ f + d.passbandHigh ≤ channelHigh c
        else
          d.frequencyMin b ≤ f + d.passbandLow ∧ f + d.passbandHigh ≤ d.frequencyMax b := by
  unfold Inside Segment
  split
  . constructor
    . rintro ⟨_, _, ⟨c, hc, rfl, rfl⟩, h⟩
      exact ⟨c, hc, h⟩
    . rintro ⟨c, hc, h⟩
      exact ⟨_, _, ⟨c, hc, rfl, rfl⟩, h⟩
  . constructor
    . rintro ⟨_, _, ⟨rfl, rfl⟩, h⟩
      exact h
    . intro h
      exact ⟨_, _, ⟨rfl, rfl⟩, h⟩

theorem transmitAllowed_iff (hasTransmitter : Bool) (h : d.txOutOfBandAllowed = false)
    : d.transmitAllowed hasTransmitter = true
      ↔ hasTransmitter = true ∧ d.txVfo.band ∉ bandsWithoutTx
        ∧ d.Inside d.txVfo.band d.txFreq := by
  have hlow : (if Mode.isCw d.txVfo.mode then d.txFreq else d.txFreq + d.filterLow)
      = d.txFreq + d.passbandLow := by
    unfold passbandLow
    split
    . omega
    . rfl
  have hhigh : (if Mode.isCw d.txVfo.mode then d.txFreq else d.txFreq + d.filterHigh)
      = d.txFreq + d.passbandHigh := by
    unfold passbandHigh
    split
    . omega
    . rfl
  rw [inside_iff]
  unfold transmitAllowed channelLow channelHigh
  rw [hlow, hhigh, h]
  cases hasTransmitter with
  | false => simp
  | true =>
    by_cases hband : d.txVfo.band ∈ bandsWithoutTx
    . simp [hband]
    . by_cases h60 : d.txVfo.band = band60m
      . simp [h60]
      . simp [hband, h60]

/-- With its XIT offset the passband around the frequency of the VFO is inside one segment. -/
def XitFits : Prop :=
  ∃ low high, d.Assigned low high ∧ low - (d.txFreq + d.passbandLow) ≤ d.xitOffset
    ∧ d.xitOffset ≤ high - (d.txFreq + d.passbandHigh)

-- `TransmitAllowed` does not know of the XIT.
theorem protected_iff {d : Dial} (hasTransmitter : Bool)
    (hband : d.txVfo.band < numBands + numXvtrs)
    : d.Protected hasTransmitter
      ↔ (hasTransmitter = true → d.txOutOfBandAllowed = false
        → d.txVfo.band ∉ bandsWithoutTx → d.Inside d.txVfo.band d.txFreq
        → d.xitOffset = 0 ∨ d.XitFits) := by
  unfold Protected XitFits
  rw [onAir_eq]
  constructor
  . intro h htx hout hno hin
    have ⟨low, high, hassigned, hlow, hhigh⟩ :=
      h ((d.transmitAllowed_iff hasTransmitter hout).mpr ⟨htx, hno, hin⟩) hout
    exact .inr ⟨low, high, hassigned, by omega, by omega⟩
  . intro h hallowed hout
    have ⟨htx, hno, hin⟩ := (d.transmitAllowed_iff hasTransmitter hout).mp hallowed
    obtain hzero | ⟨low, high, hassigned, hlow, hhigh⟩ := h htx hout hno hin
    . have ⟨low, high, hsegment, hlow, hhigh⟩ := hin
      exact ⟨low, high, ⟨_, hband, hno, hsegment⟩, by omega, by omega⟩
    . exact ⟨low, high, hassigned, by omega, by omega⟩

-- close to the upper edge of the 20m band, with an XIT of 500 Hz
def nearEdge : Dial where
  activeReceiver := 0
  split := false
  vfo _ := ⟨7, .usb, 14347000, false, 0, true, 500, 0⟩
  txOutOfBandAllowed := false
  frequencyMin b := if b = 7 then 14000000 else 0
  frequencyMax b := if b = 7 then 14350000 else 0
  bandChannels60m := []
  filterLow := 150
  filterHigh := 2850

theorem protected_iff_nearEdge
    : nearEdge.Protected true
      ↔ (true = true → nearEdge.txOutOfBandAllowed = false
        → nearEdge.txVfo.band ∉ bandsWithoutTx → nearEdge.Inside nearEdge.txVfo.band nearEdge.txFreq
        → nearEdge.xitOffset = 0 ∨ nearEdge.XitFits) :=
  protected_iff true (by decide)

theorem not_protected_nearEdge : ¬ nearEdge.Protected true := by
  intro h
  have ⟨low, high, ⟨b, _, _, hsegment⟩, _, hhigh⟩ := h (by decide) rfl
  have hon : nearEdge.onAir + nearEdge.passbandHigh = 14350350 := by decide
  unfold Segment at hsegment
  split at hsegment
  . obtain ⟨c, hc, _⟩ := hsegment
    contradiction
  . have hmax : nearEdge.frequencyMax b ≤ 14350000 := by
      unfold nearEdge
      dsimp only
      split <;> omega
    omega

end Dial

end Transmit
