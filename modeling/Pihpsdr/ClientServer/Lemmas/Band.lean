import Pihpsdr.ClientServer.Impl.Band
import Pihpsdr.ClientServer.Lemmas.Wire
import Pihpsdr.ClientServer.Lemmas.Receiver

/-!
What the peer stores for a band and for an entry of a band stack, and which messages lead it out of
its arrays. The decoders take the flag of the subaudible tone for its index, and their checks let
the first index behind an array pass.
-/

namespace ClientServer

structure BandInWireRange (band : Band) : Prop where
  ocRx : Wire.u8.InRange band.ocRx
  ocTx : Wire.u8.InRange band.ocTx
  rxAntenna : Wire.u8.InRange band.rxAntenna
  txAntenna : Wire.u8.InRange band.txAntenna
  disablePa : Wire.u8.InRange band.disablePa
  currentEntry : Wire.u8.InRange band.bandstack.currentEntry
  gaincalib : Wire.u16.InRange band.gaincalib
  paCalibration : DoubleInRange band.paCalibration
  frequencyMin : Wire.u64.InRange band.frequencyMin
  frequencyMax : Wire.u64.InRange band.frequencyMax
  frequencyLo : Wire.u64.InRange band.frequencyLo
  errorLo : Wire.u64.InRange band.errorLo

structure EntryInWireRange (entry : BandstackEntry) : Prop where
  frequency : Wire.u64.InRange entry.frequency
  ctun : Wire.u8.InRange entry.ctun
  ctunFrequency : Wire.u64.InRange entry.ctunFrequency
  mode : Wire.u8.InRange entry.mode
  filter : Wire.u8.InRange entry.filter
  deviation : Wire.u16.InRange entry.deviation
  ctcssEnabled : Wire.u8.InRange entry.ctcssEnabled
  ctcss : Wire.u8.InRange entry.ctcss

-- the band `x` has arrived as the band `y`
structure BandTransferred (x y : Band) : Prop where
  title : y.title = x.title
  ocRx : y.ocRx = x.ocRx
  ocTx : y.ocTx = x.ocTx
  rxAntenna : y.rxAntenna = x.rxAntenna
  txAntenna : y.txAntenna = x.txAntenna
  disablePa : y.disablePa = x.disablePa
  currentEntry : y.bandstack.currentEntry = x.bandstack.currentEntry
  gaincalib : y.gaincalib = x.gaincalib
  paCalibration : Reproduces x.paCalibration y.paCalibration
  frequencyMin : y.frequencyMin = x.frequencyMin
  frequencyMax : y.frequencyMax = x.frequencyMax
  frequencyLo : y.frequencyLo = x.frequencyLo
  errorLo : y.errorLo = x.errorLo

section Bounds

variable {bands bands' : Bands} {b s : Nat}

-- neither the band nor the entry is the first one behind its array
def AvoidsLimits (bands : Bands) (b s : Nat) : Prop :=
  b ≠ numBands + numXvtrs
    ∧ ∀ h : b < numBands + numXvtrs, s ≠ (bands ⟨b, h⟩).bandstack.entries

theorem withinBounds_warned_band (h : numBands + numXvtrs < b)
    : WithinBounds bands (.warned, bands) ↔ AvoidsLimits bands b s := by
  simp only [WithinBounds, AvoidsLimits, true_iff]
  apply And.intro (by omega)
  intro hlt
  omega

theorem withinBounds_warned_stack (h : b < numBands + numXvtrs)
    (hs : (bands ⟨b, h⟩).bandstack.entries < s)
    : WithinBounds bands (.warned, bands) ↔ AvoidsLimits bands b s := by
  simp only [WithinBounds, AvoidsLimits, true_iff]
  apply And.intro (by omega)
  intro hlt
  omega

theorem withinBounds_accepted (h : b < numBands + numXvtrs)
    (hs : s ≤ (bands ⟨b, h⟩).bandstack.entries)
    : WithinBounds bands (.accepted b s, bands') ↔ AvoidsLimits bands b s := by
  simp only [WithinBounds, AvoidsLimits]
  constructor
  . intro ⟨hband, hstack⟩
    apply And.intro (by omega)
    intro hlt
    omega
  . intro ⟨hband, hstack⟩
    apply Exists.intro h
    have := hstack h
    omega

theorem withinBounds_fault_band (h : b = numBands + numXvtrs)
    : WithinBounds bands (.fault, bands') ↔ AvoidsLimits bands b s := by
  simp [WithinBounds, AvoidsLimits, h]

theorem withinBounds_fault_stack (h : b < numBands + numXvtrs)
    (hs : s = (bands ⟨b, h⟩).bandstack.entries)
    : WithinBounds bands (.fault, bands') ↔ AvoidsLimits bands b s := by
  simp only [WithinBounds, AvoidsLimits, false_iff, not_and]
  intro hband hstack
  apply hstack h hs

theorem infoBand_withinBounds_iff (bands : Bands) (data : BandData)
    : WithinBounds bands (infoBand bands data)
        ↔
      AvoidsLimits bands data.band.toNat data.current.toNat := by
  unfold infoBand
  split
  next hgt => apply withinBounds_warned_band hgt
  next hle =>
    split
    next hlt =>
      dsimp
      split
      next hover => apply withinBounds_warned_stack hlt hover
      next hunder => apply withinBounds_accepted hlt (by omega)
    next hge => apply withinBounds_fault_band (by omega)

theorem infoBandstack_withinBounds_iff (bands : Bands) (data : BandstackData)
    : WithinBounds bands (infoBandstack bands data)
        ↔
      AvoidsLimits bands data.band.toNat data.stack.toNat := by
  unfold infoBandstack
  split
  next hgt => apply withinBounds_warned_band hgt
  next hle =>
    split
    next hlt =>
      have hlen := (bands ⟨data.band.toNat, hlt⟩).bandstack.entries_le
      dsimp
      split
      next hover => apply withinBounds_warned_stack hlt hover
      next hunder =>
        split
        next hentry => apply withinBounds_accepted hlt (by omega)
        next hentry => apply withinBounds_fault_stack hlt (by omega)
    next hge => apply withinBounds_fault_band (by omega)

theorem receive_withinBounds_iff (peer : Peer) (bands : Bands) (m : BandMessage)
    : WithinBounds bands (peer.receive bands m)
        ↔
      AvoidsLimits bands m.band8.toNat m.stack8.toNat := by
  cases peer with
  | client =>
    cases m with
    | band data => apply infoBand_withinBounds_iff
    | bandstack data => apply infoBandstack_withinBounds_iff
  | server =>
    cases m with
    | band data => apply infoBand_withinBounds_iff
    | bandstack data => apply infoBandstack_withinBounds_iff

-- a transverter band as it is before its first use
def unusedXvtr : Band where
  title := ⟨[], CString.length_nil_lt_16, CString.no_nul_nil⟩
  bandstack :=
    { entries := 3
      currentEntry := 0
      entry := List.replicate 3 ⟨0, 0, 0, 1, 6, 2500, 0, 0⟩
      entries_le := by decide }
  ocRx := 0
  ocTx := 0
  gaincalib := 0
  rxAntenna := 0
  txAntenna := 0
  paCalibration := 53
  frequencyMin := 0
  frequencyMax := 0
  frequencyLo := 0
  errorLo := 0
  disablePa := 1

theorem not_receive_withinBounds_limits
    : ¬ WithinBounds (fun _ => unusedXvtr) (Peer.client.receive (fun _ => unusedXvtr)
            (.band { sendBandData (fun _ => unusedXvtr) 0 with band := 34 }))
        ∧ ¬ WithinBounds (fun _ => unusedXvtr) (Peer.server.receive (fun _ => unusedXvtr)
            (.bandstack { sendBandstackData (fun _ => unusedXvtr) 24 ⟨0, by decide⟩ with
              stack := 3 })) := by
  constructor
  . simp only [Peer.receive, clientThread, infoBand_withinBounds_iff]
    intro h
    apply h.1
    rfl
  . simp only [Peer.receive, serverCommand, infoBandstack_withinBounds_iff]
    intro h
    apply h.2 (by decide)
    rfl

end Bounds

section Exchange

variable {own : Bands} {b : Fin (numBands + numXvtrs)}

theorem toNat_to8_band (b : Fin (numBands + numXvtrs))
    : (to8 b).toNat = b := by
  have hlt : b.val < 34 := b.isLt
  apply toNat_to8
  omega

theorem store_sendBandData (h : BandInWireRange (own b)) (band : Band)
    : BandTransferred (own b) ((sendBandData own b).store band) := by
  simp only [BandData.store, sendBandData, from8_to8 h.ocRx, from8_to8 h.ocTx,
    from8_to8 h.rxAntenna, from8_to8 h.txAntenna, from8_to8 h.disablePa,
    from8_to8 h.currentEntry, from16_to16 h.gaincalib, from64_to64 h.frequencyMin,
    from64_to64 h.frequencyMax, from64_to64 h.frequencyLo, from64_to64 h.errorLo,
    CString.snprintf_self]
  constructor
  case paCalibration => apply reproduces_fromDouble h.paCalibration
  all_goals rfl

theorem BandTransferred.setEntry {x y : Band} (h : BandTransferred x y) {i : Nat}
    {e : BandstackEntry}
    : BandTransferred x { y with bandstack := y.bandstack.setEntry i e } :=
  { h with }

theorem entry_sendBandstackData {stack : Fin (own b).bandstack.entry.length}
    (h : EntryInWireRange ((own b).bandstack.entry.get stack))
    : (sendBandstackData own b stack).entry
        =
      { (own b).bandstack.entry.get stack with
        ctcss := ((own b).bandstack.entry.get stack).ctcssEnabled } := by
  simp only [BandstackData.entry, sendBandstackData, from8_to8 h.ctun, from8_to8 h.mode,
    from8_to8 h.filter, from8_to8 h.ctcssEnabled, from16_to16 h.deviation,
    from64_to64 h.frequency, from64_to64 h.ctunFrequency]

theorem infoBand_sendBandData {other : Bands} (h : BandInWireRange (own b))
    (hcurrent : (own b).bandstack.currentEntry ≤ (other b).bandstack.entries)
    : (infoBand other (sendBandData own b)).2
        =
      Function.update other b ((sendBandData own b).store (other b)) := by
  have hband : (sendBandData own b).band.toNat = b := toNat_to8_band b
  have hcur : ((sendBandData own b).current.toNat : Int) = (own b).bandstack.currentEntry :=
    from8_to8 h.currentEntry
  have hlt : (sendBandData own b).band.toNat < numBands + numXvtrs := by omega
  have hfin : (⟨(sendBandData own b).band.toNat, hlt⟩ : Fin (numBands + numXvtrs)) = b :=
    Fin.ext hband
  have hle : ¬ (sendBandData own b).current.toNat > (other b).bandstack.entries := by omega
  rw [infoBand, if_neg (by omega), dif_pos hlt]
  dsimp
  rw [hfin, if_neg hle]

theorem infoBandstack_sendBandstackData {other : Bands}
    {stack : Fin (own b).bandstack.entry.length} (h : Wire.u8.InRange stack)
    (hstack : stack < (other b).bandstack.entries)
    : (infoBandstack other (sendBandstackData own b stack)).2
        =
      Function.update other b
        { other b with
          bandstack := (other b).bandstack.setEntry stack (sendBandstackData own b stack).entry }
    := by
  have hband : (sendBandstackData own b stack).band.toNat = b := toNat_to8_band b
  have hs : (sendBandstackData own b stack).stack.toNat = stack := by
    have hlt : (stack : Int) < 2 ^ 8 := h.2
    apply toNat_to8
    omega
  have hlt : (sendBandstackData own b stack).band.toNat < numBands + numXvtrs := by omega
  have hfin : (⟨(sendBandstackData own b stack).band.toNat, hlt⟩ : Fin (numBands + numXvtrs)) = b :=
    Fin.ext hband
  have hlen := (other b).bandstack.entries_le
  rw [infoBandstack, if_neg (by omega), dif_pos hlt]
  dsimp
  rw [hfin, hs, if_neg (by omega), if_pos (by omega)]

theorem exchange_eq (peer : Peer) {other : Bands} {stack : Fin (own b).bandstack.entry.length}
    (hband : BandInWireRange (own b)) (h : Wire.u8.InRange stack)
    (hcurrent : (own b).bandstack.currentEntry ≤ (other b).bandstack.entries)
    (hstack : stack < (other b).bandstack.entries)
    : exchange peer own other b stack b
        =
      { (sendBandData own b).store (other b) with
        bandstack := ((sendBandData own b).store (other b)).bandstack.setEntry stack
          (sendBandstackData own b stack).entry } := by
  have hreceive : exchange peer own other b stack
      = (infoBandstack (infoBand other (sendBandData own b)).2
          (sendBandstackData own b stack)).2 := by
    cases peer <;> rfl
  have hstack' : stack < (Function.update other b
      ((sendBandData own b).store (other b)) b).bandstack.entries := by
    rw [Function.update_self]
    exact hstack
  rw [hreceive, infoBand_sendBandData hband hcurrent,
    infoBandstack_sendBandstackData h hstack', Function.update_self, Function.update_self]

theorem exchange_transferred_iff (peer : Peer) (own other : Bands) (b : Fin (numBands + numXvtrs))
    (stack : Fin (own b).bandstack.entry.length)
    (hband : BandInWireRange (own b))
    (hentry : EntryInWireRange ((own b).bandstack.entry.get stack))
    (h : Wire.u8.InRange stack)
    (hcurrent : (own b).bandstack.currentEntry ≤ (other b).bandstack.entries)
    (hstack : stack < (other b).bandstack.entries)
    : BandTransferred (own b) (exchange peer own other b stack b)
          ∧ (exchange peer own other b stack b).bandstack.entry[stack.val]?
              = some ((own b).bandstack.entry.get stack)
        ↔
      ((own b).bandstack.entry.get stack).ctcss
        = ((own b).bandstack.entry.get stack).ctcssEnabled := by
  have hlen : stack.val < ((sendBandData own b).store (other b)).bandstack.entry.length := by
    apply Nat.lt_of_lt_of_le hstack
    exact (other b).bandstack.entries_le
  have htransferred := store_sendBandData hband (other b)
  rw [exchange_eq peer hband h hcurrent hstack]
  dsimp only
  rw [Bandstack.getElem?_setEntry hlen, entry_sendBandstackData hentry, Option.some_inj]
  constructor
  . intro ⟨_, heq⟩
    exact (congrArg BandstackEntry.ctcss heq).symm
  . intro hctcss
    apply And.intro htransferred.setEntry
    rw [← hctcss]

-- a transverter band for FM repeaters that ask for the tone with the index `ctcss`
def toneEntry (ctcss : Int) : BandstackEntry where
  frequency := 145600000
  ctun := 0
  ctunFrequency := 0
  mode := 5
  filter := 5
  deviation := 2500
  ctcssEnabled := 1
  ctcss := ctcss

def toneXvtr (ctcss : Int) : Band :=
  { unusedXvtr with
    bandstack :=
      { entries := 3
        currentEntry := 0
        entry := [toneEntry ctcss, toneEntry ctcss, toneEntry ctcss]
        entries_le := by rfl } }

theorem toneXvtr_inWireRange (ctcss : Int)
    : BandInWireRange (toneXvtr ctcss) := by
  constructor
  case paCalibration => norm_num [DoubleInRange, toneXvtr, unusedXvtr]
  all_goals simp [toneXvtr, unusedXvtr, Wire.InRange]

theorem toneEntry_inWireRange {ctcss : Int} (h : Wire.u8.InRange ctcss)
    : EntryInWireRange (toneEntry ctcss) := by
  constructor
  case ctcss => exact h
  all_goals simp [toneEntry, Wire.InRange]

theorem exchange_transferred_first_tone
    : BandTransferred (toneXvtr 1)
            (exchange .client (fun _ => toneXvtr 1) (fun _ => unusedXvtr) 24 ⟨0, by decide⟩ 24)
          ∧ (exchange .client (fun _ => toneXvtr 1) (fun _ => unusedXvtr) 24 ⟨0, by decide⟩
              24).bandstack.entry[0]?
            = some (toneEntry 1) := by
  apply (exchange_transferred_iff .client (fun _ => toneXvtr 1) (fun _ => unusedXvtr) 24
    ⟨0, by decide⟩ (toneXvtr_inWireRange 1) (toneEntry_inWireRange (by decide)) (by decide)
    (by decide) (by decide)).mpr
  rfl

theorem not_exchange_transferred_tone
    : BandInWireRange (toneXvtr 12)
        ∧ EntryInWireRange (toneEntry 12)
        ∧ (exchange .client (fun _ => toneXvtr 12) (fun _ => unusedXvtr) 24 ⟨0, by decide⟩
            24).bandstack.entry[0]?
          ≠ some (toneEntry 12) := by
  apply And.intro (toneXvtr_inWireRange 12)
  apply And.intro (toneEntry_inWireRange (by decide))
  have hentry : (sendBandstackData (fun _ => toneXvtr 12) 24 ⟨0, by decide⟩).entry = toneEntry 1 :=
    entry_sendBandstackData (toneEntry_inWireRange (by decide))
  rw [exchange_eq .client (toneXvtr_inWireRange 12) (by decide) (by decide) (by decide)]
  dsimp only
  rw [Bandstack.getElem?_setEntry (by decide), hentry]
  decide

end Exchange

end ClientServer

/-!
What the client stores for the settings of the radio. Only a number of zero supported receivers
arrives.
-/

namespace ClientServer

variable {stack : RadioData} {x : Radio}

theorem storeInts_sendRadioData (h : x.InWireRange) (y : Radio) {f : RadioInt}
    (hread : f ∉ [RadioInt.adc0FilterBypass, .adc1FilterBypass])
    : storeInts (sendRadioData stack x).int [.adc0FilterBypass, .adc1FilterBypass] y.int f
        =
      x.int f := by
  simp only [sendRadioData]
  apply storeInts_fillInts (h.int f) hread hread

theorem storeInt_sendRadioData (h : x.InWireRange) (y : Radio) {f : RadioInt}
    (hread : f ∉ [RadioInt.adc0FilterBypass, .adc1FilterBypass])
    (hreceivers : f ≠ .supportedReceivers)
    : (sendRadioData stack x).storeInt y f = x.int f := by
  rw [RadioData.storeInt, Function.update_of_ne hreceivers]
  apply storeInts_sendRadioData h y hread

-- the client has the counters of the server when it reads the arrays
theorem RadioDouble.counted_storeInt (h : x.InWireRange) (y : Radio) (g : RadioDouble)
    : g.counted ((sendRadioData stack x).storeInt y) = g.counted x.int := by
  cases g with
  | soapyGainElemStep channel i =>
    rw [counted, counted, storeInt_sendRadioData h y (by simp) (by simp)]
  | soapyGainElemMin channel i =>
    rw [counted, counted, storeInt_sendRadioData h y (by simp) (by simp)]
  | soapyGainElemMax channel i =>
    rw [counted, counted, storeInt_sendRadioData h y (by simp) (by simp)]
  | _ => rfl

theorem RadioText.counted_storeInt (h : x.InWireRange) (y : Radio) (t : RadioText)
    : t.counted ((sendRadioData stack x).storeInt y) = t.counted x.int := by
  cases t with
  | soapyAntenna channel i =>
    rw [counted, counted, storeInt_sendRadioData h y (by simp) (by simp)]
  | soapyGainElemName channel i =>
    rw [counted, counted, storeInt_sendRadioData h y (by simp) (by simp)]
  | _ => rfl

theorem storeInt_eq_iff (h : x.InWireRange) (y : Radio)
    : (∀ f, (sendRadioData stack x).storeInt y f = x.int f)
        ↔
      (∀ f ∈ [RadioInt.adc0FilterBypass, .adc1FilterBypass], y.int f = x.int f)
        ∧ x.int .supportedReceivers = 0 := by
  have hbyte : from16Byte ((sendRadioData stack x).int .supportedReceivers)
      = from16Byte (to8 (x.int .supportedReceivers)) := by
    apply congrArg from16Byte
    simp only [sendRadioData]
    rw [fillInts_eq (by decide)]
    rfl
  have hread : (∀ f, storeInts (sendRadioData stack x).int
        [.adc0FilterBypass, .adc1FilterBypass] y.int f = x.int f)
      ↔ ∀ f ∈ [RadioInt.adc0FilterBypass, .adc1FilterBypass], y.int f = x.int f := by
    simp only [sendRadioData]
    apply storeInts_fillInts_eq_iff h.int (List.Subset.refl _)
  simp only [RadioData.storeInt]
  rw [forall_update_eq_iff (storeInts_sendRadioData h y (by decide)), hread, hbyte,
    from16Byte_to8_eq_iff (h.int .supportedReceivers)]

theorem truncate_intCast (n : Int)
    : truncate n = n := by
  simp [truncate]

theorem double_from64_to64 {q : ℚ} (h : ∃ n : Int, q = n ∧ Wire.u64.InRange n ∧ double n = n)
    : double (from64 (to64 (truncate q))) = q := by
  have ⟨n, hq, hrange, hdouble⟩ := h
  rw [hq, truncate_intCast, from64_to64 hrange, hdouble]

theorem infoRadio_transferred_iff (stack : RadioData) (h : x.InWireRange) (y : Radio)
    : x.Transferred (infoRadio y (sendRadioData stack x))
        ↔
      (∀ f ∈ [RadioInt.adc0FilterBypass, .adc1FilterBypass], y.int f = x.int f)
        ∧ x.int .supportedReceivers = 0 := by
  rw [← storeInt_eq_iff h]
  constructor
  . intro htransferred
    exact htransferred.int
  . intro hint
    constructor
    case int => exact hint
    case double =>
      intro g hg
      simp only [infoRadio, RadioDouble.counted_storeInt h, hg, ↓reduceIte]
      simp only [sendRadioData, hg, ↓reduceIte]
      apply reproduces_fromDouble (h.double g hg)
    case text =>
      intro t ht
      simp only [infoRadio, RadioText.counted_storeInt h, ht, ↓reduceIte]
      simp only [sendRadioData, ht, ↓reduceIte]
    case name => simp [infoRadio, sendRadioData]
    case frequencyMin =>
      simp only [infoRadio, sendRadioData, double_from64_to64 h.frequencyMin]
    case frequencyMax =>
      simp only [infoRadio, sendRadioData, double_from64_to64 h.frequencyMax]

theorem radio_and_adc_transferred_iff (peer : Peer) (stack : RadioData) (adcStack : AdcData)
    (x y : Radio) (adc other : Fin 3 → Adc) (i : Fin 3) (h : x.InWireRange)
    (hadc : (adc i).InWireRange AdcInt.wire)
    : (x.Transferred (infoRadio y (sendRadioData stack x))
          ↔
        (∀ f ∈ [RadioInt.adc0FilterBypass, .adc1FilterBypass], y.int f = x.int f)
          ∧ x.int .supportedReceivers = 0)
        ∧
      ((∃ adc', infoAdc peer other (sendAdcData adcStack adc i) = some adc'
            ∧ (adc i).Transferred (adc' i))
          ↔
        (∀ f ∈ AdcInt.unread peer, (other i).int f = (adc i).int f)
          ∧ (∀ g ∈ AdcDouble.unread peer, Reproduces ((adc i).double g) ((other i).double g))
          ∧ (adc i).int .antenna = 0) := by
  constructor
  . apply infoRadio_transferred_iff stack h
  . apply infoAdc_transferred_iff hadc

section Examples

def emptyRadioData : RadioData where
  int _ := 0
  double _ := 0
  text _ _ := 0
  name := ⟨[], CString.length_nil_lt_64, CString.no_nul_nil⟩
  radioFrequencyMin := 0
  radioFrequencyMax := 0

def emptyAdcData : AdcData where
  int _ := 0
  double _ := 0
  adc := 0

-- a radio up to 6 m with the given number of supported receivers
def plainRadio (supportedReceivers : Int) : Radio where
  int
    | .supportedReceivers => supportedReceivers
    | _ => 0
  double _ := 0
  text _ _ := 0
  name := ⟨[], CString.length_nil_lt_64, CString.no_nul_nil⟩
  frequencyMin := 0
  frequencyMax := 61440000
  radioProtocol := 0
  radioDevice := 0
  soapySampleRate := 0

def plainAdc (antenna : Int) : Adc where
  int
    | .antenna => antenna
    | _ => 0
  double _ := 0

theorem plainRadio_inWireRange {supportedReceivers : Int} (h : Wire.u8.InRange supportedReceivers)
    : (plainRadio supportedReceivers).InWireRange where
  int f := by
    cases f
    case supportedReceivers => exact h
    all_goals simp [plainRadio, RadioInt.wire, Wire.InRange]
  double g _ := by norm_num [DoubleInRange, plainRadio]
  soapyGains channel := by simp [plainRadio]
  soapyAntennas channel := by simp [plainRadio]
  frequencyMin := by
    apply Exists.intro 0
    apply And.intro rfl
    apply And.intro (by decide)
    apply double_intCast (by decide)
  frequencyMax := by
    apply Exists.intro 61440000
    apply And.intro rfl
    apply And.intro (by decide)
    apply double_intCast (by decide)

theorem plainAdc_inWireRange {antenna : Int} (h : Wire.u8.InRange antenna)
    : (plainAdc antenna).InWireRange AdcInt.wire := by
  constructor
  . intro f
    cases f
    case antenna => exact h
    all_goals simp [plainAdc, AdcInt.wire, Wire.InRange]
  . intro g
    norm_num [DoubleInRange, plainAdc]

theorem radio_and_adc_transferred_zeros
    : (plainRadio 0).Transferred
            (infoRadio (plainRadio 0) (sendRadioData emptyRadioData (plainRadio 0)))
          ∧ ∃ adc', infoAdc .server (fun _ => plainAdc 0)
                  (sendAdcData emptyAdcData (fun _ => plainAdc 0) 1) = some adc'
              ∧ (plainAdc 0).Transferred (adc' 1) := by
  have h := radio_and_adc_transferred_iff .server emptyRadioData emptyAdcData (plainRadio 0)
    (plainRadio 0) (fun _ => plainAdc 0) (fun _ => plainAdc 0) 1
    (plainRadio_inWireRange (by decide)) (plainAdc_inWireRange (by decide))
  constructor
  . exact h.1.mpr ⟨fun _ _ => rfl, rfl⟩
  . exact h.2.mpr ⟨fun _ _ => rfl, fun _ _ => reproduces_zero, rfl⟩

theorem not_radio_and_adc_transferred_ones
    : (plainRadio 2).InWireRange
        ∧ ¬ (plainRadio 2).Transferred
              (infoRadio (plainRadio 2) (sendRadioData emptyRadioData (plainRadio 2)))
        ∧ (plainAdc 1).InWireRange AdcInt.wire
        ∧ ¬ ∃ adc', infoAdc .client (fun _ => plainAdc 1)
                (sendAdcData emptyAdcData (fun _ => plainAdc 1) 0) = some adc'
              ∧ (plainAdc 1).Transferred (adc' 0) := by
  have hradio : (plainRadio 2).InWireRange := plainRadio_inWireRange (by decide)
  have hadc : (plainAdc 1).InWireRange AdcInt.wire := plainAdc_inWireRange (by decide)
  apply And.intro hradio
  apply And.intro
  . rw [infoRadio_transferred_iff emptyRadioData hradio]
    rintro ⟨_, hreceivers⟩
    simp [plainRadio] at hreceivers
  . apply And.intro hadc
    rw [infoAdc_transferred_iff hadc]
    rintro ⟨_, _, hantenna⟩
    simp [plainAdc] at hantenna

end Examples

end ClientServer
