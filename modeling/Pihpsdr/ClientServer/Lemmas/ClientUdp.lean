import Pihpsdr.ClientServer.Impl.ClientUdp
import Pihpsdr.ClientServer.Lemmas.Framing
import Pihpsdr.ClientServer.Lemmas.MicStream

/-!
How many bytes a datagram needs to have, so that the client reads no others, and when the spectrum of the
server fits into the buffer and arrives.
-/

namespace ClientServer

namespace Access

variable {received receivers : Nat}

theorem bytes_inBounds (offset n : Nat)
    : (bytes offset n).InBounds received receivers ↔ n = 0 ∨ offset + n ≤ received := Iff.rfl

theorem receiver_inBounds (id : Nat)
    : (receiver id).InBounds received receivers ↔ id < receivers := Iff.rfl

theorem forall_mem_nil : (∀ a ∈ ([] : List Access), a.InBounds received receivers) ↔ True := by
  simp

end Access

-- the bytes of a spectrum that is drawn
def Panel.needs (codecs : Codecs) (panel : Panel) (buffer : Nat → Byte) : Nat :=
  let source := fun i => buffer (SpectrumData.sample + i)
  SpectrumData.sample +
    if buffer SpectrumData.compressed ≠ 0 then
      (codecs.uncompress source (uLongf (from16At buffer SpectrumData.compressedWidth))).1
    else
      panel.width.toNat

theorem Panel.sampleAccesses_inBounds_iff (codecs : Codecs) (panel : Panel) (buffer : Nat → Byte)
    (received receivers : Nat)
    : (∀ a ∈ panel.sampleAccesses codecs buffer, a.InBounds received receivers)
        ↔
      panel.needs codecs buffer ≤ received := by
  unfold sampleAccesses needs SpectrumData.compressed SpectrumData.sample
    SpectrumData.compressedWidth
  dsimp only
  split
  . simp only [List.forall_mem_cons, List.not_mem_nil, false_implies, implies_true, and_true,
      Access.InBounds]
    omega
  . simp only [List.forall_mem_cons, List.not_mem_nil, false_implies, implies_true, and_true,
      Access.InBounds]
    omega

namespace ClientRadio

variable (codecs : Codecs) (s : ClientRadio) (buffer : Nat → Byte)

-- a spectrum of a receiver up to its number, its flags or its samples
def rxSpectrumNeeds : Nat :=
  let id := (buffer SpectrumData.id).toNat
  if id < s.receivers then
    if (s.receiver id).Draws (from16At buffer SpectrumData.width) then
      (s.receiver id).needs codecs buffer
    else
      162
  else
    161

def txSpectrumNeeds : Nat :=
  match s.transmitter with
  | none => 158
  | some tx =>
    if tx.Draws (from16At buffer SpectrumData.width) ∧ tx.displayPanadapter then
      tx.needs codecs buffer
    else
      158

def opusNeeds : Nat :=
  if (buffer 6).toNat < s.receivers ∧ s.audioCompression ∧ 0 ≤ packetNum buffer then
    headerSize + codecs.opusReads (fun i => buffer (headerSize + i)) (packetNum buffer).toNat
  else
    headerSize

/--
How many bytes a datagram needs: with its samples as many as it announces or the panel has, otherwise up to
the last field that is read.
-/
def needs : Nat :=
  match packetType buffer with
  | some .infoRxSpectrum => s.rxSpectrumNeeds codecs buffer
  | some .infoTxSpectrum => s.txSpectrumNeeds codecs buffer
  | some .infoPs => if s.transmitter.isSome then 54 else headerSize
  | some .infoRxaudio => headerSize + 2 * (packetNum buffer).toNat
  | some .infoRxaudioOpus => s.opusNeeds codecs buffer
  | _ => headerSize

-- what is not compressed has to be for a receiver that exists
def DatagramFits (bytesRead : Nat) : Prop :=
  bytesRead < headerSize
    ∨ (s.needs codecs buffer ≤ bytesRead
      ∧ (packetType buffer = some .infoRxaudio → (buffer 6).toNat < s.receivers))

theorem Panel.le_needs (panel : Panel) : 163 ≤ panel.needs codecs buffer := by
  unfold Panel.needs SpectrumData.sample
  dsimp only
  omega

theorem rxSpectrumAccesses_inBounds_iff (hrx : packetType buffer = some .infoRxSpectrum)
    (received : Nat)
    : (∀ a ∈ s.spectrumAccesses codecs buffer, a.InBounds received s.receivers)
        ↔
      s.rxSpectrumNeeds codecs buffer ≤ received := by
  have hpanel := (s.receiver (buffer SpectrumData.id).toNat).sampleAccesses_inBounds_iff codecs buffer
    received s.receivers
  have hneeds := Panel.le_needs codecs buffer (s.receiver (buffer SpectrumData.id).toNat)
  unfold spectrumAccesses rxSpectrumNeeds
  simp only [hrx, reduceCtorEq, Option.some.injEq, if_true, if_false, List.append_nil,
    List.forall_mem_append, List.forall_mem_cons, Access.forall_mem_nil, and_true, false_or,
    Access.bytes_inBounds]
  split
  next hid =>
    simp only [List.forall_mem_append, List.forall_mem_cons, Access.forall_mem_nil, and_true,
      Access.bytes_inBounds, Access.receiver_inBounds]
    split
    . rw [hpanel]
      unfold SpectrumData.frequencies SpectrumData.width SpectrumData.constants
        SpectrumData.levels SpectrumData.avail SpectrumData.id at *
      omega
    . rw [Access.forall_mem_nil, and_true]
      unfold SpectrumData.frequencies SpectrumData.width SpectrumData.constants
        SpectrumData.levels SpectrumData.avail SpectrumData.id at *
      omega
  next hid =>
    rw [Access.forall_mem_nil, and_true]
    unfold SpectrumData.frequencies SpectrumData.width SpectrumData.id at *
    omega

theorem txSpectrumAccesses_inBounds_iff (htx : packetType buffer = some .infoTxSpectrum)
    (received : Nat)
    : (∀ a ∈ s.spectrumAccesses codecs buffer, a.InBounds received s.receivers)
        ↔
      s.txSpectrumNeeds codecs buffer ≤ received := by
  unfold spectrumAccesses txSpectrumNeeds
  simp only [htx, reduceCtorEq, Option.some.injEq, if_true, if_false, List.append_nil,
    List.forall_mem_append, List.forall_mem_cons, Access.forall_mem_nil, and_true, false_or,
    Access.bytes_inBounds]
  cases s.transmitter with
  | none =>
    simp only [Access.forall_mem_nil, and_true]
    unfold SpectrumData.frequencies SpectrumData.width
    omega
  | some tx =>
    have hpanel := tx.sampleAccesses_inBounds_iff codecs buffer received s.receivers
    have hneeds := Panel.le_needs codecs buffer tx
    simp only [List.forall_mem_cons, Access.bytes_inBounds]
    split
    . rw [hpanel]
      unfold SpectrumData.frequencies SpectrumData.width SpectrumData.levels at *
      omega
    . rw [Access.forall_mem_nil, and_true]
      unfold SpectrumData.frequencies SpectrumData.width SpectrumData.levels at *
      omega

theorem rxAudioOpusAccesses_inBounds_iff (received : Nat)
    : (headerSize ≤ received →
        ((∀ a ∈ s.rxAudioOpusAccesses codecs buffer, a.InBounds received s.receivers)
          ↔ s.opusNeeds codecs buffer ≤ received)) := by
  intro hheader
  unfold rxAudioOpusAccesses opusNeeds headerSize at *
  rw [List.forall_mem_cons, Access.bytes_inBounds]
  by_cases hid : (buffer 6).toNat < s.receivers
  . rw [if_pos hid, List.forall_mem_cons, Access.receiver_inBounds]
    by_cases hcompression : s.audioCompression = true
    . rw [if_pos hcompression, List.forall_mem_cons, Access.bytes_inBounds]
      by_cases hnum : packetNum buffer < 0
      . rw [if_pos hnum, Access.forall_mem_nil, and_true, if_neg (by omega)]
        omega
      . rw [if_neg hnum, if_pos ⟨hid, hcompression, by omega⟩, List.forall_mem_cons,
          Access.forall_mem_nil, and_true, Access.bytes_inBounds]
        omega
    . rw [if_neg hcompression, Access.forall_mem_nil, and_true, if_neg (by tauto)]
      omega
  . rw [if_neg hid, Access.forall_mem_nil, and_true, if_neg (by tauto)]
    omega

theorem rxAudioAccesses_inBounds_iff {received : Nat} (hheader : headerSize ≤ received)
    : (∀ a ∈ rxAudioAccesses buffer, a.InBounds received s.receivers)
        ↔
      headerSize + 2 * (packetNum buffer).toNat ≤ received ∧ (buffer 6).toNat < s.receivers := by
  unfold rxAudioAccesses headerSize at *
  simp only [List.forall_mem_cons, Access.forall_mem_nil, and_true, Access.bytes_inBounds,
    Access.receiver_inBounds]
  omega

-- exactly the datagrams that are long enough, and name a receiver that exists, are read in bounds
theorem udpAccesses_inBounds_iff (bytesRead : Nat)
    : (∀ a ∈ s.udpAccesses codecs buffer bytesRead, a.InBounds bytesRead s.receivers)
        ↔
      s.DatagramFits codecs buffer bytesRead := by
  unfold udpAccesses DatagramFits needs
  by_cases hheader : bytesRead < 12
  . rw [if_pos hheader, Access.forall_mem_nil]
    exact iff_of_true trivial (.inl hheader)
  . have hlong : headerSize ≤ bytesRead := by
      unfold headerSize
      omega
    have htype : 4 + 2 ≤ bytesRead := by omega
    rw [if_neg hheader, List.forall_mem_cons, Access.bytes_inBounds,
      or_iff_right (not_lt.mpr hlong)]
    simp only [htype, or_true, true_and]
    split
    next hrx =>
      rw [s.rxSpectrumAccesses_inBounds_iff codecs buffer hrx]
      simp [hrx]
    next htx =>
      rw [s.txSpectrumAccesses_inBounds_iff codecs buffer htx]
      simp [htx]
    next hps =>
      cases s.transmitter with
      | none => simp [hps, hlong]
      | some tx =>
        simp only [List.forall_mem_cons, Access.forall_mem_nil, and_true, Access.bytes_inBounds, hps,
          Option.isSome_some, if_true, Option.some.injEq, reduceCtorEq, false_implies, false_or]
        omega
    next haudio =>
      rw [s.rxAudioAccesses_inBounds_iff buffer hlong]
      simp [haudio]
    next hopus =>
      rw [s.rxAudioOpusAccesses_inBounds_iff codecs buffer bytesRead hlong]
      simp [hopus]
    next hrx htx hps haudio hopus =>
      rw [Access.forall_mem_nil, true_iff]
      refine ⟨?_, fun h => absurd h haudio⟩
      grind

end ClientRadio

/--
What zlib documents: the compressed data fits into its destination, and it is restored from memory that
begins with it.
-/
structure Codecs.Restores (codecs : Codecs) : Prop where
  length_le : ∀ data out, codecs.compress data = some out → out.length ≤ spectrumDataSize
  uncompress : ∀ data out source, data.length ≤ spectrumDataSize → codecs.compress data = some out →
    Stores source 0 out → (codecs.uncompress source out.length).2 = some data

theorem length_bytes16 (x : BitVec 16) : (bytes16 x).length = 2 := rfl

theorem field16At_of_stores {buffer : Nat → Byte} {i : Nat} {x : BitVec 16}
    (h : Stores buffer i (bytes16 x))
    : field16At buffer i = x := by
  have hcells := h.readCells_eq
  rw [length_bytes16] at hcells
  rw [field16At, hcells]
  exact field16_bytes16 x []

-- the part of a memory that has been sent
theorem stores_received {old data : Nat → Byte} {n base : Nat} {xs : List Byte}
    (h : Stores data base xs) (hn : base + xs.length ≤ n)
    : Stores (writeCells old 0 (readCells data 0 n)) base xs := by
  intro i hi
  have hwithin : 0 ≤ base + i ∧ base + i < 0 + (readCells data 0 n).length := by
    rw [length_readCells]
    omega
  rw [← h i hi]
  unfold writeCells
  rw [dif_pos hwithin]
  simp [readCells]

namespace RxSpectrum

variable (codecs : Codecs) (rx : RxSpectrum) (stack : Nat → Byte)

theorem stores_header
    : Stores (rx.spectrumData codecs stack) 4 (bytes16 (to16 DataType.infoRxSpectrum.code))
      ∧ Stores (rx.spectrumData codecs stack) SpectrumData.width (bytes16 (to16 rx.width))
      ∧ Stores (rx.spectrumData codecs stack) SpectrumData.compressedWidth
        (bytes16 (to16 (rx.payload codecs).2.1))
      ∧ Stores (rx.spectrumData codecs stack) SpectrumData.id [to8 rx.id]
      ∧ Stores (rx.spectrumData codecs stack) SpectrumData.compressed
        [if (rx.payload codecs).1 then 1 else 0]
      ∧ Stores (rx.spectrumData codecs stack) SpectrumData.sample (rx.payload codecs).2.2 := by
  have hc := rx.length_constants
  have hl := rx.length_levels
  have hf := rx.length_frequencies
  unfold spectrumData SpectrumData.width SpectrumData.compressedWidth SpectrumData.id
    SpectrumData.compressed SpectrumData.sample SpectrumData.frequencies SpectrumData.avail
    SpectrumData.constants SpectrumData.levels
  dsimp only
  refine ⟨?_, ?_, ?_, ?_, ?_, ?_⟩
  all_goals
    repeat first
      | exact stores_writeCells
      | refine Stores.writeCells_disjoint ?_ (by simp only [length_bytes16, List.length_singleton, hc, hl, hf]; omega)

theorem clipped_range (x : ℚ) : Wire.u8.InRange (clipped x) := by
  unfold clipped
  dsimp only
  split
  . decide
  . constructor
    . show (0 : Int) ≤ _
      split
      . decide
      . omega
    . show _ < (256 : Int)
      omega

theorem specbuf_getElem? {i : Nat} (hwidth : rx.width ≤ spectrumDataSize) (hi : i < rx.width)
    : rx.specbuf[i]? = some (to8 (clipped (rx.pixelSamples i))) := by
  have hnum : rx.numsamples = rx.width := if_neg (by omega)
  rw [specbuf, hnum, List.getElem?_map, List.getElem?_range hi, Option.map_some]

theorem length_specbuf (hwidth : rx.width ≤ spectrumDataSize) : rx.specbuf.length = rx.width := by
  have hnum : rx.numsamples = rx.width := if_neg (by omega)
  rw [specbuf, hnum, List.length_map, List.length_range]

-- either what has been compressed, which is not empty, or the samples themselves
theorem payload_cases
    : (∃ out, codecs.compress rx.specbuf = some out ∧ rx.payload codecs = (true, out.length, out))
      ∨ rx.payload codecs = (false, 0, rx.specbuf) := by
  unfold payload
  split
  next out hout =>
    split
    . exact .inr rfl
    . exact .inl ⟨out, hout, rfl⟩
  next => exact .inr rfl

end RxSpectrum

namespace Panel

variable {codecs : Codecs} {panel : Panel} {buffer : Nat → Byte} {i : Nat}

-- the three ways a sample comes to the panel
theorem loadSamples_plain (hcompressed : buffer SpectrumData.compressed = 0)
    (hi : (i : Int) < panel.width)
    : (panel.loadSamples codecs buffer).pixelSamples i
        =
      from8 (buffer (SpectrumData.sample + i)) - 200 := by
  unfold loadSamples
  simp only [hcompressed, ne_eq, not_true_eq_false, if_false, hi, if_true]

theorem loadSamples_compressed {specbuf : List Byte} {x : Byte}
    (hcompressed : buffer SpectrumData.compressed ≠ 0)
    (huncompress : (codecs.uncompress (fun i => buffer (SpectrumData.sample + i))
      (uLongf (from16At buffer SpectrumData.compressedWidth))).2 = some specbuf)
    (hlength : (specbuf.length : Int) = from16At buffer SpectrumData.width)
    (hi : specbuf[i]? = some x)
    : (panel.loadSamples codecs buffer).pixelSamples i = from8 x - 200 := by
  unfold loadSamples
  simp only [hcompressed, ne_eq, not_false_eq_true, if_true, huncompress, hlength,
    not_true_eq_false, if_false, hi]

end Panel

theorem from16At_of_stores {buffer : Nat → Byte} {i : Nat} {x : Int}
    (h : Stores buffer i (bytes16 (to16 x))) (hx : Wire.u16.InRange x)
    : from16At buffer i = x := by
  rw [from16At, field16At_of_stores h, from16_to16 hx]

theorem byte_of_stores {buffer : Nat → Byte} {i : Nat} {b : Byte} (h : Stores buffer i [b])
    : buffer i = b := by
  apply h 0
  simp

-- a source begins with what the buffer stores from there on
theorem stores_source {buffer : Nat → Byte} {base : Nat} {xs : List Byte}
    (h : Stores buffer base xs)
    : Stores (fun i => buffer (base + i)) 0 xs := by
  intro i hi
  rw [← h i hi, Nat.zero_add]

namespace ClientRadio

variable {codecs : Codecs} (s : ClientRadio) (rx : RxSpectrum) (stack old : Nat → Byte)

-- the buffer of the client after a spectrum that fits into it
def spectrumBuffer (codecs : Codecs) (rx : RxSpectrum) (stack old : Nat → Byte) : Nat → Byte :=
  writeCells old 0 (rx.sendRxspectrum codecs stack)

theorem receiveSpectrum_eq (hfits : (rx.sendRxspectrum codecs stack).length ≤ udpBufferSize)
    : s.receiveSpectrum codecs old (rx.sendRxspectrum codecs stack)
        =
      s.clientSpectrum codecs (spectrumBuffer codecs rx stack old) := by
  rw [receiveSpectrum, spectrumBuffer, List.take_of_length_le hfits]

theorem stores_spectrumBuffer (codecs : Codecs) (rx : RxSpectrum) (stack old : Nat → Byte)
    : Stores (spectrumBuffer codecs rx stack old) 4
        (bytes16 (to16 DataType.infoRxSpectrum.code))
      ∧ Stores (spectrumBuffer codecs rx stack old) SpectrumData.width (bytes16 (to16 rx.width))
      ∧ Stores (spectrumBuffer codecs rx stack old) SpectrumData.compressedWidth
        (bytes16 (to16 (rx.payload codecs).2.1))
      ∧ Stores (spectrumBuffer codecs rx stack old) SpectrumData.id [to8 rx.id]
      ∧ Stores (spectrumBuffer codecs rx stack old) SpectrumData.compressed
        [if (rx.payload codecs).1 then 1 else 0]
      ∧ Stores (spectrumBuffer codecs rx stack old) SpectrumData.sample
        (rx.payload codecs).2.2 := by
  have ⟨htype, hwidth, hcwidth, hid, hflag, hsample⟩ := rx.stores_header codecs stack
  unfold spectrumBuffer RxSpectrum.sendRxspectrum RxSpectrum.numout
  refine ⟨stores_received htype ?_, stores_received hwidth ?_, stores_received hcwidth ?_,
    stores_received hid ?_, stores_received hflag ?_, stores_received hsample ?_⟩
  all_goals
    simp only [length_bytes16, List.length_singleton, SpectrumData.width, SpectrumData.sample,
      SpectrumData.compressedWidth, SpectrumData.id, SpectrumData.compressed]
    omega

theorem packetType_spectrumBuffer
    : packetType (spectrumBuffer codecs rx stack old) = some .infoRxSpectrum := by
  unfold packetType
  rw [field16At_of_stores (stores_spectrumBuffer codecs rx stack old).1]
  decide

theorem width_spectrumBuffer (hwidth : rx.width ≤ spectrumDataSize)
    : from16At (spectrumBuffer codecs rx stack old) SpectrumData.width = rx.width := by
  apply from16At_of_stores (stores_spectrumBuffer codecs rx stack old).2.1
  unfold spectrumDataSize at hwidth
  exact ⟨by show -(32768 : Int) ≤ _; omega, by show _ < (32768 : Int); omega⟩

theorem id_spectrumBuffer
    : (spectrumBuffer codecs rx stack old SpectrumData.id).toNat = rx.id := by
  have hid := rx.id_lt
  rw [byte_of_stores (stores_spectrumBuffer codecs rx stack old).2.2.2.1, toNat_to8 (by omega)]

-- each sample that fits arrives with its clipped value
theorem loadSamples_spectrumBuffer (hcodecs : codecs.Restores) {panel : Panel}
    (hwidth : rx.width ≤ spectrumDataSize) (hdraws : panel.Draws rx.width) {i : Nat}
    (hi : i < rx.width)
    : (panel.loadSamples codecs (spectrumBuffer codecs rx stack old)).pixelSamples i
        =
      RxSpectrum.clipped (rx.pixelSamples i) - 200 := by
  have ⟨_, _, hcwidth, _, hflag, hsample⟩ := stores_spectrumBuffer codecs rx stack old
  have hflag := byte_of_stores hflag
  have hvalue := from8_to8 (RxSpectrum.clipped_range (rx.pixelSamples i))
  have hget := rx.specbuf_getElem? hwidth hi
  cases rx.payload_cases codecs with
  | inl hout =>
    have ⟨out, hcompress, hpayload⟩ := hout
    have hle := hcodecs.length_le _ _ hcompress
    rw [hpayload] at hcwidth hflag hsample
    dsimp only at hcwidth hflag hsample
    have hlen : from16At (spectrumBuffer codecs rx stack old) SpectrumData.compressedWidth
        = out.length := by
      apply from16At_of_stores hcwidth
      unfold spectrumDataSize at hle
      exact ⟨by show -(32768 : Int) ≤ _; omega, by show _ < (32768 : Int); omega⟩
    have hulong : uLongf (out.length : Int) = out.length := by
      unfold spectrumDataSize at hle
      unfold uLongf
      rw [BitVec.toNat_ofInt]
      omega
    have huncompress := hcodecs.uncompress _ _ _ (by rw [rx.length_specbuf hwidth]; exact hwidth)
      hcompress (stores_source hsample)
    rw [← hulong, ← hlen] at huncompress
    rw [Panel.loadSamples_compressed ?_ huncompress ?_ hget, hvalue]
    . rw [hflag, if_pos rfl]
      decide
    . rw [width_spectrumBuffer rx stack old hwidth, rx.length_specbuf hwidth]
  | inr hpayload =>
    rw [hpayload] at hflag hsample
    have hwithin : i < rx.specbuf.length := by
      rw [rx.length_specbuf hwidth]
      exact hi
    have hpanel := hdraws.1
    rw [Panel.loadSamples_plain hflag (by omega), hsample i hwithin]
    rw [List.getElem?_eq_getElem hwithin, Option.some.injEq] at hget
    rw [hget, hvalue]

theorem length_sendRxspectrum
    : (rx.sendRxspectrum codecs stack).length = SpectrumData.sample + rx.numout codecs := by
  rw [RxSpectrum.sendRxspectrum, length_readCells]

-- the spectra that fit into the buffer are those that are restored there
theorem receiveSpectrum_samples (hcodecs : codecs.Restores) (hwidth : rx.width ≤ spectrumDataSize)
    (hid : rx.id < s.receivers) (hdraws : (s.receiver rx.id).Draws rx.width)
    (hfits : SpectrumData.sample + rx.numout codecs ≤ udpBufferSize) {i : Nat} (hi : i < rx.width)
    : ((s.receiveSpectrum codecs old (rx.sendRxspectrum codecs stack)).receiver rx.id).pixelSamples i
        =
      RxSpectrum.clipped (rx.pixelSamples i) - 200 := by
  rw [receiveSpectrum_eq s rx stack old (by rw [length_sendRxspectrum]; exact hfits)]
  unfold clientSpectrum
  dsimp only
  rw [id_spectrumBuffer, width_spectrumBuffer rx stack old hwidth, packetType_spectrumBuffer,
    if_pos ⟨rfl, hid, hdraws⟩]
  dsimp only
  rw [Function.update_self]
  exact loadSamples_spectrumBuffer rx stack old hcodecs hwidth hdraws hi

/--
A client stays within a datagram exactly when the datagram is long enough for what its type, its counts and
the widths of the panels announce, and a spectrum of the server arrives exactly when the bytes of its samples
leave room for the fields in front of them.
-/
theorem udp_bounded_iff (codecs : Codecs) (hcodecs : codecs.Restores)
    : (∀ (s : ClientRadio) (old : Nat → Byte) (datagram : List Byte),
        (∀ a ∈ s.datagramAccesses codecs old datagram,
            a.InBounds (min udpBufferSize datagram.length) s.receivers)
          ↔
        s.DatagramFits codecs (writeCells old 0 (datagram.take udpBufferSize))
          (min udpBufferSize datagram.length))
      ∧ ∀ (s : ClientRadio) (rx : RxSpectrum) (stack old : Nat → Byte),
        rx.width ≤ spectrumDataSize → rx.id < s.receivers → (s.receiver rx.id).Draws rx.width →
        ((rx.sendRxspectrum codecs stack).length ≤ udpBufferSize
            ∧ (∀ i < rx.width,
              ((s.receiveSpectrum codecs old (rx.sendRxspectrum codecs stack)).receiver
                  rx.id).pixelSamples i
                =
              RxSpectrum.clipped (rx.pixelSamples i) - 200)
          ↔
        rx.numout codecs ≤ udpBufferSize - SpectrumData.sample) := by
  constructor
  . intro s old datagram
    unfold datagramAccesses
    rw [← List.length_take]
    apply udpAccesses_inBounds_iff
  . intro s rx stack old hwidth hid hdraws
    rw [length_sendRxspectrum]
    constructor
    . intro ⟨hfits, _⟩
      omega
    . intro hroom
      have hfits : SpectrumData.sample + rx.numout codecs ≤ udpBufferSize := by
        unfold udpBufferSize SpectrumData.sample at *
        omega
      exact ⟨hfits, fun i hi =>
        receiveSpectrum_samples s rx stack old hcodecs hwidth hid hdraws hfits hi⟩

end ClientRadio

-- zlib, as far as the spectra below need it: a single sample is compressed
def singleOut : List Byte :=
  [120, 156, 11, 0, 0, 0, 81, 0, 81]

def singleCodecs : Codecs where
  compress data := if data = [80] then some singleOut else none
  uncompress source n := (n, if readCells source 0 n = singleOut then some [80] else none)
  opusReads _ n := n

theorem singleCodecs_restores : singleCodecs.Restores where
  length_le data out h := by
    unfold singleCodecs at h
    dsimp only at h
    split at h
    . rw [← Option.some.inj h]
      decide
    . contradiction
  uncompress data out source _ h hstores := by
    unfold singleCodecs at *
    dsimp only at *
    rw [hstores.readCells_eq]
    split at h
    next hdata => rw [← Option.some.inj h, if_pos rfl, hdata]
    next => contradiction

def twoReceivers (width : Int) : ClientRadio where
  receivers := 2
  receiver _ := {
    width
    hasSamples := true
    pixels := width
    displaying := true
    displayPanadapter := true
    pixelSamples := fun _ => 0
  }
  transmitter := none
  audioCompression := false

-- a spectrum with the level of -120 dBm
def flatSpectrum (width : Nat) : RxSpectrum where
  id := 1
  width
  pixelSamples _ := -120
  pixelsAvailable := 1
  constants := List.replicate 32 0
  levels := List.replicate 24 0
  frequencies := List.replicate 48 0
  length_constants := rfl
  length_levels := rfl
  length_frequencies := rfl
  id_lt := by decide

theorem numout_flatSpectrum : (flatSpectrum 1).numout singleCodecs = 9 := by
  have hclipped : RxSpectrum.clipped (-120) = 80 := by decide
  have hspecbuf : (flatSpectrum 1).specbuf = [80] := by
    simp [RxSpectrum.specbuf, RxSpectrum.numsamples, flatSpectrum, spectrumDataSize, hclipped, to8]
  simp [RxSpectrum.numout, RxSpectrum.payload, hspecbuf, singleCodecs, singleOut]

-- more samples than one are sent as they are
theorem length_flatSpectrum {width : Nat} (hmany : 1 < width) (hwidth : width ≤ spectrumDataSize)
    : ((flatSpectrum width).sendRxspectrum singleCodecs fun _ => 0).length
        =
      SpectrumData.sample + width := by
  have hlength := (flatSpectrum width).length_specbuf hwidth
  rw [ClientRadio.length_sendRxspectrum, RxSpectrum.numout]
  cases (flatSpectrum width).payload_cases singleCodecs with
  | inl hout =>
    have ⟨out, hcompress, _⟩ := hout
    unfold singleCodecs at hcompress
    dsimp only at hcompress
    split at hcompress
    next hdata =>
      rw [hdata, List.length_singleton] at hlength
      have hone : 1 = width := hlength
      omega
    next => contradiction
  | inr hplain =>
    rw [hplain, hlength]
    rfl

theorem flatSpectrum_arrives
    : (((twoReceivers 1).receiveSpectrum singleCodecs (fun _ => 0)
        ((flatSpectrum 1).sendRxspectrum singleCodecs fun _ => 0)).receiver
          (flatSpectrum 1).id).pixelSamples 0
        =
      RxSpectrum.clipped ((flatSpectrum 1).pixelSamples 0) - 200 :=
  (((ClientRadio.udp_bounded_iff singleCodecs singleCodecs_restores).2 (twoReceivers 1)
    (flatSpectrum 1) (fun _ => 0) (fun _ => 0) (by decide) (by decide) (by decide)).mpr
    (by rw [numout_flatSpectrum]; decide)).2 0 (by decide)

/--
A header alone, with a count of one sample and for the receiver 5: both are read. A spectrum with as many
samples as the packet has room for is longer than the buffer of the client.
-/
theorem not_udp_bounded
    : ¬((∀ a ∈ (twoReceivers 1).datagramAccesses singleCodecs (fun _ => 0)
          [0xFA, 0xFA, 0xAF, 0xAF, 0, 106, 5, 0, 0, 1, 0, 0], a.InBounds 12 2)
        ∨ ((flatSpectrum 4096).sendRxspectrum singleCodecs fun _ => 0).length ≤ udpBufferSize) := by
  intro h
  cases h with
  | inl h =>
    revert h
    decide
  | inr h =>
    have hlength := @length_flatSpectrum 4096 (by decide) (by decide)
    rw [hlength] at h
    exact absurd h (by decide)

end ClientServer
