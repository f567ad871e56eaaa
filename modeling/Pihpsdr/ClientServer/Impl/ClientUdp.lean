import Pihpsdr.ClientServer.Impl.MicStream
import Pihpsdr.ClientServer.Impl.Band

/-!
The datagrams of the server: what `client_udp_thread` and `client_spectrum` read of them, and the spectrum
that `send_rxspectrum` puts into one.
-/

namespace ClientServer

-- what is accessed: bytes of the buffer of the datagram, or an element of `receiver`
inductive Access where
  | bytes (offset n : Nat)
  | receiver (id : Nat)

def Access.InBounds (received receivers : Nat) : Access → Prop
  | bytes offset n => n = 0 ∨ offset + n ≤ received
  | receiver id => id < receivers

instance (received receivers : Nat) (a : Access) : Decidable (a.InBounds received receivers) := by
  cases a <;> unfold Access.InBounds <;> infer_instance

/--
The libraries. `compress` has a destination of 4096 bytes and may fail; `uncompress` and the decoder get the
memory from their source on with its length, and tell how many bytes they read.
-/
structure Codecs where
  compress : List Byte → Option (List Byte)
  uncompress : (Nat → Byte) → Nat → Nat × Option (List Byte)
  opusReads : (Nat → Byte) → Nat → Nat

-- the display of a receiver or of the transmitter
structure Panel where
  width : Int
  hasSamples : Bool
  pixels : Int
  displaying : Bool
  displayPanadapter : Bool
  pixelSamples : Nat → Int

structure ClientRadio where
  receivers : Nat
  receiver : Nat → Panel
  transmitter : Option Panel
  audioCompression : Bool

def spectrumDataSize : Nat :=
  4096

-- the sizes that `client_udp_thread` allocates and accepts
def udpBufferSize : Nat :=
  4096

namespace SpectrumData

def levels : Nat :=
  12

def constants : Nat :=
  76

def frequencies : Nat :=
  108

def width : Nat :=
  156

def compressedWidth : Nat :=
  158

def id : Nat :=
  160

def avail : Nat :=
  161

def compressed : Nat :=
  162

def sample : Nat :=
  163

end SpectrumData

-- the conversion of a length of type `int` to `uLongf`
def uLongf (x : Int) : Nat :=
  (BitVec.ofInt 64 x).toNat

def from16At (buffer : Nat → Byte) (i : Nat) : Int :=
  from16 (field16At buffer i)

namespace Panel

-- the panel is drawn with a spectrum of this width
def Draws (panel : Panel) (width : Int) : Prop :=
  width = panel.width ∧ panel.hasSamples ∧ panel.pixels > 0 ∧ panel.displaying

instance (panel : Panel) (width : Int) : Decidable (panel.Draws width) :=
  inferInstanceAs (Decidable (_ ∧ _))

def sampleAccesses (codecs : Codecs) (panel : Panel) (buffer : Nat → Byte) : List Access :=
  .bytes SpectrumData.compressed 1 ::
    if buffer SpectrumData.compressed ≠ 0 then
      let len := from16At buffer SpectrumData.compressedWidth
      let source := fun i => buffer (SpectrumData.sample + i)
      [.bytes SpectrumData.compressedWidth 2,
        .bytes SpectrumData.sample (codecs.uncompress source (uLongf len)).1]
    else
      [.bytes SpectrumData.sample panel.width.toNat]

def loadSamples (codecs : Codecs) (panel : Panel) (buffer : Nat → Byte) : Panel :=
  let source := fun i => buffer (SpectrumData.sample + i)
  if buffer SpectrumData.compressed ≠ 0 then
    match (codecs.uncompress source (uLongf (from16At buffer SpectrumData.compressedWidth))).2 with
    | none => panel
    | some specbuf =>
      if (specbuf.length : Int) ≠ from16At buffer SpectrumData.width then
        panel
      else
        { panel with
          pixelSamples := fun i =>
            match specbuf[i]? with
            | none => panel.pixelSamples i
            | some s => from8 s - 200 }
  else
    { panel with
      pixelSamples := fun i =>
        if (i : Int) < panel.width then from8 (source i) - 200 else panel.pixelSamples i }

end Panel

namespace ClientRadio

variable (codecs : Codecs)

def spectrumAccesses (s : ClientRadio) (buffer : Nat → Byte) : List Access :=
  let width := from16At buffer SpectrumData.width
  [.bytes 4 2, .bytes SpectrumData.frequencies 48, .bytes SpectrumData.width 2]
    ++ (if packetType buffer = some .infoRxSpectrum then
        let id := (buffer SpectrumData.id).toNat
        .bytes SpectrumData.id 1 ::
          if id < s.receivers then
            [.receiver id, .bytes SpectrumData.constants 32, .bytes SpectrumData.levels 24,
                .bytes SpectrumData.avail 1]
              ++ if (s.receiver id).Draws width then (s.receiver id).sampleAccesses codecs buffer
                else []
          else
            []
      else
        [])
    ++ (if packetType buffer = some .infoTxSpectrum then
        match s.transmitter with
        | none => []
        | some tx =>
          .bytes (SpectrumData.levels + 24) 40 ::
            if tx.Draws width ∧ tx.displayPanadapter then tx.sampleAccesses codecs buffer else []
      else
        [])

def rxAudioAccesses (buffer : Nat → Byte) : List Access :=
  [.bytes 6 1, .receiver (buffer 6).toNat, .bytes 8 2,
    .bytes headerSize (2 * (packetNum buffer).toNat)]

-- the decoder refuses a negative length
def rxAudioOpusAccesses (s : ClientRadio) (buffer : Nat → Byte) : List Access :=
  .bytes 6 1 ::
    if (buffer 6).toNat < s.receivers then
      .receiver (buffer 6).toNat ::
        if s.audioCompression then
          .bytes 8 2 ::
            if packetNum buffer < 0 then
              []
            else
              [.bytes headerSize
                (codecs.opusReads (fun i => buffer (headerSize + i)) (packetNum buffer).toNat)]
        else
          []
    else
      []

-- a datagram of `bytesRead` bytes; packets for `client_info_display` are only queued here
def udpAccesses (s : ClientRadio) (buffer : Nat → Byte) (bytesRead : Nat) : List Access :=
  if bytesRead < 12 then
    []
  else
    .bytes 4 2 ::
      match packetType buffer with
      | some .infoRxSpectrum | some .infoTxSpectrum => s.spectrumAccesses codecs buffer
      | some .infoPs =>
        match s.transmitter with
        | none => []
        | some _ => [.bytes 20 32, .bytes 52 2, .bytes 12 8]
      | some .infoRxaudio => rxAudioAccesses buffer
      | some .infoRxaudioOpus => s.rxAudioOpusAccesses codecs buffer
      | _ => []

-- the accesses for a datagram, in a buffer that held `old`
def datagramAccesses (s : ClientRadio) (old : Nat → Byte) (datagram : List Byte) : List Access :=
  let bytes := datagram.take udpBufferSize
  s.udpAccesses codecs (writeCells old 0 bytes) bytes.length

-- the spectrum of a receiver
def clientSpectrum (s : ClientRadio) (buffer : Nat → Byte) : ClientRadio :=
  let id := (buffer SpectrumData.id).toNat
  if packetType buffer = some .infoRxSpectrum ∧ id < s.receivers
      ∧ (s.receiver id).Draws (from16At buffer SpectrumData.width) then
    { s with
      receiver := Function.update s.receiver id ((s.receiver id).loadSamples codecs buffer) }
  else
    s

def receiveSpectrum (s : ClientRadio) (old : Nat → Byte) (datagram : List Byte) : ClientRadio :=
  s.clientSpectrum codecs (writeCells old 0 (datagram.take udpBufferSize))

end ClientRadio

-- what `send_rxspectrum` sends for a receiver; the doubles and frequencies have their encoding already
structure RxSpectrum where
  id : Nat
  width : Nat
  pixelSamples : Nat → ℚ
  pixelsAvailable : Byte
  constants : List Byte
  levels : List Byte
  frequencies : List Byte
  length_constants : constants.length = 32
  length_levels : levels.length = 24
  length_frequencies : frequencies.length = 48
  id_lt : id < 8

namespace RxSpectrum

-- between -200 dBm and 55 dBm
def clipped (x : ℚ) : Int :=
  let s := truncate x + 200
  let s := if s < 0 then 0 else s
  if s > 255 then 255 else s

variable (codecs : Codecs) (rx : RxSpectrum)

def numsamples : Nat :=
  if rx.width > spectrumDataSize then spectrumDataSize else rx.width

def specbuf : List Byte :=
  (List.range rx.numsamples).map fun i => to8 (clipped (rx.pixelSamples i))

-- the flag, the compressed width and the samples; without success they are sent as they are
def payload : Bool × Nat × List Byte :=
  match codecs.compress rx.specbuf with
  | some out => if out.length = 0 then (false, 0, rx.specbuf) else (true, out.length, out)
  | none => (false, 0, rx.specbuf)

def numout : Nat :=
  (rx.payload codecs).2.2.length

-- the structure on the stack after its fields have been assigned
def spectrumData (stack : Nat → Byte) : Nat → Byte :=
  let data := writeCells stack 0 syncBytes
  let data := writeCells data 4 (bytes16 (to16 DataType.infoRxSpectrum.code))
  let data := writeCells data SpectrumData.frequencies rx.frequencies
  let data := writeCells data SpectrumData.id [to8 rx.id]
  let data := writeCells data SpectrumData.avail [rx.pixelsAvailable]
  let data := writeCells data SpectrumData.constants rx.constants
  let data := writeCells data SpectrumData.levels rx.levels
  let data := writeCells data SpectrumData.width (bytes16 (to16 rx.width))
  let data := writeCells data SpectrumData.compressedWidth (bytes16 (to16 (rx.payload codecs).2.1))
  let data := writeCells data SpectrumData.compressed [if (rx.payload codecs).1 then 1 else 0]
  let data := writeCells data SpectrumData.sample (rx.payload codecs).2.2
  writeCells data 8 (bytes16 (to16 (SpectrumData.sample + rx.numout codecs - headerSize)))

-- the datagram; its length depends on the samples
def sendRxspectrum (stack : Nat → Byte) : List Byte :=
  readCells (rx.spectrumData codecs stack) 0 (SpectrumData.sample + rx.numout codecs)

end RxSpectrum

end ClientServer
