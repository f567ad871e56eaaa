import Pihpsdr.OldProtocol.Lemmas.OzyFrame

/-!
`saturn_rx_thread` of `saturnmain.c`, which takes the stream of the FPGA with the samples of all DDCs
apart and makes the packets of the single DDCs.
-/

namespace Saturn

open OldProtocol (Byte)

-- DDC 0 to 9 of the FPGA
abbrev Channel := Fin 10

-- `DDCSampleCounts`
def ddcSampleCount (rate : Nat) : Nat := [0, 1, 2, 4, 8, 16, 32, 0].getD rate 0

/--
`AnalyseDDCHeader` for the DDCs that are left. With the rate 7, a DDC and the next one are a
synchronised pair with the rate of the latter, and the first one gets all samples.
-/
def analyseDdcHeader : Nat → Nat → List Nat
  | 0, _ => []
  | 1, header =>
    if header % 8 ≠ 7 then
      [ddcSampleCount (header % 8)]
    else
      [2 * ddcSampleCount (header / 8 % 8)]
  | n + 2, header =>
    if header % 8 ≠ 7 then
      ddcSampleCount (header % 8) :: analyseDdcHeader (n + 1) (header / 8)
    else
      2 * ddcSampleCount (header / 8 % 8) :: 0 :: analyseDdcHeader n (header / 64)

/--
What is in a buffer between the pointer for reading and the one for writing; `read` is the distance of
the first one from the base, which has 4096 bytes before it.
-/
structure Region where
  read : Int
  data : List Byte

namespace Region

def empty : Region := ⟨0, []⟩

def write (r : Region) (bs : List Byte) : Region := { r with data := r.data ++ bs }

def skip (r : Region) (n : Nat) : Region := ⟨r.read + n, r.data.drop n⟩

-- copy any residue to before the base, so that new data comes at the base
def moveDown (r : Region) : Region := if r.read > 0 then ⟨-r.data.length, r.data⟩ else r

end Region

def iqBytesPerFrame : Nat := 6 * 238

-- a packet for `saturn_post_iq_data`
def iqPacket (sequence : BitVec 32) (payload : List Byte) : List Byte :=
  [sequence.extractLsb' 24 8, sequence.extractLsb' 16 8, sequence.extractLsb' 8 8,
    sequence.extractLsb' 0 8] ++ List.replicate 8 0 ++ [0, 24, 0, 238] ++ payload

-- ship out packets as long as there is enough data; those of the DDCs below 6 are not posted
def ship (ddc : Channel) (sequence : BitVec 32) (r : Region)
    : List (List Byte) × BitVec 32 × Region :=
  if _h : iqBytesPerFrame < r.data.length then
    let posted := if ddc < 6 then [] else [iqPacket sequence (r.data.take iqBytesPerFrame)]
    let sequence := if ddc < 6 then 0 else sequence + 1
    let (rest, sequence, r) := ship ddc sequence (r.skip iqBytesPerFrame)
    (posted ++ rest, sequence, r)
  else
    ([], sequence, r)
termination_by r.data.length
decreasing_by
  rw [Region.skip, List.length_drop, iqBytesPerFrame]
  rw [iqBytesPerFrame] at _h
  omega

-- move 48 bits of sample data and skip 16 bits where there is no data
def copySamples : Nat → List Byte → List Byte
  | 0, _ => []
  | count + 1, src => src.take 6 ++ copySamples count (src.drop 8)

-- the samples of the DDCs from `ddc` on
def copyFrame (src : List Byte) (iq : Channel → Region) : List Nat → Nat → Channel → Region
  | [], _ => iq
  | count :: counts, ddc =>
    copyFrame (src.drop (8 * count))
      (fun k => if k.val = ddc then (iq k).write (copySamples count src) else iq k) counts (ddc + 1)

structure RxThread where
  dmaTransferSize : Nat
  headerFound : Bool
  prevRateWord : BitVec 32
  ddcCounts : List Nat
  frameLength : Nat
  dma : Region
  iq : Channel → Region
  sequence : Channel → BitVec 32

namespace RxThread

-- before a rate word has been seen, `DDCCounts` is not read
def init : RxThread where
  dmaTransferSize := 4096
  headerFound := false
  prevRateWord := 0xFFFFFFFF
  ddcCounts := List.replicate 10 0
  frameLength := 0
  dma := .empty
  iq _ := .empty
  sequence _ := 0

-- analyse a rate word that has changed
def analyse (t : RxThread) (rateWord : BitVec 32) : RxThread :=
  if rateWord ≠ t.prevRateWord then
    { t with
      prevRateWord := rateWord
      ddcCounts := analyseDdcHeader 10 rateWord.toNat
      frameLength := (analyseDdcHeader 10 rateWord.toNat).sum }
  else
    t

def rateWord (bs : List Byte) : BitVec 32 :=
  bs.getD 3 0 ++ bs.getD 2 0 ++ bs.getD 1 0 ++ bs.getD 0 0

-- copy DMA data to IQ buffers; without a header at its place the program ends
def decode (t : RxThread) : Option RxThread :=
  if _h : t.dma.data.length ≥ 16 then
    if t.dma.data.getD 7 0 ≠ 0x80 then
      none
    else
      let u := t.analyse (rateWord t.dma.data)
      if t.dma.data.length ≥ (u.frameLength + 1) * 8 then
        decode { u with
          dma := t.dma.skip ((u.frameLength + 1) * 8)
          iq := copyFrame (t.dma.data.drop 8) t.iq u.ddcCounts 0 }
      else
        some u
  else
    some t
termination_by t.dma.data.length
decreasing_by
  show (t.dma.data.drop _).length < _
  rw [List.length_drop]
  omega

-- the first place after the first two words that has a header
def findHeader (bs : List Byte) : Option Nat :=
  (List.range' 16 ((bs.length - 9) / 8) 8).find? fun cntr => bs.getD (cntr + 7) 0 = 0x80

def transferSize (depth : Nat) : Nat :=
  if depth > 4096 then 32768
  else if depth > 2048 then 16384
  else if depth > 1024 then 8192
  else 4096

def seekHeader (t : RxThread) : Option RxThread :=
  if t.headerFound then
    some t
  else
    (findHeader t.dma.data).map fun cntr => { t with headerFound := true, dma := t.dma.skip cntr }

def shipAll (t : RxThread) : RxThread :=
  { t with
    sequence := fun k => (ship k (t.sequence k) (t.iq k)).2.1
    iq := fun k => (ship k (t.sequence k) (t.iq k)).2.2.moveDown }

def posted (t : RxThread) (ddc : Channel) : List (List Byte) :=
  (ship ddc (t.sequence ddc) (t.iq ddc)).1

end RxThread

/--
The thread, what the FPGA still has to deliver, and the packets that have been posted for each DDC.
-/
structure RxSystem where
  thread : RxThread
  fifo : List Byte
  packets : Channel → List (List Byte)

namespace RxSystem

def start (fifo : List Byte) : RxSystem := ⟨.init, fifo, fun _ => []⟩

/--
A turn of the loop, in which the last depth of the FIFO that is read is `depth`. As long as there is not
enough in it, the thread waits.
-/
def turn (y : RxSystem) (depth : Nat) : Option RxSystem :=
  let packets := fun k => y.packets k ++ y.thread.posted k
  let t := y.thread.shipAll
  let size := RxThread.transferSize depth
  if depth < t.dmaTransferSize / 8 ∨ y.fifo.length < size then
    some ⟨t, y.fifo, packets⟩
  else do
    let t := { t with dmaTransferSize := size, dma := t.dma.write (y.fifo.take size) }
    let t ← t.seekHeader
    let t ← t.decode
    return ⟨{ t with dma := t.dma.moveDown }, y.fifo.drop size, packets⟩

-- none after the program has ended
def exec (y : RxSystem) (depths : List Nat) : Option RxSystem :=
  depths.foldlM turn y

end RxSystem

end Saturn
