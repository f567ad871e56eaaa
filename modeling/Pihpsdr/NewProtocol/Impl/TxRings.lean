import Mathlib.Data.Int.Bitwise
import Mathlib.Data.Nat.Bitwise
import Pihpsdr.Lib.BlockRing

/-!
The rings of `new_protocol.c` for the samples that go to the radio: `RXAUDIORINGBUF` with the
producers `new_protocol_audio_samples` and `new_protocol_tx_audio_samples`, `TXIQRINGBUF` with
`new_protocol_iq_samples`, and the threads that send their blocks while the protocol runs.

The producers of audio samples and the critical section of their consumer hold
`send_rxaudio_mutex` and are one step each. There is no lock for the I/Q samples: their producer
publishes a block and posts the semaphore in steps of their own, and their consumer first copies a
block and then moves `txiq_outptr`. A packet is sent from the buffer of its thread, which no one else
writes to. The arguments of the producers are the scaled samples.
-/

namespace NewProtocol

structure Sample where
  left : Int
  right : Int
  deriving DecidableEq

-- how samples are written, the number of samples skipped after an overflow, and the next pointer
structure RingKind extends BlockGeometry where
  bytes : Sample → List UInt8
  skip : Nat
  nptr : Nat → Nat
  length_bytes : ∀ a, (bytes a).length = width
  samples_dvd_skip : samples ∣ skip
  nptr_eq : ∀ i < blocks,
    nptr (toBlockGeometry.blockLen * i) = toBlockGeometry.blockLen * Ring.next blocks i

-- byte `n` of a number
def byteOf (x : Int) (n : Nat) : UInt8 :=
  UInt8.ofNat ((x >>> (8 * n)) % 256).toNat

def rxaudioBytes (a : Sample) : List UInt8 :=
  [byteOf a.left 1, byteOf a.left 0, byteOf a.right 1, byteOf a.right 0]

theorem length_rxaudioBytes (a : Sample) : (rxaudioBytes a).length = 4 :=
  rfl

def txiqBytes (a : Sample) : List UInt8 :=
  [byteOf a.left 2, byteOf a.left 1, byteOf a.left 0, byteOf a.right 2, byteOf a.right 1,
    byteOf a.right 0]

theorem length_txiqBytes (a : Sample) : (txiqBytes a).length = 6 :=
  rfl

def rxaudioNptr (ptr : Nat) : Nat :=
  (ptr + 256) &&& 16383

theorem rxaudioNptr_eq (i : Nat) (h : i < 64)
    : rxaudioNptr (256 * i) = 256 * Ring.next 64 i := by
  have hmask : rxaudioNptr (256 * i) = (256 * i + 256) % 16384 :=
    Nat.and_two_pow_sub_one_eq_mod _ 14
  rw [hmask, Ring.next_eq_ite h]
  split <;> omega

def txiqNptr (ptr : Nat) : Nat :=
  if ptr + 1440 ≥ 97920 then 0 else ptr + 1440

theorem txiqNptr_eq (i : Nat) (h : i < 68) : txiqNptr (1440 * i) = 1440 * Ring.next 68 i := by
  rw [Ring.next_eq_ite h]
  unfold txiqNptr
  split <;> split <;> omega

theorem rxaudio_dvd : 64 ∣ 4096 := by
  decide

theorem txiq_dvd : 240 ∣ 4800 := by
  decide

def rxaudio : RingKind where
  width := 4
  samples := 64
  blocks := 64
  width_pos := Nat.succ_pos _
  samples_pos := Nat.succ_pos _
  blocks_pos := Nat.succ_pos _
  bytes := rxaudioBytes
  skip := 4096
  nptr := rxaudioNptr
  length_bytes := length_rxaudioBytes
  samples_dvd_skip := rxaudio_dvd
  nptr_eq := rxaudioNptr_eq

def txiq : RingKind where
  width := 6
  samples := 240
  blocks := 68
  width_pos := Nat.succ_pos _
  samples_pos := Nat.succ_pos _
  blocks_pos := Nat.succ_pos _
  bytes := txiqBytes
  skip := 4800
  nptr := txiqNptr
  length_bytes := length_txiqBytes
  samples_dvd_skip := txiq_dvd
  nptr_eq := txiqNptr_eq

-- a ring buffer with its pointers, the samples of the current block and the value of its semaphore
structure TxRing where
  buf : Nat → UInt8
  inptr : Nat
  outptr : Nat
  count : Int
  sem : Nat

namespace TxRing

def init : TxRing :=
  ⟨fun _ => 0, 0, 0, 0, 0⟩

def iptr (k : RingKind) (r : TxRing) : Nat :=
  r.inptr + k.width * r.count.toNat

def skipSample (r : TxRing) : TxRing :=
  { r with count := r.count + 1 }

def put (k : RingKind) (a : Sample) (r : TxRing) : TxRing :=
  { r with buf := writeCells r.buf (r.iptr k) (k.bytes a), count := r.count + 1 }

def publish (k : RingKind) (r : TxRing) : TxRing :=
  { r with inptr := k.nptr r.inptr, count := 0 }

def post (r : TxRing) : TxRing :=
  { r with sem := r.sem + 1 }

-- ring buffer overflow: skip some samples
def overflow (k : RingKind) (r : TxRing) : TxRing :=
  { r with count := -k.skip }

-- a reset with silence in the first `n` blocks
def prefill (k : RingKind) (n : Nat) (r : TxRing) : TxRing where
  buf i := if i < k.blockLen * n then 0 else r.buf i
  inptr := k.blockLen * n
  outptr := 0
  count := 0
  sem := r.sem + n

end TxRing

-- `flag` is 0 for RX or duplex, 1 for TX without duplex, and 2 in the beginning
structure RxAudio extends TxRing where
  flag : Nat

namespace RxAudio

-- what both producers of audio samples do at the end
def store (a : Sample) (r : RxAudio) : RxAudio :=
  let t := r.put rxaudio a
  if t.count ≥ 64 then
    if rxaudioNptr t.inptr ≠ t.outptr then
      { r with toTxRing := (t.publish rxaudio).post }
    else
      { r with toTxRing := t.overflow rxaudio }
  else
    { r with toTxRing := t }

def txReset (r : RxAudio) : RxAudio :=
  if r.flag ≠ 1 then ⟨r.prefill rxaudio 1, 1⟩ else r

def rxReset (r : RxAudio) : RxAudio :=
  if r.flag ≠ 0 then ⟨r.prefill rxaudio 3, 0⟩ else r

end RxAudio

def newProtocolTxAudioSamples (s : Int) (r : RxAudio) : RxAudio :=
  if r.count < 0 then
    { r with toTxRing := r.skipSample }
  else
    r.txReset.store ⟨s, s⟩

def newProtocolAudioSamples (transmitting duplex : Bool) (ls rs : Int) (r : RxAudio) : RxAudio :=
  if transmitting && !duplex then
    r
  else if r.count < 0 then
    { r with toTxRing := r.skipSample }
  else
    r.rxReset.store ⟨ls, rs⟩

-- where `new_protocol_iq_samples` is: with a block to be published, and with a post to be made
inductive TxProducer where
  | idle
  | publishing
  | posting
  deriving DecidableEq

-- up to the decision on a complete block
def newProtocolIqSamples (is qs : Int) (r : TxRing) : TxRing × TxProducer :=
  if r.count < 0 then
    (r.skipSample, .idle)
  else
    let r := r.put txiq ⟨is, qs⟩
    if r.count ≥ 240 then
      if txiqNptr r.inptr ≠ r.outptr then
        (r, .publishing)
      else
        (r.overflow txiq, .idle)
    else
      (r, .idle)

-- a consumer, after `sem_wait` and with a block that it has copied
inductive TxThread where
  | waiting
  | ready
  | copied (payload : List UInt8)

structure TxSystem where
  rxaudio : RxAudio
  rxaudioThread : TxThread
  txiq : TxRing
  txiqProducer : TxProducer
  txiqThread : TxThread

inductive TxEvent where
  | txAudio (s : Int)
  | audio (transmitting duplex : Bool) (ls rs : Int)
  | iq (is qs : Int)
  | iqPublish
  | iqPost
  | rxaudioWait
  | rxaudioDequeue
  | txiqWait
  | txiqCopy
  | txiqAdvance
  deriving DecidableEq

namespace TxSystem

def init : TxSystem :=
  ⟨⟨.init, 2⟩, .waiting, .init, .idle, .waiting⟩

def iq (is qs : Int) (y : TxSystem) : TxSystem :=
  match y.txiqProducer with
  | .idle =>
    let (r, producer) := newProtocolIqSamples is qs y.txiq
    { y with txiq := r, txiqProducer := producer }
  | _ => y

def iqPublish (y : TxSystem) : TxSystem :=
  match y.txiqProducer with
  | .publishing => { y with txiq := y.txiq.publish NewProtocol.txiq, txiqProducer := .posting }
  | _ => y

def iqPost (y : TxSystem) : TxSystem :=
  match y.txiqProducer with
  | .posting => { y with txiq := y.txiq.post, txiqProducer := .idle }
  | _ => y

def rxaudioWait (y : TxSystem) : TxSystem :=
  match y.rxaudioThread with
  | .waiting =>
    if y.rxaudio.sem = 0 then
      y
    else
      { y with
        rxaudio := { y.rxaudio with sem := y.rxaudio.sem - 1 }
        rxaudioThread := .ready }
  | _ => y

-- After a reset the semaphore may have accumulated some events.
def rxaudioDequeue (y : TxSystem) : TxSystem :=
  match y.rxaudioThread with
  | .ready =>
    if y.rxaudio.outptr = y.rxaudio.inptr then
      { y with rxaudioThread := .waiting }
    else
      { y with
        rxaudio := { y.rxaudio with outptr := rxaudioNptr y.rxaudio.outptr }
        rxaudioThread := .waiting }
  | _ => y

def txiqWait (y : TxSystem) : TxSystem :=
  match y.txiqThread with
  | .waiting =>
    if y.txiq.sem = 0 then
      y
    else
      { y with txiq := { y.txiq with sem := y.txiq.sem - 1 }, txiqThread := .ready }
  | _ => y

def txiqCopy (y : TxSystem) : TxSystem :=
  match y.txiqThread with
  | .ready => { y with txiqThread := .copied (readCells y.txiq.buf y.txiq.outptr 1440) }
  | _ => y

def txiqAdvance (y : TxSystem) : TxSystem :=
  match y.txiqThread with
  | .copied _ =>
    { y with
      txiq := { y.txiq with outptr := txiqNptr y.txiq.outptr }
      txiqThread := .waiting }
  | _ => y

def step (y : TxSystem) : TxEvent → TxSystem
  | .txAudio s => { y with rxaudio := newProtocolTxAudioSamples s y.rxaudio }
  | .audio transmitting duplex ls rs =>
    { y with rxaudio := newProtocolAudioSamples transmitting duplex ls rs y.rxaudio }
  | .iq is qs => y.iq is qs
  | .iqPublish => y.iqPublish
  | .iqPost => y.iqPost
  | .rxaudioWait => y.rxaudioWait
  | .rxaudioDequeue => y.rxaudioDequeue
  | .txiqWait => y.txiqWait
  | .txiqCopy => y.txiqCopy
  | .txiqAdvance => y.txiqAdvance

-- the samples of the packet made in this step
def rxaudioPacket (y : TxSystem) : TxEvent → Option (List UInt8)
  | .rxaudioDequeue =>
    match y.rxaudioThread with
    | .ready =>
      if y.rxaudio.outptr = y.rxaudio.inptr then
        none
      else
        some (readCells y.rxaudio.buf y.rxaudio.outptr 256)
    | _ => none
  | _ => none

def txiqPacket (y : TxSystem) : TxEvent → Option (List UInt8)
  | .txiqAdvance =>
    match y.txiqThread with
    | .copied payload => some payload
    | _ => none
  | _ => none

end TxSystem

end NewProtocol
