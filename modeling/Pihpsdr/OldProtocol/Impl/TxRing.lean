import Mathlib.Data.Int.Bitwise
import Pihpsdr.Lib.Run
import Pihpsdr.Lib.BlockRing
import Pihpsdr.Radio.Band

/-!
The ring buffer of `old_protocol.c` for the samples that go to the radio, its two producers
`old_protocol_audio_samples` and `old_protocol_iq_samples` and its consumer
`old_protocol_txiq_thread`.

Both producers end in the same code, which `store` models; `produce` is their critical section. They
are called from different threads and are, like the critical section of the consumer, protected by
`audio_mutex`, so each of them is one step. The arguments of the producers are the 16-bit samples
the scaling of their floating-point arguments gives.
-/

namespace OldProtocol

def txRingBufLen : Nat := 32256

structure TxSample where
  bytes : List UInt8
  length_bytes : bytes.length = 8
  deriving DecidableEq

structure TxSettings where
  device : Device
  hl2AudioCodec : Bool
  deriving DecidableEq

def hiByte (x : Int) : UInt8 := UInt8.ofNat ((x >>> 8) % 256).toNat

def loByte (x : Int) : UInt8 := UInt8.ofNat (x % 256).toNat

-- The HL2 without audio codec would take audio samples for writes to extended addresses.
def TxSettings.muteAudio (c : TxSettings) : Bool :=
  c.device == .hermesLite2 && !c.hl2AudioCodec

def audioSample (c : TxSettings) (ls rs : Int) : TxSample where
  bytes :=
    (if c.muteAudio then [0, 0, 0, 0] else [hiByte ls, loByte ls, hiByte rs, loByte rs])
      ++ [0, 0, 0, 0]
  length_bytes := by split <;> rfl

def iqSample (c : TxSettings) (is qs sd : Int) : TxSample where
  bytes :=
    (if c.muteAudio then [0, 0, 0, 0] else [hiByte sd, loByte sd, hiByte sd, loByte sd])
      ++ if c.device == .hermesLite2 then
        [hiByte is, loByte is &&& 0xFE, hiByte qs, loByte qs &&& 0xFE]
      else
        [hiByte is, loByte is, hiByte qs, loByte qs]
  length_bytes := by split <;> split <;> rfl

/--
The ring buffer: `TXRINGBUF`, `txring_inptr`, `txring_outptr`, `txring_flag` (`false`: RX,
`true`: TX), `txring_count` and the value of `txring_sem`.
-/
structure TxRing where
  buf : Nat → UInt8
  inptr : Nat
  outptr : Nat
  flag : Bool
  count : Int
  sem : Nat

namespace TxRing

def init : TxRing where
  buf := fun _ => 0
  inptr := 0
  outptr := 0
  flag := false
  count := 0
  sem := 0

def nptr (ptr : Nat) : Nat :=
  if ptr + 1008 ≥ txRingBufLen then 0 else ptr + 1008

def iptr (r : TxRing) : Nat := r.inptr + 8 * r.count.toNat

def store (r : TxRing) (s : TxSample) : TxRing :=
  let r := { r with buf := writeCells r.buf r.iptr s.bytes, count := r.count + 1 }
  if r.count ≥ 126 then
    if nptr r.inptr ≠ r.outptr then
      { r with inptr := nptr r.inptr, sem := r.sem + 1, count := 0 }
    else
      -- output buffer overflow
      { r with count := -1260 }
  else
    r

def transition (tx : Bool) (r : TxRing) : Bool := r.flag != tx

def reset (tx : Bool) (r : TxRing) : TxRing :=
  -- txring_count is left as it is
  { r with inptr := r.outptr, flag := tx }

def produce (tx : Bool) (s : TxSample) (r : TxRing) : TxRing :=
  if r.count < 0 then
    { r with count := r.count + 1 }
  else if r.transition tx then
    (r.reset tx).store s
  else
    r.store s

end TxRing

def oldProtocolAudioSamples (transmitting : Bool) (c : TxSettings) (ls rs : Int) (r : TxRing)
    : TxRing :=
  if !transmitting then r.produce false (audioSample c ls rs) else r

def oldProtocolIqSamples (transmitting : Bool) (c : TxSettings) (is qs sd : Int) (r : TxRing)
    : TxRing :=
  if transmitting then r.produce true (iqSample c is qs sd) else r

inductive TxiqThread where
  | waiting
  | ready
  | sending (ozyBuf1 ozyBuf2 : List UInt8)

structure TxSystem where
  ring : TxRing
  running : Bool
  thread : TxiqThread

inductive TxEvent where
  | audio (transmitting : Bool) (c : TxSettings) (ls rs : Int)
  | iq (transmitting : Bool) (c : TxSettings) (is qs sd : Int)
  | semWait
  | dequeue
  | send
  | stop
  | run

namespace TxSystem

def init : TxSystem := ⟨TxRing.init, false, .waiting⟩

def semWait (y : TxSystem) : TxSystem :=
  match y.thread with
  | .waiting =>
    if y.ring.sem = 0 then
      y
    else
      { y with
        ring := { y.ring with sem := y.ring.sem - 1 }
        thread := if y.running then .ready else .waiting }
  | _ => y

def dequeue (y : TxSystem) : TxSystem :=
  match y.thread with
  | .ready =>
    if y.ring.inptr = y.ring.outptr then
      { y with thread := .waiting }
    else
      { y with
        ring := { y.ring with outptr := TxRing.nptr y.ring.outptr }
        thread := .sending (readCells y.ring.buf y.ring.outptr 504)
          (readCells y.ring.buf (y.ring.outptr + 504) 504) }
  | _ => y

def send (y : TxSystem) : TxSystem :=
  match y.thread with
  -- the halves are sent, or given up if a protocol restart holds `send_mutex`
  | .sending _ _ => { y with thread := .waiting }
  | _ => y

def step (y : TxSystem) : TxEvent → TxSystem
  | .audio transmitting c ls rs =>
    { y with ring := oldProtocolAudioSamples transmitting c ls rs y.ring }
  | .iq transmitting c is qs sd =>
    { y with ring := oldProtocolIqSamples transmitting c is qs sd y.ring }
  | .semWait => y.semWait
  | .dequeue => y.dequeue
  | .send => y.send
  | .stop => { y with running := false }
  | .run => { y with running := true }

end TxSystem

end OldProtocol
