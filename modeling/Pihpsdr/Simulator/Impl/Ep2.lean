import Pihpsdr.OldProtocol.Impl.OzySend

/-!
The part of `hpsdrsim.c` that receives the packets of `old_protocol.c`: the registers of the radio
that it plays, `process_ep2`, which sets them, and what `main` does with a packet. `metis_write` of
`old_protocol.c` puts the packets together.

The factors for the sample values that depend on the registers are floating-point numbers and left
out, as is the buffer of the TX samples.
-/

namespace Simulator

open OldProtocol

-- the values of `ODEVICE`
inductive Board where
  | atlas
  | hermes
  | hermes2
  | angelia
  | orion
  | hermesLite
  | hermesLite2
  | orion2
  | g2e
  | c25
  deriving DecidableEq, Repr

-- what the program takes the board for
def Board.device : Board → Device
  | .atlas => .metis
  | .hermes => .hermes
  | .hermes2 => .hermes2
  | .angelia => .angelia
  | .orion => .orion
  | .hermesLite => .hermesLite
  | .hermesLite2 => .hermesLite2
  | .orion2 => .orion2
  | .g2e => .g2e
  | .c25 => .stemlab

def int (b : Byte) : Int := b.toNat

-- `(hi << n) | lo`
def shifted (hi : Byte) (n : Nat) (lo : Byte) : Int :=
  (hi.zeroExtend 32 <<< n ||| lo.zeroExtend 32).toNat

-- `case 0` and `case 1` of `process_ep2`
structure GeneralRegisters where
  rate : Int
  ref10 : Int
  src122 : Int
  pmConfig : Int
  micSrc : Int
  txClassE : Int
  openCollectorOutputs : Int
  receivers : Int
  micTS : Int
  commonMercuryFreq : Int
  alexAtt : Int
  preamp : Int
  ltDither : Int
  ltRandom : Int
  alexRXant : Int
  alexRXout : Int
  alexTXrel : Int
  duplex : Int
  deriving DecidableEq

structure DriveRegisters where
  txdrive : Int
  hl2Q5 : Int
  hl2Pa : Int
  hl2Tune : Int
  micBoost : Int
  lineIn : Int
  apolloFilter : Int
  apolloTuner : Int
  apolloAutoTune : Int
  alexApollo : Int
  alexManual : Int
  vna : Int
  alexHpf : Int
  alexBypass : Int
  lna6m : Int
  alexTRdisable : Int
  alexLpf : Int
  deriving DecidableEq

structure PreampRegisters where
  rxPreamp : Fin 4 → Int
  tipRing : Int
  micBias : Int
  micPTT : Int
  lineGain : Int
  merTxATT0 : Int
  pureSignal : Int
  peneSel : Int
  metisDB9 : Int
  merTxATT1 : Int
  -- `rx_att[0]`
  rxAtt0 : Int
  rx1AttE : Int

structure KeyerRegisters where
  -- `rx_att[1]`
  rxAtt1 : Int
  cwReversed : Int
  cwSpeed : Int
  cwMode : Int
  cwWeight : Int
  cwSpacing : Int
  deriving DecidableEq

structure AdcRegisters where
  rxAdc : Fin 7 → Int
  txatt : Int

structure SidetoneRegisters where
  cwInternal : Int
  sidetoneVolume : Int
  cwDelay : Int
  deriving DecidableEq

structure Alex2Registers where
  adc2bpf : Int
  rx2gnd : Int
  anan7kxvtr : Int
  anan7kps : Int
  envgain : Int
  deriving DecidableEq

structure Registers where
  ptt : Int
  general : GeneralRegisters
  txFreq : Int
  rxFreq : Fin 7 → Int
  drive : DriveRegisters
  preamps : PreampRegisters
  keyer : KeyerRegisters
  c25ExtBoardI2cData : Int
  adcs : AdcRegisters
  sidetone : SidetoneRegisters
  cwHang : Int
  freq : Int
  pwmmin : Int
  pwmmax : Int
  alex2 : Alex2Registers
  hl2PttHang : Int
  hl2TxLatency : Int
  hl2addr : Fin 128 → Payload

namespace Registers

def init : Registers where
  ptt := 0
  general := ⟨-1, -1, -1, -1, -1, -1, -1, -1, -1, -1, -1, -1, -1, -1, -1, -1, -1, -1⟩
  txFreq := -1
  rxFreq := fun _ => -1
  drive := ⟨0, -1, -1, -1, -1, -1, -1, -1, -1, -1, -1, -1, -1, -1, -1, -1, -1⟩
  preamps := ⟨fun _ => -1, -1, -1, -1, -1, -1, -1, -1, -1, -1, -1, -1⟩
  keyer := ⟨-1, -1, -1, -1, -1, -1⟩
  c25ExtBoardI2cData := -1
  adcs := ⟨fun _ => -1, 0⟩
  sidetone := ⟨-1, -1, -1⟩
  cwHang := -1
  freq := -1
  pwmmin := 0
  pwmmax := 0
  alex2 := ⟨0, -1, 0, 0, 0⟩
  hl2PttHang := -1
  hl2TxLatency := 1
  hl2addr := fun _ => .zero

end Registers

section

variable (board : Board) (p : Payload)

def generalRegisters : GeneralRegisters where
  rate := int (p.c1 &&& 0x03)
  ref10 := int ((p.c1 &&& 0x0C) >>> 2)
  src122 := int ((p.c1 &&& 0x10) >>> 4)
  pmConfig := int ((p.c1 &&& 0x60) >>> 5)
  micSrc := int ((p.c1 &&& 0x80) >>> 7)
  txClassE := int (p.c2 &&& 1)
  openCollectorOutputs := int ((p.c2 &&& 0xfe) >>> 1)
  receivers := int ((p.c4 >>> 3) &&& 7) + 1
  micTS := int ((p.c4 >>> 6) &&& 1)
  commonMercuryFreq := int ((p.c4 >>> 7) &&& 1)
  alexAtt := int (p.c3 &&& 0x03)
  preamp := int ((p.c3 &&& 0x04) >>> 2)
  ltDither := int ((p.c3 &&& 0x08) >>> 3)
  ltRandom := int ((p.c3 &&& 0x10) >>> 4)
  alexRXant := int ((p.c3 &&& 0x60) >>> 5)
  alexRXout := int ((p.c3 &&& 0x80) >>> 7)
  alexTXrel := int (p.c4 &&& 3)
  duplex := int ((p.c4 >>> 2) &&& 1)

-- `frame[4] | (frame[3] << 8) | (frame[2] << 16) | (frame[1] << 24)`
def frequency : Int := (p.c1 ++ p.c2 ++ p.c3 ++ p.c4).toInt

def driveRegisters (r : DriveRegisters) : DriveRegisters :=
  let r := { r with txdrive := int p.c1 }
  let r :=
    if board = .hermesLite2 then
      { r with
        hl2Q5 := int ((p.c2 >>> 2) &&& 0x01)
        hl2Pa := int ((p.c2 >>> 3) &&& 0x01)
        hl2Tune := int ((p.c2 >>> 4) &&& 0x01) }
    else
      { r with
        micBoost := int (p.c2 &&& 0x01)
        lineIn := int ((p.c2 >>> 1) &&& 0x01)
        apolloFilter := int ((p.c2 >>> 2) &&& 0x01)
        apolloTuner := int ((p.c2 >>> 3) &&& 0x01)
        apolloAutoTune := int ((p.c2 >>> 4) &&& 0x01)
        alexApollo := int ((p.c2 >>> 5) &&& 0x01) }
  { r with
    alexManual := int ((p.c2 >>> 6) &&& 0x01)
    vna := int ((p.c2 >>> 7) &&& 0x01)
    alexHpf := int (p.c3 &&& 0x1F)
    alexBypass := int ((p.c3 >>> 5) &&& 0x01)
    lna6m := int ((p.c3 >>> 6) &&& 0x01)
    alexTRdisable := int ((p.c3 >>> 7) &&& 0x01)
    alexLpf := int p.c4 }

-- bit 6 of C4 is for a combined attenuator and preamplifier with 6 bits
def preampRegisters (r : PreampRegisters) : PreampRegisters where
  rxPreamp := fun i => int ((p.c1 >>> i.val) &&& 0x01)
  tipRing := int ((p.c1 &&& 0x10) >>> 4)
  micBias := int ((p.c1 &&& 0x20) >>> 5)
  micPTT := int ((p.c1 &&& 0x40) >>> 6)
  lineGain := int (p.c2 &&& 0x1F)
  merTxATT0 := int ((p.c2 &&& 0x20) >>> 5)
  pureSignal := int ((p.c2 &&& 0x40) >>> 6)
  peneSel := int ((p.c2 &&& 0x80) >>> 7)
  metisDB9 := int (p.c3 &&& 0x0F)
  merTxATT1 := int ((p.c3 &&& 0x10) >>> 4)
  rxAtt0 := if p.c4 &&& 0x40 ≠ 0 then 26 - int (p.c4 &&& 0x3F) else int (p.c4 &&& 0x1F)
  rx1AttE := if p.c4 &&& 0x40 ≠ 0 then r.rx1AttE else int ((p.c4 &&& 0x20) >>> 5)

def keyerRegisters : KeyerRegisters where
  rxAtt1 := int (p.c1 &&& 0x1f)
  cwReversed := int ((p.c2 >>> 6) &&& 1)
  cwSpeed := int (p.c3 &&& 63)
  cwMode := int ((p.c3 >>> 6) &&& 3)
  cwWeight := int (p.c4 &&& 127)
  cwSpacing := int ((p.c4 >>> 7) &&& 1)

-- The ADCs of the RedPitaya are hard-wired.
def adcRegisters : AdcRegisters where
  rxAdc := fun i =>
    match i with
    | 0 => if board = .c25 then 0 else int (p.c1 &&& 0x03)
    | 1 => if board = .c25 then 1 else int ((p.c1 &&& 0x0C) >>> 2)
    | 2 => if board = .c25 then 1 else int ((p.c1 &&& 0x30) >>> 4)
    | 3 => int ((p.c1 &&& 0xC0) >>> 6)
    | 4 => int (p.c2 &&& 0x03)
    | 5 => int ((p.c2 &&& 0x0C) >>> 2)
    | 6 => int ((p.c2 &&& 0x30) >>> 4)
  txatt := if p.c3 &&& 0x40 ≠ 0 then int (p.c3 &&& 0x3f) else int (p.c3 &&& 0x1f)

def sidetoneRegisters : SidetoneRegisters where
  cwInternal := int (p.c1 &&& 1)
  sidetoneVolume := int p.c2
  cwDelay := int p.c3

def alex2Registers : Alex2Registers where
  adc2bpf := int (p.c1 &&& 0x7f)
  rx2gnd := int ((p.c1 >>> 7) &&& 0x01)
  anan7kxvtr := int (p.c2 &&& 0x02)
  anan7kps := int (p.c2 &&& 0x40)
  envgain := shifted p.c3 8 p.c4

-- the `switch`, whose cases are the pairs of C0 with and without the PTT bit
def writeAddress (address : Fin 128) (r : Registers) : Registers :=
  match address.val with
  | 0 => { r with general := generalRegisters p }
  | 1 => { r with txFreq := frequency p }
  | 2 => { r with rxFreq := Function.update r.rxFreq 0 (frequency p) }
  | 3 => { r with rxFreq := Function.update r.rxFreq 1 (frequency p) }
  | 4 => { r with rxFreq := Function.update r.rxFreq 2 (frequency p) }
  | 5 => { r with rxFreq := Function.update r.rxFreq 3 (frequency p) }
  | 6 => { r with rxFreq := Function.update r.rxFreq 4 (frequency p) }
  | 7 => { r with rxFreq := Function.update r.rxFreq 5 (frequency p) }
  | 8 => { r with rxFreq := Function.update r.rxFreq 6 (frequency p) }
  | 9 => { r with drive := driveRegisters board p r.drive }
  | 10 => { r with preamps := preampRegisters p r.preamps }
  | 11 => { r with keyer := keyerRegisters p }
  | 12 => { r with c25ExtBoardI2cData := shifted p.c2 8 p.c1 }
  | 14 => { r with adcs := adcRegisters board p }
  | 15 => { r with sidetone := sidetoneRegisters p }
  | 16 =>
    { r with
      cwHang := shifted p.c1 2 (p.c2 &&& 3)
      freq := shifted p.c3 4 (p.c4 &&& 255) }
  | 17 =>
    { r with
      pwmmin := shifted p.c1 2 (p.c2 &&& 3)
      pwmmax := shifted p.c3 2 (p.c4 &&& 3) }
  | 18 => { r with alex2 := alex2Registers p }
  | 23 => { r with hl2PttHang := int (p.c3 &&& 0x1f), hl2TxLatency := int (p.c4 &&& 0x7f) }
  | _ => { r with hl2addr := Function.update r.hl2addr address p }

end

def addressOf (c0 : Byte) : Fin 128 := ⟨c0.toNat / 2, by have := c0.isLt; omega⟩

/--
`process_ep2` for a frame with this header.
-/
def processEp2 (board : Board) (h : OzyHeader) (r : Registers) : Registers :=
  writeAddress board h.payload (addressOf h.c0) { r with ptt := int (h.c0 &&& 1) }

-- C0 to C4 at this place of a packet
def frameAt (packet : List Byte) (i : Nat) : OzyHeader where
  c0 := packet.getD i 0
  payload :=
    ⟨packet.getD (i + 1) 0, packet.getD (i + 2) 0, packet.getD (i + 3) 0, packet.getD (i + 4) 0⟩

structure Radio where
  registers : Registers
  lastSeqnum : BitVec 32
  seqErrors : Nat

def Radio.init : Radio := ⟨.init, 0xffffffff, 0⟩

def ep2Code : List Byte := [0xEF, 0xFE, 0x01, 0x02]

/--
`main` for a packet whose code is that of the samples and commands from the program.
-/
def Radio.receive (board : Board) (s : Radio) (packet : List Byte) : Radio :=
  if packet.length ≠ 1032 then
    s
  else
    let seqnum :=
      packet.getD 4 0 ++ packet.getD 5 0 ++ packet.getD 6 0 ++ packet.getD 7 0
    { registers :=
        processEp2 board (frameAt packet 523) (processEp2 board (frameAt packet 11) s.registers)
      lastSeqnum := seqnum
      seqErrors := if seqnum ≠ s.lastSeqnum + 1 then s.seqErrors + 1 else s.seqErrors }

-- a 512-byte buffer with the samples `data`
def bufferBytes (h : OzyHeader) (data : Vector Byte 504) : List Byte :=
  [sync, sync, sync, h.c0, h.payload.c1, h.payload.c2, h.payload.c3, h.payload.c4] ++ data.toList

def sequenceBytes (s : BitVec 32) : List Byte :=
  [s.extractLsb' 24 8, s.extractLsb' 16 8, s.extractLsb' 8 8, s.extractLsb' 0 8]

def metisPacket (sequence : BitVec 32) (lower upper : List Byte) : List Byte :=
  ep2Code ++ sequenceBytes sequence ++ lower ++ upper

/--
The program and the radio. The first half of `metis_buffer` is kept until the second one comes.
-/
structure Link where
  sender : OzySender
  lower : OzyHeader × Vector Byte 504
  sendSequence : BitVec 32
  radio : Radio

inductive LinkEvent where
  -- `ozy_send_buffer` and, with the samples `data`, `metis_write`; the packet may get lost
  | send (buffer : BufferId) (e : P1Settings) (data : Vector Byte 504) (lost : Bool)
  | restart

namespace Link

def init : Link where
  sender := ⟨.init, fun _ => .zero⟩
  lower := (.zero, .replicate 504 0)
  sendSequence := 0
  radio := .init

-- `metis_write` for a buffer, `offset8` says whether `metis_offset` is 8
def metisWrite (board : Board) (offset8 : Bool) (h : OzyHeader) (data : Vector Byte 504)
    (lost : Bool) (l : Link) : Link :=
  if offset8 then
    { l with lower := (h, data) }
  else
    let packet :=
      metisPacket l.sendSequence (bufferBytes l.lower.1 l.lower.2) (bufferBytes h data)
    { l with
      sendSequence := l.sendSequence + 1
      radio := if lost then l.radio else l.radio.receive board packet }

def step (board : Board) (l : Link) : LinkEvent → Link
  | .send buffer e data lost =>
    let vars := l.sender.vars
    let (_, h, sent) := ozySendBuffer e vars (l.sender.header buffer)
    let l := { l with sender := l.sender.step (.send buffer e) }
    if sent then l.metisWrite board vars.lowerHalf h data lost else l
  | .restart => { l with sender := l.sender.step .restart }

end Link

end Simulator
