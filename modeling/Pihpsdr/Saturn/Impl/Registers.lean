import Pihpsdr.Lib.Mask
import Pihpsdr.Lib.Packet
import Pihpsdr.Lib.Workers
import Pihpsdr.Saturn.Impl.RxThread

/-!
The registers of the FPGA in `saturnregisters.c`, of which the program keeps copies, and the handlers of
`saturnmain.c` for the packets that go to the radio via XDMA. The handlers run in different threads; a
mutex goes with each copy, and one with each handler.
-/

namespace Saturn

open Mask

-- the registers that settings go to
inductive Reg where
  | ddc (k : Channel)
  | ddcRates
  | ddcInSel
  | keyerConfig
  | sideToneConfig
  | txConfig
  | txDuc
  | rfGpio
  | adcCtrl
  | dacCtrl
  | iambicConfig
  | alexTxFilt
  | alexRx
  | alexTxAnt
  deriving DecidableEq

/--
What has been found out about the board, and the tables of `InitialiseDACAttenROMs`.
-/
structure Board where
  fpgaMinorVersion : Nat
  saturnPcbVersion : Nat
  dacCurrentRom : BitVec 8 → BitVec 32
  dacStepAttenRom : BitVec 8 → BitVec 32

-- the threads that set registers; `rxThread` is the start of `saturn_rx_thread`
inductive Handler where
  | general
  | highPriority
  | ddcSpecific
  | ducSpecific
  | rxThread
  deriving DecidableEq

/--
The registers of the FPGA and the copies in the program; `keyerRam` is the length of the ramp in the RAM
of the keyer, and `keyer` is the argument with which each thread calls `ActivateCWKeyer`.
-/
structure State where
  registers : Reg → BitVec 32
  copies : Reg → BitVec 32
  ddcRateReg : BitVec 32
  gcwEnabled : Bool
  gbreakinEnabled : Bool
  gcwKeyerRampLength : BitVec 32
  keyerRam : BitVec 32
  keyer : Handler → Bool
  sdrActive : Bool

namespace State

-- a program that finds these registers
def init (registers : Reg → BitVec 32) : State where
  registers := registers
  copies _ := 0
  ddcRateReg := 0
  gcwEnabled := false
  gbreakinEnabled := false
  gcwKeyerRampLength := 0
  keyerRam := 0
  keyer _ := false
  sdrActive := false

def registerWrite (y : State) (r : Reg) (register : BitVec 32) : State :=
  { y with
    copies := Function.update y.copies r register
    registers := Function.update y.registers r register }

-- only write if changed
def update (y : State) (r : Reg) (register : BitVec 32) : State :=
  if register ≠ y.copies r then y.registerWrite r register else y

end State

-- what a thread does between locking a mutex and unlocking it, or with a variable that has none
inductive Op where
  | update (r : Reg) (cs : List (Change 32))
  | keyerParams (rampLength : Option (BitVec 32)) (cs : List (Change 32))
  | p2SampleRate (cs : List (Change 32))
  | writeP2DdcRateRegister
  | cwEnabled (b : Bool)
  | breakinEnabled (b : Bool)
  | wantKeyer (mox : Bool)
  | activateCwKeyer
  | resetDucMux
  | sdrActive (b : Bool)

def bit (n : Nat) : BitVec 32 := 1#32 <<< n

-- set or clear a bit
def setBit (n : Nat) (on : Bool) : List (Change 32) :=
  if on then [.set (bit n)] else [.clear (bit n)]

def setIf (on : Bool) (m : BitVec 32) : List (Change 32) :=
  if on then [.set m] else []

namespace State

def apply (k : Handler) (op : Op) (y : State) : State :=
  match op with
  | .update r cs => y.update r (Change.runAll cs (y.copies r))
  | .keyerParams rampLength cs =>
    let y :=
      match rampLength with
      | some n =>
        if n ≠ y.gcwKeyerRampLength then { y with gcwKeyerRampLength := n, keyerRam := n } else y
      | none => y
    y.update .keyerConfig (Change.runAll cs (y.copies .keyerConfig))
  | .p2SampleRate cs => { y with ddcRateReg := Change.runAll cs y.ddcRateReg }
  | .writeP2DdcRateRegister => y.update .ddcRates y.ddcRateReg
  | .cwEnabled b => { y with gcwEnabled := b }
  | .breakinEnabled b => { y with gbreakinEnabled := b }
  | .wantKeyer mox =>
    { y with
      keyer := Function.update y.keyer k
        (if mox then y.gcwEnabled else y.gcwEnabled && y.gbreakinEnabled) }
  | .activateCwKeyer =>
    y.update .keyerConfig (Change.runAll (setBit 31 (y.keyer k)) (y.copies .keyerConfig))
  | .resetDucMux => y.registerWrite .txConfig (y.copies .txConfig &&& ~~~bit 29)
  | .sdrActive b => { y with sdrActive := b }

end State

/-! The functions of `saturnregisters.c`. -/

def setByteSwapping (isSwapped : Bool) : Op := .update .rfGpio (setBit 26 isSwapped)

-- in MOX the keyer is active with CW, else only with break-in
def setMox (mox : Bool) : List Op :=
  [.update .rfGpio (setBit 24 mox), .wantKeyer mox, .activateCwKeyer]

def setTxEnable (enabled : Bool) : Op := .update .rfGpio (setBit 25 enabled)

def eSampleRate (sampleRate : BitVec 16) : BitVec 32 :=
  if sampleRate = 96 then 2
  else if sampleRate = 192 then 3
  else if sampleRate = 384 then 4
  else if sampleRate = 768 then 5
  else if sampleRate = 1536 then 6
  else 1

def ddcRate (enabled : Bool) (sampleRate : BitVec 16) (interleaveWithNext : Bool) : BitVec 32 :=
  if ¬ enabled then 0
  else if interleaveWithNext then 7
  else eSampleRate sampleRate

-- not yet written to the hardware
def setP2SampleRate (ddc : Channel) (enabled : Bool) (sampleRate : BitVec 16)
    (interleaveWithNext : Bool) : Op :=
  .p2SampleRate [.clear (7#32 <<< (3 * ddc.val)),
    .set (ddcRate enabled sampleRate interleaveWithNext <<< (3 * ddc.val))]

-- the bits are those from bit 0 on
def setOpenCollectorOutputs (bits : BitVec 8) : Op :=
  .update .rfGpio [.clear (0x7F#32 <<< 16), .set (bits.setWidth 32 <<< 16)]

def setAdcOptions (pga1 dither1 random1 pga2 dither2 random2 : Bool) : Op :=
  .update .rfGpio
    ([.clear (bit 8), .clear (bit 9), .clear (bit 10), .clear (bit 11), .clear (bit 12),
      .clear (bit 13)]
      ++ setIf pga1 (bit 9) ++ setIf pga2 (bit 12) ++ setIf dither1 (bit 10)
      ++ setIf dither2 (bit 13) ++ setIf random1 (bit 8) ++ setIf random2 (bit 11))

def setDdcFrequency (ddc : Channel) (deltaPhase : BitVec 32) : Op :=
  .update (.ddc ddc) [.assign deltaPhase]

def deltaPhiHpfCutIn : BitVec 32 := 1712674133

-- boards from version 3 on have a high pass filter for more than 49 MHz
def setDucFrequency (b : Board) (deltaPhase : BitVec 32) : List Op :=
  .update .txDuc [.assign deltaPhase]
    :: if b.saturnPcbVersion ≥ 3 then
        [.update .txConfig
          (.clear (bit 27) :: setIf (deltaPhase > deltaPhiHpfCutIn) (bit 27))]
      else
        []

def alexManualRxFilters (bits : BitVec 16) (rx : Nat) : Op :=
  if rx ≠ 2 then
    .update .alexRx [.clear 0x0000FFFF, .set (bits.setWidth 32)]
  else
    .update .alexRx [.clear 0xFFFF0000, .set (bits.setWidth 32 <<< 16)]

def alexManualTxFilters (bits : BitVec 16) (hasTxAntExplicitly : Bool) : Op :=
  .update (if hasTxAntExplicitly then .alexTxAnt else .alexTxFilt) [.assign (bits.setWidth 32)]

def txDriveLevel (b : Board) (level : BitVec 8) : BitVec 32 :=
  b.dacCurrentRom level ||| b.dacCurrentRom level <<< 8 ||| b.dacStepAttenRom level <<< 16
    ||| b.dacStepAttenRom level <<< 24

def setTxDriveLevel (b : Board) (level : BitVec 8) : Op :=
  .update .dacCtrl [.assign (txDriveLevel b level)]

-- microphone on the tip or on the ring
def setOrionMicOptions (micRing enableBias : Bool) : Op :=
  .update .rfGpio
    ([.clear (bit 0), .clear (bit 1), .clear (bit 2), .clear (bit 3)]
      ++ (if ¬ micRing then [.clear (bit 2), .set (bit 3), .clear (bit 1)]
        else [.set (bit 2), .clear (bit 3), .set (bit 1)])
      ++ setIf enableBias (bit 0))

def setBalancedMicInput (balanced : Bool) : Op :=
  .update .rfGpio (.clear (bit 5) :: setIf balanced (bit 5))

def setAdcAttenuator (atten1 : BitVec 8) (rxAtten1 txAtten1 : Bool) (atten2 : BitVec 8)
    (rxAtten2 txAtten2 : Bool) : Op :=
  let a1 := atten1.setWidth 32 &&& 0x1F
  let a2 := atten2.setWidth 32 &&& 0x1F
  .update .adcCtrl
    ((if rxAtten1 then [.clear 0x0000001F, .set a1] else [])
      ++ (if txAtten1 then [.clear 0x000003E0, .set (a1 <<< 5)] else [])
      ++ (if rxAtten2 then [.clear 0x00007C00, .set (a2 <<< 10)] else [])
      ++ (if txAtten2 then [.clear 0x000F8000, .set (a2 <<< 15)] else []))

-- the bit for break-in is not among those that are stripped off
def setCwIambicKeyer (speed weight : BitVec 8)
    (reverseKeys mode strictSpacing iambicEnabled breakin : Bool) : Op :=
  .update .iambicConfig
    ([.clear 0x000FFFFF, .set (speed.setWidth 32), .set (weight.setWidth 32 <<< 8)]
      ++ setIf reverseKeys (bit 16) ++ setIf mode (bit 18) ++ setIf strictSpacing (bit 19)
      ++ setIf iambicEnabled (bit 17) ++ setIf breakin (bit 23))

-- `EADCSelect`
def adcSelect (byte : BitVec 8) : BitVec 32 :=
  if byte = 1 then 1 else if byte = 2 then 3 else 0

def setDdcAdc (ddc : Channel) (adc : BitVec 32) : Op :=
  .update .ddcInSel [.clear (3#32 <<< (2 * ddc.val)), .set ((adc &&& 3) <<< (2 * ddc.val))]

def setRxDdcEnabled (isEnabled : Bool) : Op := .update .ddcInSel (setBit 30 isEnabled)

def setTxModulationSource (source : BitVec 32) : Op :=
  .update .txConfig [.clear 0x00000003, .set source]

-- the source for the modulation is IQ data or the keyer
def enableCw (enabled breakin : Bool) : List Op :=
  [.cwEnabled enabled, setTxModulationSource (if enabled then 3 else 0), .breakinEnabled breakin,
    .wantKeyer false, .activateCwKeyer]

def setCwSideTone (enabled : Bool) (volume : BitVec 8) (frequency : BitVec 16) : Op :=
  .update .sideToneConfig
    (.assign (BitVec.ofNat 32 (512 * frequency.toNat / 375))
      :: setIf enabled (volume.setWidth 32 <<< 24))

def cwRampLength (b : Board) (length : BitVec 8) : BitVec 32 :=
  let maximum : BitVec 8 := if b.fpgaMinorVersion ≥ 14 then 20 else 10
  let length := if length > maximum then maximum else length
  let length := if length < 5 then 5 else length
  length.setWidth 32 * 192

-- the end of the ramp is the address of a word, for old versions that of a byte
def cwRampEnd (b : Board) (rampLength : BitVec 32) : BitVec 32 :=
  if b.fpgaMinorVersion ≥ 14 then rampLength <<< 18 else rampLength <<< 2 <<< 18

def setKeyerParams (b : Board) (delay : BitVec 8) (hangTime : BitVec 16) (ramp : BitVec 8) : Op :=
  let cs := [.clear 0x0003FFFF, .set (delay.setWidth 32),
    .set ((hangTime.setWidth 32 &&& 0x3FF) <<< 8)]
  if ramp > 0 then
    .keyerParams (some (cwRampLength b ramp))
      (cs ++ [.clear 0x7FFC0000, .set (cwRampEnd b (cwRampLength b ramp))])
  else
    .keyerParams none cs

def setXvtrEnable (enabled : Bool) : Op := .update .rfGpio (setBit 30 enabled)

-- the bit disables the relay
def setPaEnabled (enabled : Bool) : Op := .update .rfGpio (setBit 27 !enabled)

def setSpkrMute (isMuted : Bool) : Op := .update .rfGpio (setBit 4 isMuted)

def setTxAmplitudeScaling (amplitude : BitVec 32) : Op :=
  .update .txConfig [.clear 0x003FFFF0, .set ((amplitude &&& 0x3FFFF) <<< 4)]

-- the constant lacks a digit, so that the four highest bits are cleared as well
def setTxProtocol2 : Op := .update .txConfig [.clear 0xF0000008, .set (bit 3)]

def setTxIqDeinterleaved (interleaved : Bool) : Op := .update .txConfig (setBit 30 interleaved)

def enableDucMux (enabled : Bool) : Op := .update .txConfig (setBit 31 enabled)

/-! The functions of `saturnmain.c`. -/

def saturnRegisterInit (b : Board) : List Op :=
  [setSpkrMute true, setKeyerParams b 30 500 9, setCwSideTone true 50 800, setTxProtocol2]
    ++ enableCw false false ++ [setByteSwapping true, setSpkrMute false]
    ++ (if b.saturnPcbVersion ≤ 2 then
        if b.fpgaMinorVersion < 13 then [setTxAmplitudeScaling 0x0001FFFF]
        else [setTxAmplitudeScaling 0x0002000]
      else
        [setTxAmplitudeScaling 0x0002A00])
    ++ [setBalancedMicInput false]

def saturnInitDucIq : List Op :=
  [enableDucMux false, setTxIqDeinterleaved false, .resetDucMux, enableDucMux true]

-- two bytes
def half (p : Packet) (i : Nat) : BitVec 16 := p i ++ p (i + 1)

def alexTx (b : Board) (p : Packet) : List Op :=
  if b.fpgaMinorVersion ≥ 12 ∧ p 1428 &&& 7 ≠ 0 then
    [alexManualTxFilters (half p 1428) true, alexManualTxFilters (half p 1432) false,
      setPaEnabled ((half p 1428).getLsbD 11)]
  else if b.fpgaMinorVersion ≥ 12 then
    [alexManualTxFilters (half p 1432) true, alexManualTxFilters (half p 1432) false,
      setPaEnabled ((half p 1432).getLsbD 11)]
  else
    [alexManualTxFilters (half p 1432) false, setPaEnabled ((half p 1432).getLsbD 11)]

def runOps (runBit : Bool) : List Op :=
  if runBit then
    [.sdrActive true, setTxEnable true]
  else
    [.sdrActive false, setTxEnable false] ++ setMox false ++ enableCw false false

-- DDC 0 to 3 of the packets are 6 to 9 of the FPGA
def channel (ddc : Fin 4) : Channel := ⟨ddc.val + 6, by omega⟩

def saturnHandleHighPriority (b : Board) (p : Packet) : List Op :=
  (List.finRange 4).map (fun i => setDdcFrequency (channel i) (p.word (9 + 4 * i.val)))
    ++ runOps ((p 4).getLsbD 0) ++ setMox ((p 4).getLsbD 0 && (p 4).getLsbD 1)
    ++ setDucFrequency b (p.word 329)
    ++ [setTxDriveLevel b (p 345), setXvtrEnable ((p 1400).getLsbD 0),
      setSpkrMute ((p 1400).getLsbD 1), setOpenCollectorOutputs (p 1401 >>> 1 &&& 0x7F)]
    ++ alexTx b p
    ++ [alexManualRxFilters (half p 1430) 2, alexManualRxFilters (half p 1434) 0,
      setAdcAttenuator (p 1443 &&& 0x1F) true false (p 1442 &&& 0x1F) true false]

def saturnHandleGeneralPacket (p : Packet) : List Op := [setPaEnabled ((p 58).getLsbD 0)]

-- a DDC that is synchronised with the one before it is enabled with it
def ddcOps (p : Packet) (i : Fin 4) : List Op :=
  let enabled := (p 7).getLsbD i.val
  let synced := if i.val < 2 then p 1363 = 0b00000010 else p 1365 = 0b00001000
  let first := i.val % 2 = 0
  [setDdcAdc (channel i) (adcSelect (p (17 + 6 * i.val))),
    setP2SampleRate (channel i) (enabled || !first && synced)
      (p (18 + 6 * i.val) ++ p (19 + 6 * i.val)) (first && synced)]

def saturnHandleDdcSpecific (p : Packet) : List Op :=
  setAdcOptions false ((p 5).getLsbD 0) ((p 6).getLsbD 0) false ((p 5).getLsbD 1) ((p 6).getLsbD 1)
    :: (List.finRange 4).flatMap (ddcOps p) ++ [.writeP2DdcRateRegister]

-- the input of the codec is not a register of the FPGA
def saturnHandleDucSpecific (b : Board) (p : Packet) : List Op :=
  setCwIambicKeyer (p 9) (p 10) ((p 5).getLsbD 2) ((p 5).getLsbD 5) ((p 5).getLsbD 6)
      ((p 5).getLsbD 3) ((p 5).getLsbD 7)
    :: setCwSideTone ((p 5).getLsbD 4) (p 6) (half p 7)
    :: enableCw ((p 5).getLsbD 1) ((p 5).getLsbD 7)
    ++ [setKeyerParams b (p 13) (half p 11) (p 17),
      setOrionMicOptions ((p 50).getLsbD 3) ((p 50).getLsbD 4), setBalancedMicInput ((p 50).getLsbD 5),
      setAdcAttenuator (p 59 &&& 0x1F) false true (p 58 &&& 0x1F) false true]

-- the part of `saturn_rx_thread` before its loop
def rxThreadStart : List Op := [setRxDdcEnabled false, setByteSwapping true, setRxDdcEnabled true]

def program (b : Board) : Handler → Packet → List Op
  | .general, p => saturnHandleGeneralPacket p
  | .highPriority, p => saturnHandleHighPriority b p
  | .ddcSpecific, p => saturnHandleDdcSpecific p
  | .ducSpecific, p => saturnHandleDucSpecific b p
  | .rxThread, _ => rxThreadStart

-- all that is done before there are other threads
def boot (b : Board) (registers : Reg → BitVec 32) : Workers Handler State Op where
  shared := (saturnRegisterInit b ++ saturnInitDucIq).foldl (fun y op => y.apply .general op)
    (.init registers)
  todo _ := []
  begun _ := 0

def exec (b : Board) (y : Workers Handler State Op) (evs : List (WorkerEvent Handler Packet))
    : Workers Handler State Op :=
  y.exec (program b) State.apply evs

end Saturn
