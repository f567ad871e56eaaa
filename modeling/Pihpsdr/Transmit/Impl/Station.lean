import Mathlib.Algebra.Order.Round
import Mathlib.Data.Rat.Floor
import Pihpsdr.Radio.Band
import Pihpsdr.Transmit.Impl.Switch
import Pihpsdr.Lib.Indices

/-!
A local radio with all that decides whether it transmits: the frequency range of `TransmitAllowed`,
the inhibit input that the radio reports, the VOX engine of `tx_add_mic_sample` and the calls that
wait in the main loop.

MOX, VOX and TUNE requests by CAT, MIDI, GPIO, the PTT input or a remote client are all calls of one of
the functions in `radio.c`, at any time and with any state.
-/

namespace Transmit

structure Channel60m where
  frequency : Int
  width : Int
  deriving DecidableEq

/--
What `TransmitAllowed` looks at: the VFOs, the edges of the band tables and of the filter of the
transmitter.
-/
structure Dial where
  activeReceiver : Fin 2
  split : Bool
  vfo : Fin 2 → Vfo
  txOutOfBandAllowed : Bool
  frequencyMin : Nat → Int
  frequencyMax : Nat → Int
  bandChannels60m : List Channel60m
  filterLow : Int
  filterHigh : Int

def band60m : Nat :=
  4

def bandsWithoutTx : List Nat :=
  [21, 22, 23]

def Mode.isCw : Mode → Bool
  | .cwl => true
  | .cwu => true
  | _ => false

namespace Dial

def txVfo (d : Dial) : Vfo :=
  d.vfo (if d.split then 1 - d.activeReceiver else d.activeReceiver)

def txFreq (d : Dial) : Int :=
  if d.txVfo.ctun then d.txVfo.ctunFrequency else d.txVfo.frequency

def transmitAllowed (d : Dial) (hasTransmitter : Bool) : Bool :=
  if ¬ hasTransmitter then
    false
  else if d.txOutOfBandAllowed then
    true
  else
    let txb := d.txVfo.band
    if txb ∈ bandsWithoutTx then
      false
    else
      let flow := if Mode.isCw d.txVfo.mode then d.txFreq else d.txFreq + d.filterLow
      let fhigh := if Mode.isCw d.txVfo.mode then d.txFreq else d.txFreq + d.filterHigh
      if txb = band60m then
        d.bandChannels60m.any fun c =>
          c.frequency - c.width.tdiv 2 ≤ flow ∧ fhigh ≤ c.frequency + c.width.tdiv 2
      else
        d.frequencyMin txb ≤ flow ∧ fhigh ≤ d.frequencyMax txb

end Dial

/--
The variables of the VOX engine; `vox_min_hang` follows from whether `tx_set_vox` has last found CFC
switched on. The VOX menu keeps the wanted state of VOX in `local_vox_state` while it is open.
-/
structure VoxEngine where
  enabled : Bool
  localVoxState : Bool
  threshold : ℚ
  hang : ℚ
  cfc : Bool
  count : Nat
  triggered : Bool

namespace VoxEngine

def minHang (v : VoxEngine) : ℚ :=
  if v.cfc then 350 else 150

def hangCount (v : VoxEngine) : Nat :=
  ⌊(if v.hang > v.minHang then v.hang else v.minHang) * 48⌋.toNat

def cancel (v : VoxEngine) : VoxEngine :=
  { v with count := 0, triggered := false }

end VoxEngine

structure Station where
  radio : RxTx
  txInhibit : Bool
  dial : Dial
  -- CFC of the transmitter
  cfc : Bool
  vox : VoxEngine
  -- what `g_idle_add` has left with the main loop, the oldest call first
  idle : List SwitchCall

namespace Station

def env (s : Station) : TxEnv where
  transmitAllowed := s.dial.transmitAllowed s.radio.hasTransmitter
  txInhibit := s.txInhibit

def txSetVox (s : Station) : Station :=
  { s with vox := { s.vox with cfc := s.cfc } }

-- `radio_set_tune` sets the compressor, without CFC when it switches TUNE on
def tuneVox (s : Station) (tune : Option CInt) : VoxEngine :=
  match tune with
  | none => s.vox
  | some state => { s.vox with cfc := s.cfc && state == 0 }

def call (s : Station) (c : SwitchCall) : Station :=
  let vox := s.tuneVox (s.radio.callTune (s.env, c))
  { s with
    radio := s.radio.call (s.env, c)
    vox := if s.radio.cancelsVox (s.env, c) then vox.cancel else vox }

-- the part of both protocols for the inhibit input, which is active if the bit is cleared
def inhibitInput (s : Station) (enableTxInhibit data : Bool) : Station :=
  if enableTxInhibit then
    let s :=
      if ¬ s.txInhibit ∧ ¬ data then
        { s with txInhibit := true, idle := s.idle ++ [.setMox 0] }
      else
        s
    if data then { s with txInhibit := false } else s
  else
    { s with txInhibit := false }

def processControlBytes (s : Station) (enableTxInhibit : Bool) (device : Device)
    (control1 : BitVec 8) : Station :=
  s.inhibitInput enableTxInhibit
    (if device = .orion2 then control1.getLsbD 2 else control1.getLsbD 1)

def processHighPriority (s : Station) (enableTxInhibit : Bool) (device : Device)
    (byte59 : BitVec 8) : Station :=
  s.inhibitInput enableTxInhibit
    (if device = .newOrion2 ∨ device = .newSaturn then byte59.getLsbD 1 else byte59.getLsbD 0)

-- TUNE and CW take no microphone samples
def Silent (s : Station) : Prop :=
  s.radio.tune ≠ 0 ∨ Mode.isCw s.dial.txVfo.mode

instance (s : Station) : Decidable s.Silent :=
  inferInstanceAs (Decidable (_ ∨ _))

-- the VOX part of `tx_add_mic_sample`
def txAddMicSample (s : Station) (micSample : ℚ) : Station :=
  let amplitude := if s.Silent then 0 else |micSample|
  let vox := if s.Silent then s.vox.cancel else s.vox
  if vox.enabled then
    if vox.threshold ≤ amplitude then
      { s with
        vox := { vox with count := vox.hangCount, triggered := true }
        idle := if vox.triggered then s.idle else s.idle ++ [.setVox 1] }
    else if vox.count > 1 then
      { s with vox := { vox with count := vox.count - 1 } }
    else if vox.count = 1 then
      { s with vox := { vox with count := 0, triggered := false }, idle := s.idle ++ [.setVox 0] }
    else
      { s with vox := vox }
  else
    { s with vox := vox }

-- the action `VOX`
def toggleVox (s : Station) : Station :=
  if s.radio.hasTransmitter then
    { s with vox := { s.vox with enabled := ¬ s.vox.enabled } }.txSetVox
  else
    s

-- the CAT command `VX`
def catVx (s : Station) (x : Int) : Station :=
  { s with vox := { s.vox with enabled := x ≠ 0 } }

-- while the menu is open VOX is disabled
def openVoxMenu (s : Station) : Station :=
  if s.radio.hasTransmitter then
    { s with vox := { s.vox with localVoxState := s.vox.enabled, enabled := false } }
  else
    s

def checkVoxMenu (s : Station) (active : Bool) : Station :=
  { s with vox := { s.vox with localVoxState := active } }

def closeVoxMenu (s : Station) : Station :=
  { s with vox := { s.vox with enabled := s.vox.localVoxState } }.txSetVox

-- the check button beside the VOX slider
def checkVoxSlider (s : Station) (active : Bool) : Station :=
  if s.radio.hasTransmitter then
    { s with vox := { s.vox with enabled := active } }
  else
    s

-- a change of CFC ends in `tx_set_compressor`
def setCfc (s : Station) (cfc : Bool) : Station :=
  { s with cfc := cfc }.txSetVox

-- the main loop runs the oldest call
def runIdle (s : Station) : Station :=
  match s.idle with
  | [] => s
  | c :: idle => { s with idle := idle }.call c

end Station

-- what changes the settings of VOX
inductive VoxSetting where
  | toggleVox
  | catVx (x : Int)
  | openVoxMenu
  | checkVoxMenu (active : Bool)
  | closeVoxMenu
  | checkVoxSlider (active : Bool)
  | setCfc (cfc : Bool)

def Station.set (s : Station) : VoxSetting → Station
  | .toggleVox => s.toggleVox
  | .catVx x => s.catVx x
  | .openVoxMenu => s.openVoxMenu
  | .checkVoxMenu active => s.checkVoxMenu active
  | .closeVoxMenu => s.closeVoxMenu
  | .checkVoxSlider active => s.checkVoxSlider active
  | .setCfc cfc => s.setCfc cfc

inductive StationEvent where
  -- the status packets of the two protocols
  | controlBytes (enableTxInhibit : Bool) (device : Device) (control1 : BitVec 8)
  | highPriority (enableTxInhibit : Bool) (device : Device) (byte59 : BitVec 8)
  | call (c : SwitchCall)
  -- any change of frequency, band, mode, split or filter
  | dial (d : Dial)
  | micSample (x : ℚ)
  | set (v : VoxSetting)
  | idle

def StationEvent.isIdle : StationEvent → Bool
  | .idle => true
  | _ => false

def StationEvent.isMicSample : StationEvent → Bool
  | .micSample _ => true
  | _ => false

namespace Station

def step (s : Station) : StationEvent → Station
  | .controlBytes enable device control1 => s.processControlBytes enable device control1
  | .highPriority enable device byte59 => s.processHighPriority enable device byte59
  | .call c => s.call c
  | .dial d => { s with dial := d }
  | .micSample x => s.txAddMicSample x
  | .set v => s.set v
  | .idle => s.runIdle

def receiving (radio : RxTx) (dial : Dial) (cfc enabled : Bool) (threshold hang : ℚ) : Station where
  radio := radio
  txInhibit := false
  dial := dial
  cfc := cfc
  vox := ⟨enabled, enabled, threshold, hang, cfc, 0, false⟩
  idle := []

-- an idle station on the 20m band with both VFOs at `frequency`
def on20m (frequency : Int) (enabled : Bool) : Station :=
  receiving (.receiving true false 1)
    { activeReceiver := 0
      split := false
      vfo := fun _ => ⟨7, .usb, frequency, false, 0, false, 0, 0⟩
      txOutOfBandAllowed := false
      frequencyMin := fun _ => 14000000
      frequencyMax := fun _ => 14350000
      bandChannels60m := []
      filterLow := 150
      filterHigh := 2850 }
    false enabled (1 / 100) 250

end Station

end Transmit
