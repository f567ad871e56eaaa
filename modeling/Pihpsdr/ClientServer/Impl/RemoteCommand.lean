import Pihpsdr.Vfo.Impl.Change

/-!
The message for a VFO: `send_vfo_data` of the server and the case `INFO_VFO` of the client, which
takes all fields of the VFO from it.
-/

namespace ClientServer

structure VfoData where
  vfo : BitVec 8
  band : BitVec 8
  bandstack : BitVec 8
  mode : BitVec 8
  filter : BitVec 8
  ctun : BitVec 8
  ritEnabled : BitVec 8
  xitEnabled : BitVec 8
  cwAudioPeakFilter : BitVec 8
  ritStep : BitVec 16
  deviation : BitVec 16
  frequency : BitVec 64
  ctunFrequency : BitVec 64
  rit : BitVec 64
  xit : BitVec 64
  lo : BitVec 64
  offset : BitVec 64
  step : BitVec 64

def sendVfoData (vfo : Fin 2 → VfoState) (v : Fin 2) : VfoData where
  vfo := to8 v
  band := to8 (vfo v).band
  bandstack := to8 (vfo v).bandstack
  mode := to8 (vfo v).mode
  filter := to8 (vfo v).filter
  ctun := to8 (vfo v).ctun
  ritEnabled := to8 (vfo v).ritEnabled
  xitEnabled := to8 (vfo v).xitEnabled
  cwAudioPeakFilter := to8 (vfo v).cwAudioPeakFilter
  ritStep := to16 (vfo v).ritStep
  deviation := to16 (vfo v).deviation
  frequency := to64 (vfo v).frequency
  ctunFrequency := to64 (vfo v).ctunFrequency
  rit := to64 (vfo v).rit
  xit := to64 (vfo v).xit
  lo := to64 (vfo v).lo
  offset := to64 (vfo v).offset
  step := to64 (vfo v).step

def VfoData.read (data : VfoData) (band : BandIndex) : VfoState where
  band := band
  bandstack := from8 data.bandstack
  mode := from8 data.mode
  filter := from8 data.filter
  ctun := from8 data.ctun
  ritEnabled := from8 data.ritEnabled
  xitEnabled := from8 data.xitEnabled
  cwAudioPeakFilter := from8 data.cwAudioPeakFilter
  ritStep := from16 data.ritStep
  deviation := from16 data.deviation
  frequency := from64 data.frequency
  ctunFrequency := from64 data.ctunFrequency
  rit := from64 data.rit
  xit := from64 data.xit
  lo := from64 data.lo
  offset := from64 data.offset
  step := from64 data.step

-- the index of a VFO in a message is not checked, `none` is an access outside of the array
def vfoIndex? (y : BitVec 8) : Option (Fin 2) :=
  if h : y.toNat < 2 then some ⟨y.toNat, h⟩ else none

-- `none` also stands for a band that does not exist
def infoVfo (vfo : Fin 2 → VfoState) (data : VfoData) : Option (Fin 2 → VfoState) := do
  let v ← vfoIndex? data.vfo
  let band ← bandIndex? (from8 data.band)
  some (Function.update vfo v (data.read band))

structure VfoInWireRange (v : VfoState) : Prop where
  bandstack : Wire.u8.InRange v.bandstack
  mode : Wire.u8.InRange v.mode
  filter : Wire.u8.InRange v.filter
  ctun : Wire.u8.InRange v.ctun
  ritEnabled : Wire.u8.InRange v.ritEnabled
  xitEnabled : Wire.u8.InRange v.xitEnabled
  cwAudioPeakFilter : Wire.u8.InRange v.cwAudioPeakFilter
  ritStep : Wire.u16.InRange v.ritStep
  deviation : Wire.u16.InRange v.deviation
  frequency : Wire.u64.InRange v.frequency
  ctunFrequency : Wire.u64.InRange v.ctunFrequency
  rit : Wire.u64.InRange v.rit
  xit : Wire.u64.InRange v.xit
  lo : Wire.u64.InRange v.lo
  offset : Wire.u64.InRange v.offset
  step : Wire.u64.InRange v.step

end ClientServer

/-!
The commands for VFO, band, mode, filter and memory: what a client does instead of the local
operation, the cases of `remote_command` on the server, and the replies that the client processes.
-/

namespace ClientServer.Remote

-- the operations of the user that become a command on the client
inductive Request where
  | ctun (id : Fin 2) (state : Int)
  | mode (id : Fin 2) (m : Int)
  | bandstack (id : Fin 2) (b : Int)
  | band (id : Fin 2) (b : BandIndex)
  | filter (id : Fin 2) (f : Int)
  | recallMemory (index : Fin numMemories)
  | aToB
  | bToA
  | swap

-- a command and the bytes `b1` and `b2` of its header
inductive VfoCommand where
  | ctun (b1 b2 : BitVec 8)
  | mode (b1 b2 : BitVec 8)
  | bandstack (b1 b2 : BitVec 8)
  | bandSel (b1 b2 : BitVec 8)
  | filterSel (b1 b2 : BitVec 8)
  | rcl (b1 : BitVec 8)
  | vfoAToB
  | vfoBToA
  | vfoSwap

-- the same functions as on the radio, up to where they send a command
def request (c : RadioState) : Request → RadioState × VfoCommand
  | .ctun id state => (c, .ctun (to8 id) (to8 state))
  | .mode id m => (c, .mode (to8 id) (to8 m))
  | .bandstack id b =>
    let band := (c.vfo id).band
    let old := (c.bands band).bandstack.currentEntry
    let c :=
      if id = 0 then
        let c := c.vfoSaveBandstack
        c.setBandstack band { (c.bands band).bandstack with currentEntry := b }
      else
        c
    (c, .bandstack (to8 old) (to8 b))
  | .band id b => (c, .bandSel (to8 id) (to8 b))
  | .filter id f =>
    (c.setVfo id { c.vfo id with filter := f }, .filterSel (to8 id) (to8 f))
  | .recallMemory index => (c, .rcl (to8 index))
  | .aToB => (c, .vfoAToB)
  | .bToA => (c, .vfoBToA)
  | .swap => (c, .vfoSwap)

-- the same operation on the radio
def perform (s : RadioState) : Request → Option RadioState
  | .ctun id state => some (s.vfoIdCtunUpdate id state)
  | .mode id m => some (s.vfoIdModeChanged id m)
  | .bandstack id b => some (s.vfoIdBandstackChanged id b)
  | .band id b => some (s.vfoIdBandChanged id b)
  | .filter id f => some (s.vfoIdFilterChanged id f)
  | .recallMemory index => s.recallMemorySlot index
  | .aToB => some s.vfoAToB
  | .bToA => some s.vfoBToA
  | .swap => some s.vfoASwapB

-- the replies that carry a VFO or an ADC
inductive Reply where
  | vfo (v : Fin 2)
  | adc (i : Fin 3)
  deriving DecidableEq

def cmdCtun (s : RadioState) (v : Fin 2) (b2 : BitVec 8) : RadioState :=
  let w := s.vfo v
  s.setVfo v
    { w with
      ctun := from8 b2
      offset := if from8 b2 = 0 then 0 else w.offset
      ctunFrequency := w.frequency }

-- `none` is an access outside of an array, since no index in a header is checked
def remoteCommand (s : RadioState) : VfoCommand → Option (RadioState × List Reply)
  | .ctun b1 b2 => do
    let v ← vfoIndex? b1
    some (cmdCtun s v b2, [.vfo v])
  | .mode b1 b2 => do
    let id ← vfoIndex? b1
    some (s.vfoModeChanged (from8 b2), [.vfo id])
  | .bandstack _ b2 =>
    let id := s.config.activeReceiver
    some (s.vfoBandstackChanged (from8 b2), [.vfo id, .adc (s.config.rxAdc id)])
  | .bandSel b1 b2 => do
    let v ← vfoIndex? b1
    let b ← bandIndex? (from8 b2)
    some (s.vfoIdBandChanged v b, [.vfo 0, .vfo 1, .adc 0, .adc 1])
  | .filterSel b1 b2 => do
    let v ← vfoIndex? b1
    some (s.vfoIdFilterChanged v (from8 b2), [])
  | .rcl b1 =>
    if h : b1.toNat < numMemories then do
      let id := s.config.activeReceiver
      let s' ← s.recallMemorySlot ⟨b1.toNat, h⟩
      some (s', [.vfo id, .adc (s.config.rxAdc id)])
    else
      none
  | .vfoAToB =>
    let adc := if s.config.receivers > 1 then [.adc (s.config.rxAdc 1)] else []
    some (s.vfoAToB, .vfo 1 :: adc)
  | .vfoBToA => some (s.vfoBToA, [.vfo 0, .adc (s.config.rxAdc 0)])
  | .vfoSwap => some (s.vfoASwapB, [.vfo 0, .vfo 1, .adc 0, .adc 0])

-- a reply carries what the server has when it is sent; `stack` is the memory of the message before
def receive (stack : AdcData) (s : RadioState) (c : RadioState) : Reply → Option RadioState
  | .vfo v => do
    let vfo ← infoVfo c.vfo (sendVfoData s.vfo v)
    some { c with vfo := vfo }
  | .adc i => do
    let adc ← infoAdc .client c.adc (sendAdcData stack s.adc i)
    some { c with adc := adc }

-- a request of the client, until all replies have been processed: the server and the client then
def exchange (stack : AdcData) (s c : RadioState) (r : Request)
    : Option (RadioState × RadioState) := do
  let (c, command) := request c r
  let (s, replies) ← remoteCommand s command
  let c ← replies.foldlM (receive stack s) c
  some (s, c)

end ClientServer.Remote
