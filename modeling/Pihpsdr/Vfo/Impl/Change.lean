import Pihpsdr.Vfo.Impl.Tuning

/-!
Large changes of the VFOs: band and band stack, mode and filter, the copies between the two VFOs,
and the recall of a memory slot.
-/

-- the fields that a band stack keeps of a VFO
def VfoState.loadEntry (v : VfoState) (entry : BandstackEntry) : VfoState :=
  { v with
    frequency := entry.frequency
    ctun := entry.ctun
    ctunFrequency := entry.ctunFrequency
    mode := entry.mode
    filter := entry.filter
    deviation := entry.deviation }

def VfoState.saveEntry (v : VfoState) (ctcssEnabled ctcss : Int) : BandstackEntry where
  frequency := v.frequency
  ctun := v.ctun
  ctunFrequency := v.ctunFrequency
  mode := v.mode
  filter := v.filter
  deviation := v.deviation
  ctcssEnabled := ctcssEnabled
  ctcss := ctcss

namespace BandstackState

def save (stack : BandstackState) (v : VfoState) (transmitter : Option TransmitterState)
    : BandstackState :=
  let old := stack.entry v.bandstack
  let entry :=
    match transmitter with
    | some tx => v.saveEntry tx.ctcssEnabled tx.ctcss
    | none => v.saveEntry old.ctcssEnabled old.ctcss
  { stack with currentEntry := v.bandstack, entry := Function.update stack.entry v.bandstack entry }

end BandstackState

namespace RadioState

def setCtcss (s : RadioState) (enabled ctcss : Int) : RadioState :=
  { s with
    transmitter := s.transmitter.map ({ · with ctcssEnabled := enabled, ctcss := ctcss }) }

def vfoSaveBandstack (s : RadioState) : RadioState :=
  let v := s.vfo 0
  s.setBandstack v.band ((s.bands v.band).bandstack.save v s.transmitter)

def vfoVfosChanged (s : RadioState) : RadioState :=
  let s := ((s.rxVfoChanged 0).radioTxVfoChanged).radioApplyBandSettings true 0
  if s.config.receivers = 2 then
    (s.rxVfoChanged 1).radioApplyBandSettings true 1
  else
    s

def loadProfileIf (s : RadioState) (id : Fin 2) (changed : Bool) : RadioState :=
  if changed then s.profilesLoadRxtxProfile id else s

-- what a change of the band and a change of the band stack do alike with an entry
def enterEntry (s : RadioState) (id : Fin 2) (oldmode : Int) (entry : BandstackEntry)
    : RadioState :=
  let s := s.setVfo id ((s.vfo id).loadEntry entry)
  let s := s.vfoIdAdjustBand id (s.vfo id).dial
  let s := s.setCtcss entry.ctcssEnabled entry.ctcss
  s.loadProfileIf id (s.Running id ∧ oldmode ≠ (s.vfo id).mode)

-- the band stack entry of a new band is out of the range of the radio
def OutOfRange (config : RadioConfig) (band : BandState) : Prop :=
  let f := (band.bandstack.entry band.bandstack.currentEntry).frequency
    - (band.frequencyLo + band.errorLo)
  f < config.frequencyMin ∨ f > config.frequencyMax

instance (config : RadioConfig) (band : BandState) : Decidable (OutOfRange config band) := by
  unfold OutOfRange
  infer_instance

-- the same band again is a step to the next entry of its stack
def nextBandstack (v : VfoState) (b : BandIndex) (stack : BandstackState) : Int :=
  if b = v.band then
    if v.bandstack + 1 ≥ stack.entries then 0 else v.bandstack + 1
  else
    stack.currentEntry

-- the change of the band of one VFO
def enterBand (s : RadioState) (id : Fin 2) (b : BandIndex) : RadioState :=
  let v := s.vfo id
  let s := if id = 0 then s.vfoSaveBandstack else s
  let stack := (s.bands b).bandstack
  let n := nextBandstack v b stack
  let s := if b = v.band ∧ id = 0 then s.setBandstack b { stack with currentEntry := n } else s
  let s := s.setVfo id
    { v with band := b, bandstack := n, lo := (s.bands b).frequencyLo + (s.bands b).errorLo }
  let s := s.enterEntry id v.mode (stack.entry n)
  if v.band ≠ (s.vfo id).band then s.radioApplyBandSettings true id else s

def vfoIdBandChanged (s : RadioState) (id : Fin 2) (b : BandIndex) : RadioState :=
  if b ≠ (s.vfo id).band ∧ OutOfRange s.config (s.bands b) then
    s
  else
    (s.enterBand id b).vfoVfosChanged

-- the change of the band stack of one VFO
def enterBandstack (s : RadioState) (id : Fin 2) (b : Int) : RadioState :=
  let v := s.vfo id
  let s :=
    if id = 0 then
      let s := s.vfoSaveBandstack
      s.setBandstack v.band { (s.bands v.band).bandstack with currentEntry := b }
    else
      s
  let s := s.setVfo id { v with bandstack := b }
  s.enterEntry id v.mode ((s.bands v.band).bandstack.entry b)

def vfoIdBandstackChanged (s : RadioState) (id : Fin 2) (b : Int) : RadioState :=
  (s.enterBandstack id b).vfoVfosChanged

def vfoBandstackChanged (s : RadioState) (b : Int) : RadioState :=
  s.vfoIdBandstackChanged s.config.activeReceiver b

-- the actions `BANDSTACK_PLUS` and `BANDSTACK_MINUS`
def bandstackPlus (s : RadioState) : RadioState :=
  let v := s.vfo s.config.activeReceiver
  let b := v.bandstack + 1
  s.vfoBandstackChanged (if b ≥ (s.bands v.band).bandstack.entries then 0 else b)

def bandstackMinus (s : RadioState) : RadioState :=
  let v := s.vfo s.config.activeReceiver
  let b := v.bandstack - 1
  s.vfoBandstackChanged (if b < 0 then (s.bands v.band).bandstack.entries - 1 else b)

-- `tx_set_mode` sets the filter of the transmitter
def vfoIdModeChanged (s : RadioState) (id : Fin 2) (m : Int) : RadioState :=
  let s := s.setVfo id { s.vfo id with mode := m }
  let s :=
    if s.Running id then
      ((s.profilesLoadRxtxProfile id).rxModeChanged id).rxFilterChanged id
    else
      s
  s.txSetFilter

def vfoModeChanged (s : RadioState) (m : Int) : RadioState :=
  s.vfoIdModeChanged s.config.activeReceiver m

def rxFilterChangedIfRunning (s : RadioState) (id : Fin 2) : RadioState :=
  if s.Running id then s.rxFilterChanged id else s

-- the filter of the first VFO is also stored with its mode
def storeFilter (s : RadioState) (id : Fin 2) (f : Int) : RadioState :=
  let mode := (s.vfo id).mode
  if id = 0 then
    { s with
      profile := profilesCopyRxtxprofile
        (Function.update s.profile mode { s.profile mode with filter := f }) mode }
  else
    s

-- the edges of the variable filters belong to both receivers
def vfoIdFilterChanged (s : RadioState) (id : Fin 2) (f : Int) : RadioState :=
  let s := (s.setVfo id { s.vfo id with filter := f }).storeFilter id f
  if f = filterVar1 ∨ f = filterVar2 then
    (s.rxFilterChangedIfRunning 0).rxFilterChangedIfRunning 1
  else
    s.rxFilterChangedIfRunning id

def vfoAToB (s : RadioState) : RadioState :=
  let oldmode := (s.vfo 1).mode
  let s := s.setVfo 1 (s.vfo 0)
  let s := s.loadProfileIf 1 ((s.vfo 1).mode ≠ oldmode ∧ s.config.receivers = 2)
  s.vfoVfosChanged

def vfoBToA (s : RadioState) : RadioState :=
  let oldmode := (s.vfo 0).mode
  let s := s.setVfo 0 (s.vfo 1)
  let s := s.loadProfileIf 0 ((s.vfo 0).mode ≠ oldmode)
  s.vfoVfosChanged

def vfoASwapB (s : RadioState) : RadioState :=
  let a := s.vfo 0
  let b := s.vfo 1
  let s := (s.setVfo 0 b).setVfo 1 a
  let s := s.loadProfileIf 0 (b.mode ≠ a.mode)
  let s := s.loadProfileIf 1 (b.mode ≠ a.mode ∧ s.config.receivers = 2)
  s.vfoVfosChanged

end RadioState

-- the two VFOs of a memory slot as entries of a band stack
def memEntry (slot : ClientServer.Mem) : BandstackEntry where
  frequency := slot.frequency
  ctun := slot.ctun
  ctunFrequency := slot.ctunFrequency
  mode := slot.mode
  filter := slot.filter
  deviation := slot.deviation
  ctcssEnabled := slot.ctcssEnabled
  ctcss := slot.ctcss

def memAltEntry (slot : ClientServer.Mem) : BandstackEntry where
  frequency := slot.altFrequency
  ctun := slot.altCtun
  ctunFrequency := slot.altCtunFrequency
  mode := slot.altMode
  filter := slot.altFilter
  deviation := slot.altDeviation
  ctcssEnabled := slot.ctcssEnabled
  ctcss := slot.ctcss

-- the band of a memory slot is not checked, `none` is a read outside of the array
def bandIndex? (b : Int) : Option BandIndex :=
  if h : 0 ≤ b ∧ b < numBands + numXvtrs then
    some ⟨b.toNat, by omega⟩
  else
    none

namespace RadioState

def recallVfo (s : RadioState) (id : Fin 2) (load : Bool) (b : BandIndex) (entry : BandstackEntry)
    : RadioState :=
  let oldmode := (s.vfo id).mode
  let s := s.setVfo id { s.vfo id with mode := entry.mode }
  let s := s.loadProfileIf id (oldmode ≠ entry.mode ∧ load)
  let band := s.bands b
  s.setVfo id
    { (s.vfo id).loadEntry entry with
      band := b
      bandstack := band.bandstack.currentEntry
      lo := band.frequencyLo + band.errorLo }

def recallMemorySlot (s : RadioState) (index : Fin ClientServer.numMemories)
    : Option RadioState := do
  let slot := s.mem index
  let b ← bandIndex? slot.bd
  let s : RadioState := { s with satMode := slot.satMode }
  let s ←
    if slot.satMode = satModeNone then
      some (s.recallVfo s.config.activeReceiver true b (memEntry slot))
    else do
      let altB ← bandIndex? slot.altBd
      let s := s.recallVfo 0 true b (memEntry slot)
      let s := s.recallVfo 1 (s.config.receivers > 1) altB (memAltEntry slot)
      some (s.radioSetSplit slot.split)
  let s := s.setCtcss slot.ctcssEnabled slot.ctcss
  some s.vfoVfosChanged

-- the search of `band_plus` and `band_minus` for a band, at most `n` rounds of it
def bandSearch (next : BandIndex → BandIndex) (id : Fin 2) : Nat → BandIndex → RadioState → RadioState
  | 0, _, s => s
  | n + 1, b, s =>
    let b := next b
    if (s.bands b).title.chars = [] then
      bandSearch next id n b s
    else
      let s := s.vfoIdBandChanged id b
      if (s.vfo id).band = b then s else bandSearch next id n b s

def bandPlus (s : RadioState) (id : Fin 2) (n : Nat) : RadioState :=
  bandSearch (· + 1) id n (s.vfo id).band s

def bandMinus (s : RadioState) (id : Fin 2) (n : Nat) : RadioState :=
  bandSearch (· - 1) id n (s.vfo id).band s

end RadioState

/-!
The search of `band_plus` and `band_minus`, in the program of the radio and in that of a client.
There `vfo_id_band_changed` only asks the server, and the VFO changes with a message from it.
-/

-- a client holds the VFO `arriving n` when it looks at the VFO after its request number `n`
inductive Program where
  | radio
  | client (arriving : Nat → VfoState)

-- the state of the program with the changes of the band that it has made or asked for
structure BandChanges where
  radio : RadioState
  changes : List BandIndex

namespace RadioState

-- a return of `vfo_id_band_changed` before any change
def Refused (s : RadioState) (id : Fin 2) (b : BandIndex) : Prop :=
  b ≠ (s.vfo id).band ∧ OutOfRange s.config (s.bands b)

instance (s : RadioState) (id : Fin 2) (b : BandIndex) : Decidable (s.Refused id b) := by
  unfold Refused
  infer_instance

-- only bands of transverters can be without a title
def Assigned (s : RadioState) (b : BandIndex) : Prop :=
  (s.bands b).title.chars ≠ []

instance (s : RadioState) (b : BandIndex) : Decidable (s.Assigned b) := by
  unfold Assigned
  infer_instance

end RadioState

namespace BandChanges

def vfoIdBandChanged (p : Program) (r : BandChanges) (id : Fin 2) (b : BandIndex) : BandChanges :=
  match p with
  | .radio =>
    { radio := r.radio.vfoIdBandChanged id b
      changes := if r.radio.Refused id b then r.changes else r.changes ++ [b] }
  | .client arriving =>
    { radio := r.radio.setVfo id (arriving r.changes.length)
      changes := r.changes ++ [b] }

-- `none` when the loop has not ended after `n` rounds
def search? (p : Program) (next : BandIndex → BandIndex) (id : Fin 2)
    : Nat → BandIndex → BandChanges → Option BandChanges
  | 0, _, _ => none
  | n + 1, b, r =>
    let b := next b
    if r.radio.Assigned b then
      let r := r.vfoIdBandChanged p id b
      if (r.radio.vfo id).band = b then some r else search? p next id n b r
    else
      search? p next id n b r

end BandChanges

namespace RadioState

def bandPlus? (p : Program) (s : RadioState) (id : Fin 2) (n : Nat) : Option BandChanges :=
  BandChanges.search? p (· + 1) id n (s.vfo id).band ⟨s, []⟩

def bandMinus? (p : Program) (s : RadioState) (id : Fin 2) (n : Nat) : Option BandChanges :=
  BandChanges.search? p (· - 1) id n (s.vfo id).band ⟨s, []⟩

end RadioState
