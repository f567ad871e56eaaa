import Pihpsdr.ClientServer.Impl.RemoteCommand
import Pihpsdr.ClientServer.Lemmas.Wire
import Pihpsdr.ClientServer.Impl.Memory
import Pihpsdr.Vfo.Lemmas.Change

/-!
A VFO whose values fit into the fields of the message arrives as it is.
-/

namespace ClientServer

@[simp]
theorem vfoIndex?_to8 (v : Fin 2) : vfoIndex? (to8 v) = some v := by
  revert v
  decide

@[simp]
theorem bandIndex?_to8 (b : BandIndex) : bandIndex? (from8 (to8 b)) = some b := by
  revert b
  decide

theorem read_sendVfoData {vfo : Fin 2 → VfoState} {v : Fin 2} (h : VfoInWireRange (vfo v))
    : (sendVfoData vfo v).read (vfo v).band = vfo v := by
  simp only [VfoData.read, sendVfoData, from8_to8 h.bandstack, from8_to8 h.mode,
    from8_to8 h.filter, from8_to8 h.ctun, from8_to8 h.ritEnabled, from8_to8 h.xitEnabled,
    from8_to8 h.cwAudioPeakFilter, from16_to16 h.ritStep, from16_to16 h.deviation,
    from64_to64 h.frequency, from64_to64 h.ctunFrequency, from64_to64 h.rit, from64_to64 h.xit,
    from64_to64 h.lo, from64_to64 h.offset, from64_to64 h.step]

theorem infoVfo_sendVfoData {vfo : Fin 2 → VfoState} {v : Fin 2} (h : VfoInWireRange (vfo v))
    (other : Fin 2 → VfoState)
    : infoVfo other (sendVfoData vfo v) = some (Function.update other v (vfo v)) := by
  have hread := read_sendVfoData h
  have hvfo : vfoIndex? (sendVfoData vfo v).vfo = some v := vfoIndex?_to8 v
  have hband : bandIndex? (from8 (sendVfoData vfo v).band) = some (vfo v).band :=
    bandIndex?_to8 (vfo v).band
  simp only [infoVfo, hvfo, hband, hread, Option.bind_eq_bind, Option.bind_some]

end ClientServer

/-!
What the client stores for a memory slot of the server. The message carries the frequencies of the
slot in the place of its alternate frequencies.
-/

namespace ClientServer

theorem index_sendMemoryData (mem : Fin numMemories → Mem) (index : Fin numMemories)
    : (sendMemoryData mem index).index.toNat = index := by
  have hlt : index.val < 10 := index.isLt
  apply toNat_to8
  omega

theorem store_sendMemoryData {mem : Fin numMemories → Mem} {index : Fin numMemories}
    (h : (mem index).InWireRange) (slot : Mem)
    : (sendMemoryData mem index).store slot
        =
      { mem index with
        split := slot.split
        duplex := slot.duplex
        altFrequency := (mem index).frequency
        altCtunFrequency := (mem index).ctunFrequency } := by
  simp only [MemoryData.store, sendMemoryData, from8_to8 h.satMode, from8_to8 h.ctun,
    from8_to8 h.mode, from8_to8 h.filter, from8_to8 h.bd, from8_to8 h.altCtun,
    from8_to8 h.altMode, from8_to8 h.altFilter, from8_to8 h.altBd, from8_to8 h.ctcssEnabled,
    from8_to8 h.ctcss, from16_to16 h.deviation, from16_to16 h.altDeviation,
    from64_to64 h.frequency, from64_to64 h.ctunFrequency]

theorem infoMemory_sendMemoryData {server : Fin numMemories → Mem} {index : Fin numMemories}
    (h : (server index).InWireRange) (client : Fin numMemories → Mem)
    : infoMemory client (sendMemoryData server index)
        =
      some (Function.update client index
        { server index with
          split := (client index).split
          duplex := (client index).duplex
          altFrequency := (server index).frequency
          altCtunFrequency := (server index).ctunFrequency }) := by
  have hindex : (sendMemoryData server index).index.toNat < numMemories := by
    rw [index_sendMemoryData]
    apply index.isLt
  have hfin : (⟨(sendMemoryData server index).index.toNat, hindex⟩ : Fin numMemories) = index := by
    apply Fin.ext
    apply index_sendMemoryData server
  rw [infoMemory, dif_pos hindex, hfin, store_sendMemoryData h]

theorem memory_reproduced_iff (server : Fin numMemories → Mem) (index : Fin numMemories)
    (h : (server index).InWireRange) (client : Fin numMemories → Mem)
    : (∃ client', infoMemory client (sendMemoryData server index) = some client'
          ∧ client' index = server index)
        ↔
      (server index).altFrequency = (server index).frequency
        ∧ (server index).altCtunFrequency = (server index).ctunFrequency
        ∧ (client index).split = (server index).split
        ∧ (client index).duplex = (server index).duplex := by
  rw [infoMemory_sendMemoryData h]
  constructor
  . intro ⟨client', hstored, hslot⟩
    rw [← Option.some.inj hstored, Function.update_self] at hslot
    have haltFrequency := congrArg Mem.altFrequency hslot
    have haltCtunFrequency := congrArg Mem.altCtunFrequency hslot
    have hsplit := congrArg Mem.split hslot
    have hduplex := congrArg Mem.duplex hslot
    apply And.intro haltFrequency.symm
    apply And.intro haltCtunFrequency.symm
    apply And.intro hsplit hduplex
  . intro ⟨haltFrequency, haltCtunFrequency, hsplit, hduplex⟩
    apply Exists.intro
    apply And.intro rfl
    rw [Function.update_self, ← haltFrequency, ← haltCtunFrequency, hsplit, hduplex]

-- a satellite slot: uplink on 70 cm, downlink on 2 m
def satelliteSlot : Mem where
  satMode := 1
  split := 1
  duplex := 1
  frequency := 145950000
  ctunFrequency := 0
  ctun := 0
  mode := 1
  filter := 5
  deviation := 2500
  bd := 14
  altFrequency := 435050000
  altCtunFrequency := 0
  altCtun := 0
  altMode := 0
  altFilter := 5
  altDeviation := 2500
  altBd := 16
  ctcssEnabled := 0
  ctcss := 0

theorem satelliteSlot_inWireRange
    : satelliteSlot.InWireRange := by
  constructor <;> decide

theorem satelliteSlot_without_uplink_inWireRange
    : { satelliteSlot with altFrequency := 145950000 }.InWireRange := by
  constructor <;> decide

theorem memory_reproduced_single_frequency
    : ∃ client', infoMemory (fun _ => satelliteSlot)
            (sendMemoryData (fun _ => { satelliteSlot with altFrequency := 145950000 }) 3)
          = some client'
        ∧ client' 3 = { satelliteSlot with altFrequency := 145950000 } := by
  apply (memory_reproduced_iff _ 3 satelliteSlot_without_uplink_inWireRange _).mpr
  decide

theorem not_memory_reproduced_satellite
    : satelliteSlot.InWireRange
        ∧ ¬ ∃ client', infoMemory (fun _ => satelliteSlot)
                (sendMemoryData (fun _ => satelliteSlot) 3)
              = some client'
            ∧ client' 3 = satelliteSlot := by
  apply And.intro satelliteSlot_inWireRange
  rw [infoMemory_sendMemoryData satelliteSlot_inWireRange]
  intro ⟨client', hstored, hslot⟩
  rw [← Option.some.inj hstored, Function.update_self] at hslot
  have haltFrequency := congrArg Mem.altFrequency hslot
  simp [satelliteSlot] at haltFrequency

end ClientServer

/-!
The commands for mode and band stack. The server applies them to the VFO of its active receiver,
which need not be the one that the client has asked for.
-/

namespace RadioState

variable (s : RadioState) {id : Fin 2}

/--
The mode `m` and its profile are what VFO `id` has already.
-/
structure ModeLoaded (s : RadioState) (id : Fin 2) (m : Int) : Prop where
  mode : m = (s.vfo id).mode
  profile : s.Running id → (s.vfo id).loadProfile (s.profile m) = s.vfo id

theorem vfo_vfoIdModeChanged_of_ne {id' : Fin 2} (h : id' ≠ id) (m : Int)
    : (s.vfoIdModeChanged id m).vfo id' = s.vfo id' := by
  rw [toTuningState_vfoIdModeChanged, TuningState.vfo_setVfo, Function.update_of_ne h]

theorem vfo_vfoIdModeChanged_self_iff (m : Int)
    : (s.vfoIdModeChanged id m).vfo id = s.vfo id ↔ s.ModeLoaded id m := by
  rw [toTuningState_vfoIdModeChanged, TuningState.vfo_setVfo, Function.update_self]
  constructor
  . intro h
    have hmode : m = (s.vfo id).mode := by
      rw [← h]
      dsimp only
      split <;> rfl
    apply ModeLoaded.mk hmode
    intro hrunning
    simp only [if_pos hrunning] at h
    subst hmode
    exact h
  . intro ⟨hmode, hprofile⟩
    subst hmode
    dsimp only
    split
    next hrunning => apply hprofile hrunning
    next => rfl

end RadioState

namespace ClientServer.Remote

-- the commands that the server applies to the VFO of the active receiver
inductive ActiveCommand where
  | mode (m : Int)
  | bandstack (b : Int)

def ActiveCommand.request (id : Fin 2) : ActiveCommand → Request
  | mode m => .mode id m
  | bandstack b => .bandstack id b

/--
The command of a client for VFO `id` changes the other VFO as the operation on the radio does.
-/
def OnlyNamed (s c : RadioState) (id : Fin 2) (r : Request) : Prop :=
  ∃ s' replies t, remoteCommand s (request c r).2 = some (s', replies) ∧ perform s r = some t
    ∧ ∀ v, v ≠ id → s'.vfo v = t.vfo v

-- nothing is left to do for the VFO of the active receiver
def ActiveCommand.Idle (s : RadioState) : ActiveCommand → Prop
  | mode m => s.ModeLoaded s.config.activeReceiver (from8 (to8 m))
  | bandstack b => s.EntryLoaded s.config.activeReceiver (from8 (to8 b))

theorem forall_ne_iff {id other : Fin 2} (h : other ≠ id) (P : Fin 2 → Prop)
    : (∀ v, v ≠ id → P v) ↔ P other := by
  constructor
  . intro hall
    apply hall other h
  . intro hP v hv
    have heq : v = other := by omega
    rwa [heq]

theorem mode_onlyNamed_iff (s c : RadioState) (id : Fin 2) (m : Int)
    : OnlyNamed s c id (.mode id m)
        ↔
      id = s.config.activeReceiver ∨ s.ModeLoaded s.config.activeReceiver (from8 (to8 m)) := by
  have honly : OnlyNamed s c id (.mode id m)
      ↔ ∀ v, v ≠ id → (s.vfoModeChanged (from8 (to8 m))).vfo v = (s.vfoIdModeChanged id m).vfo v := by
    simp [OnlyNamed, request, remoteCommand, perform]
  rw [honly]
  by_cases hid : s.config.activeReceiver = id
  . apply iff_of_true
    . intro v hv
      rw [RadioState.vfoModeChanged, hid, s.vfo_vfoIdModeChanged_of_ne hv,
        s.vfo_vfoIdModeChanged_of_ne hv]
    . left
      exact hid.symm
  . rw [forall_ne_iff hid, s.vfo_vfoIdModeChanged_of_ne hid]
    simp only [Ne.symm hid, false_or]
    apply s.vfo_vfoIdModeChanged_self_iff

theorem bandstack_onlyNamed_iff (s c : RadioState) (id : Fin 2) (b : Int)
    : OnlyNamed s c id (.bandstack id b)
        ↔
      id = s.config.activeReceiver ∨ s.EntryLoaded s.config.activeReceiver (from8 (to8 b)) := by
  have honly : OnlyNamed s c id (.bandstack id b)
      ↔ ∀ v, v ≠ id →
        (s.vfoBandstackChanged (from8 (to8 b))).vfo v = (s.vfoIdBandstackChanged id b).vfo v := by
    simp [OnlyNamed, request, remoteCommand, perform]
  rw [honly]
  by_cases hid : s.config.activeReceiver = id
  . apply iff_of_true
    . intro v hv
      rw [RadioState.vfoBandstackChanged, hid, s.vfo_vfoIdBandstackChanged_of_ne _ _ hv,
        s.vfo_vfoIdBandstackChanged_of_ne _ _ hv]
    . left
      exact hid.symm
  . rw [forall_ne_iff hid, s.vfo_vfoIdBandstackChanged_of_ne _ _ hid]
    simp only [Ne.symm hid, false_or]
    apply s.vfo_vfoIdBandstackChanged_self_iff

theorem onlyNamed_iff (s c : RadioState) (id : Fin 2) (command : ActiveCommand)
    : OnlyNamed s c id (command.request id)
        ↔
      id = s.config.activeReceiver ∨ command.Idle s := by
  cases command with
  | mode m => apply mode_onlyNamed_iff
  | bandstack b => apply bandstack_onlyNamed_iff

theorem not_onlyNamed
    : ¬ ∀ (s c : RadioState) (id : Fin 2) (command : ActiveCommand),
        OnlyNamed s c id (command.request id) := by
  intro h
  cases (mode_onlyNamed_iff initialState initialState 1 modeUsb).mp
    (h initialState initialState 1 (.mode modeUsb)) with
  | inl hid =>
    revert hid
    decide
  | inr hloaded =>
    have hmode := hloaded.mode
    revert hmode
    decide

end ClientServer.Remote
