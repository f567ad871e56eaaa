import Pihpsdr.ClientServer.Lemmas.VfoData
import Pihpsdr.ClientServer.Lemmas.Receiver
import Pihpsdr.Vfo.Lemmas.Fits

/-!
The client as a mirror of the server. The replies to a command bring the client up to date if and
only if what they leave out has not changed, and the antennas of the ADCs that they carry have the
number zero.
-/

namespace ClientServer.Remote

/--
The client has the VFOs, the ADCs and the satellite mode of the server.
-/
structure Mirrored (s c : RadioState) : Prop where
  vfo : ∀ v, c.vfo v = s.vfo v
  adc : ∀ i, (s.adc i).Transferred (c.adc i)
  satMode : c.satMode = s.satMode

-- the client has what no reply carries of the VFOs and the satellite mode
structure Kept (rs : List Reply) (s c : RadioState) : Prop where
  vfo : ∀ v, .vfo v ∉ rs → c.vfo v = s.vfo v
  satMode : c.satMode = s.satMode

-- an ADC arrives, or the client has it already
def AdcsArrive (rs : List Reply) (adc adc' : Adcs) : Prop :=
  ∀ i, if .adc i ∈ rs then (adc i).int .antenna = 0 else (adc i).Transferred (adc' i)

section

variable {stack : AdcData} {s c c' : RadioState} {rs : List Reply}

/--
What the replies `rs` of the server in state `s` make of a client.
-/
structure Received (stack : AdcData) (s : RadioState) (rs : List Reply) (c c' : RadioState) : Prop
    where
  vfo : ∀ v, c'.vfo v = if .vfo v ∈ rs then s.vfo v else c.vfo v
  adc : ∀ i,
    if .adc i ∈ rs then
      ∃ old : Adc, old.int .overload = (c.adc i).int .overload
        ∧ c'.adc i = (sendAdcData stack s.adc i).store .client old
    else
      c'.adc i = c.adc i
  satMode : c'.satMode = c.satMode

theorem receive_vfo (h : ∀ v, VfoInWireRange (s.vfo v)) (v : Fin 2)
    : receive stack s c (.vfo v)
        =
      some { c with vfo := Function.update c.vfo v (s.vfo v) } := by
  simp only [receive, infoVfo_sendVfoData (h v), Option.bind_eq_bind, Option.bind_some]

theorem receive_adc (i : Fin 3)
    : receive stack s c (.adc i)
        =
      some { c with
        adc := Function.update c.adc i ((sendAdcData stack s.adc i).store .client (c.adc i)) } := by
  simp only [receive, infoAdc_sendAdcData, Option.bind_eq_bind, Option.bind_some]

variable (stack) in
theorem received_replies (h : ∀ v, VfoInWireRange (s.vfo v)) (rs : List Reply) (c : RadioState)
    : ∃ c', rs.foldlM (receive stack s) c = some c' ∧ Received stack s rs c c' := by
  induction rs generalizing c with
  | nil =>
    exists c
    refine ⟨rfl, ?_, ?_, rfl⟩ <;> simp
  | cons r rs ih =>
    cases r with
    | vfo v =>
      have ⟨c', hrun, hvfo, hadc, hsat⟩ := ih { c with vfo := Function.update c.vfo v (s.vfo v) }
      exists c'
      rw [List.foldlM_cons, receive_vfo h]
      refine ⟨hrun, ?_, ?_, hsat⟩
      . intro v'
        rw [hvfo]
        by_cases hv : v' = v
        . simp [hv]
        . simp [hv]
      . intro i
        simpa using hadc i
    | adc i =>
      have ⟨c', hrun, hvfo, hadc, hsat⟩ := ih { c with
        adc := Function.update c.adc i ((sendAdcData stack s.adc i).store .client (c.adc i)) }
      exists c'
      rw [List.foldlM_cons, receive_adc]
      refine ⟨hrun, ?_, ?_, hsat⟩
      . intro v
        simpa using hvfo v
      . intro i'
        have hadc := hadc i'
        by_cases hi : i' = i
        . subst hi
          simp only [Function.update_self, List.mem_cons, true_or, if_true] at hadc ⊢
          split at hadc
          next hmem =>
            obtain ⟨old, hold, hstored⟩ := hadc
            exact ⟨old, hold, hstored⟩
          next hmem => exact ⟨c.adc i', rfl, hadc⟩
        . simpa [hi, Function.update_of_ne hi] using hadc

theorem transferred_received_iff (h : ∀ i, (s.adc i).InWireRange AdcInt.wire)
    (hoverload : ∀ i, (c.adc i).int .overload = (s.adc i).int .overload)
    (hreceived : Received stack s rs c c')
    : (∀ i, (s.adc i).Transferred (c'.adc i)) ↔ AdcsArrive rs s.adc c.adc := by
  apply forall_congr'
  intro i
  have hadc := hreceived.adc i
  split at hadc
  next hmem =>
    obtain ⟨old, hold, hstored⟩ := hadc
    rw [if_pos hmem, hstored, store_sendAdcData_transferred_iff (h i)]
    simp [AdcInt.unread, AdcDouble.unread, hold, hoverload]
  next hmem => rw [if_neg hmem, hadc]

theorem mirrored_replies_iff (h : s.Fits)
    (hoverload : ∀ i, (c.adc i).int .overload = (s.adc i).int .overload)
    : (∃ c', rs.foldlM (receive stack s) c = some c' ∧ Mirrored s c')
        ↔
      Kept rs s c ∧ AdcsArrive rs s.adc c.adc := by
  have ⟨c', hrun, hreceived⟩ := received_replies stack h.inWireRange rs c
  have hadc := transferred_received_iff h.adcFits hoverload hreceived
  constructor
  . intro ⟨c'', hrun', hmirrored⟩
    have heq : c' = c'' := Option.some.inj (hrun.symm.trans hrun')
    subst heq
    apply And.intro _ (hadc.mp hmirrored.adc)
    constructor
    . intro v hv
      rw [← hmirrored.vfo v, hreceived.vfo v, if_neg hv]
    . rw [← hmirrored.satMode, hreceived.satMode]
  . intro ⟨hkept, harrive⟩
    exists c'
    apply And.intro hrun
    constructor
    . intro v
      rw [hreceived.vfo v]
      split
      next => rfl
      next hv => apply hkept.vfo v hv
    . apply hadc.mpr harrive
    . rw [hreceived.satMode, hkept.satMode]

end

-- the bands of the two halves of a memory slot
def slotBands (slot : Mem) (id : Fin 2) : BandIndex :=
  (bandIndex? (if id = 0 then slot.bd else slot.altBd)).getD 0

-- modes, filters and entries of a band stack that exist
def Request.Exists (s : RadioState) : Request → Prop
  | .mode _ m => ModeExists m
  | .filter _ f => Wire.u8.InRange f
  | .bandstack _ b => (s.bands (s.vfo s.config.activeReceiver).band).bandstack.Contains b
  | _ => True

def replies (s : RadioState) : Request → List Reply
  | .ctun id _ => [.vfo id]
  | .mode id _ => [.vfo id]
  | .bandstack _ _ =>
    [.vfo s.config.activeReceiver, .adc (s.config.rxAdc s.config.activeReceiver)]
  | .band _ _ => [.vfo 0, .vfo 1, .adc 0, .adc 1]
  | .filter _ _ => []
  | .recallMemory _ => [.vfo s.config.activeReceiver, .adc (s.config.rxAdc s.config.activeReceiver)]
  | .aToB => .vfo 1 :: if s.config.receivers > 1 then [.adc (s.config.rxAdc 1)] else []
  | .bToA => [.vfo 0, .adc (s.config.rxAdc 0)]
  | .swap => [.vfo 0, .vfo 1, .adc 0, .adc 0]

-- the ADCs with the settings of the bands that a request is about
def settings (s : RadioState) : Request → Adcs
  | .ctun _ _ => s.adc
  | .mode _ _ => s.adc
  | .bandstack _ b => s.bandstackSettings s.config.activeReceiver b
  | .band id b => s.bandSettings id b
  | .filter _ _ => s.adc
  | .recallMemory index => s.recallSettings (s.mem index) (slotBands (s.mem index))
  | .aToB => s.vfoSettings s.adc fun _ => (s.vfo 0).band
  | .bToA => s.vfoSettings s.adc fun _ => (s.vfo 1).band
  | .swap => s.vfoSettings s.adc fun id => (s.vfo (1 - id)).band

-- a memory slot contains what the server has in the VFO without a reply
def SlotLoaded (s : RadioState) (slot : Mem) : Prop :=
  let id := 1 - s.config.activeReceiver
  slot.satMode = s.satMode
    ∧ if slot.satMode = satModeNone then
        s.settled id = s.vfo id
      else
        s.settle id ((s.vfo id).loadSlot s.bands (slotBands slot id)
          (RadioState.slotEntry slot id)) = s.vfo id

/--
A request leaves the VFOs alone that no reply carries, and the satellite mode.
-/
def LeavesRest (s : RadioState) : Request → Prop
  | .mode id m => id = s.config.activeReceiver ∨ s.ModeLoaded s.config.activeReceiver m
  | .bandstack _ _ =>
    s.settled (1 - s.config.activeReceiver) = s.vfo (1 - s.config.activeReceiver)
  | .recallMemory index => SlotLoaded s (s.mem index)
  | .aToB => s.settled 0 = s.vfo 0
  | .bToA => s.settled 1 = s.vfo 1
  | _ => True

/--
What the server does with a request.
-/
structure Answered (s c : RadioState) (r : Request) (s' : RadioState) : Prop where
  command : remoteCommand s (request c r).2 = some (s', replies s r)
  fits : s'.Fits
  adc : s'.adc = settings s r
  kept : Kept (replies s r) s' (request c r).1 ↔ LeavesRest s r

section

variable {s c : RadioState} (h : s.Fits) (hmirrored : Mirrored s c)
include hmirrored

theorem kept_iff {s' c' : RadioState} {rs : List Reply} (hvfo : c'.vfo = c.vfo)
    (hsat : c'.satMode = c.satMode)
    : Kept rs s' c' ↔ (∀ v, .vfo v ∉ rs → s'.vfo v = s.vfo v) ∧ s'.satMode = s.satMode := by
  constructor
  . intro hkept
    constructor
    . intro v hv
      rw [← hkept.vfo v hv, hvfo, hmirrored.vfo]
    . rw [← hkept.satMode, hsat, hmirrored.satMode]
  . intro ⟨hvfo', hsat'⟩
    constructor
    . intro v hv
      rw [hvfo' v hv, hvfo, hmirrored.vfo]
    . rw [hsat', hsat, hmirrored.satMode]

include h

theorem answered_ctun (id : Fin 2) (state : Int) : Answered s c (.ctun id state) (cmdCtun s id (to8 state)) := by
  constructor
  . simp [request, remoteCommand, replies]
  . apply RadioState.fits_setVfo_of_eq h
    . have hzero : Wire.u64.InRange 0 := by decide
      refine { h.vfoFits id with
        ctun := Wire.inRange_decode .u8 (to8 state)
        offset := ?_
        ctunFrequency := (h.vfoFits id).frequency }
      split
      . exact hzero
      . exact (h.vfoFits id).offset
    . rfl
    . rfl
  . rfl
  . refine (kept_iff hmirrored rfl rfl).trans ?_
    apply iff_of_true _ trivial
    constructor
    . intro v hv
      have hne : v ≠ id := by simpa [replies] using hv
      simp [cmdCtun, Function.update_of_ne hne]
    . rfl

theorem answered_mode (id : Fin 2) {m : Int} (hm : ModeExists m)
    : Answered s c (.mode id m) (s.vfoModeChanged m) := by
  have hbyte : from8 (to8 m) = m := by
    apply from8_to8
    have := hm.1
    have := hm.2
    unfold Wire.InRange
    omega
  have hsat : (s.vfoModeChanged m).satMode = s.satMode := by
    simp [RadioState.vfoModeChanged]
  constructor
  . simp [request, remoteCommand, replies, hbyte]
  . apply RadioState.fits_vfoIdModeChanged h _ hm
  . apply RadioState.adc_vfoIdModeChanged
  . refine (kept_iff hmirrored rfl rfl).trans ?_
    simp only [replies, List.mem_singleton, Reply.vfo.injEq, hsat, and_true, LeavesRest]
    by_cases hid : s.config.activeReceiver = id
    . apply iff_of_true
      . intro v hv
        rw [← hid] at hv
        apply s.vfo_vfoIdModeChanged_of_ne hv
      . left
        exact hid.symm
    . rw [forall_ne_iff hid]
      simp only [Ne.symm hid, false_or]
      apply s.vfo_vfoIdModeChanged_self_iff

theorem answered_bandstack (id : Fin 2) {b : Int}
    (hb : (s.bands (s.vfo s.config.activeReceiver).band).bandstack.Contains b)
    : Answered s c (.bandstack id b) (s.vfoBandstackChanged b) := by
  have hbyte : from8 (to8 b) = b := by
    apply from8_to8
    have hentries := (h.bandFits (s.vfo s.config.activeReceiver).band).entries
    unfold BandstackState.Contains at hb
    unfold Wire.InRange
    omega
  constructor
  . simp [request, remoteCommand, replies, hbyte]
  . apply RadioState.fits_vfoIdBandstackChanged h _ hb
  . apply RadioState.adc_vfoIdBandstackChanged
  . refine (kept_iff hmirrored ?_ ?_).trans ?_
    . dsimp only [request]
      split <;> rfl
    . dsimp only [request]
      split <;> rfl
    . simp only [replies, List.mem_cons, Reply.vfo.injEq, reduceCtorEq, List.not_mem_nil, or_false,
        RadioState.vfoBandstackChanged, s.satMode_vfoIdBandstackChanged, and_true, LeavesRest]
      rw [forall_ne_iff (RadioState.other_ne _),
        s.vfo_vfoIdBandstackChanged_of_ne _ _ (RadioState.other_ne _)]

theorem answered_band (id : Fin 2) (b : BandIndex) : Answered s c (.band id b) (s.vfoIdBandChanged id b) := by
  constructor
  . simp [request, remoteCommand, replies]
  . apply RadioState.fits_vfoIdBandChanged h
  . apply RadioState.adc_vfoIdBandChanged
  . refine (kept_iff hmirrored rfl rfl).trans ?_
    apply iff_of_true _ trivial
    constructor
    . intro v hv
      have hall : v = 0 ∨ v = 1 := by omega
      simp [replies] at hv
      omega
    . apply RadioState.satMode_vfoIdBandChanged

theorem answered_filter (id : Fin 2) {f : Int} (hf : Wire.u8.InRange f)
    : Answered s c (.filter id f) (s.vfoIdFilterChanged id f) := by
  constructor
  . simp [request, remoteCommand, replies, from8_to8 hf]
  . apply RadioState.fits_vfoIdFilterChanged h _ hf
  . apply RadioState.adc_vfoIdFilterChanged
  . apply iff_of_true _ trivial
    constructor
    . intro v _
      simp only [request, RadioState.toTuningState_setVfo, TuningState.vfo_setVfo,
        RadioState.toTuningState_vfoIdFilterChanged]
      rw [hmirrored.vfo id, funext hmirrored.vfo]
    . rw [RadioState.toTuningState_vfoIdFilterChanged]
      exact hmirrored.satMode

theorem answered_recall (index : Fin numMemories)
    : Answered s c (.recallMemory index) (s.recallSlot (s.mem index) (slotBands (s.mem index))) := by
  have hslot := h.slotFits index
  have hband (id : Fin 2)
      : bandIndex? (if id = 0 then (s.mem index).bd else (s.mem index).altBd)
        = some (slotBands (s.mem index) id) := by
    have hsome : (bandIndex? (if id = 0 then (s.mem index).bd else (s.mem index).altBd)).isSome := by
      split
      . exact hslot.bd
      . exact hslot.altBd
    unfold slotBands
    rw [Option.getD_of_ne_none (Option.isSome_iff_ne_none.mp hsome)]
  have hrecall := s.recallMemorySlot_eq (hband 0) (hband 1)
  have hbyte : (to8 (index : Nat)).toNat = index := by
    apply toNat_to8
    have := index.isLt
    unfold numMemories at this
    omega
  have hlt : (to8 (index : Nat)).toNat < numMemories := by omega
  have hindex : (⟨(to8 (index : Nat)).toNat, hlt⟩ : Fin numMemories) = index := Fin.ext hbyte
  constructor
  . dsimp only [request, remoteCommand]
    rw [dif_pos hlt, hindex, hrecall]
    rfl
  . apply RadioState.fits_recallSlot h hslot
  . apply RadioState.adc_recallSlot
  . refine (kept_iff hmirrored rfl rfl).trans ?_
    dsimp only [LeavesRest, SlotLoaded]
    rw [s.satMode_recallSlot, and_comm]
    apply and_congr_right
    intro hsat
    simp only [replies, List.mem_cons, Reply.vfo.injEq, reduceCtorEq, List.not_mem_nil, or_false]
    rw [forall_ne_iff (RadioState.other_ne _)]
    split
    next hnone => rw [s.vfo_recallSlot_of_ne _ hnone (RadioState.other_ne _)]
    next hnone => rw [s.vfo_recallSlot_eq_iff _ hnone]

theorem answered_aToB : Answered s c .aToB s.vfoAToB := by
  constructor
  . rfl
  . apply RadioState.fits_vfoAToB h
  . apply RadioState.adc_vfoAToB
  . have hsat : s.vfoAToB.satMode = s.satMode := by
      simp [RadioState.vfoAToB, RadioState.loadProfileIf_eq]
    have hreply (v : Fin 2) : .vfo v ∉ replies s .aToB ↔ v ≠ 1 := by
      dsimp only [replies]
      split <;> simp
    refine (kept_iff hmirrored rfl rfl).trans ?_
    simp only [hreply, hsat, and_true, LeavesRest]
    rw [forall_ne_iff (show (0 : Fin 2) ≠ 1 by decide), s.vfo_vfoAToB_zero]

theorem answered_bToA : Answered s c .bToA s.vfoBToA := by
  constructor
  . rfl
  . apply RadioState.fits_vfoBToA h
  . apply RadioState.adc_vfoBToA
  . have hsat : s.vfoBToA.satMode = s.satMode := by
      simp [RadioState.vfoBToA, RadioState.loadProfileIf_eq]
    have hreply (v : Fin 2) : .vfo v ∉ replies s .bToA ↔ v ≠ 0 := by
      simp [replies]
    refine (kept_iff hmirrored rfl rfl).trans ?_
    simp only [hreply, hsat, and_true, LeavesRest]
    rw [forall_ne_iff (show (1 : Fin 2) ≠ 0 by decide), s.vfo_vfoBToA_one]

theorem answered_swap : Answered s c .swap s.vfoASwapB := by
  constructor
  . rfl
  . apply RadioState.fits_vfoASwapB h
  . apply RadioState.adc_vfoASwapB
  . have hsat : s.vfoASwapB.satMode = s.satMode := by
      simp [RadioState.vfoASwapB, RadioState.loadProfileIf_eq]
    refine (kept_iff hmirrored rfl rfl).trans ?_
    apply iff_of_true _ trivial
    apply And.intro _ hsat
    intro v hv
    simp [replies] at hv
    omega

theorem answered {r : Request} (hr : r.Exists s) : ∃ s', Answered s c r s' := by
  cases r with
  | ctun id state => exact ⟨_, answered_ctun h hmirrored id state⟩
  | mode id m => exact ⟨_, answered_mode h hmirrored id hr⟩
  | bandstack id b => exact ⟨_, answered_bandstack h hmirrored id hr⟩
  | band id b => exact ⟨_, answered_band h hmirrored id b⟩
  | filter id f => exact ⟨_, answered_filter h hmirrored id hr⟩
  | recallMemory index => exact ⟨_, answered_recall h hmirrored index⟩
  | aToB => exact ⟨_, answered_aToB h hmirrored⟩
  | bToA => exact ⟨_, answered_bToA h hmirrored⟩
  | swap => exact ⟨_, answered_swap h hmirrored⟩

end

theorem settings_invariant {s : RadioState} (h : s.Fits) {P : Adcs → Prop} (hP : AdcInvariant P)
    (hadc : P s.adc) (r : Request)
    : P (settings s r) := by
  cases r with
  | ctun | mode | filter => exact hadc
  | bandstack id b => apply h.bandstackSettings hP hadc
  | band id b => apply h.bandSettings hP hadc
  | recallMemory index => apply h.recallSettings hP hadc
  | aToB | bToA | swap => apply h.vfoSettings hP hadc

theorem adc_request (c : RadioState) (r : Request) : (request c r).1.adc = c.adc := by
  cases r with
  | bandstack id b =>
    dsimp only [request]
    split <;> rfl
  | _ => rfl

theorem exchange_eq {stack : AdcData} {s c s' : RadioState} {r : Request} {rs : List Reply}
    (h : remoteCommand s (request c r).2 = some (s', rs))
    : exchange stack s c r = (rs.foldlM (receive stack s') (request c r).1).map (s', ·) := by
  simp only [exchange, h, Option.bind_eq_bind, Option.bind_some]
  cases rs.foldlM (receive stack s') (request c r).1 <;> rfl

theorem mirrored_answered_iff {stack : AdcData} {s c s' : RadioState} {r : Request}
    (h : s.Fits) (hmirrored : Mirrored s c) (hanswered : Answered s c r s')
    : (∃ s'' c', exchange stack s c r = some (s'', c') ∧ Mirrored s'' c')
        ↔
      LeavesRest s r ∧ AdcsArrive (replies s r) (settings s r) c.adc := by
  have hoverload (i : Fin 3)
      : ((request c r).1.adc i).int .overload = (s'.adc i).int .overload := by
    have hset := settings_invariant h (adcInvariant_overload fun i => (s.adc i).int .overload)
      (fun _ => rfl) r i
    rw [adc_request, hanswered.adc, hset, (hmirrored.adc i).int .overload]
  have hreplies : (∃ s'' c', exchange stack s c r = some (s'', c') ∧ Mirrored s'' c')
      ↔ ∃ c', (replies s r).foldlM (receive stack s') (request c r).1 = some c' ∧ Mirrored s' c' := by
    rw [exchange_eq hanswered.command]
    cases (replies s r).foldlM (receive stack s') (request c r).1 <;> simp
  rw [hreplies, mirrored_replies_iff hanswered.fits hoverload, hanswered.kept, hanswered.adc,
    adc_request]

/--
The replies make the client a mirror of the server again if and only if the request leaves alone
what they leave out.
-/
theorem mirrored_exchange_iff (stack : AdcData) (s c : RadioState) (r : Request) (h : s.Fits)
    (hmirrored : Mirrored s c) (hr : r.Exists s)
    : (∃ s' c', exchange stack s c r = some (s', c') ∧ Mirrored s' c')
        ↔
      LeavesRest s r ∧ AdcsArrive (replies s r) (settings s r) c.adc := by
  have ⟨s', hanswered⟩ := answered h hmirrored hr
  apply mirrored_answered_iff h hmirrored hanswered

/-!
A slot without a satellite mode, for the band that VFO A is on already.
-/

theorem mirrored_self (s : RadioState) (h : ∀ i g, (s.adc i).double g = 0) : Mirrored s s where
  vfo _ := rfl
  adc i := by
    constructor
    . intro f
      rfl
    . intro g
      rw [h]
      apply reproduces_zero
  satMode := rfl

theorem leavesRest_initialState : LeavesRest initialState (.recallMemory 0) := by
  have hnone : (initialState.mem 0).satMode = satModeNone := rfl
  refine ⟨rfl, ?_⟩
  rw [if_pos hnone]
  decide

theorem adcsArrive_initialState
    : AdcsArrive (replies initialState (.recallMemory 0)) (settings initialState (.recallMemory 0))
        initialState.adc := by
  have hreply (i : Fin 3) : .adc i ∈ replies initialState (.recallMemory 0) ↔ i = 0 := by
    revert i
    decide
  intro i
  by_cases hi : i = 0
  . subst hi
    rw [if_pos ((hreply 0).mpr rfl)]
    rfl
  . have hset : settings initialState (.recallMemory 0) i = initialState.adc i := by
      have hother : i = 1 ∨ i = 2 := by omega
      cases hother with
      | inl h => rw [h]; rfl
      | inr h => rw [h]; rfl
    rw [if_neg (hi ∘ (hreply i).mp), hset]
    apply (mirrored_self initialState fun _ _ => rfl).adc

theorem mirrored_exchange_recall
    : ∃ s' c', exchange { int := fun _ => 0, double := fun _ => 0, adc := 0 } initialState
        initialState (.recallMemory 0) = some (s', c') ∧ Mirrored s' c' := by
  apply (mirrored_exchange_iff _ initialState initialState (.recallMemory 0) fits_initialState
    (mirrored_self initialState fun _ _ => rfl) trivial).mpr
  exact ⟨leavesRest_initialState, adcsArrive_initialState⟩

-- a slot for two VFOs and the mode of the satellite
def satelliteSlotState : RadioState :=
  { initialState with mem := fun _ => { initialMem with satMode := satModeSat } }

theorem fits_satelliteSlotState : satelliteSlotState.Fits :=
  { fits_initialState with slotFits := fun _ => { slotFits_initialMem with } }

theorem not_mirrored_exchange
    : ¬ ∀ (stack : AdcData) (s c : RadioState) (r : Request), s.Fits → Mirrored s c → r.Exists s →
        ∃ s' c', exchange stack s c r = some (s', c') ∧ Mirrored s' c' := by
  intro h
  have hmirrored := mirrored_self satelliteSlotState fun _ _ => rfl
  have hexchange := h { int := fun _ => 0, double := fun _ => 0, adc := 0 } satelliteSlotState
    satelliteSlotState (.recallMemory 0) fits_satelliteSlotState hmirrored trivial
  have hanswered := answered_recall fits_satelliteSlotState hmirrored 0
  have ⟨hslot, _⟩ := (mirrored_answered_iff fits_satelliteSlotState hmirrored hanswered).mp hexchange
  have hsat := hslot.1
  revert hsat
  decide

end ClientServer.Remote
