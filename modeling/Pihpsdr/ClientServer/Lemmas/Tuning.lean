import Pihpsdr.Lib.Run
import Pihpsdr.ClientServer.Impl.Tuning
import Pihpsdr.ClientServer.Lemmas.Wire
import Mathlib.Algebra.BigOperators.Group.List.Lemmas
import Pihpsdr.ClientServer.Lemmas.VfoData
import Pihpsdr.Vfo.Lemmas.Tuning

/-!
The amounts of tuning that the client is asked for are either applied, in flight or pending, as long
as no sum leaves its type and the timer finds no sum of steps that is too large for 16 bits.
-/

namespace ClientServer

theorem from16_to16_eq_iff {x : Int}
    : from16 (to16 x) = x ↔ Wire.u16.InRange x := by
  constructor
  . intro h
    rw [← h]
    apply Wire.inRange_decode .u16
  . apply from16_to16

theorem from64_to64_toInt (x : BitVec 64)
    : from64 (to64 x.toInt) = x.toInt := by
  apply from64_to64
  exact ⟨BitVec.le_toInt _, BitVec.toInt_lt⟩

theorem toInt_add_eq_iff {n : Nat} (x y : BitVec (n + 1))
    : (x + y).toInt = x.toInt + y.toInt
        ↔
      -2 ^ n ≤ x.toInt + y.toInt ∧ x.toInt + y.toInt < 2 ^ n := by
  constructor
  . intro h
    rw [← h]
    exact ⟨BitVec.le_toInt _, BitVec.toInt_lt⟩
  . intro h
    have := toInt_ofInt h.1 h.2
    rw [BitVec.ofInt_add, BitVec.ofInt_toInt, BitVec.ofInt_toInt] at this
    exact this

namespace Tuning

@[simp]
theorem total_nil (amount : Tuning → Int)
    : total amount [] = 0 := rfl

@[simp]
theorem total_cons (amount : Tuning → Int) (call : Tuning) (calls : List Tuning)
    : total amount (call :: calls) = amount call + total amount calls := by
  simp [total]

@[simp]
theorem total_append (amount : Tuning → Int) (calls calls' : List Tuning)
    : total amount (calls ++ calls') = total amount calls + total amount calls' := by
  simp [total]

theorem total_perm (amount : Tuning → Int) {calls calls' : List Tuning} (h : calls.Perm calls')
    : total amount calls = total amount calls' := by
  apply List.Perm.sum_eq
  apply h.map

end Tuning

theorem remoteCommand_sendVfoStep (v : Fin 2) (n : BitVec 32)
    : (sendVfoStep v n).remoteCommand = some (.step v (from16 (to16 n.toInt))) := by
  have := v.isLt
  rw [sendVfoStep, TuningMessage.remoteCommand, toNat_to8 (by omega)]

theorem remoteCommand_sendVfoMove (v : Fin 2) (hz : BitVec 64) (round : BitVec 32)
    : (sendVfoMove v hz round).remoteCommand
        =
      some (.move v hz.toInt (to8 round.toInt).toNat) := by
  have := v.isLt
  rw [sendVfoMove, TuningMessage.remoteCommand, toNat_to8 (by omega), from64_to64_toInt]

namespace TuningLink

variable (s : TuningLink) (v w : Fin 2)

@[simp]
theorem pendingCalls_ping
    : s.ping.pendingCalls = s.pendingCalls := by
  unfold ping
  split
  . simp [pendingCalls, TuningMessage.remoteCommand]
  . rfl

@[simp]
theorem steps_ping
    : s.ping.steps w = s.steps w := by
  unfold steps
  rw [pendingCalls_ping]
  unfold ping
  split <;> rfl

@[simp]
theorem hz_ping
    : s.ping.hz w = s.hz w := by
  unfold hz
  rw [pendingCalls_ping]
  unfold ping
  split <;> rfl

@[simp]
theorem accumulatedSteps_ping
    : s.ping.accumulatedSteps = s.accumulatedSteps := by
  unfold ping
  split <;> rfl

@[simp]
theorem accumulatedSteps_flushHz
    : (s.flushHz v).accumulatedSteps = s.accumulatedSteps := by
  unfold flushHz
  split <;> rfl

theorem accumulatedSteps_flushSteps (h : v ≠ w)
    : (s.flushSteps v).accumulatedSteps w = s.accumulatedSteps w := by
  unfold flushSteps
  split
  . apply Function.update_of_ne h.symm
  . rfl

@[simp]
theorem requested_checkVfo
    : s.checkVfo.requested = s.requested := by
  have hping : s.ping.requested = s.requested := by
    unfold ping
    split <;> rfl
  have hsteps : ∀ (s : TuningLink) v, (s.flushSteps v).requested = s.requested := by
    intro s v
    unfold flushSteps
    split <;> rfl
  have hhz : ∀ (s : TuningLink) v, (s.flushHz v).requested = s.requested := by
    intro s v
    unfold flushHz
    split <;> rfl
  rw [checkVfo, hhz, hsteps, hhz, hsteps, hping]

-- What the 16 bits of the message make of a sum of steps is all that changes.
theorem steps_flushSteps
    : (s.flushSteps v).steps w
        =
      if v = w then
        s.steps w + from16 (to16 (s.accumulatedSteps w).toInt) - (s.accumulatedSteps w).toInt
      else
        s.steps w := by
  unfold flushSteps
  split
  next h =>
    simp only [steps, pendingCalls, List.filterMap_append, List.filterMap_cons,
      List.filterMap_nil, remoteCommand_sendVfoStep, Tuning.total_append, Tuning.total_cons,
      Tuning.total_nil, Tuning.steps]
    by_cases hvw : v = w
    . subst hvw
      simp
      omega
    . have hval : v.val ≠ w.val := fun h => hvw (Fin.ext h)
      rw [Function.update_of_ne (Ne.symm hvw), if_neg hval, if_neg hvw]
      omega
  next h =>
    split
    next hvw =>
      subst hvw
      have hzero : s.accumulatedSteps v = 0 := not_not.mp h
      have : from16 (to16 0) = 0 := from16_to16 (by decide)
      simp [hzero, this]
    next hvw => rfl

@[simp]
theorem hz_flushSteps
    : (s.flushSteps v).hz w = s.hz w := by
  unfold flushSteps
  split
  . simp [hz, pendingCalls, remoteCommand_sendVfoStep, Tuning.hz]
  . rfl

@[simp]
theorem steps_flushHz
    : (s.flushHz v).steps w = s.steps w := by
  unfold flushHz
  split
  . simp [steps, pendingCalls, remoteCommand_sendVfoMove, Tuning.steps]
  . rfl

@[simp]
theorem hz_flushHz
    : (s.flushHz v).hz w = s.hz w := by
  unfold flushHz
  split
  . simp only [hz, pendingCalls, List.filterMap_append, List.filterMap_cons,
      List.filterMap_nil, remoteCommand_sendVfoMove, Tuning.total_append, Tuning.total_cons,
      Tuning.total_nil, Tuning.hz]
    by_cases hvw : v = w
    . subst hvw
      simp
      omega
    . have hval : v.val ≠ w.val := fun h => hvw (Fin.ext h)
      rw [Function.update_of_ne (Ne.symm hvw), if_neg hval]
      omega
  . rfl

theorem steps_checkVfo
    : s.checkVfo.steps w
        =
      s.steps w + from16 (to16 (s.accumulatedSteps w).toInt) - (s.accumulatedSteps w).toInt := by
  rw [checkVfo, steps_flushHz, steps_flushSteps, steps_flushHz, steps_flushSteps, steps_ping]
  match w with
  | 0 => simp
  | 1 => simp [accumulatedSteps_flushSteps]

theorem hz_checkVfo
    : s.checkVfo.hz w = s.hz w := by
  simp [checkVfo]

theorem pendingCalls_process (i : Nat)
    : (s.pendingCalls ++ s.applied).Perm ((s.process i).pendingCalls ++ (s.process i).applied) := by
  unfold process
  split
  next => rfl
  next message hget =>
    have ⟨hlt, hmessage⟩ := List.getElem?_eq_some_iff.mp hget
    have hperm := (List.getElem_cons_eraseIdx_perm hlt).filterMap TuningMessage.remoteCommand
    rw [hmessage] at hperm
    have hcons : (message :: s.inFlight.eraseIdx i).filterMap TuningMessage.remoteCommand
        =
      message.remoteCommand.toList
        ++ (s.inFlight.eraseIdx i).filterMap TuningMessage.remoteCommand := by
      cases h : message.remoteCommand <;> simp [h]
    rw [hcons] at hperm
    simp only [pendingCalls]
    apply (hperm.symm.append_right s.applied).trans
    rw [List.append_assoc]
    apply List.perm_append_comm.trans
    rw [List.append_assoc]

theorem process_frame (i : Nat)
    : (s.process i).requested = s.requested
        ∧ (s.process i).accumulatedSteps = s.accumulatedSteps
        ∧ (s.process i).accumulatedHz = s.accumulatedHz := by
  unfold process
  split <;> exact ⟨rfl, rfl, rfl⟩

theorem total_process (amount : Tuning → Int) (i : Nat)
    : Tuning.total amount (s.process i).applied + Tuning.total amount (s.process i).pendingCalls
        =
      Tuning.total amount s.applied + Tuning.total amount s.pendingCalls := by
  have h := Tuning.total_perm amount (s.pendingCalls_process i)
  rw [Tuning.total_append, Tuning.total_append] at h
  omega

variable {s}

theorem conserved_updateVfoStep_iff (h : s.Conserved) (n : BitVec 32)
    : (s.updateVfoStep v n).Conserved ↔ s.Fits (.step v n) := by
  have hown : (s.updateVfoStep v n).steps v
      = Tuning.total (Tuning.steps v) (s.updateVfoStep v n).requested
        ↔ (s.accumulatedSteps v + n).toInt = (s.accumulatedSteps v).toInt + n.toInt := by
    have := h.steps v
    simp only [steps] at this
    simp [steps, updateVfoStep, pendingCalls, Tuning.steps] at this ⊢
    omega
  constructor
  . intro h'
    apply (toInt_add_eq_iff _ _).mp
    exact hown.mp (h'.steps v)
  . intro hfits
    constructor
    . intro w
      by_cases hvw : v = w
      . subst hvw
        exact hown.mpr ((toInt_add_eq_iff _ _).mpr hfits)
      . have hval : v.val ≠ w.val := fun h => hvw (Fin.ext h)
        have := h.steps w
        simp only [steps] at this
        simp [steps, updateVfoStep, pendingCalls, Tuning.steps, hval,
          Function.update_of_ne (Ne.symm hvw)] at this ⊢
        omega
    . intro w
      have := h.hz w
      simp [hz, updateVfoStep, pendingCalls, Tuning.hz] at this ⊢
      omega

theorem conserved_updateVfoMove_iff (h : s.Conserved) (hz : BitVec 64) (round : BitVec 32)
    : (s.updateVfoMove v hz round).Conserved ↔ s.Fits (.move v hz round) := by
  have hown : (s.updateVfoMove v hz round).hz v
      = Tuning.total (Tuning.hz v) (s.updateVfoMove v hz round).requested
        ↔ (s.accumulatedHz v + hz).toInt = (s.accumulatedHz v).toInt + hz.toInt := by
    have := h.hz v
    simp only [TuningLink.hz] at this
    simp [TuningLink.hz, updateVfoMove, pendingCalls, Tuning.hz] at this ⊢
    omega
  constructor
  . intro h'
    apply (toInt_add_eq_iff _ _).mp
    exact hown.mp (h'.hz v)
  . intro hfits
    constructor
    . intro w
      have := h.steps w
      simp [steps, updateVfoMove, pendingCalls, Tuning.steps] at this ⊢
      omega
    . intro w
      by_cases hvw : v = w
      . subst hvw
        exact hown.mpr ((toInt_add_eq_iff _ _).mpr hfits)
      . have hval : v.val ≠ w.val := fun h => hvw (Fin.ext h)
        have := h.hz w
        simp only [TuningLink.hz] at this
        simp [TuningLink.hz, updateVfoMove, pendingCalls, Tuning.hz, hval,
          Function.update_of_ne (Ne.symm hvw)] at this ⊢
        omega

theorem conserved_checkVfo_iff (h : s.Conserved)
    : s.checkVfo.Conserved ↔ s.Fits .timer := by
  have hown : ∀ v, s.checkVfo.steps v = Tuning.total (Tuning.steps v) s.checkVfo.requested
      ↔ Wire.u16.InRange (s.accumulatedSteps v).toInt := by
    intro v
    have := h.steps v
    rw [steps_checkVfo, requested_checkVfo, ← from16_to16_eq_iff]
    omega
  constructor
  . intro h' v
    exact (hown v).mp (h'.steps v)
  . intro hfits
    constructor
    . intro v
      exact (hown v).mpr (hfits v)
    . intro v
      rw [hz_checkVfo, requested_checkVfo]
      exact h.hz v

theorem conserved_process (h : s.Conserved) (i : Nat)
    : (s.process i).Conserved := by
  have ⟨hrequested, hsteps, hhz⟩ := s.process_frame i
  constructor
  . intro v
    rw [steps, total_process, hrequested, hsteps]
    exact h.steps v
  . intro v
    rw [hz, total_process, hrequested, hhz]
    exact h.hz v

theorem conserved_step_iff (h : s.Conserved) (e : Event)
    : (s.step e).Conserved ↔ s.Fits e := by
  cases e with
  | move v hz round => apply conserved_updateVfoMove_iff v h
  | step v n => apply conserved_updateVfoStep_iff v h
  | timer => apply conserved_checkVfo_iff h
  | process i =>
    constructor
    . intro _
      exact trivial
    . intro _
      apply conserved_process h

theorem conserved_initial
    : initial.Conserved := by
  constructor <;> intro v <;> rfl

theorem conserved_iff_fits (events : List Event)
    : (∀ events', events' <+: events → (Run.exec step initial events').Conserved)
        ↔
      Run.Along step Fits initial events := by
  apply Run.forall_prefix_iff_along
  . intro s e h
    apply conserved_step_iff h
  . apply conserved_initial

-- 32768 steps between two calls of the timer routine arrive as as many steps down.
theorem not_conserved_steps
    : ¬ ∀ events', events' <+: [.step 0 32768, .timer] →
          (Run.exec step initial events').Conserved := by
  rw [conserved_iff_fits]
  intro h
  have htimer := h.2.1 0
  revert htimer
  decide

end TuningLink

end ClientServer

/-!
CTUN on the radio and over the link. The server does not call `vfo_id_ctun_update` but has its own
code for the command, which keeps the frequency of the VFO when CTUN ends.
-/

-- the fields of a VFO that a change of CTUN is about
def VfoState.ctunPart (v : VfoState) : Int × Int × Int × Int :=
  (v.frequency, v.ctun, v.ctunFrequency, v.offset)

namespace RadioState

variable (s : RadioState) (id : Fin 2)

-- the part of the offset that does not come from CTUN
def ritOffset (s : RadioState) (id : Fin 2) : Int :=
  if s.Running id ∧ (s.vfo id).ritEnabled ≠ 0 then (s.vfo id).rit else 0

-- Without a distance between the two frequencies the CTUN window has nothing to move.
theorem ctunPart_frequencyChanged {v : VfoState} (h : v.ctun ≠ 0 → v.ctunFrequency = v.frequency)
    (rx : Passband) (rate : Int)
    : (v.frequencyChanged rx rate).ctunPart
        =
      (v.frequency, v.ctun, v.ctunFrequency, if v.ritEnabled ≠ 0 then v.rit else 0) := by
  dsimp only [VfoState.frequencyChanged]
  split
  next hctun => simp [VfoState.ctunPart, h hctun]
  next => rfl

theorem ctunPart_setDial_frequencyChanged {v : VfoState} {f : Int} (hf : v.frequency = f)
    (hctun : v.ctunFrequency = f) (rx : Passband) (rate : Int)
    : ((v.setDial f).frequencyChanged rx rate).ctunPart
        =
      (f, v.ctun, f, if v.ritEnabled ≠ 0 then v.rit else 0) := by
  have hset : v.setDial f = v := by
    unfold VfoState.setDial
    split
    . rw [← hctun]
    . rw [← hf]
  rw [hset, ctunPart_frequencyChanged (fun _ => hctun.trans hf.symm), hf, hctun]

-- how both directions end: the two frequencies are `f`, and the offset is without CTUN
theorem ctunPart_settled {v : VfoState} {f : Int} (hf : v.frequency = f)
    (hctun : v.ctunFrequency = f) (hoffset : v.offset = 0)
    (hrit : v.ritEnabled = (s.vfo id).ritEnabled ∧ v.rit = (s.vfo id).rit)
    : let s' := (s.setVfo id v).vfoIdAdjustBand id f
      ((if s'.Running id then s'.rxSetFrequency id f else s').vfo id).ctunPart
        =
      (f, v.ctun, f, s.ritOffset id) := by
  intro s'
  have hvfo : s'.vfo id = v.adjustBand s.config s.bands f := by
    simp [s']
  have hrunning : s'.Running id ↔ s.Running id := by
    simp [s']
  unfold ritOffset
  split
  next hrun =>
    rw [hrunning] at hrun
    simp only [rxSetFrequency, toTuningState_rxFrequencyChanged, toTuningState_setVfo,
      TuningState.vfo_setVfo, Function.update_self, hvfo]
    rw [ctunPart_setDial_frequencyChanged] <;> simp [VfoState.adjustBand_eq, hf, hctun, hrun, hrit]
  next hrun =>
    rw [hrunning] at hrun
    rw [hvfo]
    simp [VfoState.adjustBand_eq, VfoState.ctunPart, hf, hctun, hrun, hoffset]

theorem ctunPart_vfoIdCtunUpdate (state : Int)
    : ((s.vfoIdCtunUpdate id state).vfo id).ctunPart
        =
      let v := s.vfo id
      if v.ctun = state then
        v.ctunPart
      else if state ≠ 0 then
        (v.frequency, state, v.frequency, s.ritOffset id)
      else
        (v.ctunFrequency, state, v.ctunFrequency, s.ritOffset id) := by
  dsimp only [vfoIdCtunUpdate]
  split
  . rfl
  . split
    . apply ctunPart_settled <;> simp
    . split
      next hrun => apply ctunPart_settled (s.setReceiver id _) <;> simp
      next => apply ctunPart_settled <;> simp

end RadioState

namespace ClientServer.Remote

/--
What CTUN by the command needs to be the same as on the radio: the value fits into its byte, a value
that the VFO has already changes nothing, the offset has its new value before, and at the end of
CTUN the VFO is on the same frequency with and without it.
-/
def CtunAgrees (s : RadioState) (id : Fin 2) (state : Int) : Prop :=
  let v := s.vfo id
  Wire.u8.InRange state
    ∧ (state = v.ctun → v.ctunFrequency = v.frequency ∧ (state = 0 → v.offset = 0))
    ∧ (state ≠ v.ctun → state ≠ 0 → v.offset = s.ritOffset id)
    ∧ (state ≠ v.ctun → state = 0 → v.frequency = v.ctunFrequency ∧ s.ritOffset id = 0)

theorem from8_to8_eq_iff {x : Int} : from8 (to8 x) = x ↔ Wire.u8.InRange x := by
  constructor
  . intro h
    have hrange : Wire.u8.InRange (from8 (to8 x)) := Wire.inRange_decode .u8 (to8 x)
    rwa [h] at hrange
  . intro h
    apply from8_to8 h

theorem cmdCtun_local_iff (s c : RadioState) (id : Fin 2) (state : Int)
    : (∃ s' replies, remoteCommand s (request c (.ctun id state)).2 = some (s', replies)
          ∧ (s'.vfo id).ctunPart = ((s.vfoIdCtunUpdate id state).vfo id).ctunPart)
        ↔
      CtunAgrees s id state := by
  have hcmd : remoteCommand s (request c (.ctun id state)).2
      = some (cmdCtun s id (to8 state), [.vfo id]) := by
    simp [request, remoteCommand]
  have hremote : ((cmdCtun s id (to8 state)).vfo id).ctunPart
      = ((s.vfo id).frequency, from8 (to8 state), (s.vfo id).frequency,
        if from8 (to8 state) = 0 then 0 else (s.vfo id).offset) := by
    simp [cmdCtun, VfoState.ctunPart]
  have hpart : (∃ s' replies, remoteCommand s (request c (.ctun id state)).2 = some (s', replies)
        ∧ (s'.vfo id).ctunPart = ((s.vfoIdCtunUpdate id state).vfo id).ctunPart)
      ↔ ((cmdCtun s id (to8 state)).vfo id).ctunPart
        = ((s.vfoIdCtunUpdate id state).vfo id).ctunPart := by
    simp [hcmd]
  rw [hpart, hremote, s.ctunPart_vfoIdCtunUpdate id state]
  dsimp only [CtunAgrees, VfoState.ctunPart]
  rw [← from8_to8_eq_iff]
  by_cases hsame : (s.vfo id).ctun = state
  . rw [if_pos hsame]
    simp only [Prod.mk.injEq]
    grind
  . rw [if_neg hsame]
    by_cases hzero : state = 0
    . rw [if_neg (not_not.mpr hzero)]
      simp only [Prod.mk.injEq]
      grind
    . rw [if_pos hzero]
      simp only [Prod.mk.injEq]
      grind

-- the receiver of VFO A is 1 kHz above its frequency
def ctunState : RadioState :=
  { initialState with
    vfo := fun _ => { initialVfo with ctun := 1, ctunFrequency := 14011000, offset := 1000 } }

theorem not_cmdCtun_local
    : ¬ ∀ (s c : RadioState) (id : Fin 2) (state : Int),
        ∃ s' replies, remoteCommand s (request c (.ctun id state)).2 = some (s', replies)
          ∧ (s'.vfo id).ctunPart = ((s.vfoIdCtunUpdate id state).vfo id).ctunPart := by
  intro h
  have ⟨s', replies, hcmd, hpart⟩ := h ctunState ctunState 0 0
  rw [ctunState.ctunPart_vfoIdCtunUpdate] at hpart
  have hs' : cmdCtun ctunState 0 (to8 0) = s' := congrArg Prod.fst (Option.some.inj hcmd)
  rw [← hs'] at hpart
  revert hpart
  decide

end ClientServer.Remote
