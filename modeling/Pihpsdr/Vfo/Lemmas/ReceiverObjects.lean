import Pihpsdr.Lib.Run
import Pihpsdr.Radio.Startup
import Pihpsdr.Vfo.Impl.ReceiverObjects
import Pihpsdr.Vfo.Lemmas.Untouched

/-!
Which operations only access VFOs and receivers that exist. The receivers of the user have the numbers of
the VFOs, and the feedback receivers have numbers behind them.
-/

namespace RxBoard

/--
The array of the receivers as `radio_create_visual` leaves it: each receiver is in the place of its number,
and there are feedback receivers except for SoapySDR.
-/
structure Created (s : RxBoard) : Prop where
  receivers_pos : 1 ≤ s.receivers
  receivers_le : s.receivers ≤ s.total
  total_le : s.total ≤ 2
  user : ∀ i < s.total, (s.object? i).map RxObject.id = some i
  feedback : s.protocol ≠ .soapysdr →
    s.total = 2 ∧ (s.object? s.psRxFeedback).map RxObject.id = some s.psRxFeedback
  noFeedback : s.protocol = .soapysdr → ∀ i, s.total ≤ i → s.object? i = none

-- the states have the same receivers
structure SameObjects (s s' : RxBoard) : Prop where
  receivers : s'.receivers = s.receivers
  total : s'.total = s.total
  protocol : s'.protocol = s.protocol
  ids : ∀ i, (s'.object? i).map RxObject.id = (s.object? i).map RxObject.id

variable {s s₁ s₂ : RxBoard}

theorem SameObjects.refl (s : RxBoard) : SameObjects s s where
  receivers := rfl
  total := rfl
  protocol := rfl
  ids _ := rfl

theorem SameObjects.trans (h : SameObjects s s₁) (h' : SameObjects s₁ s₂) : SameObjects s s₂ where
  receivers := h'.receivers.trans h.receivers
  total := h'.total.trans h.total
  protocol := h'.protocol.trans h.protocol
  ids i := (h'.ids i).trans (h.ids i)

theorem Created.congr (hs : Created s) (h : SameObjects s s₁) : Created s₁ where
  receivers_pos := by
    rw [h.receivers]
    exact hs.receivers_pos
  receivers_le := by
    rw [h.receivers, h.total]
    exact hs.receivers_le
  total_le := by
    rw [h.total]
    exact hs.total_le
  user i hi := by
    rw [h.total] at hi
    rw [h.ids]
    exact hs.user i hi
  feedback hp := by
    rw [h.protocol] at hp
    have hfeedback : s₁.psRxFeedback = s.psRxFeedback := congrArg (· + 1) h.total
    rw [h.total, h.ids, hfeedback]
    exact hs.feedback hp
  noFeedback hp i hi := by
    rw [h.protocol] at hp
    rw [h.total] at hi
    have hnone := h.ids i
    rw [hs.noFeedback hp i hi, Option.map_none, Option.map_eq_none_iff] at hnone
    exact hnone

theorem exists_of_id {i id : Nat} (h : (s.object? i).map RxObject.id = some id)
    : ∃ rx, s.object? i = some rx ∧ rx.id = id :=
  Option.map_eq_some_iff.mp h

theorem object?_setObject {i : Nat} {rx : RxObject} (h : s.object? i = some rx) (rx' : RxObject)
    (j : Nat)
    : (s.setObject i rx').object? j = if j = i then some rx' else s.object? j := by
  have hi : i < 8 := by
    unfold object? at h
    split at h
    . assumption
    . contradiction
  by_cases hj : j = i
  . subst hj
    rw [object?, dif_pos hi, if_pos rfl]
    exact if_pos rfl
  . rw [if_neg hj]
    unfold object?
    split
    . exact if_neg hj
    . rfl

theorem sameObjects_setObject {i : Nat} {rx : RxObject} (h : s.object? i = some rx) (rx' : RxObject)
    (hid : rx'.id = rx.id)
    : SameObjects s (s.setObject i rx') where
  receivers := rfl
  total := rfl
  protocol := rfl
  ids j := by
    rw [object?_setObject h]
    split
    next hj => rw [hj, h, Option.map_some, Option.map_some, hid]
    next hj => rfl

theorem vfo?_of_lt {id : Nat} (h : id < 2) : vfo? id = some ⟨id, h⟩ :=
  dif_pos h

theorem vfo?_of_le {id : Nat} (h : 2 ≤ id) : vfo? id = none :=
  dif_neg (by omega)

theorem sameObjects_radio {radio : RadioState} (h : radio.config.receivers = s.receivers)
    (hprotocol : radio.config.protocol = s.protocol)
    : SameObjects s { s with radio := radio } where
  receivers := h
  total := rfl
  protocol := hprotocol
  ids _ := rfl

-- the VFOs are tuned, and the receivers are those of before
theorem sameObjects_onlyVfo {radio : RadioState}
    (h : OnlyVfo s.view.toTuningState radio.toTuningState)
    : SameObjects s { s with radio := radio } := by
  apply sameObjects_radio
  . rw [h.config]
    rfl
  . rw [h.config]
    rfl

theorem vfoIdCtunUpdate_of_lt (s : RxBoard) {id : Nat} (h : id < 2) (state : Int)
    : ∃ s', s.vfoIdCtunUpdate id state = some s' ∧ SameObjects s s' ∧ s'.object = s.object := by
  refine ⟨_, ?_, sameObjects_onlyVfo (s.view.onlyVfo_vfoIdCtunUpdate ⟨id, h⟩ state), rfl⟩
  rw [vfoIdCtunUpdate, vfo?_of_lt h]
  rfl

theorem vfoIdCtunUpdate_of_le (s : RxBoard) {id : Nat} (h : 2 ≤ id) (state : Int)
    : s.vfoIdCtunUpdate id state = none := by
  rw [vfoIdCtunUpdate, vfo?_of_le h]
  rfl

-- only the receiver `i` is changed
structure Only (i : Nat) (s s' : RxBoard) : Prop where
  same : SameObjects s s'
  other : ∀ j, j ≠ i → s'.object? j = s.object? j

theorem Only.trans {i : Nat} (h : Only i s s₁) (h' : Only i s₁ s₂) : Only i s s₂ where
  same := h.same.trans h'.same
  other j hj := (h'.other j hj).trans (h.other j hj)

theorem only_setObject {i : Nat} {rx : RxObject} (h : s.object? i = some rx) (rx' : RxObject)
    (hid : rx'.id = rx.id)
    : Only i s (s.setObject i rx') where
  same := sameObjects_setObject h rx' hid
  other j hj := by rw [object?_setObject h, if_neg hj]

theorem rxAdjustPan_of_lt {i : Nat} {rx : RxObject} (h : s.object? i = some rx) (hid : rx.id < 2)
    : ∃ s', s.rxAdjustPan i = some s' ∧ Only i s s' := by
  refine ⟨_, ?_, only_setObject h { rx with pan := adjustedPan rx (s.radio.vfo ⟨rx.id, hid⟩) }
    rfl⟩
  rw [rxAdjustPan, h, Option.bind_eq_bind, Option.bind_some, vfo?_of_lt hid]
  rfl

-- the end of a change of the rate
theorem setRate_of {i id : Nat} (h : (s.object? i).map RxObject.id = some id) (rate : Int)
    : ∃ s', (do
        let rx ← s.object? i
        some (s.setObject i { rx with sampleRate := rate })) = some s' ∧ Only i s s' := by
  obtain ⟨rx, hrx, -⟩ := exists_of_id h
  refine ⟨_, ?_, only_setObject hrx { rx with sampleRate := rate } rfl⟩
  rw [hrx]
  rfl

-- a smaller rate needs the VFO of the receiver
theorem rxChangeSampleRate_of {i : Nat} {rx : RxObject} (h : s.object? i = some rx) (rate : Int)
    (hid : rate < rx.sampleRate → rx.id < 2)
    : ∃ s', s.rxChangeSampleRate i rate = some s' ∧ Only i s s' := by
  have hi : (s.object? i).map RxObject.id = some rx.id := by rw [h, Option.map_some]
  unfold rxChangeSampleRate
  rw [h, Option.bind_eq_bind, Option.bind_some]
  split
  next hrate =>
    obtain ⟨s₁, hctun, hsame, hobject⟩ := s.vfoIdCtunUpdate_of_lt (hid hrate) 0
    have hall (j : Nat) : s₁.object? j = s.object? j := by
      unfold object?
      rw [hobject]
    have hfirst : Only i s s₁ := ⟨hsame, fun j _ => hall j⟩
    obtain ⟨s₂, hpan, hsecond⟩ := rxAdjustPan_of_lt ((hall i).trans h) (hid hrate)
    have hboth := hfirst.trans hsecond
    obtain ⟨s₃, hset, hthird⟩ := setRate_of ((hboth.same.ids i).trans hi) rate
    refine ⟨s₃, ?_, hboth.trans hthird⟩
    rw [hctun, Option.bind_eq_bind, Option.bind_some, hpan, Option.bind_some]
    exact hset
  next hrate =>
    obtain ⟨s₁, hset, honly⟩ := setRate_of hi rate
    exact ⟨s₁, hset, honly⟩

theorem rxChangeSampleRate_eq_none {i : Nat} {rx : RxObject} (h : s.object? i = some rx) {rate : Int}
    (hrate : rate < rx.sampleRate) (hid : 2 ≤ rx.id)
    : s.rxChangeSampleRate i rate = none := by
  unfold rxChangeSampleRate
  rw [h, Option.bind_eq_bind, Option.bind_some, if_pos hrate, s.vfoIdCtunUpdate_of_le hid]
  rfl

theorem rxChangeSampleRate_eq_none_of_null {i : Nat} (h : s.object? i = none) (rate : Int)
    : s.rxChangeSampleRate i rate = none := by
  unfold rxChangeSampleRate
  rw [h]
  rfl

-- the receivers behind those of the user are not changed
structure UserOnly (s s' : RxBoard) : Prop where
  same : SameObjects s s'
  other : ∀ j, s.total ≤ j → s'.object? j = s.object? j

theorem UserOnly.refl (s : RxBoard) : UserOnly s s :=
  ⟨SameObjects.refl s, fun _ _ => rfl⟩

theorem UserOnly.trans (h : UserOnly s s₁) (h' : UserOnly s₁ s₂) : UserOnly s s₂ where
  same := h.same.trans h'.same
  other j hj := (h'.other j (by rw [h.same.total]; exact hj)).trans (h.other j hj)

theorem Only.userOnly {i : Nat} (h : Only i s s₁) (hi : i < s.total) : UserOnly s s₁ where
  same := h.same
  other j hj := h.other j (by omega)

theorem Created.rxChangeSampleRate (hs : Created s) {i : Nat} (hi : i < s.total) (rate : Int)
    : ∃ s', s.rxChangeSampleRate i rate = some s' ∧ UserOnly s s' := by
  obtain ⟨rx, hrx, hid⟩ := exists_of_id (hs.user i hi)
  have htotal := hs.total_le
  obtain ⟨s', hs', honly⟩ := rxChangeSampleRate_of hrx rate (fun _ => by omega)
  exact ⟨s', hs', honly.userOnly hi⟩

theorem Created.rxChangeSampleRates (hs : Created s) (rate : Int) {n : Nat} (hn : n ≤ s.total)
    : ∃ s', s.rxChangeSampleRates rate n = some s' ∧ UserOnly s s' := by
  induction n with
  | zero => exact ⟨s, rfl, UserOnly.refl s⟩
  | succ n ih =>
    obtain ⟨s₁, h₁, honly⟩ := ih (by omega)
    have hn₁ : n < s₁.total := by
      rw [honly.same.total]
      omega
    obtain ⟨s₂, h₂, honly₂⟩ := (hs.congr honly.same).rxChangeSampleRate hn₁ rate
    refine ⟨s₂, ?_, honly.trans honly₂⟩
    rw [RxBoard.rxChangeSampleRates, h₁, Option.bind_eq_bind, Option.bind_some, h₂]

theorem Created.rxSetActive (hs : Created s) (id : Fin 2) (hid : id.val < s.total)
    : ∃ s', s.rxSetActive id = some s' ∧ UserOnly s s' := by
  obtain ⟨rx, hrx, -⟩ := exists_of_id (hs.user id hid)
  have hconfig : ((s.activated id).radioTxVfoChanged.radioApplyBandSettings false 0).config
      = (s.activated id).config := by
    rw [RadioState.toTuningState_radioApplyBandSettings, RadioState.toTuningState_radioTxVfoChanged]
  have hsame : SameObjects s
      { s with radio := (s.activated id).radioTxVfoChanged.radioApplyBandSettings false 0 } := by
    apply sameObjects_radio
    . rw [hconfig]
      rfl
    . rw [hconfig]
      rfl
  refine ⟨_, ?_, hsame, fun _ _ => rfl⟩
  rw [RxBoard.rxSetActive, hrx]
  rfl

theorem Created.changeZoom (hs : Created s) {i : Nat} (hi : i < s.total) (value : Int)
    : ∃ s', s.changeZoom i value = some s' ∧ UserOnly s s' := by
  obtain ⟨rx, hrx, hid⟩ := exists_of_id (hs.user i hi)
  have htotal := hs.total_le
  have honly := only_setObject hrx { rx with zoom := value } rfl
  have hset : (s.setObject i { rx with zoom := value }).object? i
      = some { rx with zoom := value } := by
    rw [object?_setObject hrx, if_pos rfl]
  obtain ⟨s', hs', hpan⟩ := rxAdjustPan_of_lt hset (by dsimp only; omega)
  refine ⟨s', ?_, (honly.trans hpan).userOnly hi⟩
  rw [RxBoard.changeZoom, hrx, Option.bind_eq_bind, Option.bind_some]
  exact hs'

theorem Created.changePan (hs : Created s) {i : Nat} (hi : i < s.total) (value : Int)
    : ∃ s', s.changePan i value = some s' ∧ UserOnly s s' := by
  obtain ⟨rx, hrx, -⟩ := exists_of_id (hs.user i hi)
  refine ⟨_, ?_, (only_setObject hrx { rx with pan := value } rfl).userOnly hi⟩
  rw [RxBoard.changePan, hrx]
  rfl

-- one receiver, and with diversity the other one too
theorem Created.both (hs : Created s) {id : Nat} (hid : id < s.receivers)
    (change : RxBoard → Nat → Option RxBoard)
    (hchange : ∀ {s : RxBoard}, Created s → ∀ {i : Nat}, i < s.total →
      ∃ s', change s i = some s' ∧ UserOnly s s')
    : ∃ s', (do
        let s ← change s id
        if s.diversityEnabled ∧ s.receivers > 1 then change s (1 - id) else some s) = some s'
          ∧ UserOnly s s' := by
  have hle := hs.receivers_le
  obtain ⟨s₁, h₁, honly⟩ := hchange hs (show id < s.total by omega)
  rw [h₁, Option.bind_eq_bind, Option.bind_some]
  split
  next hboth =>
    have htotal := honly.same.total
    have hreceivers := honly.same.receivers
    obtain ⟨s₂, h₂, honly₂⟩ := hchange (hs.congr honly.same) (show 1 - id < s₁.total by omega)
    exact ⟨s₂, h₂, honly.trans honly₂⟩
  next => exact ⟨s₁, rfl, honly⟩

theorem Created.radioSetZoom (hs : Created s) (id : Nat) (value : Int)
    : ∃ s', s.radioSetZoom id value = some s' ∧ UserOnly s s' := by
  unfold RxBoard.radioSetZoom
  split
  next => exact ⟨s, rfl, UserOnly.refl s⟩
  next hid =>
    exact hs.both (by omega) (fun s i => s.changeZoom i (max (min value 32) 1))
      (fun hs _ hi => hs.changeZoom hi _)

theorem Created.radioSetPan (hs : Created s) (id : Nat) (value : Int)
    : ∃ s', s.radioSetPan id value = some s' ∧ UserOnly s s' := by
  unfold RxBoard.radioSetPan
  split
  next => exact ⟨s, rfl, UserOnly.refl s⟩
  next hid =>
    exact hs.both (by omega) (fun s i => s.changePan i (min (max value (-100)) 100))
      (fun hs _ hi => hs.changePan hi _)

/--
The feedback receiver of the original protocol does not get a smaller rate, and the second receiver is only
started where there is one.
-/
def Safe (s : RxBoard) : Operation → Prop
  | .changeSampleRate id rate =>
    id < s.receivers → s.protocol = .original → ∀ rx, s.object? 0 = some rx → rx.sampleRate ≠ rate →
      ∀ rx', s.object? s.psRxFeedback = some rx' → rx'.sampleRate ≤ rate
  | .changeReceivers r => r = 2 → s.total = 2
  | _ => True

-- the state after an operation, if there is one
def Fine (o : Option RxBoard) : Prop :=
  ∃ s, o = some s ∧ Created s

theorem Created.fine (hs : Created s) {o : Option RxBoard} (h : ∃ s', o = some s' ∧ UserOnly s s')
    : Fine o := by
  obtain ⟨s', hs', honly⟩ := h
  exact ⟨s', hs', hs.congr honly.same⟩

theorem Created.psRxFeedback_eq (hs : Created s) (hp : s.protocol ≠ .soapysdr) : s.psRxFeedback = 3 := by
  have htotal := (hs.feedback hp).1
  unfold psRxFeedback
  omega

-- the rate of the feedback receiver is changed after those of the user
theorem Created.feedbackRate (hs : Created s) (hp : s.protocol = .original) (rate : Int)
    : ∃ s₁, s.rxChangeSampleRates rate s.receivers = some s₁ ∧ Created s₁
        ∧ s₁.object? s₁.psRxFeedback = s.object? s.psRxFeedback := by
  have hnot : s.protocol ≠ .soapysdr := by
    rw [hp]
    decide
  have htotal := (hs.feedback hnot).1
  have hfeedback := hs.psRxFeedback_eq hnot
  obtain ⟨s₁, h₁, honly⟩ := hs.rxChangeSampleRates rate hs.receivers_le
  have hsame : s₁.psRxFeedback = s.psRxFeedback := congrArg (· + 1) honly.same.total
  refine ⟨s₁, h₁, hs.congr honly.same, ?_⟩
  rw [hsame]
  apply honly.other
  omega

-- `P` is what decides whether there is a state after an operation
structure Exactly (o : Option RxBoard) (P : Prop) : Prop where
  fine : P → Fine o
  none : ¬ P → o = none

theorem Exactly.of_fine {o : Option RxBoard} {P : Prop} (h : Fine o) (hP : P) : Exactly o P where
  fine _ := h
  none hnot := absurd hP hnot

theorem Created.radioChangeSampleRate (hs : Created s) (rate : Int)
    : Exactly (s.radioChangeSampleRate rate)
        (s.protocol = .original → ∀ rx, s.object? 0 = some rx → rx.sampleRate ≠ rate →
          ∀ rx', s.object? s.psRxFeedback = some rx' → rx'.sampleRate ≤ rate) := by
  have hpos := hs.receivers_pos
  have hle := hs.receivers_le
  obtain ⟨rx, hrx, -⟩ := exists_of_id (hs.user 0 (by omega))
  unfold RxBoard.radioChangeSampleRate
  cases hp : s.protocol with
  | original =>
    have hnot : s.protocol ≠ .soapysdr := by
      rw [hp]
      decide
    have hfeedback := hs.psRxFeedback_eq hnot
    obtain ⟨rx', hrx', hid'⟩ := exists_of_id (hs.feedback hnot).2
    obtain ⟨s₁, h₁, hs₁, hsame⟩ := hs.feedbackRate hp rate
    rw [hrx'] at hsame
    dsimp only
    rw [hrx, hrx', Option.bind_eq_bind, Option.bind_some]
    simp only [Option.some.injEq, forall_eq', true_implies]
    split
    next hrate =>
      rw [h₁, Option.bind_eq_bind, Option.bind_some]
      constructor
      . intro hsafe
        obtain ⟨s₂, h₂, honly⟩ := rxChangeSampleRate_of hsame rate (by
          have := hsafe hrate
          omega)
        exact ⟨s₂, h₂, hs₁.congr honly.same⟩
      . intro hunsafe
        apply rxChangeSampleRate_eq_none hsame
        . rw [not_forall] at hunsafe
          obtain ⟨-, hlt⟩ := hunsafe
          omega
        . omega
    next hrate => exact Exactly.of_fine ⟨s, rfl, hs⟩ (fun h => absurd h hrate)
  | soapysdr =>
    apply Exactly.of_fine
    . dsimp only
      rw [hrx, Option.bind_eq_bind, Option.bind_some]
      split
      . exact hs.fine (hs.rxChangeSampleRates rate hle)
      . exact ⟨s, rfl, hs⟩
    . intro h
      contradiction
  | new =>
    apply Exactly.of_fine
    . exact ⟨s, rfl, hs⟩
    . intro h
      contradiction

theorem Created.changeSampleRate (hs : Created s) (id : Nat) (rate : Int)
    : Exactly (s.changeSampleRate id rate) (s.Safe (.changeSampleRate id rate)) := by
  have hle := hs.receivers_le
  unfold RxBoard.changeSampleRate
  dsimp only [Safe]
  split
  next hid =>
    simp only [hid, true_implies]
    split
    next hp =>
      apply Exactly.of_fine
      . exact hs.fine (hs.rxChangeSampleRate (by omega) rate)
      . intro h
        rw [hp] at h
        contradiction
    next => exact hs.radioChangeSampleRate rate
  next hid => exact Exactly.of_fine ⟨s, rfl, hs⟩ (fun h => absurd h hid)

theorem Created.setReceivers (hs : Created s) {r : Nat} (hpos : 1 ≤ r) (hle : r ≤ s.total)
    : Created (s.setReceivers r) where
  receivers_pos := hpos
  receivers_le := hle
  total_le := hs.total_le
  user := hs.user
  feedback := hs.feedback
  noFeedback := hs.noFeedback

theorem Created.rxSetActive_zero (hs : Created s) : Fine (s.rxSetActive 0) := by
  have hpos := hs.receivers_pos
  have hle := hs.receivers_le
  exact hs.fine (hs.rxSetActive 0 (show 0 < s.total by omega))

theorem Exactly.bind {o : Option RxBoard} {P : Prop} (h : Exactly o P) {f : RxBoard → Option RxBoard}
    (hf : ∀ s, Created s → Fine (f s))
    : Exactly (o.bind f) P where
  fine hP := by
    obtain ⟨s, rfl, hs⟩ := h.fine hP
    exact hf s hs
  none hP := by
    rw [h.none hP]
    rfl

theorem Created.switchReceivers (hs : Created s) {r : Nat} (hr : s.receivers ≠ r)
    : Exactly (s.switchReceivers r) (s.Safe (.changeReceivers r)) := by
  have hpos := hs.receivers_pos
  have hle := hs.receivers_le
  have htotal := hs.total_le
  dsimp only [Safe]
  match r with
  | 1 =>
    obtain ⟨rx, hrx, -⟩ := exists_of_id (hs.user 1 (by omega))
    apply Exactly.of_fine
    . refine ⟨_, ?_, hs.setReceivers (Nat.le_refl 1) (by omega)⟩
      rw [RxBoard.switchReceivers, hrx]
      rfl
    . omega
  | 2 =>
    constructor
    . intro hboth
      have hboth := hboth rfl
      have hs₂ : Created (s.setReceivers 2) := hs.setReceivers (by omega) (by omega)
      obtain ⟨rx₁, hrx₁, -⟩ := exists_of_id (hs.user 1 (by omega))
      obtain ⟨rx₀, hrx₀, -⟩ := exists_of_id (hs₂.user 0 (show 0 < s.total by omega))
      simp only [RxBoard.switchReceivers, Option.bind_eq_bind, hrx₁, Option.bind_some, hrx₀]
      split
      . exact hs₂.fine (hs₂.rxChangeSampleRate (show 1 < s.total by omega) rx₀.sampleRate)
      . exact ⟨_, rfl, hs₂⟩
    . intro hone
      have hsoapy : s.protocol = .soapysdr := by
        by_contra hp
        have := (hs.feedback hp).1
        omega
      rw [RxBoard.switchReceivers, hs.noFeedback hsoapy 1 (by omega)]
      rfl
  | 0 => exact Exactly.of_fine ⟨s, rfl, hs⟩ (by omega)
  | r + 3 => exact Exactly.of_fine ⟨s, rfl, hs⟩ (by omega)

theorem Created.radioChangeReceivers (hs : Created s) (r : Nat)
    : Exactly (s.radioChangeReceivers r) (s.Safe (.changeReceivers r)) := by
  have hle := hs.receivers_le
  have htotal := hs.total_le
  unfold RxBoard.radioChangeReceivers
  split
  next hr => exact Exactly.of_fine ⟨s, rfl, hs⟩ (by dsimp only [Safe]; omega)
  next hr => exact (hs.switchReceivers hr).bind (fun s hs => hs.rxSetActive_zero)

theorem Created.setDiversity (hs : Created s) (state : Bool)
    : Created { s with diversityEnabled := state } where
  receivers_pos := hs.receivers_pos
  receivers_le := hs.receivers_le
  total_le := hs.total_le
  user := hs.user
  feedback := hs.feedback
  noFeedback := hs.noFeedback

theorem Created.exists_first (hs : Created s) : ∃ rx, s.object? 0 = some rx := by
  have hpos := hs.receivers_pos
  have hle := hs.receivers_le
  obtain ⟨rx, hrx, -⟩ := exists_of_id (hs.user 0 (by omega))
  exact ⟨rx, hrx⟩

theorem Created.alignSampleRates (hs : Created s) : Fine s.alignSampleRates := by
  have hle := hs.receivers_le
  obtain ⟨rx, hrx⟩ := hs.exists_first
  unfold RxBoard.alignSampleRates
  split
  next hboth =>
    rw [hrx, Option.bind_eq_bind, Option.bind_some]
    exact hs.fine (hs.rxChangeSampleRate (by omega) rx.sampleRate)
  next => exact ⟨s, rfl, hs⟩

theorem Created.alignDisplays (hs : Created s) : Fine s.alignDisplays := by
  obtain ⟨s₁, h₁, hs₁⟩ := hs.rxSetActive_zero
  obtain ⟨rx₁, hrx₁⟩ := hs₁.exists_first
  obtain ⟨s₂, h₂, honly⟩ := hs₁.radioSetZoom 1 rx₁.zoom
  have hs₂ := hs₁.congr honly.same
  obtain ⟨rx₂, hrx₂⟩ := hs₂.exists_first
  unfold RxBoard.alignDisplays
  split
  next =>
    simp only [Option.bind_eq_bind, h₁, Option.bind_some, hrx₁, h₂, hrx₂]
    exact hs₂.fine (hs₂.radioSetPan 1 rx₂.pan)
  next => exact ⟨s, rfl, hs⟩

theorem Created.radioSetDiversity (hs : Created s) (state : Bool)
    : Fine (s.radioSetDiversity state) := by
  obtain ⟨s₁, h₁, hs₁⟩ := (hs.setDiversity state).alignSampleRates
  rw [RxBoard.radioSetDiversity, h₁, Option.bind_eq_bind, Option.bind_some]
  exact hs₁.alignDisplays

theorem Created.onlyVfo (hs : Created s) {radio : RadioState}
    (h : OnlyVfo s.view.toTuningState radio.toTuningState)
    : Fine (some { s with radio := radio }) :=
  ⟨_, rfl, hs.congr (sameObjects_onlyVfo h)⟩

-- one operation
theorem Created.perform (hs : Created s) (op : Operation)
    : Exactly (s.perform op) (s.Safe op) := by
  cases op with
  | changeSampleRate id rate => exact hs.changeSampleRate id rate
  | changeReceivers r => exact hs.radioChangeReceivers r
  | setZoom id value => exact Exactly.of_fine (hs.fine (hs.radioSetZoom id value)) trivial
  | setPan id value => exact Exactly.of_fine (hs.fine (hs.radioSetPan id value)) trivial
  | setDiversity state => exact Exactly.of_fine (hs.radioSetDiversity state) trivial
  | ctunUpdate id state =>
    obtain ⟨s', hs', hsame, -⟩ := s.vfoIdCtunUpdate_of_lt id.isLt state
    exact Exactly.of_fine ⟨s', hs', hs.congr hsame⟩ trivial
  | tune id c => exact Exactly.of_fine (hs.onlyVfo (s.view.onlyVfo_tune id c)) trivial
  | setFrequency id f =>
    exact Exactly.of_fine (hs.onlyVfo (s.view.onlyVfo_vfoIdSetFrequency id f)) trivial

-- Whatever is operated, in whatever order: all indices are valid if no step is unsafe, and only then.
theorem isSome_exec_iff (hs : Created s) (ops : List Operation)
    : (∀ ops', ops' <+: ops → (Run.exec performNext (some s) ops').isSome)
        ↔
      Run.Along performNext (fun o op => ∀ s', o = some s' → s'.Safe op) (some s) ops := by
  apply Run.forall_prefix_iff_along_of (I := Fine) (J := fun o => o.isSome = true)
  . intro o op hfine hsafe
    obtain ⟨s₁, rfl, hs₁⟩ := hfine
    exact (hs₁.perform op).fine (hsafe s₁ rfl)
  . intro o op hfine hsome s' hs'
    obtain ⟨s₁, rfl, hs₁⟩ := hfine
    rw [Option.some.injEq] at hs'
    subst hs'
    by_contra hunsafe
    rw [performNext, Option.bind_some, (hs₁.perform op).none hunsafe] at hsome
    contradiction
  . intro o hfine
    obtain ⟨s₁, rfl, -⟩ := hfine
    rfl
  . exact ⟨s, rfl, hs⟩

end RxBoard

-- a radio with the original protocol, two receivers and the two for the feedback
def initialBoard : RxBoard where
  radio := { initialState with config.protocol := .original }
  total := 2
  object := fun i =>
    if i.val < 2 then some ⟨i.val, 192000, 1, 0⟩
    else if i.val < 4 then some ⟨i.val, 192000, 0, 0⟩
    else none
  diversityEnabled := false

namespace RxBoard

theorem created_initialBoard : Created initialBoard where
  receivers_pos := by decide
  receivers_le := by decide
  total_le := by decide
  user i hi := by
    change i < 2 at hi
    match i with
    | 0 => rfl
    | 1 => rfl
  feedback _ := ⟨rfl, rfl⟩
  noFeedback hp := by contradiction

theorem isSome_exec_initialBoard
    : let ops := [.changeSampleRate 0 384000, .changeReceivers 1, .ctunUpdate 1 1,
        .setDiversity true]
      (∀ ops', ops' <+: ops → (Run.exec performNext (some initialBoard) ops').isSome)
        ↔
      Run.Along performNext (fun o op => ∀ s', o = some s' → s'.Safe op) (some initialBoard) ops :=
  isSome_exec_iff created_initialBoard _

-- The VFO of the feedback receiver is looked for when the rate becomes smaller.
theorem not_isSome_perform
    : ¬ ∀ (s : RxBoard) (op : Operation), Created s → (s.perform op).isSome := by
  intro h
  have hunsafe : ¬ initialBoard.Safe (.changeSampleRate 0 48000) := by
    intro hsafe
    have hrate := hsafe (by decide) rfl _ rfl (by decide) _ rfl
    revert hrate
    decide
  have hsome := h initialBoard (.changeSampleRate 0 48000) created_initialBoard
  rw [(created_initialBoard.perform _).none hunsafe] at hsome
  contradiction

end RxBoard
