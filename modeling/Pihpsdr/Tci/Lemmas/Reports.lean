import Mathlib.Algebra.Order.BigOperators.Group.List
import Pihpsdr.Tci.Impl.Reporter
import Pihpsdr.Radio.Startup

/-!
What a call of `tci_reporter` and the initial state put into the queue of a client, and which fields of the
client they set.
-/

namespace Tci

namespace Client

-- the queue takes `n` further texts
def RoomFor (client : Client) (n : Nat) : Prop :=
  client.running ∧ client.wsi.isSome ∧ client.idleQueued + n ≤ 100

theorem RoomFor.mono {client : Client} {m n : Nat} (h : client.RoomFor n) (hle : m ≤ n)
    : client.RoomFor m :=
  ⟨h.1, h.2.1, by have := h.2.2; omega⟩

theorem frameQueued_iff (client : Client)
    : client.frameQueued .text true = true ↔ client.RoomFor 1 := by
  unfold frameQueued RoomFor
  split
  . next hrunning =>
    refine iff_of_false Bool.false_ne_true fun h => ?_
    exact hrunning.2 h.1
  . next hrunning =>
    split
    . next hfull =>
      refine iff_of_false Bool.false_ne_true fun h => ?_
      have hle := h.2.2
      have hge := hfull.2
      omega
    . next hfull =>
      have hclient : client.running := by
        by_contra h
        exact hrunning ⟨rfl, h⟩
      have hlt : client.idleQueued < 100 := by
        by_contra h
        exact hfull ⟨rfl, Nat.not_lt.mp h⟩
      exact ⟨fun h => ⟨hclient, h, hlt⟩, fun h => h.2.1⟩

-- a frame that is queued is the last one of the queue, any other one is lost
theorem tciQueueFrame_eq (client : Client) (type : OpCode) (checkRunning : Bool)
    : client.tciQueueFrame type checkRunning
        =
      if client.frameQueued type checkRunning then
        { client with
          idleQueued := client.idleQueued + 1
          lwsTxQueue := some (client.lwsTxQueue.getD [] ++ [type]) }
      else
        client := by
  unfold tciQueueFrame frameQueued
  split_ifs
  all_goals first | rfl | contradiction

@[simp]
theorem reports_tciQueueFrame (client : Client) (type : OpCode) (checkRunning : Bool)
    : (client.tciQueueFrame type checkRunning).reports = client.reports := by
  rw [tciQueueFrame_eq]
  split
  . rfl
  . rfl

@[simp]
theorem wsi_tciQueueFrame (client : Client) (type : OpCode) (checkRunning : Bool)
    : (client.tciQueueFrame type checkRunning).wsi = client.wsi := by
  rw [tciQueueFrame_eq]
  split
  . rfl
  . rfl

@[simp]
theorem running_tciQueueFrame (client : Client) (type : OpCode) (checkRunning : Bool)
    : (client.tciQueueFrame type checkRunning).running = client.running := by
  rw [tciQueueFrame_eq]
  split
  . rfl
  . rfl

theorem roomFor_tciQueueFrame {client : Client} {n : Nat} (h : client.RoomFor (n + 1))
    : (client.tciQueueFrame .text true).RoomFor n := by
  have hqueued := client.frameQueued_iff.mpr (h.mono (Nat.le_add_left 1 n))
  rw [tciQueueFrame_eq, if_pos hqueued]
  refine ⟨h.1, h.2.1, ?_⟩
  have := h.2.2
  dsimp only
  omega

end Client

@[simp]
theorem Reports.last_setLast (p : Reports) (x : Int) (k j : Shadow)
    : (p.setLast x k).last j = if j = k then x else p.last j := by
  cases k <;> cases j <;> rfl

-- the field of the client that decides whether an item is sent
def Item.shadow : Item → Shadow
  | .dds v => if v = 0 then .fa else .fb
  | .vfo v c => if v = 0 ∧ c = 0 then .fa else .fb
  | .modulation v => if v = 0 then .ma else .mb
  | .rxFilterBand v => if v = 0 then .ma else .mb
  | .txFrequency => .fx
  | .splitEnable => .split
  | .trx => .mox

namespace RadioReading

-- the items that there are for the number of receivers and the filter
def Reported (r : RadioReading) : Item → Prop
  | .dds v => v.val < r.receivers
  | .vfo v _ => v.val < r.receivers
  | .modulation v => v.val < r.receivers
  | .rxFilterBand v => v.val < r.receivers ∧ r.HasFilter v
  | .txFrequency => True
  | .splitEnable => True
  | .trx => True

-- how many messages are sent about what is behind a field
def texts (r : RadioReading) : Shadow → Nat
  | .fx => 1
  | .split => 1
  | .mox => 1
  | .fa => 2
  | .fb => if r.receivers > 1 then 4 else 1
  | .ma => 1 + if r.HasFilter 0 then 1 else 0
  | .mb => if r.receivers > 1 then 1 + if r.HasFilter 1 then 1 else 0 else 0

-- the items of a second receiver are those of VFO B
theorem receivers_of_shadow {r : RadioReading} {i : Item} (h : r.Reported i) (hi : i.shadow = .mb)
    : r.receivers > 1 := by
  have hlt : ∀ v : Fin 2, (if v = 0 then Shadow.ma else Shadow.mb) = .mb → v.val < r.receivers →
      r.receivers > 1 := by
    intro v hv hlt
    split at hv
    . cases hv
    . omega
  cases i with
  | txFrequency => cases hi
  | splitEnable => cases hi
  | trx => cases hi
  | dds v => dsimp only [Item.shadow] at hi; split at hi <;> cases hi
  | vfo v c => dsimp only [Item.shadow] at hi; split at hi <;> cases hi
  | modulation v => exact hlt v hi h
  | rxFilterBand v => exact hlt v hi h.1

theorem texts_pos {r : RadioReading} {i : Item} (h : r.Reported i) : 0 < r.texts i.shadow := by
  have hreceivers := receivers_of_shadow h
  cases hi : i.shadow with
  | fx => exact Nat.one_pos
  | split => exact Nat.one_pos
  | mox => exact Nat.one_pos
  | fa => exact Nat.two_pos
  | fb =>
    dsimp only [texts]
    split
    . exact Nat.succ_pos 3
    . exact Nat.one_pos
  | ma => exact Nat.add_pos_left Nat.one_pos _
  | mb =>
    dsimp only [texts]
    rw [if_pos (hreceivers hi)]
    exact Nat.add_pos_left Nat.one_pos _

end RadioReading

-- what the client wants to be sent, and the counter
def Reports.sensors (p : Reports) : Nat × Bool × Bool :=
  (p.count, p.rxsensor, p.txsensor)

@[simp]
theorem Reports.sensors_setLast (p : Reports) (x : Int) (k : Shadow)
    : (p.setLast x k).sensors = p.sensors := by
  cases k <;> rfl

/--
From `s` to `s'`, messages were sent about the items in `P`, `n` of them with those about nothing, and the
fields in `K` were set. If there is room for the messages they are queued, but the fields are set anyway.
-/
structure Sent (r : RadioReading) (P : Item → Prop) (K : Shadow → Prop) (n : Nat) (s s' : Feed)
    : Prop where
  running : s'.client.running = s.client.running
  wsi : s'.client.wsi = s.client.wsi
  sensors : s'.client.reports.sensors = s.client.reports.sensors
  room : ∀ m, s.client.RoomFor (n + m) → s'.client.RoomFor m
  last : ∀ k, K k → s'.last k = r.compared k
  keeps : ∀ k, ¬K k → s'.last k = s.last k
  queued : ∀ i, P i → s.client.RoomFor n → s'.queued i = some (r.value i)
  others : ∀ i, ¬P i → s'.queued i = s.queued i

namespace Sent

variable {r : RadioReading} {P P' : Item → Prop} {K K' : Shadow → Prop} {n n' : Nat}
  {s s' s'' : Feed}

theorem refl (r : RadioReading) (s : Feed) : Sent r (fun _ => False) (fun _ => False) 0 s s where
  running := rfl
  wsi := rfl
  sensors := rfl
  room m h := by rwa [Nat.zero_add] at h
  last _ h := h.elim
  keeps _ _ := rfl
  queued _ h := h.elim
  others _ _ := rfl

theorem trans (h : Sent r P K n s s') (h' : Sent r P' K' n' s' s'')
    : Sent r (fun i => P i ∨ P' i) (fun k => K k ∨ K' k) (n + n') s s'' where
  running := h'.running.trans h.running
  wsi := h'.wsi.trans h.wsi
  sensors := h'.sensors.trans h.sensors
  room m hroom := by
    rw [Nat.add_assoc] at hroom
    exact h'.room m (h.room _ hroom)
  last k hk := by
    by_cases hk' : K' k
    . exact h'.last k hk'
    . rw [h'.keeps k hk']
      exact h.last k (hk.resolve_right hk')
  keeps k hk := by
    rw [not_or] at hk
    rw [h'.keeps k hk.2, h.keeps k hk.1]
  queued i hi hroom := by
    by_cases hi' : P' i
    . exact h'.queued i hi' (h.room n' hroom)
    . rw [h'.others i hi']
      exact h.queued i (hi.resolve_right hi') (hroom.mono (Nat.le_add_right n n'))
  others i hi := by
    rw [not_or] at hi
    rw [h'.others i hi.2, h.others i hi.1]

theorem congr (h : Sent r P K n s s') (hP : ∀ i, P' i ↔ P i) (hK : ∀ k, K' k ↔ K k) (hn : n' = n)
    : Sent r P' K' n' s s' := by
  obtain rfl : P' = P := funext fun i => propext (hP i)
  obtain rfl : K' = K := funext fun k => propext (hK k)
  rwa [hn]

theorem sendItem (r : RadioReading) (i : Item) (s : Feed)
    : Sent r (· = i) (fun _ => False) 1 s (s.sendItem r i) where
  running := Client.running_tciQueueFrame ..
  wsi := Client.wsi_tciQueueFrame ..
  sensors := congrArg Reports.sensors (Client.reports_tciQueueFrame ..)
  room m h := by
    rw [Nat.add_comm] at h
    exact Client.roomFor_tciQueueFrame h
  last _ h := h.elim
  keeps k _ := congrArg (Reports.last · k) (Client.reports_tciQueueFrame ..)
  queued j h hroom := by
    subst h
    simp only [Feed.sendItem, (Client.frameQueued_iff s.client).mpr hroom, if_true,
      Function.update_self]
  others j h := by
    dsimp only [Feed.sendItem]
    split
    . exact Function.update_of_ne h _ _
    . rfl

theorem sendOther (r : RadioReading) (s : Feed)
    : Sent r (fun _ => False) (fun _ => False) 1 s s.sendOther where
  running := Client.running_tciQueueFrame ..
  wsi := Client.wsi_tciQueueFrame ..
  sensors := congrArg Reports.sensors (Client.reports_tciQueueFrame ..)
  room m h := by
    rw [Nat.add_comm] at h
    exact Client.roomFor_tciQueueFrame h
  last _ h := h.elim
  keeps k _ := congrArg (Reports.last · k) (Client.reports_tciQueueFrame ..)
  queued _ h := h.elim
  others _ _ := rfl

theorem sendOthers (r : RadioReading) (n : Nat) (s : Feed)
    : Sent r (fun _ => False) (fun _ => False) n s (s.sendOthers n) := by
  induction n generalizing s with
  | zero => exact refl r s
  | succ n ih =>
    apply ((sendOther r s).trans (ih s.sendOther)).congr
    . simp
    . simp
    . exact Nat.add_comm n 1

theorem setLast (r : RadioReading) (k : Shadow) (s : Feed)
    : Sent r (fun _ => False) (· = k) 0 s (s.setLast k (r.compared k)) where
  running := rfl
  wsi := rfl
  sensors := Reports.sensors_setLast ..
  room m h := by
    rw [Nat.zero_add] at h
    exact h
  last j h := by
    rw [h]
    exact (Reports.last_setLast ..).trans (if_pos rfl)
  keeps j h := (Reports.last_setLast ..).trans (if_neg h)
  queued _ h := h.elim
  others _ _ := rfl

-- a message about an item and the field that is set with it, in either order
theorem sendItem_setLast (r : RadioReading) (i : Item) (k : Shadow) (s : Feed)
    : Sent r (· = i) (· = k) 1 s ((s.sendItem r i).setLast k (r.compared k)) :=
  ((sendItem r i s).trans (setLast r k _)).congr (by simp) (by simp) rfl

theorem setLast_sendItem (r : RadioReading) (i : Item) (k : Shadow) (s : Feed)
    : Sent r (· = i) (· = k) 1 s ((s.setLast k (r.compared k)).sendItem r i) :=
  ((setLast r k s).trans (sendItem r i _)).congr (by simp) (by simp) rfl

theorem tciSendVfo {v : Fin 2} (hv : v.val < r.receivers) (c : Fin 2) (s : Feed)
    : Sent r (· = .vfo v c) (· = (Item.vfo v c).shadow) 1 s (s.tciSendVfo r v c) := by
  rw [Feed.tciSendVfo, if_neg (Nat.not_le.mpr hv), Item.shadow]
  split
  . exact setLast_sendItem r _ .fa s
  . exact setLast_sendItem r _ .fb s

theorem tciSendMode {v : Fin 2} (hv : v.val < r.receivers) (s : Feed)
    : Sent r (· = .modulation v) (· = (Item.modulation v).shadow) 1 s (s.tciSendMode r v) := by
  rw [Feed.tciSendMode, if_neg (Nat.not_le.mpr hv), Item.shadow]
  split
  . next h =>
    subst h
    exact sendItem_setLast r _ .ma s
  . next h =>
    obtain rfl : v = 1 := by omega
    exact sendItem_setLast r _ .mb s

theorem tciSendRxFilterBand {v : Fin 2} (hv : v.val < r.receivers) (s : Feed)
    : Sent r (fun i => i = .rxFilterBand v ∧ r.HasFilter v) (fun _ => False)
        (if r.HasFilter v then 1 else 0) s (s.tciSendRxFilterBand r v) := by
  rw [Feed.tciSendRxFilterBand, if_neg (Nat.not_le.mpr hv)]
  split
  . next h => exact (sendItem r _ s).congr (by simp [h]) (fun k => Iff.rfl) rfl
  . next h => exact (refl r s).congr (by simp [h]) (fun k => Iff.rfl) rfl

end Sent

def Shadow.items : Shadow → List Item
  | .fx => [.txFrequency]
  | .split => [.splitEnable]
  | .mox => [.trx]
  | .fa => [.vfo 0 0, .dds 0]
  | .fb => [.vfo 0 1, .vfo 1 0, .vfo 1 1, .dds 1]
  | .ma => [.modulation 0, .rxFilterBand 0]
  | .mb => [.modulation 1, .rxFilterBand 1]

theorem shadow_eq_iff (i : Item) (k : Shadow) : i.shadow = k ↔ i ∈ k.items := by
  cases i with
  | dds v => revert v; cases k <;> decide
  | vfo v c => revert v c; cases k <;> decide
  | modulation v => revert v; cases k <;> decide
  | rxFilterBand v => revert v; cases k <;> decide
  | txFrequency => cases k <;> decide
  | splitEnable => cases k <;> decide
  | trx => cases k <;> decide

namespace Sent

variable {r : RadioReading}

theorem sendFor_fa (s : Feed)
    : Sent r (fun i => i ∈ Shadow.fa.items ∧ r.Reported i) (· = .fa) (r.texts .fa) s
        (s.sendFor r .fa) := by
  apply ((tciSendVfo r.running 0 s).trans (sendItem r (.dds 0) _)).congr
  . intro i
    simp only [Shadow.items, List.mem_cons, List.not_mem_nil, or_false]
    constructor
    . exact And.left
    . rintro (rfl | rfl)
      . exact ⟨.inl rfl, r.running⟩
      . exact ⟨.inr rfl, r.running⟩
  . intro k
    simp [Item.shadow]
  . rfl

theorem sendFor_fb (s : Feed)
    : Sent r (fun i => i ∈ Shadow.fb.items ∧ r.Reported i) (· = .fb) (r.texts .fb) s
        (s.sendFor r .fb) := by
  dsimp only [Feed.sendFor, RadioReading.texts]
  have hfirst := tciSendVfo r.running 1 s
  split
  . next hreceivers =>
    have hrest := ((tciSendVfo (v := 1) hreceivers 0 (s.tciSendVfo r 0 1)).trans
      (tciSendVfo (v := 1) hreceivers 1 _)).trans (sendItem r (.dds 1) _)
    apply (hfirst.trans hrest).congr
    . intro i
      simp only [Shadow.items, List.mem_cons, List.not_mem_nil, or_false, or_assoc]
      constructor
      . exact And.left
      . intro hi
        refine ⟨hi, ?_⟩
        obtain rfl | rfl | rfl | rfl := hi
        . exact r.running
        . exact hreceivers
        . exact hreceivers
        . exact hreceivers
    . intro k
      simp [Item.shadow]
    . rfl
  . next hreceivers =>
    apply hfirst.congr
    . intro i
      simp only [Shadow.items, List.mem_cons, List.not_mem_nil, or_false]
      constructor
      . rintro ⟨rfl | rfl | rfl | rfl, hi⟩
        . rfl
        . exact absurd hi hreceivers
        . exact absurd hi hreceivers
        . exact absurd hi hreceivers
      . rintro rfl
        exact ⟨.inl rfl, r.running⟩
    . intro k
      simp [Item.shadow]
    . rfl

-- the mode of a VFO and what belongs to it
theorem sendMode {v : Fin 2} (hv : v.val < r.receivers) (s : Feed)
    : Sent r (fun i => i ∈ [Item.modulation v, .rxFilterBand v] ∧ r.Reported i)
        (· = (Item.modulation v).shadow) (1 + if r.HasFilter v then 1 else 0) s
        ((s.tciSendMode r v).tciSendRxFilterBand r v) := by
  apply ((tciSendMode hv s).trans (tciSendRxFilterBand hv _)).congr
  . intro i
    simp only [List.mem_cons, List.not_mem_nil, or_false]
    constructor
    . rintro ⟨rfl | rfl, hi⟩
      . exact .inl rfl
      . exact .inr ⟨rfl, hi.2⟩
    . rintro (rfl | ⟨rfl, hi⟩)
      . exact ⟨.inl rfl, hv⟩
      . exact ⟨.inr rfl, hv, hi⟩
  . intro k
    simp
  . rfl

theorem sendFor_mb (s : Feed)
    : Sent r (fun i => i ∈ Shadow.mb.items ∧ r.Reported i) (· = .mb) (r.texts .mb) s
        (s.sendFor r .mb) := by
  dsimp only [Feed.sendFor, RadioReading.texts]
  split
  . next hreceivers => exact sendMode (v := 1) hreceivers s
  . next hreceivers =>
    apply (setLast r .mb s).congr
    . intro i
      simp only [Shadow.items, List.mem_cons, List.not_mem_nil, or_false, iff_false, not_and]
      rintro (rfl | rfl) hi
      . exact hreceivers hi
      . exact hreceivers hi.1
    . exact fun k => Iff.rfl
    . rfl

theorem sendFor_single (s : Feed) {i : Item} {k : Shadow} (hk : k.items = [i]) (hi : r.Reported i)
    : Sent r (fun j => j ∈ k.items ∧ r.Reported j) (· = k) 1 s
        ((s.sendItem r i).setLast k (r.compared k)) := by
  apply (sendItem_setLast r i k s).congr
  . intro j
    rw [hk, List.mem_singleton]
    constructor
    . exact And.left
    . rintro rfl
      exact ⟨rfl, hi⟩
  . exact fun k => Iff.rfl
  . rfl

theorem sendFor (r : RadioReading) (k : Shadow) (s : Feed)
    : Sent r (fun i => i.shadow = k ∧ r.Reported i) (· = k) (r.texts k) s (s.sendFor r k) := by
  simp only [shadow_eq_iff]
  cases k with
  | fx => exact sendFor_single (k := .fx) s rfl trivial
  | split => exact sendFor_single (k := .split) s rfl trivial
  | mox => exact sendFor_single (k := .mox) s rfl trivial
  | fa => exact sendFor_fa s
  | fb => exact sendFor_fb s
  | ma => exact sendMode r.running s
  | mb => exact sendFor_mb s

end Sent

namespace Feed

-- how many messages are due about what is behind the fields in `ks`
def due (r : RadioReading) (s : Feed) (ks : List Shadow) : Nat :=
  (ks.map fun k => if r.compared k ≠ s.last k then r.texts k else 0).sum

-- how many messages with the readings of the sensors are due
def sensorTexts (r : RadioReading) (s : Feed) : Nat :=
  let odd := s.client.reports.count % 2 = 1
  (if s.client.reports.rxsensor ∧ odd then if r.receivers > 1 then 6 else 3 else 0) +
    if s.client.reports.txsensor ∧ odd then if r.isTransmitting ∧ r.hasPower then 1 else 0 else 0

theorem due_congr {r : RadioReading} {s s' : Feed} {ks : List Shadow}
    (h : ∀ k ∈ ks, s'.last k = s.last k) : s'.due r ks = s.due r ks := by
  unfold due
  congr 1
  apply List.map_congr_left
  intro k hk
  rw [h k hk]

theorem sensorTexts_congr {r : RadioReading} {s s' : Feed}
    (h : s'.client.reports.sensors = s.client.reports.sensors)
    : s'.sensorTexts r = s.sensorTexts r := by
  simp only [Reports.sensors, Prod.mk.injEq] at h
  simp only [sensorTexts, h]

theorem le_due {r : RadioReading} {s : Feed} {ks : List Shadow} {k : Shadow} (hk : k ∈ ks)
    (hdue : r.compared k ≠ s.last k) : r.texts k ≤ s.due r ks := by
  apply List.le_sum_of_mem
  rw [List.mem_map]
  exact ⟨k, hk, if_pos hdue⟩

end Feed

namespace Sent

variable {r : RadioReading}

theorem reportChanged (r : RadioReading) (k : Shadow) (s : Feed)
    : Sent r (fun i => i.shadow = k ∧ r.compared k ≠ s.last k ∧ r.Reported i) (· = k)
        (if r.compared k ≠ s.last k then r.texts k else 0) s (s.reportChanged r k) := by
  unfold Feed.reportChanged
  by_cases hdue : r.compared k ≠ s.last k
  . rw [if_pos hdue, if_pos hdue]
    apply (sendFor r k s).congr
    . simp [hdue]
    . exact fun j => Iff.rfl
    . rfl
  . rw [if_neg hdue, if_neg hdue]
    -- the field has the value already
    exact
      { refl r s with
        last := fun j hj => by
          rw [hj]
          exact (not_not.mp hdue).symm
        keeps := fun _ _ => rfl
        queued := fun i hi => absurd hi.2.1 hdue
        others := fun _ _ => rfl }

theorem foldl_reportChanged (r : RadioReading) {ks : List Shadow} (hks : ks.Nodup) (s : Feed)
    : Sent r (fun i => i.shadow ∈ ks ∧ r.compared i.shadow ≠ s.last i.shadow ∧ r.Reported i)
        (· ∈ ks) (s.due r ks) s (ks.foldl (Feed.reportChanged r) s) := by
  induction ks generalizing s with
  | nil => exact (refl r s).congr (by simp) (by simp) rfl
  | cons k ks ih =>
    have ⟨hk, hrest⟩ := List.nodup_cons.mp hks
    have hfirst := reportChanged r k s
    have hsame : ∀ j ∈ ks, (s.reportChanged r k).last j = s.last j := by
      intro j hj
      apply hfirst.keeps
      rintro rfl
      exact hk hj
    apply (hfirst.trans (ih hrest _)).congr
    . intro i
      rw [List.mem_cons, or_and_right]
      apply or_congr
      . constructor
        . rintro ⟨hi, h⟩
          rw [hi] at h
          exact ⟨hi, h⟩
        . rintro ⟨hi, h⟩
          rw [← hi] at h
          exact ⟨hi, h⟩
      . apply and_congr_right
        intro hi
        rw [hsame _ hi]
    . exact fun j => List.mem_cons
    . rw [Feed.due_congr hsame]
      rfl

theorem trans_quiet {s s' s'' : Feed} {n n' : Nat}
    (h : Sent r (fun _ => False) (fun _ => False) n s s')
    (h' : Sent r (fun _ => False) (fun _ => False) n' s' s'')
    : Sent r (fun _ => False) (fun _ => False) (n + n') s s'' :=
  (h.trans h').congr (by simp) (by simp) rfl

theorem tciSendRx (r : RadioReading) (s : Feed)
    : Sent r (fun _ => False) (fun _ => False) (if r.receivers > 1 then 4 else 2) s
        ((s.tciSendRx r 0).tciSendRx r 1) := by
  have hfirst := (sendOther r s).trans_quiet (sendOther r _)
  have hrx0 : s.tciSendRx r 0 = s.sendOther.sendOther := if_neg (Nat.not_le.mpr r.running)
  rw [hrx0]
  by_cases h : r.receivers > 1
  . have hrx1 : s.sendOther.sendOther.tciSendRx r 1 = s.sendOther.sendOther.sendOther.sendOther :=
      if_neg (Nat.not_le.mpr h)
    rw [if_pos h, hrx1]
    exact (hfirst.trans_quiet (sendOther r _)).trans_quiet (sendOther r _)
  . have hrx1 : s.sendOther.sendOther.tciSendRx r 1 = s.sendOther.sendOther :=
      if_pos (Nat.not_lt.mp h)
    rw [if_neg h, hrx1]
    exact hfirst

theorem tciSendSmeter (r : RadioReading) (s : Feed)
    : Sent r (fun _ => False) (fun _ => False) (if r.receivers > 1 then 2 else 1) s
        (if r.receivers = 1 then s.tciSendSmeter r 0
          else (s.tciSendSmeter r 0).tciSendSmeter r 1) := by
  have hfirst := sendOther r s
  have hpos : 0 < r.receivers := r.running
  have hrx0 : s.tciSendSmeter r 0 = s.sendOther := if_neg (Nat.not_le.mpr hpos)
  by_cases h : r.receivers = 1
  . have hone : ¬r.receivers > 1 := by omega
    rw [if_pos h, if_neg hone, hrx0]
    exact hfirst
  . have htwo : r.receivers > 1 := by omega
    have hrx1 : s.sendOther.tciSendSmeter r 1 = s.sendOther.sendOther :=
      if_neg (Nat.not_le.mpr htwo)
    rw [if_neg h, if_pos htwo, hrx0, hrx1]
    exact hfirst.trans_quiet (sendOther r _)

theorem tciSendTxSensors (r : RadioReading) (s : Feed)
    : Sent r (fun _ => False) (fun _ => False) (if r.isTransmitting ∧ r.hasPower then 1 else 0) s
        (s.tciSendTxSensors r) := by
  unfold Feed.tciSendTxSensors
  split
  . exact sendOther r s
  . exact refl r s

theorem sendSensors (r : RadioReading) (s : Feed)
    : Sent r (fun _ => False) (fun _ => False) (s.sensorTexts r) s (s.sendSensors r) := by
  unfold Feed.sendSensors Feed.sensorTexts
  by_cases hrx : s.client.reports.rxsensor ∧ s.client.reports.count % 2 = 1
  . by_cases htx : s.client.reports.txsensor ∧ s.client.reports.count % 2 = 1
    . simp only [if_pos hrx, if_pos htx]
      apply (((tciSendRx r s).trans_quiet (tciSendTxSensors r _)).trans_quiet
        (tciSendSmeter r _)).congr
      . exact fun _ => Iff.rfl
      . exact fun _ => Iff.rfl
      . split_ifs
        all_goals rfl
    . simp only [if_pos hrx, if_neg htx]
      apply ((tciSendRx r s).trans_quiet (tciSendSmeter r _)).congr
      . exact fun _ => Iff.rfl
      . exact fun _ => Iff.rfl
      . split_ifs
        all_goals rfl
  . by_cases htx : s.client.reports.txsensor ∧ s.client.reports.count % 2 = 1
    . simp only [if_neg hrx, if_pos htx, Nat.zero_add]
      exact tciSendTxSensors r s
    . simp only [if_neg hrx, if_neg htx]
      exact refl r s

end Sent

namespace Feed

theorem mem_shadows (k : Shadow) : k ∈ radioShadows ∨ k ∈ vfoShadows := by
  cases k <;> decide

theorem not_mem_vfoShadows {k : Shadow} (h : k ∈ radioShadows) : k ∉ vfoShadows := by
  revert h
  cases k <;> decide

@[simp]
theorem last_tciQueueFrame (s : Feed) (type : OpCode) (checkRunning : Bool) (k : Shadow)
    : (s.tciQueueFrame type checkRunning).last k = s.last k :=
  congrArg (Reports.last · k) (Client.reports_tciQueueFrame ..)

@[simp]
theorem last_countPing (s : Feed) (k : Shadow) : s.countPing.last k = s.last k := by
  dsimp only [countPing]
  split
  . rw [last_tciQueueFrame]
    cases k <;> rfl
  . cases k <;> rfl

@[simp]
theorem queued_countPing (s : Feed) : s.countPing.queued = s.queued := by
  dsimp only [countPing]
  split
  . rfl
  . rfl

@[simp]
theorem running_countPing (s : Feed) : s.countPing.client.running = s.client.running := by
  dsimp only [countPing]
  split
  . exact Client.running_tciQueueFrame ..
  . rfl

@[simp]
theorem wsi_countPing (s : Feed) : s.countPing.client.wsi = s.client.wsi := by
  dsimp only [countPing]
  split
  . exact Client.wsi_tciQueueFrame ..
  . rfl

/--
The queue has room for what is due, each time after the messages before it. That for the sensors need not
get there.
-/
def HasRoom (r : RadioReading) (s : Feed) : Prop :=
  (s.due r radioShadows ≠ 0 → s.client.idleQueued + s.due r radioShadows ≤ 100) ∧
    (s.due r vfoShadows ≠ 0 →
      s.client.idleQueued + (s.due r radioShadows + s.sensorTexts r + s.due r vfoShadows) ≤ 100)

instance (r : RadioReading) (s : Feed) : Decidable (s.HasRoom r) := by
  unfold HasRoom
  infer_instance

-- what is sent by a call of the reporter, in its three parts
theorem exists_sent_tciReporter (r : RadioReading) {s : Feed} (h : s.client.running)
    : ∃ s₁ s₂,
        Sent r (fun i => i.shadow ∈ radioShadows ∧ r.compared i.shadow ≠ s.last i.shadow ∧
          r.Reported i) (· ∈ radioShadows) (s.countPing.due r radioShadows) s.countPing s₁ ∧
        Sent r (fun _ => False) (fun _ => False) (s.countPing.sensorTexts r) s₁ s₂ ∧
        Sent r (fun i => i.shadow ∈ vfoShadows ∧ r.compared i.shadow ≠ s.last i.shadow ∧
          r.Reported i) (· ∈ vfoShadows) (s.countPing.due r vfoShadows) s₂ (s.tciReporter r) := by
  have h₁ := Sent.foldl_reportChanged r (by decide : radioShadows.Nodup) s.countPing
  have h₂ := Sent.sendSensors r (radioShadows.foldl (reportChanged r) s.countPing)
  have h₃ := Sent.foldl_reportChanged r (by decide : vfoShadows.Nodup)
    ((radioShadows.foldl (reportChanged r) s.countPing).sendSensors r)
  have hlast : ∀ k ∈ vfoShadows,
      ((radioShadows.foldl (reportChanged r) s.countPing).sendSensors r).last k
        = s.countPing.last k := by
    intro k hk
    rw [h₂.keeps k id]
    exact h₁.keeps k fun hk' => not_mem_vfoShadows hk' hk
  refine ⟨_, _, h₁.congr ?_ (fun _ => Iff.rfl) rfl, h₂.congr (fun _ => Iff.rfl) (fun _ => Iff.rfl) ?_,
    ?_⟩
  . simp only [last_countPing, implies_true]
  . exact (sensorTexts_congr h₁.sensors).symm
  . rw [tciReporter, if_pos h]
    apply h₃.congr
    . intro i
      apply and_congr_right
      intro hi
      rw [hlast _ hi, last_countPing]
    . exact fun _ => Iff.rfl
    . exact (due_congr hlast).symm

section Tick

variable {r : RadioReading} {s : Feed} (h : s.client.running)
include h

theorem wsi_tciReporter : (s.tciReporter r).client.wsi = s.client.wsi := by
  have ⟨s₁, s₂, h₁, h₂, h₃⟩ := exists_sent_tciReporter r h
  rw [h₃.wsi, h₂.wsi, h₁.wsi, wsi_countPing]

-- whether the messages were queued or not
theorem last_tciReporter (k : Shadow) : (s.tciReporter r).last k = r.compared k := by
  have ⟨s₁, s₂, h₁, h₂, h₃⟩ := exists_sent_tciReporter r h
  by_cases hk : k ∈ vfoShadows
  . exact h₃.last k hk
  . rw [h₃.keeps k hk, h₂.keeps k id]
    exact h₁.last k ((mem_shadows k).resolve_right hk)

theorem queued_tciReporter_of_not_due {i : Item}
    (hi : ¬(r.compared i.shadow ≠ s.last i.shadow ∧ r.Reported i))
    : (s.tciReporter r).queued i = s.queued i := by
  have ⟨s₁, s₂, h₁, h₂, h₃⟩ := exists_sent_tciReporter r h
  rw [h₃.others i (fun hi' => hi hi'.2), h₂.others i id, h₁.others i (fun hi' => hi hi'.2),
    queued_countPing]

theorem queued_tciReporter {i : Item} (hwsi : s.client.wsi.isSome) (hroom : s.countPing.HasRoom r)
    (hi : r.Reported i) (hdue : r.compared i.shadow ≠ s.last i.shadow)
    : (s.tciReporter r).queued i = some (r.value i) := by
  have ⟨s₁, s₂, h₁, h₂, h₃⟩ := exists_sent_tciReporter r h
  have hpos := RadioReading.texts_pos hi
  have hping : ∀ n, s.countPing.client.idleQueued + n ≤ 100 → s.countPing.client.RoomFor n := by
    intro n hn
    refine ⟨?_, ?_, hn⟩
    . rw [running_countPing]
      exact h
    . rw [wsi_countPing]
      exact hwsi
  rw [← last_countPing] at hdue
  by_cases hk : i.shadow ∈ vfoShadows
  . have hle := le_due hk hdue
    rw [last_countPing] at hdue
    apply h₃.queued i ⟨hk, hdue, hi⟩
    apply h₂.room
    apply h₁.room
    rw [← Nat.add_assoc]
    exact hping _ (hroom.2 (by omega))
  . have hk' := (mem_shadows i.shadow).resolve_right hk
    have hle := le_due hk' hdue
    rw [last_countPing] at hdue
    rw [h₃.others i (fun hi' => hk hi'.1), h₂.others i id]
    exact h₁.queued i ⟨hk', hdue, hi⟩ (hping _ (hroom.1 (by omega)))

end Tick

end Feed

-- the receiver that an item is about
def Item.receiver : Item → Option (Fin 2)
  | .dds v => some v
  | .vfo v _ => some v
  | .modulation v => some v
  | .rxFilterBand v => some v
  | .txFrequency => none
  | .splitEnable => none
  | .trx => none

theorem receiver_eq_iff (i : Item) (v : Fin 2)
    : i.receiver = some v
        ↔
      i = .dds v ∨ i = .vfo v 0 ∨ i = .vfo v 1 ∨ i = .modulation v ∨ i = .rxFilterBand v := by
  revert v
  cases i with
  | dds v => revert v; decide
  | vfo v c => revert v c; decide
  | modulation v => revert v; decide
  | rxFilterBand v => revert v; decide
  | txFrequency => decide
  | splitEnable => decide
  | trx => decide

theorem shadow_ne_fx_iff (i : Item)
    : i.shadow ≠ .fx
        ↔
      i.receiver = some 0 ∨ i.receiver = some 1 ∨ i = .splitEnable ∨ i = .trx := by
  cases i with
  | dds v => revert v; decide
  | vfo v c => revert v c; decide
  | modulation v => revert v; decide
  | rxFilterBand v => revert v; decide
  | txFrequency => decide
  | splitEnable => decide
  | trx => decide

theorem lt_receivers {r : RadioReading} {i : Item} {v : Fin 2} (h : r.Reported i)
    (hi : i.receiver = some v) : v.val < r.receivers := by
  obtain rfl | rfl | rfl | rfl | rfl := (receiver_eq_iff i v).mp hi
  . exact h
  . exact h
  . exact h
  . exact h
  . exact h.1

-- how many messages of the initial state there are up to the last report
def RadioReading.initialTexts (r : RadioReading) (n₁ n₂ : Nat) : Nat :=
  let second := if r.receivers > 1 then 6 + (if r.HasFilter 1 then 1 else 0) else 0
  n₁ + (6 + if r.HasFilter 0 then 1 else 0) + second + (n₂ + 2)

namespace Sent

variable {r : RadioReading}

theorem sendReceiverState {v : Fin 2} (hv : v.val < r.receivers) (s : Feed)
    : Sent r (fun i => i.receiver = some v ∧ r.Reported i)
        (fun k => k = (Item.vfo v 0).shadow ∨ k = (Item.vfo v 1).shadow ∨
          k = (Item.modulation v).shadow)
        (6 + if r.HasFilter v then 1 else 0) s (s.sendReceiverState r v) := by
  have hdds := (sendItem r (.dds v) s).trans (sendOthers r 2 _)
  have hvfo := (hdds.trans (tciSendVfo hv 0 _)).trans (tciSendVfo hv 1 _)
  apply (hvfo.trans (sendMode hv _)).congr
  . intro i
    rw [receiver_eq_iff]
    simp only [or_false, List.mem_cons, List.not_mem_nil, or_assoc]
    constructor
    . rintro ⟨rfl | rfl | rfl | hmode, hi⟩
      . exact .inl rfl
      . exact .inr (.inl rfl)
      . exact .inr (.inr (.inl rfl))
      . exact .inr (.inr (.inr ⟨hmode, hi⟩))
    . rintro (rfl | rfl | rfl | ⟨hmode, hi⟩)
      . exact ⟨.inl rfl, hv⟩
      . exact ⟨.inr (.inl rfl), hv⟩
      . exact ⟨.inr (.inr (.inl rfl)), hv⟩
      . exact ⟨.inr (.inr (.inr hmode)), hi⟩
  . intro k
    simp only [false_or, or_assoc]
  . rw [← Nat.add_assoc]

-- what is about the second receiver, if there is one
theorem sendReceiverState_one (r : RadioReading) (s : Feed)
    : Sent r (fun i => i.receiver = some 1 ∧ r.Reported i)
        (fun k => (k = .fb ∨ k = .mb) ∧ r.receivers > 1)
        (if r.receivers > 1 then 6 + (if r.HasFilter 1 then 1 else 0) else 0) s
        (if r.receivers > 1 then s.sendReceiverState r 1 else s) := by
  by_cases hreceivers : r.receivers > 1
  . rw [if_pos hreceivers, if_pos hreceivers]
    apply (sendReceiverState (v := 1) hreceivers s).congr
    . exact fun i => Iff.rfl
    . intro k
      cases k <;> simp [Item.shadow, hreceivers]
    . rfl
  . rw [if_neg hreceivers, if_neg hreceivers]
    apply (refl r s).congr
    . rintro i
      refine iff_of_false (fun hi => ?_) id
      exact hreceivers (lt_receivers hi.2 hi.1)
    . exact fun k => iff_of_false (fun hk => hreceivers hk.2) id
    . rfl

-- up to the last report
theorem tciSendInitialState (r : RadioReading) (n₁ n₂ : Nat) (s : Feed)
    : Sent r (fun i => i.shadow ≠ .fx ∧ r.Reported i) (fun k => Watch.initialShows r k)
        (r.initialTexts n₁ n₂) s (s.tciSendInitialState r n₁ n₂ 0) := by
  have hreceivers := ((sendOthers r n₁ s).trans (sendReceiverState r.running _)).trans
    (sendReceiverState_one r _)
  have hlast := fun s' => ((sendOthers r n₂ s').trans (sendItem_setLast r .splitEnable .split _)).trans
    (sendItem_setLast r .trx .mox _)
  apply (hreceivers.trans (hlast _)).congr
  . intro i
    simp only [shadow_ne_fx_iff, false_or]
    constructor
    . rintro ⟨h | h | h | h, hi⟩
      . exact .inl (.inl ⟨h, hi⟩)
      . exact .inl (.inr ⟨h, hi⟩)
      . exact .inr (.inl h)
      . exact .inr (.inr h)
    . rintro ((⟨h, hi⟩ | ⟨h, hi⟩) | rfl | rfl)
      . exact ⟨.inl h, hi⟩
      . exact ⟨.inr (.inl h), hi⟩
      . exact ⟨.inr (.inr (.inl rfl)), trivial⟩
      . exact ⟨.inr (.inr (.inr rfl)), trivial⟩
  . intro k
    cases k <;> simp [Watch.initialShows, Item.shadow]
  . rfl

end Sent

end Tci

/-!
Whether the clients know the state of the radio: after each call of `tci_reporter`, the last value that was
queued for an item should be its present one.
-/

namespace Tci

open Run

theorem Client.running_tciQueueBinaryFrame (client : Client) (len : Nat)
    : (client.tciQueueBinaryFrame len).running = client.running := by
  unfold tciQueueBinaryFrame
  split_ifs
  all_goals rfl

theorem Client.wsi_tciQueueBinaryFrame (client : Client) (len : Nat)
    : (client.tciQueueBinaryFrame len).wsi = client.wsi := by
  unfold tciQueueBinaryFrame
  split_ifs
  all_goals rfl

theorem Client.reports_tciQueueBinaryFrame (client : Client) (len : Nat)
    : (client.tciQueueBinaryFrame len).reports = client.reports := by
  unfold tciQueueBinaryFrame
  split_ifs
  all_goals rfl

-- a frame that is written leaves the client as it was, but for the queue and its end
theorem Client.of_popQueue {client client' : Client} {type : OpCode}
    (h : client.popQueue = some (type, client'))
    : client'.running = client.running ∧ client'.wsi = client.wsi ∧
      client'.reports = client.reports := by
  unfold popQueue at h
  split at h
  . cases h
    exact ⟨rfl, rfl, rfl⟩
  . cases h

namespace Feed

-- a frame that is written may end the client, and leaves the rest but for the queue
theorem tciLwsWriteQueued_spec (s : Feed) (rc : Int)
    : ((s.tciLwsWriteQueued rc).client.running → s.client.running) ∧
      (s.tciLwsWriteQueued rc).client.wsi = s.client.wsi ∧
      (s.tciLwsWriteQueued rc).client.reports = s.client.reports ∧
      (s.tciLwsWriteQueued rc).queued = s.queued := by
  unfold tciLwsWriteQueued
  split
  . exact ⟨id, rfl, rfl, rfl⟩
  . next type client hpop =>
    have ⟨hrunning, hwsi, hreports⟩ := Client.of_popQueue hpop
    dsimp only
    split
    . refine ⟨fun h => ?_, hwsi, hreports, rfl⟩
      rw [← hrunning]
      exact h
    . refine ⟨fun h => ?_, hwsi, hreports, rfl⟩
      rw [← hrunning]
      exact (Bool.and_eq_true_iff.mp h).1

end Feed

-- an event that neither changes the radio nor sends the initial state
def WatchEvent.Steady : WatchEvent → Prop
  | .change _ => False
  | .initialState _ _ _ => False
  | _ => True

namespace Watch

-- the client knows each item as it is now
def Converged (s : Watch) : Prop :=
  ∀ i, s.radio.Reported i → s.feed.queued i = some (s.radio.value i)

-- after each tick of a run
def Converges (s : Watch) (es : List WatchEvent) : Prop :=
  ∀ before after, es = before ++ .tick :: after →
    (exec step s (before ++ [.tick])).feed.client.running →
      (exec step s (before ++ [.tick])).Converged

/--
An item whose field has the present value was there with its own present value when the client was last sent
what is behind the field.
-/
def Carried (s : Watch) : Prop :=
  ∀ i, s.radio.Reported i → s.radio.compared i.shadow = s.feed.last i.shadow →
    ∃ r, s.shown i.shadow = some r ∧ r.Reported i ∧ r.value i = s.radio.value i

def Meets (s : Watch) : WatchEvent → Prop
  | .tick => s.feed.client.running → s.Carried ∧ s.feed.countPing.HasRoom s.radio
  | .initialState n₁ n₂ _ =>
    s.feed.client.running → s.feed.client.idleQueued + s.radio.initialTexts n₁ n₂ ≤ 100
  | _ => True

-- while a client is running, what it was sent is in its queue or has gone through it
structure Inv (s : Watch) : Prop where
  connected : s.feed.client.running → s.feed.client.wsi.isSome
  queued : s.feed.client.running → ∀ i r, s.shown i.shadow = some r → r.Reported i →
    s.feed.queued i = some (r.value i)

theorem inv_start (client : Client) (session wsi timer : Nat) (radio : RadioReading)
    : (start client session wsi timer radio).Inv where
  connected _ := rfl
  queued _ i r h := by cases h

-- a step that leaves alone what was queued, except that it may end the client
theorem Inv.setFeed {s : Watch} (h : s.Inv) {feed : Feed}
    (hrunning : feed.client.running → s.feed.client.running ∧ feed.client.wsi = s.feed.client.wsi)
    (hqueued : feed.queued = s.feed.queued)
    : (s.setFeed feed).Inv where
  connected hfeed := by
    have ⟨hs, hwsi⟩ := hrunning hfeed
    exact (congrArg Option.isSome hwsi).trans (h.connected hs)
  queued hfeed i r hi hr := by
    have hs := h.queued (hrunning hfeed).1 i r hi hr
    rw [← hqueued] at hs
    exact hs

theorem converged_tick {s : Watch} (h : s.Inv) (hmeets : s.Meets .tick)
    (hrunning : s.feed.client.running) : (s.step .tick).Converged := by
  intro i hi
  have ⟨hcarried, hroom⟩ := hmeets hrunning
  by_cases hdue : s.radio.compared i.shadow = s.feed.last i.shadow
  . obtain ⟨r, hr, hreported, hvalue⟩ := hcarried i hi hdue
    have hold := Feed.queued_tciReporter_of_not_due hrunning
      (fun hi' : s.radio.compared i.shadow ≠ s.feed.last i.shadow ∧ s.radio.Reported i =>
        hi'.1 hdue)
    dsimp only [step]
    rw [hold, h.queued hrunning i r hr hreported, hvalue]
  . exact Feed.queued_tciReporter hrunning (h.connected hrunning) hroom hi hdue

theorem running_of_tick {s : Watch} (h : (s.step .tick).feed.client.running)
    : s.feed.client.running := by
  by_contra hrunning
  dsimp only [step] at h
  rw [Feed.tciReporter, if_neg hrunning] at h
  exact hrunning h

theorem inv_tick {s : Watch} (h : s.Inv) (hmeets : s.Meets .tick) : (s.step .tick).Inv where
  connected hrunning := by
    have hs := running_of_tick hrunning
    dsimp only [step]
    rw [Feed.wsi_tciReporter hs]
    exact h.connected hs
  queued hrunning i r hr hi := by
    obtain rfl : s.radio = r := Option.some.inj hr
    exact converged_tick h hmeets (running_of_tick hrunning) i hi

theorem inv_initialState {s : Watch} (h : s.Inv) {n₁ n₂ n₃ : Nat}
    (hmeets : s.Meets (.initialState n₁ n₂ n₃)) : (s.step (.initialState n₁ n₂ n₃)).Inv := by
  by_cases hs : s.feed.client.running
  . have hsent := Sent.tciSendInitialState s.radio n₁ n₂ s.feed
    have hrest := Sent.sendOthers s.radio n₃ (s.feed.tciSendInitialState s.radio n₁ n₂ 0)
    have hroom : s.feed.client.RoomFor (s.radio.initialTexts n₁ n₂) :=
      ⟨hs, h.connected hs, hmeets hs⟩
    dsimp only [step]
    rw [if_pos hs]
    constructor
    . intro _
      exact (congrArg Option.isSome (hrest.wsi.trans hsent.wsi)).trans (h.connected hs)
    . intro _ i r hr hi
      have hqueued := hrest.others i id
      dsimp only at hr
      by_cases hshows : initialShows s.radio i.shadow
      . rw [if_pos hshows] at hr
        obtain rfl : s.radio = r := Option.some.inj hr
        refine hqueued.trans (hsent.queued i ⟨?_, hi⟩ hroom)
        rintro hfx
        rw [hfx] at hshows
        cases hshows
      . rw [if_neg hshows] at hr
        refine (hqueued.trans (hsent.others i ?_)).trans (h.queued hs i r hr hi)
        rintro ⟨hfx, hreported⟩
        apply hshows
        have hreceivers := RadioReading.receivers_of_shadow hreported
        by_cases hmb : i.shadow = .mb
        . simp [initialShows, hmb, hreceivers hmb]
        . simp [initialShows, hmb, hfx]
  . dsimp only [step]
    rw [if_neg hs]
    exact h

theorem inv_step {s : Watch} (h : s.Inv) (e : WatchEvent) (hmeets : s.Meets e) : (s.step e).Inv := by
  cases e with
  | change radio => exact ⟨h.connected, h.queued⟩
  | tick => exact inv_tick h hmeets
  | initialState n₁ n₂ n₃ => exact inv_initialState h hmeets
  | queueFrame type checkRunning =>
    apply h.setFeed
    . intro hrunning
      rw [← Client.running_tciQueueFrame s.feed.client type checkRunning]
      exact ⟨hrunning, Client.wsi_tciQueueFrame ..⟩
    . rfl
  | queueBinaryFrame len =>
    apply h.setFeed
    . intro hrunning
      rw [← Client.running_tciQueueBinaryFrame s.feed.client len]
      exact ⟨hrunning, Client.wsi_tciQueueBinaryFrame ..⟩
    . rfl
  | sensors rx tx => exact h.setFeed (fun hrunning => ⟨hrunning, rfl⟩) rfl
  | writeable rc =>
    have ⟨hrunning, hwsi, _, hqueued⟩ := s.feed.tciLwsWriteQueued_spec rc
    exact h.setFeed (fun hs => ⟨hrunning hs, hwsi⟩) hqueued
  | closed =>
    apply h.setFeed
    . intro hrunning
      cases hrunning
    . rfl

/--
In a run from the connection on, each tick leaves the client with the present value of every item, if the
queue had room for each report that was due in it and nothing changes behind the back of its field.
-/
theorem converges_of_along (client : Client) (session wsi timer : Nat) (radio : RadioReading)
    (es : List WatchEvent) (h : Along step Meets (start client session wsi timer radio) es)
    : (start client session wsi timer radio).Converges es := by
  intro before after hes hrunning
  rw [hes, along_append, along_cons] at h
  have ⟨hbefore, htick, _⟩ := h
  have hkeep : ∀ (s : Watch) (e : WatchEvent), s.Inv → s.Meets e → (s.step e).Inv :=
    fun s e hs => inv_step hs e
  have hinv := exec_invariant hkeep (inv_start client session wsi timer radio) hbefore
  rw [exec_append, exec_cons, exec_nil] at hrunning ⊢
  exact converged_tick hinv htick (running_of_tick hrunning)

-- the radio after its first start, with the given frequency for VFO A
def startReading (frequency : Int) : RadioReading where
  tuning := initialState.toTuningState.setVfo 0 { initialVfo with frequency }
  running := Nat.zero_lt_two
  isTransmitting := false
  hasPower := false

/-
After a first tick, the queue of the client fills, VFO A is moved by 10 kHz and the queue is full at the next
tick. Then all is written, but a further tick does not report the frequency.
-/
def lostReport : List WatchEvent :=
  .tick :: List.replicate 100 (.queueFrame .text true) ++
    .change (startReading 14020000) :: .tick :: List.replicate 120 (.writeable 0)

theorem not_converges
    : ¬∀ client session wsi timer radio es,
        (start client session wsi timer radio).Converges es := by
  intro h
  have hlost := h Client.zero 0 0 0 (startReading 14010000) (lostReport ++ [.tick]) lostReport [] rfl
    (by decide +kernel) (.vfo 0 0) Nat.zero_lt_two
  revert hlost
  decide +kernel

def transmitReading (frequency : Int) : RadioReading :=
  { startReading frequency with isTransmitting := true }

-- the radio starts to transmit between two ticks
theorem converges_of_along_transmit
    : (start Client.zero 0 0 0 (startReading 14010000)).Converges
        [.tick, .change (transmitReading 14010000), .tick] := by
  apply converges_of_along
  refine ⟨fun _ => ⟨?_, by decide⟩, trivial, fun _ => ⟨?_, by decide +kernel⟩, trivial⟩
  . intro i _ hi
    have hnew : ∀ k, (startReading 14010000).compared k ≠ Reports.none.last k := by
      intro k
      cases k <;> decide
    exact absurd hi (hnew i.shadow)
  . intro i hreported hi
    refine ⟨startReading 14010000, rfl, ?_, ?_⟩
    . cases i <;> exact hreported
    . cases i with
      | trx =>
        revert hi
        decide
      | _ => rfl

-- the fields of the client have the present values
def UpToDate (s : Watch) : Prop :=
  ∀ k, s.feed.last k = s.radio.compared k

theorem upToDate_tick {s : Watch} (h : s.feed.client.running) : (s.step .tick).UpToDate :=
  fun k => Feed.last_tciReporter h k

theorem steady_step {s : Watch} (h : s.UpToDate) {e : WatchEvent} (he : e.Steady)
    : (s.step e).UpToDate ∧ (s.step e).feed.queued = s.feed.queued := by
  cases e with
  | change radio => exact he.elim
  | initialState n₁ n₂ n₃ => exact he.elim
  | tick =>
    by_cases hs : s.feed.client.running
    . refine ⟨upToDate_tick hs, funext fun i => ?_⟩
      exact Feed.queued_tciReporter_of_not_due hs fun hi => hi.1 (h _).symm
    . dsimp only [step]
      rw [Feed.tciReporter, if_neg hs]
      exact ⟨h, rfl⟩
  | queueFrame type checkRunning =>
    exact ⟨fun k => (Feed.last_tciQueueFrame ..).trans (h k), rfl⟩
  | queueBinaryFrame len =>
    have hreports := Client.reports_tciQueueBinaryFrame s.feed.client len
    exact ⟨fun k => (congrArg (Reports.last · k) hreports).trans (h k), rfl⟩
  | sensors rx tx =>
    refine ⟨fun k => Eq.trans ?_ (h k), rfl⟩
    cases k <;> rfl
  | writeable rc =>
    obtain ⟨_, _, hreports, hqueued⟩ := s.feed.tciLwsWriteQueued_spec rc
    exact ⟨fun k => (congrArg (Reports.last · k) hreports).trans (h k), hqueued⟩
  | closed => exact ⟨h, rfl⟩

/--
What a tick has not got into the queue is not tried again, however many ticks follow and however empty the
queue gets, as long as the radio stays as it is.
-/
theorem queued_exec_of_tick {s : Watch} (h : s.feed.client.running) {es : List WatchEvent}
    (hes : ∀ e ∈ es, e.Steady)
    : (exec step (s.step .tick) es).feed.queued = (s.step .tick).feed.queued := by
  have hkeep : ∀ (s' : Watch) (e : WatchEvent), s'.UpToDate ∧ s'.feed.queued = (s.step .tick).feed.queued → e.Steady →
      (s'.step e).UpToDate ∧ (s'.step e).feed.queued = (s.step .tick).feed.queued := by
    intro s' e hs' he
    obtain ⟨hupToDate, hqueued⟩ := steady_step hs'.1 he
    exact ⟨hupToDate, hqueued.trans hs'.2⟩
  exact (exec_invariant hkeep ⟨upToDate_tick h, rfl⟩ (along_of_forall_mem hes _)).2

end Watch

end Tci
