import Pihpsdr.Transmit.Impl.Switch
import Pihpsdr.Transmit.Lemmas.Changes
import Pihpsdr.Transmit.Lemmas.Switch

/-!
A delayed key-off takes away a later key-on exactly because nothing cancels its timer: as long as
each key-on takes effect while no timer waits, MOX ends up as the last request asked for.
-/

namespace Transmit

theorem RxTx.radioSetMox_mox {s : RxTx} {env : TxEnv} {state : CInt}
    : (s.radioSetMox env state).mox =
        if ¬ s.hasTransmitter then s.mox
        else if state ≠ 0 ∧ ¬ env.transmitAllowed then 0
        else if state ≠ 0 ∧ env.txInhibit then s.mox
        else state := by
  unfold radioSetMox
  grind

namespace TxEnv

def Grants (env : TxEnv) : Prop :=
  env.transmitAllowed ∧ ¬ env.txInhibit

-- a key-on that is not ignored: it is granted or, out of band, switches MOX off
def TakesEffect (env : TxEnv) : Prop :=
  env.transmitAllowed → ¬ env.txInhibit

instance (env : TxEnv) : Decidable env.Grants :=
  inferInstanceAs (Decidable (_ ∧ _))

instance (env : TxEnv) : Decidable env.TakesEffect :=
  inferInstanceAs (Decidable (_ → _))

end TxEnv

namespace Keying

variable {s : Keying} {env : TxEnv} {n : Nat}

def KeysOn (s : Keying) : KeyRequest → Prop
  | .catTx => True
  | .catRx => False
  | .catZztx new => new ≠ 0
  | .actionPtt pressed => pressed
  | .actionMox => s.radio.mox = 0
  | .radioPtt _ => False

instance (s : Keying) (r : KeyRequest) : Decidable (s.KeysOn r) := by
  cases r <;> unfold KeysOn <;> infer_instance

/--
A key-on is granted only while no delayed key-off waits, and one from the queue of the main loop
takes effect only while it is the last request.
-/
def Timely (s : Keying) : TxEnv × KeyEvent → Prop
  | (env, .request r) => s.KeysOn r → env.Grants → s.timers = []
  | (env, .idle) => ∀ n, s.idles.head? = some n → env.TakesEffect →
      n = s.requests ∧ (env.Grants → s.timers = [])
  | (_, .timer _) => True

/--
The timer that fires does not take away MOX from a request that came after its own.
-/
def SparesLater (s : Keying) : TxEnv × KeyEvent → Prop
  | (_, .timer i) => s.radio.mox ≠ 0 → ∀ k, s.timers[i]? = some k → s.keyedBy < k
  | _ => True

structure Ordered (s : Keying) : Prop where
  no_transmitter : ¬ s.radio.hasTransmitter → s.radio.mox = 0 ∧ s.wanted = 0
  keyedBy_le : s.keyedBy ≤ s.requests
  timers_later : s.radio.mox ≠ 0 → ∀ k ∈ s.timers, s.keyedBy < k
  wanted_on : s.wanted ≠ 0 → s.radio.mox = s.wanted ∧ s.timers = []
  wanted_off : s.wanted = 0 → s.radio.mox = 0 ∨ s.timers ≠ []

theorem unkeyed_ordered (hasTransmitter duplex : Bool) (receivers : Nat)
    : (unkeyed (RxTx.receiving hasTransmitter duplex receivers)).Ordered := by
  constructor
  . intro _
    exact ⟨rfl, rfl⟩
  . exact Nat.le_refl 0
  . intro _ k hk
    contradiction
  . intro h
    contradiction
  . intro _
    exact Or.inl rfl

theorem numbered_ordered (h : s.Ordered) : s.numbered.Ordered := by
  constructor
  . exact h.no_transmitter
  . exact Nat.le_succ_of_le h.keyedBy_le
  . exact h.timers_later
  . exact h.wanted_on
  . exact h.wanted_off

theorem keyOn_ordered (h : s.Ordered) (hn : env.TakesEffect → n = s.requests)
    (htimers : env.Grants → s.timers = [])
    : (s.keyOn env n).Ordered := by
  have ⟨hno, hle, hlater, hon, hoff⟩ := h
  unfold TxEnv.TakesEffect at hn
  unfold TxEnv.Grants at htimers
  unfold keyOn
  constructor
  . rw [RxTx.radioSetMox_hasTransmitter, RxTx.radioSetMox_mox]
    grind
  . grind
  . rw [RxTx.radioSetMox_mox]
    grind
  . rw [RxTx.radioSetMox_mox]
    grind
  . rw [RxTx.radioSetMox_mox]
    grind

theorem keyOffDelayed_ordered (h : s.Ordered) (hn : s.keyedBy < n)
    : (s.keyOffDelayed n).Ordered := by
  constructor
  . intro ht
    exact ⟨(h.no_transmitter ht).1, rfl⟩
  . exact h.keyedBy_le
  . intro hmox k hk
    rw [keyOffDelayed, List.mem_append, List.mem_singleton] at hk
    cases hk with
    | inl hk => exact h.timers_later hmox k hk
    | inr hk =>
      rw [hk]
      exact hn
  . intro hwanted
    exact absurd rfl hwanted
  . intro _
    apply Or.inr
    simp [keyOffDelayed]

theorem request_keyOn_ordered (h : s.Ordered) (htimers : env.Grants → s.timers = [])
    : (s.numbered.keyOn env (s.requests + 1)).Ordered := by
  apply keyOn_ordered (numbered_ordered h)
  . intro _
    rfl
  . exact htimers

theorem request_keyOff_ordered (h : s.Ordered)
    : (s.numbered.keyOffDelayed (s.requests + 1)).Ordered := by
  apply keyOffDelayed_ordered (numbered_ordered h)
  exact Nat.lt_succ_of_le h.keyedBy_le

theorem request_ordered (h : s.Ordered) {r : KeyRequest}
    (ht : s.KeysOn r → env.Grants → s.timers = [])
    : (s.request env r).Ordered := by
  unfold request
  cases r with
  | catTx => exact request_keyOn_ordered h (ht trivial)
  | catRx => exact request_keyOff_ordered h
  | catZztx new =>
    dsimp only
    split
    next hnew => exact request_keyOn_ordered h (ht hnew)
    next => exact request_keyOff_ordered h
  | actionPtt pressed =>
    dsimp only
    split
    next hpressed => exact request_keyOn_ordered h (ht hpressed)
    next => exact request_keyOff_ordered h
  | actionMox =>
    dsimp only
    split
    next => exact request_keyOff_ordered h
    next hmox => exact request_keyOn_ordered h (ht (not_not.mp hmox))
  | radioPtt hpsdrPtt =>
    have hset : Ordered { s with hpsdrPtt := hpsdrPtt } := by
      have ⟨hno, hle, hlater, hon, hoff⟩ := h
      exact ⟨hno, hle, hlater, hon, hoff⟩
    dsimp only
    split
    next =>
      split
      next =>
        have ⟨hno, hle, hlater, hon, hoff⟩ := numbered_ordered hset
        exact ⟨hno, hle, hlater, hon, hoff⟩
      next => exact request_keyOff_ordered hset
    next => exact h

theorem fireTimer_ordered (h : s.Ordered) (i : Nat) : (s.fireTimer env i).Ordered := by
  have ⟨hno, hle, hlater, hon, hoff⟩ := h
  unfold fireTimer
  split
  next hi =>
    have hmox : (s.radio.radioSetMox env 0).mox = 0 := by
      rw [RxTx.radioSetMox_mox]
      grind
    constructor
    . rw [RxTx.radioSetMox_hasTransmitter]
      intro ht
      exact ⟨hmox, (hno ht).2⟩
    . exact hle
    . intro hmox'
      exact absurd hmox hmox'
    . intro hwanted
      have := (hon hwanted).2
      simp [this] at hi
    . intro _
      exact Or.inl hmox
  next => exact h

theorem event_ordered (h : s.Ordered) (e : TxEnv × KeyEvent) (he : s.Timely e)
    : (s.event e).Ordered := by
  match e with
  | (env, .request r) => exact request_ordered h he
  | (env, .timer i) => exact fireTimer_ordered h i
  | (env, .idle) =>
    dsimp only [event]
    unfold runIdle
    split
    next => exact h
    next n idles hidles =>
      have hset : Ordered { s with idles := idles } := by
        have ⟨hno, hle, hlater, hon, hoff⟩ := h
        exact ⟨hno, hle, hlater, hon, hoff⟩
      have heffect : env.TakesEffect → n = s.requests ∧ (env.Grants → s.timers = []) := by
        apply he n
        rw [hidles]
        rfl
      apply keyOn_ordered hset
      . exact fun h => (heffect h).1
      . exact fun h => (heffect (fun _ => h.2)).2 h

theorem sparesLater_of_ordered (h : s.Ordered) (e : TxEnv × KeyEvent) : s.SparesLater e := by
  match e with
  | (env, .request r) => trivial
  | (env, .idle) => trivial
  | (env, .timer i) =>
    intro hmox k hk
    exact h.timers_later hmox k (List.mem_of_getElem? hk)

theorem mox_eq_wanted (h : s.Ordered) (htimers : s.timers = []) : s.radio.mox = s.wanted := by
  by_cases hwanted : s.wanted = 0
  . rw [hwanted]
    exact (h.wanted_off hwanted).resolve_right (by simpa using htimers)
  . exact (h.wanted_on hwanted).1

/--
In a run whose key-ons take effect while no timer waits, no timer takes away MOX from a later
request, and after all timers MOX is what the last request stands for.
-/
theorem mox_of_last_request (hasTransmitter duplex : Bool) (receivers : Nat)
    (events : List (TxEnv × KeyEvent))
    (h : Run.Along event Timely (unkeyed (RxTx.receiving hasTransmitter duplex receivers)) events)
    : Run.Along event SparesLater (unkeyed (RxTx.receiving hasTransmitter duplex receivers))
        events ∧
      ((Run.exec event (unkeyed (RxTx.receiving hasTransmitter duplex receivers)) events).timers =
          [] →
        (Run.exec event (unkeyed (RxTx.receiving hasTransmitter duplex receivers))
            events).radio.mox =
          (Run.exec event (unkeyed (RxTx.receiving hasTransmitter duplex receivers))
            events).wanted) := by
  have hstart := unkeyed_ordered hasTransmitter duplex receivers
  have hstep : ∀ s e, Ordered s → s.Timely e → (s.event e).Ordered := by
    intro s e hs he
    exact event_ordered hs e he
  constructor
  . apply Run.along_of_invariant hstep _ hstart h
    intro s e hs _
    exact sparesLater_of_ordered hs e
  . apply mox_eq_wanted
    exact Run.exec_invariant hstep hstart h

theorem mox_of_last_request_tx
    : (Run.exec event (unkeyed (RxTx.receiving true false 2))
        [(⟨true, false⟩, .request .catTx), (⟨true, false⟩, .request .catRx),
          (⟨true, false⟩, .timer 0), (⟨true, false⟩, .request .catTx)]).radio.mox =
      (Run.exec event (unkeyed (RxTx.receiving true false 2))
        [(⟨true, false⟩, .request .catTx), (⟨true, false⟩, .request .catRx),
          (⟨true, false⟩, .timer 0), (⟨true, false⟩, .request .catTx)]).wanted := by
  have h : Run.Along event Timely (unkeyed (RxTx.receiving true false 2))
      [(⟨true, false⟩, .request .catTx), (⟨true, false⟩, .request .catRx),
        (⟨true, false⟩, .timer 0), (⟨true, false⟩, .request .catTx)] :=
    ⟨fun _ _ => rfl, fun h => absurd h not_false, trivial, fun _ _ => rfl, trivial⟩
  exact (mox_of_last_request true false 2 _ h).2 rfl

/--
`TX;`, `RX;` and again `TX;` before the delay of the key-off is over: its timer takes away MOX from
the second `TX;`, and the radio ends up receiving.
-/
theorem key_on_cut_off
    : ¬ (Run.Along event SparesLater (unkeyed (RxTx.receiving true false 2))
          [(⟨true, false⟩, .request .catTx), (⟨true, false⟩, .request .catRx),
            (⟨true, false⟩, .request .catTx), (⟨true, false⟩, .timer 0)] ∧
        ((Run.exec event (unkeyed (RxTx.receiving true false 2))
            [(⟨true, false⟩, .request .catTx), (⟨true, false⟩, .request .catRx),
              (⟨true, false⟩, .request .catTx), (⟨true, false⟩, .timer 0)]).timers = [] →
          (Run.exec event (unkeyed (RxTx.receiving true false 2))
            [(⟨true, false⟩, .request .catTx), (⟨true, false⟩, .request .catRx),
              (⟨true, false⟩, .request .catTx), (⟨true, false⟩, .timer 0)]).radio.mox =
          (Run.exec event (unkeyed (RxTx.receiving true false 2))
            [(⟨true, false⟩, .request .catTx), (⟨true, false⟩, .request .catRx),
              (⟨true, false⟩, .request .catTx), (⟨true, false⟩, .timer 0)]).wanted)) := by
  intro ⟨_, hmox⟩
  have hmox := hmox rfl
  exact absurd hmox (by decide)

end Keying

end Transmit
