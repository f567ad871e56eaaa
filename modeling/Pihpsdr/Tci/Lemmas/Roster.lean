import Pihpsdr.Tci.Impl.Server

/-!
What a step of the server can do to the table of the clients: nothing, a client that takes the transmitter or
leaves, and the events that add or remove a connection or something in the main loop.
-/

namespace Tci

namespace Client

-- the place of the client in the table is the same
structure Same (client client' : Client) : Prop where
  running : client'.running = client.running
  txOwner : client'.txOwner = client.txOwner
  session : client'.session = client.session
  tciTimer : client.running = true → client'.tciTimer = client.tciTimer

theorem Same.refl (client : Client) : Same client client := ⟨rfl, rfl, rfl, fun _ => rfl⟩

theorem Same.trans {a b c : Client} (hab : Same a b) (hbc : Same b c) : Same a c where
  running := hbc.running.trans hab.running
  txOwner := hbc.txOwner.trans hab.txOwner
  session := hbc.session.trans hab.session
  tciTimer h := by rw [hbc.tciTimer (by rw [hab.running, h]), hab.tciTimer h]

theorem same_tciQueueFrame (client : Client) (type : OpCode) (checkRunning : Bool)
    : Same client (client.tciQueueFrame type checkRunning) := by
  unfold tciQueueFrame
  split
  . exact .refl client
  . split
    . exact .refl client
    . split <;> exact ⟨rfl, rfl, rfl, fun _ => rfl⟩

theorem same_tciQueueBinaryFrame (client : Client) (len : Nat)
    : Same client (client.tciQueueBinaryFrame len) := by
  unfold tciQueueBinaryFrame
  split
  . exact .refl client
  . split <;> exact ⟨rfl, rfl, rfl, fun _ => rfl⟩

theorem same_tciHandleBinary (client : Client) (txAudio : Bool) (len : Nat)
    : Same client (client.tciHandleBinary txAudio len) := by
  unfold tciHandleBinary
  split
  . exact .refl client
  . split <;> exact ⟨rfl, rfl, rfl, fun _ => rfl⟩

theorem same_tciHandleBinaryLws (client : Client) (len : Nat) (first final txAudio : Bool)
    : Same client (client.tciHandleBinaryLws len first final txAudio) := by
  unfold tciHandleBinaryLws
  split
  . exact .refl client
  . dsimp only
    apply Same.trans (b := if first then { client with binaryRxLen := 0 } else client)
    . split <;> exact ⟨rfl, rfl, rfl, fun _ => rfl⟩
    . generalize (if first then { client with binaryRxLen := 0 } else client) = t
      split
      . exact ⟨rfl, rfl, rfl, fun _ => rfl⟩
      . split
        . have hwhole := same_tciHandleBinary
            { t with binaryRxSize := t.binarySize (t.binaryRxLen + len), binaryRxLen := t.binaryRxLen + len }
            txAudio (t.binaryRxLen + len)
          exact ⟨hwhole.running, hwhole.txOwner, hwhole.session, hwhole.tciTimer⟩
        . exact ⟨rfl, rfl, rfl, fun _ => rfl⟩

theorem same_popQueue {client client' : Client} {type : OpCode}
    (h : client.popQueue = some (type, client'))
    : Same client client' := by
  unfold popQueue at h
  split at h
  . cases h
    exact ⟨rfl, rfl, rfl, fun _ => rfl⟩
  . nomatch h

end Client

namespace Server

structure Same (s s' : Server) : Prop where
  clients : ∀ c, (s.clients c).Same (s'.clients c)
  owned : s'.tciTransmitterOwned = s.tciTransmitterOwned
  conns : s'.conns = s.conns
  catControl : s'.catControl = s.catControl
  others : s'.others = s.others
  nextSession : s'.nextSession = s.nextSession
  nextSource : s.nextSource ≤ s'.nextSource
  idles : s'.idles ⊆ s.idles
  setMoxOff : .setMoxOff ∈ s.idles → .setMoxOff ∈ s'.idles
  reporters : s'.reporters ⊆ s.reporters

theorem Same.refl (s : Server) : Same s s where
  clients c := .refl (s.clients c)
  owned := rfl
  conns := rfl
  catControl := rfl
  others := rfl
  nextSession := rfl
  nextSource := Nat.le_refl _
  idles := List.Subset.refl _
  setMoxOff := id
  reporters := List.Subset.refl _

theorem Same.trans {s t u : Server} (hst : Same s t) (htu : Same t u) : Same s u where
  clients c := (hst.clients c).trans (htu.clients c)
  owned := htu.owned.trans hst.owned
  conns := htu.conns.trans hst.conns
  catControl := htu.catControl.trans hst.catControl
  others := htu.others.trans hst.others
  nextSession := htu.nextSession.trans hst.nextSession
  nextSource := Nat.le_trans hst.nextSource htu.nextSource
  idles := List.Subset.trans htu.idles hst.idles
  setMoxOff h := htu.setMoxOff (hst.setMoxOff h)
  reporters := List.Subset.trans htu.reporters hst.reporters

theorem modify_self (s : Server) (c : Slot) (f : Client → Client)
    : (s.modify c f).clients c = f (s.clients c) :=
  Function.update_self ..

theorem modify_of_ne (s : Server) {c d : Slot} (h : d ≠ c) (f : Client → Client)
    : (s.modify c f).clients d = s.clients d :=
  Function.update_of_ne h ..

-- what is said of each client holds if it holds of the one that is changed, and held of the others
theorem forall_modify {s : Server} {c : Slot} {f : Client → Client} {P : Slot → Client → Prop}
    (hc : P c (f (s.clients c))) (hd : ∀ d, d ≠ c → P d (s.clients d))
    : ∀ d, P d ((s.modify c f).clients d) := by
  intro d
  by_cases h : d = c
  . rw [h, modify_self]
    exact hc
  . rw [modify_of_ne s h]
    exact hd d h

theorem same_modify {s : Server} {c : Slot} {f : Client → Client}
    (h : (s.clients c).Same (f (s.clients c)))
    : Same s (s.modify c f) :=
  { Same.refl s with
    clients := forall_modify (P := fun d client => (s.clients d).Same client) h fun d _ =>
      .refl (s.clients d) }

theorem same_setRadio (s : Server) (radio : Transmit.RxTx) : Same s (s.setRadio radio) :=
  { Same.refl s with }

theorem same_removeClearMox (s : Server) (c : Slot) : Same s (s.removeClearMox c) := by
  unfold removeClearMox
  dsimp only
  split
  . refine Same.trans ?_ (same_modify ⟨rfl, rfl, rfl, fun _ => rfl⟩)
    exact { Same.refl s with }
  . exact .refl s

theorem same_keyOn (env : Transmit.TxEnv) (s : Server) (c : Slot) (session : Nat) (source : Bool)
    : Same s (s.keyOn env c session source) := by
  unfold keyOn
  dsimp only
  apply Same.trans (t := if source then
    (s.removeClearMox c).modify c fun client =>
      { client with txAudioEnabled := true, txAudioRxCount := 0 } else s)
  . split
    . exact (same_removeClearMox s c).trans (same_modify ⟨rfl, rfl, rfl, fun _ => rfl⟩)
    . exact .refl s
  . generalize (if source then _ else s) = t
    have hmodify : Same t (t.modify c fun client => { client with lastTrx := true }) :=
      same_modify ⟨rfl, rfl, rfl, fun _ => rfl⟩
    exact { hmodify with }

theorem same_keyOff (s : Server) (c : Slot) : Same s (s.keyOff c) := by
  unfold keyOff
  dsimp only
  refine Same.trans ?_ (same_modify ⟨rfl, rfl, rfl, fun _ => rfl⟩)
  exact { Same.refl s with nextSource := Nat.le_succ _ }

-- the arguments ask for the radio to transmit
def asksTx (argv : List (List Int)) : Bool :=
  !otherReceiver argv && argv[1]?.any tciBool

theorem takeOwner_false (s : Server) (c : Slot) : s.takeOwner c false = s := by
  unfold takeOwner
  simp

theorem takeOwner_of_free {s : Server} (h : s.tciTransmitterOwned = false) (c : Slot)
    : s.takeOwner c true
        = { s with
            tciTransmitterOwned := true
            clients := fun d =>
              { s.clients d with txOwner := decide (d = c) || (s.clients d).txOwner } } := by
  unfold takeOwner modify
  simp only [h, Bool.false_eq_true, not_false_eq_true, and_self, if_true]
  congr 1
  funext d
  by_cases hd : d = c <;> simp [hd]

theorem takeOwner_asksTx {argv : List (List Int)} {arg : List Int} (s : Server) (c : Slot)
    (hreceiver : ¬otherReceiver argv = true) (harg : argv[1]? = some arg)
    : s.takeOwner c (tciBool arg) = s.takeOwner c (asksTx argv) := by
  simp [asksTx, hreceiver, harg]

theorem same_takeOwner_asksTx {argv : List (List Int)} (s : Server) (c : Slot)
    (h : otherReceiver argv = true ∨ argv[1]? = none)
    : Same (s.takeOwner c (asksTx argv)) s := by
  have hasks : asksTx argv = false := by
    cases h with
    | inl hreceiver => simp [asksTx, hreceiver]
    | inr hnone => simp [asksTx, hnone]
  rw [hasks, takeOwner_false]
  exact .refl s

theorem same_tciCmdTrx (env : Transmit.TxEnv) (s : Server) (c : Slot) (session : Nat)
    (argv : List (List Int))
    : Same (s.takeOwner c (asksTx argv)) (s.tciCmdTrx env c session argv) := by
  unfold tciCmdTrx
  split
  next hreceiver => exact same_takeOwner_asksTx s c (.inl hreceiver)
  next hreceiver =>
    split
    next hnone => exact same_takeOwner_asksTx s c (.inr hnone)
    next arg harg =>
      dsimp only
      rw [takeOwner_asksTx s c hreceiver harg]
      split
      . split
        . exact same_keyOn env _ c session _
        . exact same_keyOff _ c
      . exact .refl _

theorem same_tciCmdTune (env : Transmit.TxEnv) (s : Server) (c : Slot) (argv : List (List Int))
    : Same (s.takeOwner c (asksTx argv)) (s.tciCmdTune env c argv) := by
  unfold tciCmdTune
  split
  next hreceiver => exact same_takeOwner_asksTx s c (.inl hreceiver)
  next hreceiver =>
    split
    next hnone => exact same_takeOwner_asksTx s c (.inr hnone)
    next arg harg =>
      dsimp only
      rw [takeOwner_asksTx s c hreceiver harg]
      split
      . exact same_setRadio _ _
      . exact .refl _

-- a client leaves, and the table is the same otherwise
def Leaves (s s' : Server) : Prop :=
  ∃ t c, Same s t ∧ Same (t.leave c) s'

theorem modify_modify (s : Server) (c : Slot) (f g : Client → Client)
    : (s.modify c f).modify c g = s.modify c fun client => g (f client) := by
  simp [modify]

theorem leaves_tciCmdStop (env : Transmit.TxEnv) (s : Server) (c : Slot)
    : Leaves s (s.tciCmdStop env c) := by
  let t := s.modify c fun client =>
    { client with reports := { client.reports with rxsensor := false, txsensor := false } }
  refine ⟨t, c, same_modify ⟨rfl, rfl, rfl, fun _ => rfl⟩, ?_⟩
  unfold tciCmdStop leave
  dsimp only
  rw [modify_modify]
  split
  . apply Same.trans (same_removeClearMox _ c)
    split
    . exact (same_setRadio _ _).trans (same_modify ⟨rfl, rfl, rfl, fun _ => rfl⟩)
    . exact .refl _
  . exact .refl _

def takesTx : Payload → Bool
  | .text (.trx argv) => asksTx argv
  | .text (.tune argv) => asksTx argv
  | _ => false

theorem tciProcessWsPayload_cases (env : Transmit.TxEnv) (s : Server) (c : Slot) (session : Nat)
    (load : Payload)
    : Same (s.takeOwner c (takesTx load)) (s.tciProcessWsPayload env c session load)
        ∨ takesTx load = false ∧ Leaves s (s.tciProcessWsPayload env c session load) := by
  unfold tciProcessWsPayload takesTx
  match load with
  | .text (.trx argv) => exact .inl (same_tciCmdTrx env s c session argv)
  | .text (.tune argv) => exact .inl (same_tciCmdTune env s c argv)
  | .text .stop => exact .inr ⟨rfl, leaves_tciCmdStop env s c⟩
  | .text .other =>
    left
    dsimp only
    rw [takeOwner_false]
    exact .refl s
  | .ping =>
    left
    dsimp only
    rw [takeOwner_false]
    exact same_modify (Client.same_tciQueueFrame _ .pong false)
  | .close => exact .inr ⟨rfl, s, c, .refl s, .refl _⟩

theorem same_tciRadioClearMox (env : Transmit.TxEnv) (s : Server) (id : Nat)
    : Same s (s.tciRadioClearMox env id) := by
  unfold tciRadioClearMox
  split
  . exact .refl s
  . dsimp only
    refine Same.trans ?_ (same_setRadio _ _)
    refine Same.trans ?_ (same_modify ⟨rfl, rfl, rfl, fun _ => rfl⟩)
    exact { Same.refl s with }

theorem same_tciReporter (s : Server) (id : Nat) : Same s (s.tciReporter id) := by
  unfold tciReporter
  split
  . exact .refl s
  next t _ =>
    split
    . apply same_modify
      split
      . refine Client.Same.trans ?_ (Client.same_tciQueueFrame _ .ping false)
        exact ⟨rfl, rfl, rfl, fun _ => rfl⟩
      . exact ⟨rfl, rfl, rfl, fun _ => rfl⟩
    next hrunning =>
      dsimp only
      apply Same.trans (t := { s with reporters := s.reporters.filter fun t => t.id ≠ id })
      . exact { Same.refl s with reporters := List.filter_subset_self _ }
      . apply same_modify
        exact ⟨rfl, rfl, rfl, fun h => absurd h hrunning⟩

theorem same_receiveBinary (s : Server) (wsi len : Nat) (first final txAudio : Bool)
    : Same s (s.receiveBinary wsi len first final txAudio) := by
  unfold receiveBinary
  split
  . exact .refl s
  . exact same_modify (Client.same_tciHandleBinaryLws _ len first final txAudio)

theorem writeable_cases (s : Server) (wsi : Nat) (rc : Int)
    : Same s (s.writeable wsi rc) ∨ Leaves s (s.writeable wsi rc) := by
  unfold writeable
  split
  . exact .inl (.refl s)
  next c _ =>
    split
    . exact .inl (.refl s)
    . have hsent : Same s (s.modify c fun client => { client with initialSent := true }) :=
        same_modify ⟨rfl, rfl, rfl, fun _ => rfl⟩
      generalize (s.modify c fun client => { client with initialSent := true }) = t at hsent ⊢
      unfold tciLwsWriteQueued
      split
      . exact .inl hsent
      next type client hpop =>
        have hclient := Client.same_popQueue hpop
        have hpopped : Same t
            (t.modify c fun _ => { client with idleQueued := client.idleQueued - 1 }) :=
          same_modify ⟨hclient.running, hclient.txOwner, hclient.session, hclient.tciTimer⟩
        dsimp only
        split
        . exact .inl (hsent.trans hpopped)
        . split
          . exact .inr ⟨_, c, hsent.trans hpopped, .refl _⟩
          . exact .inl (hsent.trans hpopped)

theorem same_shutdown (s : Server) : Same s s.shutdown := by
  unfold shutdown
  split
  . refine { Same.refl s with clients := ?_ }
    intro c
    dsimp only
    split
    . exact Client.same_tciQueueFrame _ .text false
    . exact .refl _
  . exact .refl s

-- the step makes `c` the owner of the transmitter
def Takes (s : Server) (e : Event) (c : Slot) : Prop :=
  s.tciTransmitterOwned = false ∧ ∃ env session load idles, e = .idle env
    ∧ s.idles = .payload c session load :: idles ∧ takesTx load = true

theorem same_popped {s : Server} {c : Slot} {session : Nat} {load : Payload} {idles : List Idle}
    (h : s.idles = .payload c session load :: idles)
    : Same s { s with idles } :=
  { Same.refl s with
    idles := by
      rw [h]
      exact List.subset_cons_self ..
    setMoxOff := by
      rw [h]
      simp }

theorem step_of_takes {s : Server} {e : Event} {c : Slot} (h : s.Takes e c)
    : ∃ t, Same s t ∧ Same (t.takeOwner c true) (s.step e) := by
  have ⟨_, env, session, load, idles, he, hidles, htakes⟩ := h
  refine ⟨{ s with idles }, same_popped hidles, ?_⟩
  subst he
  unfold step runIdle
  simp only [hidles]
  cases tciProcessWsPayload_cases env { s with idles } c session load with
  | inl hsame =>
    rw [htakes] at hsame
    exact hsame
  | inr hleaves =>
    rw [htakes] at hleaves
    nomatch hleaves.1

theorem takeOwner_eq (s : Server) (c : Slot) (state : Bool)
    : s.takeOwner c state
        = if s.tciTransmitterOwned = false ∧ state = true then s.takeOwner c true else s := by
  unfold takeOwner
  cases s.tciTransmitterOwned <;> cases state <;> simp

-- what the steps keep is what the events of the table keep
theorem step_invariant {I : Server → Prop} {s : Server} {e : Event} (hs : I s)
    (hsame : ∀ t u, I t → Same t u → I u) (hleave : ∀ t c, I t → I (t.leave c))
    (htake : ∀ t c, s.Takes e c → Same s t → I (t.takeOwner c true))
    (hpop : ∀ env idles, e = .idle env → s.idles = .setMoxOff :: idles → I { s with idles })
    (hestablished : ∀ wsi, e = .established wsi → s.isOpen wsi = false → I (s.established wsi))
    (hreceive : ∀ wsi cmd, e = .receive wsi cmd → I (s.receive wsi cmd))
    (hclosed : ∀ wsi, e = .closed wsi → I (s.closed wsi))
    (hother : ∀ connects, e = .other connects → I (s.step (.other connects)))
    (hlaunch : e = .launch → I s.launch)
    : I (s.step e) := by
  have hleaves : ∀ u, Leaves s u → I u := by
    intro u ⟨t, c, hst, htu⟩
    exact hsame _ u (hleave t c (hsame s t hs hst)) htu
  match e with
  | .established wsi =>
    unfold step
    dsimp only
    split
    . exact hs
    next hopen => exact hestablished wsi rfl (by simpa using hopen)
  | .receive wsi cmd => exact hreceive wsi cmd rfl
  | .receiveBinary wsi len first final txAudio =>
    exact hsame s _ hs (same_receiveBinary s wsi len first final txAudio)
  | .writeable wsi rc =>
    cases writeable_cases s wsi rc with
    | inl h => exact hsame s _ hs h
    | inr h => exact hleaves _ h
  | .closed wsi => exact hclosed wsi rfl
  | .idle env =>
    unfold step runIdle
    dsimp only
    split
    next => exact hs
    next c session load idles hidles =>
      have hpopped := same_popped hidles
      cases tciProcessWsPayload_cases env { s with idles } c session load with
      | inl h =>
        refine hsame _ _ ?_ h
        rw [takeOwner_eq]
        split
        next htakes =>
          apply htake _ c _ hpopped
          exact ⟨htakes.1, env, session, load, idles, rfl, hidles, htakes.2⟩
        next => exact hsame s _ hs hpopped
      | inr h =>
        have ⟨_, t, c, hst, htu⟩ := h
        exact hleaves _ ⟨t, c, hpopped.trans hst, htu⟩
    next idles hidles => exact hsame _ _ (hpop env idles rfl hidles) (same_setRadio _ _)
  | .clearMox env id => exact hsame s _ hs (same_tciRadioClearMox env s id)
  | .reporter id => exact hsame s _ hs (same_tciReporter s id)
  | .queueFrame c type checkRunning =>
    apply hsame s _ hs
    unfold step
    exact same_modify (Client.same_tciQueueFrame _ type checkRunning)
  | .queueBinaryFrame c len =>
    apply hsame s _ hs
    unfold step
    exact same_modify (Client.same_tciQueueBinaryFrame _ len)
  | .reports c reports =>
    apply hsame s _ hs
    unfold step
    exact same_modify ⟨rfl, rfl, rfl, fun _ => rfl⟩
  | .rxAudio c receiver enabled =>
    apply hsame s _ hs
    unfold step
    exact same_modify ⟨rfl, rfl, rfl, fun _ => rfl⟩
  | .other connects => exact hother connects rfl
  | .switch env call => exact hsame s _ hs (same_setRadio s _)
  | .launch => exact hlaunch rfl
  | .shutdown => exact hsame s _ hs (same_shutdown s)

-- the client in slot `c` is gone from the table, and owns the transmitter no more
structure Gone (s s' : Server) (c : Slot) : Prop where
  running : (s'.clients c).running = false
  txOwner : (s'.clients c).txOwner = false
  session : (s'.clients c).session = (s.clients c).session
  clients : ∀ d, d ≠ c → s'.clients d = s.clients d
  owned : s'.tciTransmitterOwned = (!(s.clients c).txOwner && s.tciTransmitterOwned)
  others : s'.others = s.others
  nextSession : s'.nextSession = s.nextSession
  nextSource : s'.nextSource = s.nextSource
  reporters : s'.reporters ⊆ s.reporters
  keyedBy : s'.keyedBy = s.keyedBy

theorem gone_leave (s : Server) (c : Slot)
    : Gone s (s.leave c) c ∧ (s.leave c).conns = s.conns
        ∧ (s.leave c).catControl = s.catControl ∧ (s.leave c).idles = s.idles := by
  unfold leave dropOwner modify
  cases howner : (s.clients c).txOwner
  all_goals refine ⟨?_, by simp [howner], by simp [howner], by simp [howner]⟩
  all_goals constructor <;> simp +contextual [howner]

-- the clean-up may leave the removal of MOX with the main loop
theorem gone_cleanUp (s : Server) (c : Slot)
    : Gone s (s.cleanUp c) c ∧ (s.cleanUp c).conns = s.conns
        ∧ (s.cleanUp c).catControl = s.catControl - 1
        ∧ (s.cleanUp c).idles
          = s.idles ++ if (s.clients c).txOwner ∧ (s.clients c).lastTrx then [.setMoxOff] else [] := by
  unfold cleanUp releaseOwner removeClearMox dropOwner modify
  cases howner : (s.clients c).txOwner <;> cases hlast : (s.clients c).lastTrx
    <;> by_cases hid : (s.clients c).tciClearmoxTimer = 0
  all_goals refine ⟨?_, by simp [howner, hlast, hid], by simp [howner, hlast, hid],
    by simp [howner, hlast, hid]⟩
  all_goals constructor <;> simp +contextual [howner, hlast, hid, Client.tciLwsFreeQueue]

theorem runningSlot?_eq_some {s : Server} {wsi : Nat} {c : Slot}
    : s.runningSlot? wsi = some c ↔ s.slot? wsi = some c ∧ (s.clients c).running = true := by
  unfold runningSlot?
  rw [Option.filter_eq_some_iff]

theorem Gone.of_txOwner {s s' : Server} {c : Slot} (h : Gone s s' c) {d : Slot}
    (hd : (s'.clients d).txOwner = true)
    : d ≠ c ∧ (s.clients d).txOwner = true := by
  by_cases hdc : d = c
  . rw [hdc, h.txOwner] at hd
    nomatch hd
  . rw [h.clients d hdc] at hd
    exact ⟨hdc, hd⟩

-- a connection that is closed, with or without a clean-up
theorem closed_cases (s : Server) (wsi : Nat)
    : s.runningSlot? wsi = none
          ∧ s.closed wsi = { s with conns := s.conns.filter fun conn => conn.wsi ≠ wsi }
        ∨ ∃ c, s.runningSlot? wsi = some c
          ∧ s.closed wsi
            = { s.cleanUp c with conns := s.conns.filter fun conn => conn.wsi ≠ wsi } := by
  unfold closed
  cases hslot : s.runningSlot? wsi with
  | none => exact .inl ⟨rfl, rfl⟩
  | some c =>
    refine .inr ⟨c, rfl, ?_⟩
    rw [← (gone_cleanUp s c).2.1]

-- the client of a new connection is in slot `c`
structure Joined (s s' : Server) (wsi : Nat) (c : Slot) : Prop where
  client : s'.clients c
    = { (s.clients c).tciInitClient s.nextSession with
        wsi := some wsi
        lwsTxQueue := some []
        tciTimer := s.nextSource }
  clients : ∀ d, d ≠ c → s'.clients d = s.clients d
  owned : s'.tciTransmitterOwned = s.tciTransmitterOwned
  conns : s'.conns = ⟨wsi, some c, s.nextSession⟩ :: s.conns
  catControl : s'.catControl = s.catControl + 1
  others : s'.others = s.others
  idles : s'.idles = s.idles
  reporters : s'.reporters = s.reporters ++ [⟨s.nextSource, c, 500⟩]
  nextSource : s'.nextSource = s.nextSource + 1
  nextSession : s'.nextSession = s.nextSession + 1

theorem established_cases (s : Server) (wsi : Nat)
    : s.freeSlot? = none
          ∧ s.established wsi
            = { s with
                conns := ⟨wsi, none, s.nextSession⟩ :: s.conns, nextSession := s.nextSession + 1 }
        ∨ ∃ c, s.freeSlot? = some c ∧ Joined s (s.established wsi) wsi c := by
  unfold established
  cases hfree : s.freeSlot? with
  | none => exact .inl ⟨rfl, rfl⟩
  | some c =>
    refine .inr ⟨c, rfl, ?_⟩
    constructor <;> simp +contextual [modify]

theorem not_running_of_freeSlot? {s : Server} {c : Slot} (h : s.freeSlot? = some c)
    : (s.clients c).running = false := by
  have := List.find?_some h
  simpa using this

end Server

end Tci
