import Pihpsdr.Tci.Impl.Server
import Pihpsdr.Transmit.Lemmas.PttDelay

/-!
The timers that remove MOX after `trx:0,false`: none of them is left when the radio is put into transmit
again, as long as the only one is that which the client remembers, and the client sends its audio.
-/

namespace Tci

namespace Server

-- no timer from before the last accepted `trx:0,true` is pending
def NoStale (s : Server) : Prop :=
  ∀ t ∈ s.clearMoxTimers, s.acceptedAt ≤ t.id

-- the command is accepted as a request to transmit
def KeysOn (s : Server) (c : Slot) (argv : List (List Int)) : Prop :=
  otherReceiver argv = false ∧ (∃ arg, argv[1]? = some arg ∧ tciBool arg = true)
    ∧ (s.tciTransmitterOwned = false ∨ (s.clients c).txOwner = true)

instance (s : Server) (c : Slot) (argv : List (List Int)) : Decidable (s.KeysOn c argv) :=
  decidable_of_iff (otherReceiver argv = false ∧ argv[1]?.any tciBool = true
    ∧ (s.tciTransmitterOwned = false ∨ (s.clients c).txOwner = true)) <| by
      unfold KeysOn
      rw [Option.any_eq_true]

-- the source of the audio, in the third argument
def sourceTci (argv : List (List Int)) : Bool :=
  argv[2]?.any fun arg => sameText arg "tci"

/--
When a `trx:0,true` is accepted, a timer is pending only if the command names TCI as the source of the audio
and it is the one that the client remembers.
-/
def ClearsTimers (s : Server) : Event → Prop
  | .idle _ =>
    match s.idles with
    | .payload c _ (.text (.trx argv)) :: _ =>
      s.KeysOn c argv → ∀ t ∈ s.clearMoxTimers,
        sourceTci argv = true ∧ t.id = (s.clients c).tciClearmoxTimer
    | _ => True
  | _ => True

instance (s : Server) (e : Event) : Decidable (s.ClearsTimers e) := by
  unfold ClearsTimers
  split
  . split <;> infer_instance
  . infer_instance

-- the sources are numbered one after the other
structure Numbered (s : Server) : Prop where
  noStale : s.NoStale
  pos : ∀ t ∈ s.clearMoxTimers, 1 ≤ t.id
  lt : ∀ t ∈ s.clearMoxTimers, t.id < s.nextSource
  accepted_le : s.acceptedAt ≤ s.nextSource
  nextSource_pos : 1 ≤ s.nextSource

-- nothing is accepted, and the timers that are added have new numbers
structure Quiet (s s' : Server) : Prop where
  keyedBy : s'.keyedBy = s.keyedBy ∨ s'.keyedBy = none
  hasTransmitter : s'.radio.hasTransmitter = s.radio.hasTransmitter
  acceptedAt : s'.acceptedAt = s.acceptedAt
  nextSource : s.nextSource ≤ s'.nextSource
  timers : ∀ t ∈ s'.clearMoxTimers,
    t ∈ s.clearMoxTimers ∨ s.nextSource ≤ t.id ∧ t.id < s'.nextSource

theorem Quiet.refl (s : Server) : Quiet s s where
  keyedBy := .inl rfl
  hasTransmitter := rfl
  acceptedAt := rfl
  nextSource := Nat.le_refl _
  timers _ h := .inl h

theorem Quiet.trans {s t u : Server} (hst : Quiet s t) (htu : Quiet t u) : Quiet s u where
  keyedBy := by
    cases htu.keyedBy with
    | inl heq =>
      rw [heq]
      exact hst.keyedBy
    | inr hnone => exact .inr hnone
  hasTransmitter := htu.hasTransmitter.trans hst.hasTransmitter
  acceptedAt := htu.acceptedAt.trans hst.acceptedAt
  nextSource := Nat.le_trans hst.nextSource htu.nextSource
  timers x hx := by
    have hle := hst.nextSource
    have hle' := htu.nextSource
    cases htu.timers x hx with
    | inl hold =>
      cases hst.timers x hold with
      | inl holder => exact .inl holder
      | inr hnew => exact .inr ⟨hnew.1, by omega⟩
    | inr hnew => exact .inr ⟨by omega, hnew.2⟩

theorem Numbered.of_quiet {s s' : Server} (hs : s.Numbered) (h : Quiet s s') : s'.Numbered := by
  have ⟨hstale, hpos, hlt, haccepted, hnext⟩ := hs
  have ⟨_, _, hat, hle, htimers⟩ := h
  constructor
  . intro t ht
    rw [hat]
    cases htimers t ht with
    | inl hold => exact hstale t hold
    | inr hnew => omega
  . intro t ht
    cases htimers t ht with
    | inl hold => exact hpos t hold
    | inr hnew => omega
  . intro t ht
    cases htimers t ht with
    | inl hold =>
      have := hlt t hold
      omega
    | inr hnew => exact hnew.2
  . omega
  . omega

theorem quiet_modify (s : Server) (c : Slot) (f : Client → Client) : Quiet s (s.modify c f) :=
  { Quiet.refl _ with }

theorem quiet_setRadio {s : Server} {radio : Transmit.RxTx}
    (h : radio.hasTransmitter = s.radio.hasTransmitter)
    : Quiet s (s.setRadio radio) :=
  { Quiet.refl s with
    keyedBy := by
      unfold setRadio
      dsimp only
      split
      . exact .inr rfl
      . exact .inl rfl
    hasTransmitter := h }

theorem quiet_setMox (env : Transmit.TxEnv) (s : Server) (state : Transmit.CInt)
    : Quiet s (s.setRadio (s.radio.radioSetMox env state)) :=
  quiet_setRadio Transmit.RxTx.radioSetMox_hasTransmitter

theorem removeClearMox_nextSource (s : Server) (c : Slot)
    : (s.removeClearMox c).nextSource = s.nextSource := by
  unfold removeClearMox
  dsimp only
  split <;> rfl

theorem removeClearMox_subset (s : Server) (c : Slot)
    : (s.removeClearMox c).clearMoxTimers ⊆ s.clearMoxTimers := by
  unfold removeClearMox
  dsimp only
  split
  . exact List.filter_subset_self _
  . exact List.Subset.refl _

theorem quiet_removeClearMox (s : Server) (c : Slot) : Quiet s (s.removeClearMox c) := by
  unfold removeClearMox
  dsimp only
  split
  . exact { Quiet.refl s with timers := fun _ h => .inl (List.mem_of_mem_filter h) }
  . exact .refl s

theorem quiet_takeOwner (s : Server) (c : Slot) (state : Bool) : Quiet s (s.takeOwner c state) := by
  unfold takeOwner
  split
  . exact { Quiet.refl _ with }
  . exact .refl s

theorem quiet_dropOwner (s : Server) (c : Slot) : Quiet s (s.dropOwner c) :=
  { Quiet.refl _ with }

theorem quiet_keyOff (s : Server) (c : Slot) : Quiet s (s.keyOff c) := by
  refine { Quiet.refl s with nextSource := Nat.le_succ _, timers := ?_ }
  intro t ht
  have hmem : t ∈ s.clearMoxTimers ++ [⟨s.nextSource, c, if (s.clients c).txAudioEnabled then 50 else 0⟩] :=
    ht
  rw [List.mem_append, List.mem_singleton] at hmem
  cases hmem with
  | inl hold => exact .inl hold
  | inr hnew =>
    rw [hnew]
    exact .inr ⟨Nat.le_refl _, Nat.lt_succ_self _⟩

theorem quiet_tciCmdTune (env : Transmit.TxEnv) (s : Server) (c : Slot) (argv : List (List Int))
    : Quiet s (s.tciCmdTune env c argv) := by
  unfold tciCmdTune
  split
  . exact .refl s
  . split
    . exact .refl s
    . dsimp only
      split
      . apply (quiet_takeOwner s c _).trans
        exact quiet_setRadio Transmit.RxTx.radioSetTune_hasTransmitter
      . exact quiet_takeOwner s c _

theorem quiet_tciCmdStop (env : Transmit.TxEnv) (s : Server) (c : Slot)
    : Quiet s (s.tciCmdStop env c) := by
  unfold tciCmdStop
  dsimp only
  apply Quiet.trans (quiet_modify s c _)
  split
  . apply Quiet.trans (quiet_dropOwner _ c)
    apply Quiet.trans (quiet_removeClearMox _ c)
    split
    . exact (quiet_setMox env _ 0).trans (quiet_modify _ c _)
    . exact .refl _
  . exact .refl _

-- a command that is not accepted as a request to transmit
theorem quiet_tciCmdTrx {env : Transmit.TxEnv} {s : Server} {c : Slot} {session : Nat}
    {argv : List (List Int)} (h : ¬s.KeysOn c argv)
    : Quiet s (s.tciCmdTrx env c session argv) := by
  unfold tciCmdTrx
  split
  . exact .refl s
  next hreceiver =>
    split
    . exact .refl s
    next arg harg =>
      dsimp only
      split
      next howner =>
        split
        next hbool =>
          apply absurd ?_ h
          refine ⟨by simpa using hreceiver, ⟨arg, harg, hbool⟩, ?_⟩
          unfold takeOwner at howner
          split at howner
          next hfree => exact .inl (by simpa using hfree.1)
          next => exact .inr howner
        next => exact (quiet_takeOwner s c _).trans (quiet_keyOff _ c)
      next => exact quiet_takeOwner s c _

theorem quiet_leave (s : Server) (c : Slot) : Quiet s (s.leave c) := by
  unfold leave
  dsimp only
  split
  . exact (quiet_modify s c _).trans (quiet_dropOwner _ c)
  . exact quiet_modify s c _

theorem quiet_tciProcessWsPayload {env : Transmit.TxEnv} {s : Server} {c : Slot} {session : Nat}
    {load : Payload} (h : ∀ argv, load = .text (.trx argv) → ¬s.KeysOn c argv)
    : Quiet s (s.tciProcessWsPayload env c session load) := by
  unfold tciProcessWsPayload
  split
  next argv => exact quiet_tciCmdTrx (h argv rfl)
  next argv => exact quiet_tciCmdTune env s c argv
  next => exact quiet_tciCmdStop env s c
  next => exact .refl s
  next => exact quiet_modify s c _
  next => exact quiet_leave s c

theorem quiet_tciRadioClearMox (env : Transmit.TxEnv) (s : Server) (id : Nat)
    : Quiet s (s.tciRadioClearMox env id) := by
  unfold tciRadioClearMox
  split
  . exact .refl s
  . dsimp only
    refine Quiet.trans ?_ (quiet_setMox env _ 0)
    exact { Quiet.refl s with timers := fun _ h => .inl (List.mem_of_mem_filter h) }

theorem quiet_tciReporter (s : Server) (id : Nat) : Quiet s (s.tciReporter id) := by
  unfold tciReporter
  split
  . exact .refl s
  . split
    . exact quiet_modify s _ _
    . exact { Quiet.refl _ with }

theorem quiet_established (s : Server) (wsi : Nat) : Quiet s (s.established wsi) := by
  unfold established
  dsimp only
  split
  . exact { Quiet.refl _ with }
  . exact { Quiet.refl s with nextSource := Nat.le_succ _, timers := fun _ h => .inl h }

theorem quiet_receive (s : Server) (wsi : Nat) (cmd : TciCmd) : Quiet s (s.receive wsi cmd) := by
  unfold receive
  split
  . exact .refl s
  . exact { Quiet.refl _ with }

theorem quiet_receiveBinary (s : Server) (wsi len : Nat) (first final txAudio : Bool)
    : Quiet s (s.receiveBinary wsi len first final txAudio) := by
  unfold receiveBinary
  split
  . exact .refl s
  . exact quiet_modify s _ _

theorem quiet_tciLwsWriteQueued (s : Server) (c : Slot) (rc : Int)
    : Quiet s (s.tciLwsWriteQueued c rc) := by
  unfold tciLwsWriteQueued
  split
  . exact .refl s
  . dsimp only
    apply Quiet.trans (quiet_modify s c _)
    split
    . exact .refl _
    . split
      . exact quiet_leave _ c
      . exact .refl _

theorem quiet_writeable (s : Server) (wsi : Nat) (rc : Int) : Quiet s (s.writeable wsi rc) := by
  unfold writeable
  split
  . exact .refl s
  . split
    . exact .refl s
    . exact (quiet_modify s _ _).trans (quiet_tciLwsWriteQueued _ _ rc)

theorem quiet_releaseOwner (s : Server) (c : Slot) : Quiet s (s.releaseOwner c) := by
  unfold releaseOwner
  split
  . dsimp only
    refine Quiet.trans ?_ (quiet_dropOwner _ c)
    apply Quiet.trans (quiet_removeClearMox _ c)
    split
    . exact { Quiet.refl _ with }
    . exact .refl _
  . exact .refl s

theorem quiet_cleanUp (s : Server) (c : Slot) : Quiet s (s.cleanUp c) := by
  unfold cleanUp
  dsimp only
  apply Quiet.trans (quiet_modify s c _)
  apply Quiet.trans (quiet_releaseOwner _ c)
  exact { Quiet.refl _ with }

theorem quiet_closed (s : Server) (wsi : Nat) : Quiet s (s.closed wsi) := by
  unfold closed
  split
  . exact { Quiet.refl _ with }
  next c _ =>
    apply Quiet.trans (quiet_cleanUp s c)
    exact { Quiet.refl _ with }

theorem quiet_launch (s : Server) : Quiet s s.launch := by
  unfold launch
  split <;> exact { Quiet.refl _ with }

theorem quiet_shutdown (s : Server) : Quiet s s.shutdown := by
  unfold shutdown
  split <;> exact { Quiet.refl _ with }

-- the main loop is about to run a command that is accepted as a request to transmit
def Accepts (s : Server) (e : Event) (c : Slot) (argv : List (List Int)) : Prop :=
  (∃ env session idles, e = .idle env
    ∧ s.idles = .payload c session (.text (.trx argv)) :: idles) ∧ s.KeysOn c argv

theorem quiet_step {s : Server} {e : Event} (h : ∀ c argv, ¬s.Accepts e c argv)
    : Quiet s (s.step e) := by
  unfold step
  split
  next wsi =>
    split
    . exact .refl s
    . exact quiet_established s wsi
  next wsi cmd => exact quiet_receive s wsi cmd
  next wsi len first final txAudio => exact quiet_receiveBinary s wsi len first final txAudio
  next wsi rc => exact quiet_writeable s wsi rc
  next wsi => exact quiet_closed s wsi
  next env =>
    unfold runIdle
    split
    next => exact .refl s
    next c session load idles hidles =>
      refine Quiet.trans (t := { s with idles }) { Quiet.refl _ with } ?_
      apply quiet_tciProcessWsPayload
      intro argv hload hkeys
      apply h c argv
      exact ⟨⟨env, session, idles, rfl, by rw [hidles, hload]⟩, hkeys⟩
    next idles hidles =>
      refine Quiet.trans (t := { s with idles }) { Quiet.refl _ with } ?_
      exact quiet_setMox env _ 0
  next env id => exact quiet_tciRadioClearMox env s id
  next id => exact quiet_tciReporter s id
  next c type checkRunning => exact quiet_modify s c _
  next c len => exact quiet_modify s c _
  next c reports => exact quiet_modify s c _
  next c receiver enabled => exact quiet_modify s c _
  next => exact { Quiet.refl _ with }
  next => split <;> exact { Quiet.refl _ with }
  next env call => exact quiet_setRadio (Transmit.RxTx.call_hasTransmitter (env, call))
  next => exact quiet_launch s
  next => exact quiet_shutdown s

theorem tciCmdTrx_of_keysOn {s : Server} {c : Slot} {argv : List (List Int)} (h : s.KeysOn c argv)
    (env : Transmit.TxEnv) (session : Nat)
    : s.tciCmdTrx env c session argv
        = (s.takeOwner c true).keyOn env c session (sourceTci argv) := by
  have ⟨hreceiver, ⟨arg, harg, hbool⟩, howner⟩ := h
  have htake : ((s.takeOwner c true).clients c).txOwner = true := by
    unfold takeOwner
    split
    . simp [modify]
    next htaken =>
      apply howner.resolve_left
      simpa using htaken
  unfold tciCmdTrx
  simp only [hreceiver, harg, hbool, htake, Bool.false_eq_true, if_false, if_true]
  rfl

theorem keyOn_clearMoxTimers (env : Transmit.TxEnv) (s : Server) (c : Slot) (session : Nat)
    (source : Bool)
    : (s.keyOn env c session source).clearMoxTimers
        = if source then (s.removeClearMox c).clearMoxTimers else s.clearMoxTimers := by
  unfold keyOn
  cases source <;> rfl

theorem keyOn_nextSource (env : Transmit.TxEnv) (s : Server) (c : Slot) (session : Nat)
    (source : Bool)
    : (s.keyOn env c session source).nextSource = s.nextSource := by
  unfold keyOn
  cases source with
  | false => rfl
  | true => exact removeClearMox_nextSource s c

theorem keyOn_acceptedAt (env : Transmit.TxEnv) (s : Server) (c : Slot) (session : Nat)
    (source : Bool)
    : (s.keyOn env c session source).acceptedAt = s.nextSource := by
  unfold keyOn
  cases source with
  | false => rfl
  | true => exact removeClearMox_nextSource s c

theorem mem_removeClearMox {s : Server} {c : Slot} {t : Timer} (ht : 1 ≤ t.id)
    : t ∈ (s.removeClearMox c).clearMoxTimers
        ↔ t ∈ s.clearMoxTimers ∧ t.id ≠ (s.clients c).tciClearmoxTimer := by
  unfold removeClearMox
  dsimp only
  split
  . simp [modify]
  next hid =>
    have hzero : (s.clients c).tciClearmoxTimer = 0 := by simpa using hid
    rw [hzero]
    simp only [iff_self_and]
    omega

-- all timers are from before, hence none may be left
theorem noStale_keyOn {s : Server} (hs : s.Numbered) (env : Transmit.TxEnv) (c : Slot)
    (session : Nat) (source : Bool)
    : (s.keyOn env c session source).NoStale
        ↔ ∀ t ∈ s.clearMoxTimers, source = true ∧ t.id = (s.clients c).tciClearmoxTimer := by
  unfold NoStale
  rw [keyOn_acceptedAt, keyOn_clearMoxTimers]
  constructor
  . intro h t ht
    have hlt := hs.lt t ht
    cases source with
    | false =>
      have := h t ht
      omega
    | true =>
      refine ⟨rfl, ?_⟩
      apply Decidable.by_contra
      intro hne
      have := h t ((mem_removeClearMox (hs.pos t ht)).mpr ⟨ht, hne⟩)
      omega
  . intro h t ht
    exfalso
    cases source with
    | false => exact Bool.false_ne_true (h t ht).1
    | true =>
      have hmem := removeClearMox_subset s c ht
      exact ((mem_removeClearMox (hs.pos t hmem)).mp ht).2 (h t hmem).2

theorem numbered_keyOn {s : Server} (hs : s.Numbered) {env : Transmit.TxEnv} {c : Slot}
    {session : Nat} {source : Bool}
    (h : ∀ t ∈ s.clearMoxTimers, source = true ∧ t.id = (s.clients c).tciClearmoxTimer)
    : (s.keyOn env c session source).Numbered := by
  have hnext := keyOn_nextSource env s c session source
  have hsub : (s.keyOn env c session source).clearMoxTimers ⊆ s.clearMoxTimers := by
    rw [keyOn_clearMoxTimers]
    cases source with
    | false => exact List.Subset.refl _
    | true => exact removeClearMox_subset s c
  constructor
  . exact (noStale_keyOn hs env c session source).mpr h
  . intro t ht
    exact hs.pos t (hsub ht)
  . intro t ht
    rw [hnext]
    exact hs.lt t (hsub ht)
  . rw [hnext]
    exact Nat.le_of_eq (keyOn_acceptedAt env s c session source)
  . rw [hnext]
    exact hs.nextSource_pos

theorem takeOwner_clearMoxTimers (s : Server) (c : Slot) (state : Bool)
    : (s.takeOwner c state).clearMoxTimers = s.clearMoxTimers := by
  unfold takeOwner
  split <;> rfl

theorem takeOwner_tciClearmoxTimer (s : Server) (c : Slot) (state : Bool)
    : ((s.takeOwner c state).clients c).tciClearmoxTimer = (s.clients c).tciClearmoxTimer := by
  unfold takeOwner
  split
  . simp [modify]
  . rfl

theorem clearsTimers_of_accepts {s : Server} {e : Event} {c : Slot} {argv : List (List Int)}
    (h : s.Accepts e c argv)
    : s.ClearsTimers e ↔ ∀ t ∈ s.clearMoxTimers,
        sourceTci argv = true ∧ t.id = (s.clients c).tciClearmoxTimer := by
  have ⟨⟨env, session, idles, he, hidles⟩, hkeys⟩ := h
  subst he
  unfold ClearsTimers
  simp only [hidles, hkeys, true_implies]

theorem clearsTimers_of_not_accepts {s : Server} {e : Event} (h : ∀ c argv, ¬s.Accepts e c argv)
    : s.ClearsTimers e := by
  unfold ClearsTimers
  split
  next env =>
    split
    next c session argv idles hidles =>
      intro hkeys
      exact absurd ⟨⟨env, session, idles, rfl, hidles⟩, hkeys⟩ (h c argv)
    . trivial
  . trivial

theorem step_of_keysOn {s : Server} {c : Slot} {session : Nat} {argv : List (List Int)}
    {idles : List Idle} (hidles : s.idles = .payload c session (.text (.trx argv)) :: idles)
    (h : s.KeysOn c argv) (env : Transmit.TxEnv)
    : s.step (.idle env)
        = (({ s with idles } : Server).takeOwner c true).keyOn env c session (sourceTci argv) := by
  have hkeys : ({ s with idles } : Server).KeysOn c argv := h
  rw [← tciCmdTrx_of_keysOn hkeys]
  unfold step runIdle
  simp only [hidles]
  rfl

-- the state in which the command is run
theorem numbered_takeOwner {s : Server} (hs : s.Numbered) (idles : List Idle) (c : Slot)
    : (({ s with idles } : Server).takeOwner c true).Numbered := by
  apply hs.of_quiet
  refine Quiet.trans (t := { s with idles }) ?_ (quiet_takeOwner _ c true)
  exact { Quiet.refl _ with }

theorem numbered_step {s : Server} {e : Event} (hs : s.Numbered) (h : s.ClearsTimers e)
    : (s.step e).Numbered := by
  by_cases haccepts : ∃ c argv, s.Accepts e c argv
  . have ⟨c, argv, hcmd⟩ := haccepts
    have ⟨⟨env, session, idles, he, hidles⟩, hkeys⟩ := hcmd
    rw [he, step_of_keysOn hidles hkeys]
    apply numbered_keyOn (numbered_takeOwner hs idles c)
    rw [takeOwner_clearMoxTimers, takeOwner_tciClearmoxTimer]
    exact (clearsTimers_of_accepts hcmd).mp h
  . rw [not_exists] at haccepts
    apply hs.of_quiet
    apply quiet_step
    intro c argv hcmd
    exact haccepts c ⟨argv, hcmd⟩

theorem clearsTimers_of_noStale {s : Server} {e : Event} (hs : s.Numbered)
    (h : (s.step e).NoStale)
    : s.ClearsTimers e := by
  by_cases haccepts : ∃ c argv, s.Accepts e c argv
  . have ⟨c, argv, hcmd⟩ := haccepts
    have ⟨⟨env, session, idles, he, hidles⟩, hkeys⟩ := hcmd
    rw [he, step_of_keysOn hidles hkeys, noStale_keyOn (numbered_takeOwner hs idles c), takeOwner_clearMoxTimers,
      takeOwner_tciClearmoxTimer] at h
    exact (clearsTimers_of_accepts hcmd).mpr h
  . apply clearsTimers_of_not_accepts
    intro c argv hcmd
    exact haccepts ⟨c, argv, hcmd⟩

theorem numbered_start (radio : Transmit.RxTx) (others : Nat) : (start radio others).Numbered where
  noStale _ ht := absurd ht List.not_mem_nil
  pos _ ht := absurd ht List.not_mem_nil
  lt _ ht := absurd ht List.not_mem_nil
  accepted_le := Nat.zero_le _
  nextSource_pos := Nat.le_refl _

-- a timer that is pending can be the next to fire, and then the radio has no MOX
theorem tciRadioClearMox_mox {s : Server} {t : Timer} (ht : t ∈ s.clearMoxTimers)
    (env : Transmit.TxEnv) (hradio : s.radio.hasTransmitter = true)
    : (s.step (.clearMox env t.id)).radio.mox = 0 := by
  unfold step tciRadioClearMox
  dsimp only
  split
  next hnone =>
    rw [List.find?_eq_none] at hnone
    exact absurd (hnone t ht) (by simp)
  next =>
    change (s.radio.radioSetMox env 0).mox = 0
    rw [Transmit.RxTx.radioSetMox_mox]
    simp [hradio]

theorem noStale_iff (radio : Transmit.RxTx) (others : Nat) (es : List Event)
    : (∀ es', es' <+: es → ((start radio others).run es').NoStale)
        ↔ Run.Along step ClearsTimers (start radio others) es :=
  Run.forall_prefix_iff_along_of (fun _ _ hs h => numbered_step hs h)
    (fun _ _ hs h => clearsTimers_of_noStale hs h) (fun _ hs => hs.noStale)
    (numbered_start radio others) es

instance (s : Server) : Decidable s.NoStale :=
  inferInstanceAs (Decidable (∀ t ∈ s.clearMoxTimers, s.acceptedAt ≤ t.id))

-- `trx:0,1,tci`, twice `trx:0,0`, and `trx:0,1,tci` again
def twiceOff : List Event :=
  let env : Transmit.TxEnv := ⟨true, false⟩
  let on : TciCmd := .trx [[48], [49], [116, 99, 105]]
  let off : TciCmd := .trx [[48], [48]]
  [.launch, .established 1] ++
    [on, off, off, on].flatMap fun cmd => [.receive 1 cmd, .idle env]

-- the first of the two timers is not removed
theorem timer_left
    : let s := start (.receiving true false 1) 0
      ¬(∀ es', es' <+: twiceOff → (s.run es').NoStale) ∧ (s.run twiceOff).radio.mox = 1
        ∧ (s.run (twiceOff ++ [.clearMox ⟨true, false⟩ 2])).radio.mox = 0 := by
  refine ⟨?_, by decide, by decide⟩
  intro h
  have hstale := h twiceOff List.prefix_rfl
  revert hstale
  decide

end Server

end Tci
