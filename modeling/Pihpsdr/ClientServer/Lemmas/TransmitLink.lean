import Pihpsdr.ClientServer.Impl.TransmitLink
import Pihpsdr.Transmit.Lemmas.Changes
import Pihpsdr.Lib.Run

/-!
The client agrees with the server on MOX, VOX and TUNE whenever nothing is on its way, as long as the
server tells the client each change: what the client is going to show after all that is on its way is
what the server has.
-/

namespace ClientServer

structure TxFlags where
  mox : Transmit.CInt
  vox : Transmit.CInt
  tune : Transmit.CInt
  deriving DecidableEq

end ClientServer

namespace Transmit.RxTx

open ClientServer

variable {s : RxTx} {state : CInt} {env : TxEnv}

def flags (s : RxTx) : TxFlags :=
  ⟨s.mox, s.vox, s.tune⟩

theorem radioSetTune_flags (ht : s.hasTransmitter)
    (hinh : ¬ (state ≠ 0 ∧ env.txInhibit)) (htune : s.tune ≠ moxState env state)
    : (s.radioSetTune env state).flags = ⟨0, 0, moxState env state⟩ := by
  unfold moxState at htune ⊢
  unfold flags radioSetTune
  grind [rxOff, rxtx_mox, rxtx_vox, rxtx_tune]

theorem radioSetMox_flags (ht : s.hasTransmitter)
    (hinh : ¬ (moxState env state ≠ 0 ∧ env.txInhibit))
    : (s.radioSetMox env state).flags = ⟨moxState env state, 0, 0⟩ := by
  rw [radioSetMox_eq ht hinh]
  rfl

theorem call_of_not_hasTransmitter (ht : ¬ s.hasTransmitter) (c : TxEnv × SwitchCall)
    : s.call c = s := by
  match c with
  | (env, .setMox state) => exact radioSetMox_eq_self (Or.inl ht)
  | (env, .setVox state) => exact radioSetVox_eq_self (Or.inl ht)
  | (env, .setTune state) => exact radioSetTune_eq_self (Or.inl ht)
  | (env, .toggleTune) => exact if_neg ht

end Transmit.RxTx

namespace ClientServer

open Transmit

-- an integer as the other side reads it
def told (state : CInt) : CInt :=
  fromHeader (headerByte state)

@[simp]
theorem headerByte_fromHeader (b1 : BitVec 8) : headerByte (fromHeader b1) = b1 := by
  unfold headerByte fromHeader
  simp

@[simp]
theorem told_fromHeader (b1 : BitVec 8) : told (fromHeader b1) = fromHeader b1 := by
  unfold told
  rw [headerByte_fromHeader]

@[simp]
theorem told_zero : told 0 = 0 := by
  decide

theorem fromHeader_eq_zero (b1 : BitVec 8) : fromHeader b1 = 0 ↔ b1 = 0 := by
  constructor
  . intro h
    rw [← headerByte_fromHeader b1, h]
    decide
  . rintro rfl
    decide

namespace TxFlags

def Fits (f : TxFlags) : Prop :=
  told f.mox = f.mox ∧ told f.vox = f.vox ∧ told f.tune = f.tune

-- what a call of the client makes of the flags
def hear (f : TxFlags) : ClientCall → TxFlags
  | .setMox b1 => ⟨fromHeader b1, 0, 0⟩
  | .setVox b1 => ⟨0, fromHeader b1, 0⟩
  | .setTune b1 => if fromHeader b1 ≠ f.tune then ⟨0, 0, fromHeader b1⟩ else f
  | .setTwotone _ => f

theorem Fits.hear {f : TxFlags} (h : f.Fits) (c : ClientCall) : (f.hear c).Fits := by
  match c with
  | .setMox b1 => exact ⟨told_fromHeader b1, told_zero, told_zero⟩
  | .setVox b1 => exact ⟨told_zero, told_fromHeader b1, told_zero⟩
  | .setTune b1 =>
    dsimp only [TxFlags.hear]
    split
    . exact ⟨told_zero, told_zero, told_fromHeader b1⟩
    . exact h
  | .setTwotone _ => exact h

theorem Fits.foldl_hear {f : TxFlags} (h : f.Fits) (cs : List ClientCall)
    : (cs.foldl TxFlags.hear f).Fits := by
  induction cs generalizing f with
  | nil => exact h
  | cons c cs ih => exact ih (h.hear c)

end TxFlags

namespace ClientTx

variable {s : ClientTx} {state : CInt}

def flags (s : ClientTx) : TxFlags :=
  ⟨s.mox, s.vox, s.tune⟩

-- the last transition has been to what the flags say
def Shown (s : ClientTx) : Prop :=
  s.switches.headD 0 ≠ 0 ↔ s.radioIsTransmitting ≠ 0

theorem call_hasTransmitter (c : ClientCall) : (s.call c).hasTransmitter = s.hasTransmitter := by
  unfold call radioClientSetMox radioClientSetVox radioClientSetTune radioClientSetTwotone rxtx
  grind

theorem call_of_not_hasTransmitter (ht : ¬ s.hasTransmitter) (c : ClientCall) : s.call c = s := by
  unfold call radioClientSetMox radioClientSetVox radioClientSetTune radioClientSetTwotone
  grind

theorem call_flags (ht : s.hasTransmitter) (c : ClientCall) : (s.call c).flags = s.flags.hear c := by
  unfold call radioClientSetMox radioClientSetVox radioClientSetTune radioClientSetTwotone rxtx
    TxFlags.hear flags
  grind

theorem radioIsTransmitting_eq (ht : s.hasTransmitter)
    : s.radioIsTransmitting = s.mox ||| s.vox ||| s.tune :=
  if_pos ht

-- a transition to `state` unless the client is in that state already
theorem Shown.switch (h : s.Shown) (ht : s.hasTransmitter)
    : (if state ≠ s.radioIsTransmitting then s.rxtx state else s).switches.headD 0 ≠ 0 ↔
        state ≠ 0 := by
  split
  . unfold rxtx
    rw [if_pos ht]
    rfl
  next hstate =>
    rw [not_not.mp hstate]
    exact h

theorem Shown.clientCall (h : s.Shown) (ht : s.hasTransmitter) (c : ClientCall) : (s.call c).Shown := by
  have ht' : (s.call c).hasTransmitter := (call_hasTransmitter c).trans ht
  have hflags := call_flags ht c
  unfold Shown
  rw [radioIsTransmitting_eq ht']
  match c with
  | .setMox b1 =>
    have ⟨hmox, hvox, htune⟩ := TxFlags.mk.inj hflags
    rw [hmox, hvox, htune]
    dsimp only [call]
    unfold radioClientSetMox
    rw [if_pos ht]
    simpa using h.switch ht
  | .setVox b1 =>
    have ⟨hmox, hvox, htune⟩ := TxFlags.mk.inj hflags
    rw [hmox, hvox, htune]
    dsimp only [call]
    unfold radioClientSetVox
    rw [if_pos ht]
    simpa using h.switch ht
  | .setTune b1 =>
    by_cases hstate : fromHeader b1 ≠ s.tune
    . have hheard : s.flags.hear (.setTune b1) = ⟨0, 0, fromHeader b1⟩ := if_pos hstate
      rw [hheard] at hflags
      have ⟨hmox, hvox, htune⟩ := TxFlags.mk.inj hflags
      rw [hmox, hvox, htune]
      unfold call radioClientSetTune rxtx
      grind
    . have hself : s.call (.setTune b1) = s := by
        unfold call radioClientSetTune
        grind
      rw [hself, ← radioIsTransmitting_eq ht]
      exact h
  | .setTwotone b1 =>
    unfold Shown at h
    rw [radioIsTransmitting_eq ht] at h
    dsimp only [call]
    unfold radioClientSetTwotone
    rw [if_pos ht]
    exact h

end ClientTx

-- MOX is switched whatever the flags have been
def TxMessage.Resets : TxMessage → Prop
  | .cmdMox _ => True
  | _ => False

def ServerCallback.Resets : ServerCallback → Prop
  | .serverCommand message => message.Resets
  | .call (.setMox _) => True
  | .call _ => False

namespace TransmitLink

variable {l : TransmitLink} {state : CInt}

-- the flags of the client when all that is on its way to it has arrived
def heard (l : TransmitLink) : TxFlags :=
  (l.clientIdle ++ l.toClient.flatMap TxMessage.clientCalls).foldl TxFlags.hear l.client.flags

def Mirror (l : TransmitLink) : Prop :=
  l.heard = l.server.flags

def ResetWaits (l : TransmitLink) : Prop :=
  ∃ c ∈ l.serverIdle, c.Resets

/--
`radio_set_mox` has done what it has told the client: a state other than zero is allowed and fits in
the byte, and where the input of the radio inhibits it the radio transmits with MOX already.
-/
def MoxTold (l : TransmitLink) (state : CInt) : Prop :=
  state ≠ 0 →
    if l.env.transmitAllowed then
      if l.env.txInhibit then l.server.flags = ⟨told state, 0, 0⟩ else told state = state
    else
      told state = 0

def SwitchTold (l : TransmitLink) : SwitchCall → Prop
  | .setMox state => l.MoxTold state
  | .setVox state =>
    l.server.mox = 0 → l.server.tune = 0 → ¬ (state ≠ 0 ∧ l.env.txInhibit) →
      l.server.vox ≠ state → told state = state
  -- nobody tells the client of TUNE but the commands of the client
  | .setTune state =>
    (state ≠ 0 ∧ l.env.txInhibit) ∨ l.server.tune = RxTx.moxState l.env state
  | .toggleTune => l.server.tune = 0 ∧ (l.env.txInhibit ∨ ¬ l.env.transmitAllowed)

def CommandTold (l : TransmitLink) : TxMessage → Prop
  | .cmdMox b1 => l.MoxTold (fromHeader b1)
  | .cmdVox _ => True
  -- only a request that is not carried out is answered
  | .cmdTune b1 =>
    b1 = 0 ∨ (l.env.transmitAllowed ∧ ¬ l.env.txInhibit) → l.server.tune = fromHeader b1
  | .cmdToggleTune => True
  -- the answer makes the client set MOX, the server sets it only if the test changes
  | .cmdTwotone b1 => fromHeader b1 = l.twotone → l.server.flags = ⟨fromHeader b1, 0, 0⟩

def CallbackTold (l : TransmitLink) : ServerCallback → Prop
  | .serverCommand message => l.CommandTold message
  | .call c => l.SwitchTold c

def CallTold (l : TransmitLink) : TxCall → Prop
  | .radioSetMox state => l.SwitchTold (.setMox state)
  | .radioSetVox state => l.SwitchTold (.setVox state)
  | .radioSetTune state => l.SwitchTold (.setTune state)
  | .radioToggleTune => l.SwitchTold .toggleTune
  | .radioSetTwotone _ => True

/--
What the step changes at the server is what the client is told, unless a call that sets MOX still
waits, which puts both sides right.
-/
def Told (l : TransmitLink) : LinkEvent → Prop
  | .runServerIdle =>
    match l.serverIdle with
    | [] => True
    | c :: rest => (∃ c' ∈ rest, c'.Resets) ∨ l.CallbackTold c
  | .unsolicited c => l.ResetWaits ∨ l.CallTold c
  | _ => True

theorem heard_send (message : TxMessage)
    : (l.send message).heard = message.clientCalls.foldl TxFlags.hear l.heard := by
  unfold heard send
  simp [List.foldl_append, List.flatMap_append]

-- `l'` differs from `l` in what the server has done
structure ServerDid (l l' : TransmitLink) : Prop where
  clientIdle : l'.clientIdle = l.clientIdle
  client : l'.client = l.client
  hasTransmitter : l'.server.hasTransmitter = l.server.hasTransmitter
  off : ¬ l.server.hasTransmitter → l'.server = l.server

theorem ServerDid.trans {l' l'' : TransmitLink} (h : l.ServerDid l') (h' : l'.ServerDid l'')
    : l.ServerDid l'' where
  clientIdle := h'.clientIdle.trans h.clientIdle
  client := h'.client.trans h.client
  hasTransmitter := h'.hasTransmitter.trans h.hasTransmitter
  off ht := (h'.off (by rw [h.hasTransmitter]; exact ht)).trans (h.off ht)

theorem serverDid_refl : l.ServerDid l :=
  ⟨rfl, rfl, rfl, fun _ => rfl⟩

theorem send_serverDid (message : TxMessage) : l.ServerDid (l.send message) :=
  ⟨rfl, rfl, rfl, fun _ => rfl⟩

theorem server_serverDid (c : TxEnv × SwitchCall)
    : l.ServerDid { l with server := l.server.call c } :=
  ⟨rfl, rfl, RxTx.call_hasTransmitter c, fun ht => RxTx.call_of_not_hasTransmitter ht c⟩

theorem radioSetMox_serverDid : l.ServerDid (l.radioSetMox state) :=
  (send_serverDid _).trans (server_serverDid (_, .setMox state))

theorem radioSetVox_eq
    : l.radioSetVox state =
        if l.server.hasTransmitter ∧ l.server.mox = 0 ∧ l.server.tune = 0 ∧
          ¬ (state ≠ 0 ∧ l.env.txInhibit) ∧ l.server.vox ≠ state
        then { l.send (sendVox state) with server := { l.server.rxtx state with vox := state } }
        else l := by
  unfold radioSetVox
  grind [send]

theorem radioSetVox_serverDid : l.ServerDid (l.radioSetVox state) := by
  rw [radioSetVox_eq]
  split
  next hchange =>
    apply (send_serverDid (sendVox state)).trans
    exact ⟨rfl, rfl, RxTx.rxtx_hasTransmitter, fun ht => absurd hchange.1 ht⟩
  . exact serverDid_refl

theorem radioSetTune_serverDid : l.ServerDid (l.radioSetTune state) :=
  server_serverDid (_, .setTune state)

theorem radioToggleTune_serverDid : l.ServerDid l.radioToggleTune :=
  server_serverDid (l.env, .toggleTune)

theorem radioSetTwotone_serverDid : l.ServerDid (l.radioSetTwotone state) := by
  unfold radioSetTwotone
  split
  . exact serverDid_refl
  . exact ⟨rfl, rfl, rfl, fun _ => rfl⟩

theorem switchCall_serverDid (c : SwitchCall) : l.ServerDid (l.switchCall c) :=
  match c with
  | .setMox _ => radioSetMox_serverDid
  | .setVox _ => radioSetVox_serverDid
  | .setTune _ => radioSetTune_serverDid
  | .toggleTune => radioToggleTune_serverDid

theorem txCall_serverDid (c : TxCall) : l.ServerDid (l.txCall c) :=
  match c with
  | .radioSetMox _ => radioSetMox_serverDid
  | .radioSetVox _ => radioSetVox_serverDid
  | .radioSetTune _ => radioSetTune_serverDid
  | .radioToggleTune => radioToggleTune_serverDid
  | .radioSetTwotone _ => radioSetTwotone_serverDid

theorem serverCommand_serverDid (message : TxMessage) : l.ServerDid (l.serverCommand message) := by
  match message with
  | .cmdMox b1 => exact radioSetMox_serverDid
  | .cmdVox b1 => exact radioSetVox_serverDid
  | .cmdTune b1 =>
    dsimp only [serverCommand]
    split
    . split
      . exact radioSetTune_serverDid.trans (send_serverDid _)
      . exact radioSetTune_serverDid
    . exact serverDid_refl
  | .cmdToggleTune =>
    dsimp only [serverCommand]
    split
    . exact radioToggleTune_serverDid.trans (send_serverDid _)
    . exact serverDid_refl
  | .cmdTwotone b1 =>
    dsimp only [serverCommand]
    split
    . exact radioSetTwotone_serverDid.trans (send_serverDid _)
    . exact serverDid_refl

theorem serverCallback_serverDid (c : ServerCallback) : l.ServerDid (l.serverCallback c) :=
  match c with
  | .serverCommand message => serverCommand_serverDid message
  | .call c => switchCall_serverDid c

theorem radioSetVox_serverIdle : l.serverIdle <+: (l.radioSetVox state).serverIdle := by
  rw [radioSetVox_eq]
  split <;> exact List.prefix_rfl

theorem radioSetTwotone_serverIdle : l.serverIdle <+: (l.radioSetTwotone state).serverIdle := by
  unfold radioSetTwotone
  split
  . exact List.prefix_rfl
  . exact List.prefix_append _ _

theorem txCall_serverIdle (c : TxCall) : l.serverIdle <+: (l.txCall c).serverIdle :=
  match c with
  | .radioSetMox _ => List.prefix_rfl
  | .radioSetVox _ => radioSetVox_serverIdle
  | .radioSetTune _ => List.prefix_rfl
  | .radioToggleTune => List.prefix_rfl
  | .radioSetTwotone _ => radioSetTwotone_serverIdle

theorem switchCall_serverIdle (c : SwitchCall) : l.serverIdle <+: (l.switchCall c).serverIdle :=
  match c with
  | .setMox _ => List.prefix_rfl
  | .setVox _ => radioSetVox_serverIdle
  | .setTune _ => List.prefix_rfl
  | .toggleTune => List.prefix_rfl

theorem serverCommand_serverIdle (message : TxMessage)
    : l.serverIdle <+: (l.serverCommand message).serverIdle := by
  match message with
  | .cmdMox b1 => exact List.prefix_rfl
  | .cmdVox b1 => exact radioSetVox_serverIdle
  | .cmdTune b1 =>
    dsimp only [serverCommand]
    split
    . split <;> exact List.prefix_rfl
    . exact List.prefix_rfl
  | .cmdToggleTune =>
    dsimp only [serverCommand]
    split <;> exact List.prefix_rfl
  | .cmdTwotone b1 =>
    dsimp only [serverCommand]
    split
    . exact radioSetTwotone_serverIdle
    . exact List.prefix_rfl

theorem serverCallback_serverIdle (c : ServerCallback)
    : l.serverIdle <+: (l.serverCallback c).serverIdle :=
  match c with
  | .serverCommand message => serverCommand_serverIdle message
  | .call c => switchCall_serverIdle c

-- MOX is told whatever the client has heard before
theorem radioSetMox_mirror (ht : l.server.hasTransmitter) (h : l.MoxTold state)
    : (l.radioSetMox state).Mirror := by
  have hheard : (l.radioSetMox state).heard = ⟨told state, 0, 0⟩ :=
    heard_send (l := l) (sendMox state)
  have hserver : (l.radioSetMox state).server = l.server.radioSetMox l.env state := rfl
  unfold Mirror
  rw [hheard, hserver]
  unfold MoxTold at h
  by_cases hinh : RxTx.moxState l.env state ≠ 0 ∧ l.env.txInhibit
  . have hallowed : state ≠ 0 ∧ l.env.transmitAllowed ∧ l.env.txInhibit := by
      unfold RxTx.moxState at hinh
      grind
    rw [RxTx.radioSetMox_eq_self (Or.inr hallowed)]
    have h := h hallowed.1
    rw [if_pos hallowed.2.1, if_pos hallowed.2.2] at h
    exact h.symm
  . have htold : told state = RxTx.moxState l.env state := by
      unfold RxTx.moxState at hinh ⊢
      grind [told_zero]
    rw [RxTx.radioSetMox_flags ht hinh, htold]

theorem radioSetVox_mirror (h : l.Mirror) (htold : l.SwitchTold (.setVox state))
    : (l.radioSetVox state).Mirror := by
  rw [radioSetVox_eq]
  split
  next hchange =>
    have hheard : (l.send (sendVox state)).heard = ⟨0, told state, 0⟩ := heard_send _
    have hstate := htold hchange.2.1 hchange.2.2.1 hchange.2.2.2.1 hchange.2.2.2.2
    refine hheard.trans ?_
    rw [hstate]
    unfold RxTx.flags
    simp [hchange]
  next => exact h

theorem radioSetTune_mirror (h : l.Mirror) (htold : l.SwitchTold (.setTune state))
    : (l.radioSetTune state).Mirror := by
  have hself : l.server.radioSetTune l.env state = l.server :=
    RxTx.radioSetTune_eq_self (Or.inr htold)
  unfold radioSetTune
  rw [hself]
  exact h

theorem radioToggleTune_mirror (h : l.Mirror) (htold : l.SwitchTold .toggleTune)
    : l.radioToggleTune.Mirror := by
  have hself : l.server.radioToggleTune l.env = l.server := by
    have ⟨htune, hoff⟩ := htold
    unfold RxTx.radioToggleTune
    rw [if_pos htune]
    split
    . apply RxTx.radioSetTune_eq_self
      grind
    . rfl
  unfold radioToggleTune
  rw [hself]
  exact h

theorem switchCall_mirror (ht : l.server.hasTransmitter) (h : l.Mirror) (c : SwitchCall)
    (htold : l.SwitchTold c)
    : (l.switchCall c).Mirror :=
  match c with
  | .setMox _ => radioSetMox_mirror ht htold
  | .setVox _ => radioSetVox_mirror h htold
  | .setTune _ => radioSetTune_mirror h htold
  | .toggleTune => radioToggleTune_mirror h htold

-- an answer that tells the client what TUNE is
theorem sendTune_mirror {l' : TransmitLink} (h : l.Mirror) (hheard : l'.heard = l.heard)
    (hfits : told l'.server.tune = l'.server.tune)
    (hserver : l'.server.flags =
      if l'.server.tune ≠ l.server.tune then ⟨0, 0, l'.server.tune⟩ else l.server.flags)
    : (l'.send (sendTune l'.server.tune)).Mirror := by
  have hsend : (l'.send (sendTune l'.server.tune)).heard =
      l.server.flags.hear (.setTune (headerByte l'.server.tune)) := by
    rw [heard_send, hheard, h]
    rfl
  refine hsend.trans ?_
  refine Eq.trans ?_ hserver.symm
  dsimp only [TxFlags.hear]
  change (if told l'.server.tune ≠ l.server.tune then TxFlags.mk 0 0 (told l'.server.tune) else _) = _
  rw [hfits]

theorem tune_fits (h : l.Mirror) (hfits : l.heard.Fits) : told l.server.tune = l.server.tune := by
  rw [h] at hfits
  exact hfits.2.2

theorem cmdTune_mirror (ht : l.server.hasTransmitter) (h : l.Mirror) (hfits : l.heard.Fits)
    {b1 : BitVec 8} (htold : l.CommandTold (.cmdTune b1))
    : (l.serverCommand (.cmdTune b1)).Mirror := by
  dsimp only [serverCommand, CommandTold] at htold ⊢
  rw [if_pos ht]
  by_cases hself : (fromHeader b1 ≠ 0 ∧ l.env.txInhibit) ∨
    l.server.tune = RxTx.moxState l.env (fromHeader b1)
  . have hserver : l.radioSetTune (fromHeader b1) = l := by
      unfold radioSetTune
      rw [RxTx.radioSetTune_eq_self (Or.inr hself)]
    rw [hserver]
    split
    . apply sendTune_mirror h rfl (tune_fits h hfits)
      rw [if_neg (not_not.mpr rfl)]
    . exact h
  . rw [not_or] at hself
    have hoff : RxTx.moxState l.env (fromHeader b1) = 0 ∧ fromHeader b1 ≠ 0 := by
      have hzero := fromHeader_eq_zero b1
      unfold RxTx.moxState at hself ⊢
      grind
    have hflags := RxTx.radioSetTune_flags ht hself.1 hself.2
    rw [hoff.1] at hflags
    have htune : (l.radioSetTune (fromHeader b1)).server.tune = 0 :=
      congrArg TxFlags.tune hflags
    rw [if_pos (by rw [htune]; exact hoff.2.symm)]
    refine sendTune_mirror h rfl ?_ ?_
    . rw [htune]
      exact told_zero
    . rw [htune, if_pos (by rw [← hoff.1]; exact Ne.symm hself.2)]
      exact hflags

theorem cmdToggleTune_mirror (ht : l.server.hasTransmitter) (h : l.Mirror) (hfits : l.heard.Fits)
    : (l.serverCommand .cmdToggleTune).Mirror := by
  dsimp only [serverCommand]
  rw [if_pos ht]
  have hserver : l.radioToggleTune.server =
      l.server.radioSetTune l.env (if l.server.tune = 0 then 1 else 0) := if_pos ht
  by_cases hself : ((if l.server.tune = 0 then (1 : CInt) else 0) ≠ 0 ∧ l.env.txInhibit) ∨
    l.server.tune = RxTx.moxState l.env (if l.server.tune = 0 then 1 else 0)
  . rw [RxTx.radioSetTune_eq_self (Or.inr hself)] at hserver
    refine sendTune_mirror h rfl ?_ ?_
    . rw [hserver]
      exact tune_fits h hfits
    . rw [hserver, if_neg (not_not.mpr rfl)]
  . rw [not_or] at hself
    have hflags := RxTx.radioSetTune_flags ht hself.1 hself.2
    rw [← hserver] at hflags
    have htune := congrArg TxFlags.tune hflags
    dsimp only [RxTx.flags] at htune
    refine sendTune_mirror h rfl ?_ ?_
    . have hflag : RxTx.moxState l.env (if l.server.tune = 0 then 1 else 0) = 0 ∨
          RxTx.moxState l.env (if l.server.tune = 0 then 1 else 0) = 1 := by
        unfold RxTx.moxState
        grind
      rw [htune]
      rcases hflag with hflag | hflag <;> rw [hflag] <;> decide
    . rw [htune, if_pos (Ne.symm hself.2)]
      exact hflags

theorem cmdTwotone_mirror (ht : l.server.hasTransmitter) {b1 : BitVec 8}
    (htold : l.CommandTold (.cmdTwotone b1))
    : (l.serverCommand (.cmdTwotone b1)).Mirror ∨ (l.serverCommand (.cmdTwotone b1)).ResetWaits := by
  dsimp only [serverCommand]
  rw [if_pos ht]
  unfold radioSetTwotone
  split
  next hsame =>
    left
    have hheard : (l.send (sendTwotone l.twotone)).heard =
        ⟨fromHeader (headerByte l.twotone), 0, 0⟩ := heard_send _
    refine hheard.trans ?_
    rw [← hsame, headerByte_fromHeader]
    exact (htold hsame).symm
  next =>
    right
    exact ⟨.call (.setMox (fromHeader b1)), List.mem_append_right _ List.mem_cons_self, trivial⟩

theorem serverCallback_mirror (ht : l.server.hasTransmitter) (c : ServerCallback)
    (h : l.Mirror ∨ c.Resets) (hfits : l.heard.Fits) (htold : l.CallbackTold c)
    : (l.serverCallback c).Mirror ∨ (l.serverCallback c).ResetWaits := by
  match c, h with
  | .call (.setMox state), _ => exact Or.inl (radioSetMox_mirror ht htold)
  | .serverCommand (.cmdMox b1), _ => exact Or.inl (radioSetMox_mirror ht htold)
  | .call c, Or.inl h => exact Or.inl (switchCall_mirror ht h c htold)
  | .serverCommand (.cmdVox b1), Or.inl h =>
    left
    apply radioSetVox_mirror h
    intro _ _ _ _
    exact told_fromHeader b1
  | .serverCommand (.cmdTune b1), Or.inl h => exact Or.inl (cmdTune_mirror ht h hfits htold)
  | .serverCommand .cmdToggleTune, Or.inl h => exact Or.inl (cmdToggleTune_mirror ht h hfits)
  | .serverCommand (.cmdTwotone b1), Or.inl h => exact cmdTwotone_mirror ht htold

theorem txCall_mirror (ht : l.server.hasTransmitter) (h : l.Mirror) (c : TxCall)
    (htold : l.CallTold c)
    : (l.txCall c).Mirror ∨ (l.txCall c).ResetWaits := by
  match c with
  | .radioSetMox state => exact Or.inl (radioSetMox_mirror ht htold)
  | .radioSetVox state => exact Or.inl (radioSetVox_mirror h htold)
  | .radioSetTune state => exact Or.inl (radioSetTune_mirror h htold)
  | .radioToggleTune => exact Or.inl (radioToggleTune_mirror h htold)
  | .radioSetTwotone state =>
    dsimp only [txCall]
    unfold radioSetTwotone
    split
    . exact Or.inl h
    . right
      exact ⟨.call (.setMox state), List.mem_append_right _ List.mem_cons_self, trivial⟩

/--
The invariant of a connection: after all that is on its way to the client the two agree, or MOX is
going to be switched.
-/
structure Linked (l : TransmitLink) : Prop where
  hasTransmitter : l.client.hasTransmitter = l.server.hasTransmitter
  shown : l.client.Shown
  fits : l.client.flags.Fits
  mirror : l.server.hasTransmitter → l.Mirror ∨ l.ResetWaits
  off : ¬ l.server.hasTransmitter → l.client.flags = ⟨0, 0, 0⟩ ∧ l.server.flags = ⟨0, 0, 0⟩

theorem Linked.heard_fits (h : l.Linked) : l.heard.Fits :=
  h.fits.foldl_hear _

theorem Linked.of_serverDid {l' : TransmitLink} (h : l.Linked) (hdid : l.ServerDid l')
    (hmirror : l.server.hasTransmitter → l'.Mirror ∨ l'.ResetWaits)
    : l'.Linked where
  hasTransmitter := by
    rw [hdid.client, hdid.hasTransmitter]
    exact h.hasTransmitter
  shown := by
    rw [hdid.client]
    exact h.shown
  fits := by
    rw [hdid.client]
    exact h.fits
  mirror ht := hmirror (by rw [← hdid.hasTransmitter]; exact ht)
  off ht := by
    rw [hdid.hasTransmitter] at ht
    rw [hdid.client, hdid.off ht]
    exact h.off ht

theorem ResetWaits.mono {l' : TransmitLink} (h : l.ResetWaits)
    (hidle : ∀ c ∈ l.serverIdle, c ∈ l'.serverIdle)
    : l'.ResetWaits :=
  have ⟨c, hc, hreset⟩ := h
  ⟨c, hidle c hc, hreset⟩

theorem Linked.unsolicited (h : l.Linked) (c : TxCall) (htold : l.ResetWaits ∨ l.CallTold c)
    : (l.txCall c).Linked := by
  apply h.of_serverDid (txCall_serverDid c)
  intro ht
  have hmono (hreset : l.ResetWaits) : (l.txCall c).ResetWaits :=
    hreset.mono fun c' hc' => (txCall_serverIdle c).subset hc'
  rcases htold with hreset | htold
  . exact Or.inr (hmono hreset)
  . rcases h.mirror ht with hmirror | hreset
    . exact txCall_mirror ht hmirror c htold
    . exact Or.inr (hmono hreset)

-- the next call of the main loop, with the calls behind it still waiting
theorem Linked.serverCallback (h : l.Linked) {c : ServerCallback} {rest : List ServerCallback}
    (hidle : l.serverIdle = c :: rest)
    (htold : (∃ c' ∈ rest, c'.Resets) ∨ l.CallbackTold c)
    : ({ l with serverIdle := rest }.serverCallback c).Linked := by
  have hpop : l.ServerDid { l with serverIdle := rest } := ⟨rfl, rfl, rfl, fun _ => rfl⟩
  apply h.of_serverDid (hpop.trans (serverCallback_serverDid c))
  intro ht
  have hmono (hreset : ∃ c' ∈ rest, c'.Resets)
      : ({ l with serverIdle := rest }.serverCallback c).ResetWaits :=
    have ⟨c', hc', hreset⟩ := hreset
    ⟨c', (serverCallback_serverIdle c).subset hc', hreset⟩
  rcases htold with hreset | htold
  . exact Or.inr (hmono hreset)
  . rcases h.mirror ht with hmirror | ⟨c', hc', hreset⟩
    . exact serverCallback_mirror (l := { l with serverIdle := rest }) ht c (Or.inl hmirror)
        h.heard_fits htold
    . rw [hidle] at hc'
      rcases List.mem_cons.mp hc' with rfl | hc'
      . exact serverCallback_mirror (l := { l with serverIdle := rest }) ht c' (Or.inr hreset)
          h.heard_fits htold
      . exact Or.inr (hmono ⟨c', hc', hreset⟩)

-- what the client has read or done is no longer on its way
theorem Linked.of_client {l' : TransmitLink} (h : l.Linked) (hserver : l'.server = l.server)
    (hidle : l'.serverIdle = l.serverIdle) (hheard : l.server.hasTransmitter → l'.heard = l.heard)
    (ht : l'.client.hasTransmitter = l.client.hasTransmitter) (hshown : l'.client.Shown)
    (hfits : l'.client.flags.Fits)
    (hoff : ¬ l.server.hasTransmitter → l'.client.flags = l.client.flags)
    : l'.Linked where
  hasTransmitter := by
    rw [ht, hserver]
    exact h.hasTransmitter
  shown := hshown
  fits := hfits
  mirror hserving := by
    rw [hserver] at hserving
    unfold Mirror ResetWaits
    rw [hserver, hidle, hheard hserving]
    exact h.mirror hserving
  off hserving := by
    rw [hserver] at hserving ⊢
    rw [hoff hserving]
    exact h.off hserving

theorem Linked.runClientIdle (h : l.Linked) {c : ClientCall} {rest : List ClientCall}
    (hidle : l.clientIdle = c :: rest)
    : { l with clientIdle := rest, client := l.client.call c }.Linked := by
  by_cases ht : l.client.hasTransmitter
  . refine h.of_client rfl rfl ?_ (ClientTx.call_hasTransmitter c) (h.shown.clientCall ht c) ?_ ?_
    . intro _
      unfold heard
      dsimp only
      rw [hidle, ClientTx.call_flags ht]
      rfl
    . rw [ClientTx.call_flags ht]
      exact h.fits.hear c
    . intro hserving
      rw [← h.hasTransmitter] at hserving
      exact absurd ht hserving
  . rw [ClientTx.call_of_not_hasTransmitter ht]
    refine h.of_client rfl rfl ?_ rfl h.shown h.fits (fun _ => rfl)
    intro hserving
    rw [← h.hasTransmitter] at hserving
    exact absurd hserving ht

theorem Linked.deliverToClient (h : l.Linked) {m : TxMessage} {rest : List TxMessage}
    (hmessages : l.toClient = m :: rest)
    : { l with toClient := rest, clientIdle := l.clientIdle ++ m.clientCalls }.Linked := by
  refine h.of_client rfl rfl ?_ rfl h.shown h.fits (fun _ => rfl)
  intro _
  unfold heard
  dsimp only
  rw [hmessages, List.flatMap_cons, List.append_assoc]

-- the server has changed nothing but what waits in its main loop
theorem Linked.queue (h : l.Linked) {l' : TransmitLink} (hdid : l.ServerDid l')
    (hserver : l'.server = l.server) (hheard : l'.heard = l.heard)
    (hidle : l.serverIdle <+: l'.serverIdle)
    : l'.Linked := by
  apply h.of_serverDid hdid
  intro ht
  rcases h.mirror ht with hmirror | hreset
  . left
    unfold Mirror
    rw [hheard, hserver]
    exact hmirror
  . exact Or.inr (hreset.mono fun c hc => hidle.subset hc)

theorem Linked.step (h : l.Linked) (e : LinkEvent) (htold : l.Told e) : (l.step e).Linked := by
  match e with
  | .request c => exact h.queue ⟨rfl, rfl, rfl, fun _ => rfl⟩ rfl rfl List.prefix_rfl
  | .setEnv env => exact h.queue ⟨rfl, rfl, rfl, fun _ => rfl⟩ rfl rfl List.prefix_rfl
  | .addServerIdle c =>
    exact h.queue ⟨rfl, rfl, rfl, fun _ => rfl⟩ rfl rfl (List.prefix_append _ _)
  | .unsolicited c => exact h.unsolicited c htold
  | .deliverToClient =>
    dsimp only [TransmitLink.step]
    split
    next => exact h
    next hmessages => exact h.deliverToClient hmessages
  | .runClientIdle =>
    dsimp only [TransmitLink.step]
    split
    next => exact h
    next hidle => exact h.runClientIdle hidle
  | .deliverToServer =>
    dsimp only [TransmitLink.step]
    split
    next => exact h
    next =>
      exact h.queue ⟨rfl, rfl, rfl, fun _ => rfl⟩ rfl rfl (List.prefix_append _ _)
  | .runServerIdle =>
    dsimp only [TransmitLink.step, Told] at htold ⊢
    split
    next => exact h
    next c rest hidle =>
      rw [hidle] at htold
      exact h.serverCallback hidle htold

theorem Linked.agrees (h : l.Linked) (hrest : l.AtRest) : l.Agrees := by
  have hflags : l.client.flags = l.server.flags := by
    by_cases ht : l.server.hasTransmitter
    . rcases h.mirror ht with hmirror | ⟨c, hc, _⟩
      . unfold Mirror heard at hmirror
        rw [hrest.clientIdle, hrest.toClient] at hmirror
        exact hmirror
      . rw [hrest.serverIdle] at hc
        exact absurd hc List.not_mem_nil
    . rw [(h.off ht).1, (h.off ht).2]
  have ⟨hmox, hvox, htune⟩ := TxFlags.mk.inj hflags
  have htransmitting : l.client.radioIsTransmitting = l.server.radioIsTransmitting := by
    unfold ClientTx.radioIsTransmitting RxTx.radioIsTransmitting
    rw [h.hasTransmitter, hmox, hvox, htune]
  refine ⟨hmox, hvox, htune, ?_⟩
  rw [← htransmitting]
  exact h.shown

theorem connected_linked (hasTransmitter duplex : Bool) (receivers : Nat)
    (calls : List (TxEnv × SwitchCall)) (env : TxEnv) (twotone : CInt) (waiting : List SwitchCall)
    : (connected hasTransmitter duplex receivers calls env twotone waiting).Linked := by
  have hserver : (connected hasTransmitter duplex receivers calls env twotone waiting).server =
      Run.exec RxTx.call (RxTx.receiving hasTransmitter duplex receivers) calls := rfl
  have ht : ∀ s : RxTx, s.hasTransmitter = hasTransmitter →
      (Run.exec RxTx.call s calls).hasTransmitter = hasTransmitter := by
    intro s hs
    apply Run.exec_invariant (I := fun s => s.hasTransmitter = hasTransmitter) _ hs
      (Run.along_true s calls)
    intro s c hs _
    rw [RxTx.call_hasTransmitter]
    exact hs
  have hoff : ∀ s : RxTx, ¬ s.hasTransmitter → Run.exec RxTx.call s calls = s := by
    intro s hs
    apply Run.exec_invariant (I := fun s' => s' = s) _ rfl (Run.along_true s calls)
    rintro _ c rfl _
    exact RxTx.call_of_not_hasTransmitter hs c
  constructor
  . rw [hserver, ht _ rfl]
    rfl
  . unfold ClientTx.Shown
    cases hasTransmitter <;> simp [connected, ClientTx.radioIsTransmitting]
  . exact ⟨told_zero, told_zero, told_zero⟩
  . intro _
    right
    exact ⟨.call (.setMox 0), List.mem_append_right _ List.mem_cons_self, trivial⟩
  . intro hserving
    rw [hserver, ht _ rfl] at hserving
    rw [hserver, hoff _ hserving]
    exact ⟨rfl, rfl⟩

/--
Whenever nothing is on its way the client has the MOX, VOX and TUNE of the server and shows that it
transmits, in every run of which each step tells the client what it changes.
-/
theorem agrees_of_told (hasTransmitter duplex : Bool) (receivers : Nat)
    (calls : List (TxEnv × SwitchCall)) (env : TxEnv) (twotone : CInt) (waiting : List SwitchCall)
    (es : List LinkEvent)
    (htold : Run.Along TransmitLink.step Told
      (connected hasTransmitter duplex receivers calls env twotone waiting) es)
    : ∀ es', es' <+: es →
        (Run.exec TransmitLink.step
          (connected hasTransmitter duplex receivers calls env twotone waiting) es').AtRest →
        (Run.exec TransmitLink.step
          (connected hasTransmitter duplex receivers calls env twotone waiting) es').Agrees := by
  intro es' hpre hrest
  have ⟨post, hpost⟩ := hpre
  rw [← hpost, Run.along_append] at htold
  apply Linked.agrees _ hrest
  apply Run.exec_invariant _ (connected_linked _ _ _ _ _ _ _) htold.1
  intro l e h he
  exact h.step e he

-- a client that has just connected makes one request, and all that follows from it arrives
def oneRequest (c : TxCall) : List LinkEvent :=
  [.runServerIdle, .deliverToClient, .runClientIdle, .request c, .deliverToServer, .runServerIdle,
    .deliverToClient, .runClientIdle]

theorem agrees_of_told_mox
    : (Run.exec TransmitLink.step (connected true false 2 [] ⟨true, false⟩ 0 [])
        (oneRequest (.radioSetMox 1))).Agrees := by
  apply agrees_of_told true false 2 [] ⟨true, false⟩ 0 [] (oneRequest (.radioSetMox 1)) _ _
    List.prefix_rfl ⟨rfl, rfl, rfl, rfl⟩
  have hreset (l : TransmitLink) : l.MoxTold 0 := fun h => absurd rfl h
  have hmox (l : TransmitLink) (hallowed : l.env = ⟨true, false⟩) : l.MoxTold 1 := by
    intro _
    rw [hallowed, if_pos rfl, if_neg (by decide)]
    decide
  exact ⟨Or.inr (hreset _), trivial, trivial, trivial, trivial, Or.inr (hmox _ rfl), trivial,
    trivial, trivial⟩

/--
Out of the band the server goes on receiving and the client shows that it transmits; a TUNE that the
server carries out never shows on the client.
-/
theorem not_agrees_oneRequest
    : ((Run.exec TransmitLink.step (connected true false 2 [] ⟨false, false⟩ 0 [])
          (oneRequest (.radioSetMox 1))).AtRest ∧
        ¬ (Run.exec TransmitLink.step (connected true false 2 [] ⟨false, false⟩ 0 [])
          (oneRequest (.radioSetMox 1))).Agrees) ∧
      ((Run.exec TransmitLink.step (connected true false 2 [] ⟨true, false⟩ 0 [])
          (oneRequest (.radioSetTune 1))).AtRest ∧
        ¬ (Run.exec TransmitLink.step (connected true false 2 [] ⟨true, false⟩ 0 [])
          (oneRequest (.radioSetTune 1))).Agrees) :=
  ⟨⟨⟨rfl, rfl, rfl, rfl⟩, fun h => absurd h.mox (by decide)⟩,
    ⟨⟨rfl, rfl, rfl, rfl⟩, fun h => absurd h.tune (by decide)⟩⟩

end TransmitLink

end ClientServer
