import Pihpsdr.ClientServer.Impl.TransmitLink
import Pihpsdr.ClientServer.Lemmas.Wire

/-!
The drive that the user sets is kept as long as no packet tells the client of a drive that was zero before.
What the server is going to have after all messages is what the client has.
-/

namespace ClientServer

theorem double_two_fifths : 0 < double (2 / 5) ∧ double (2 / 5) < 1 := by
  decide +kernel

theorem limitedDrive_le (limit : Option ℚ) (value : ℚ) : limitedDrive limit value ≤ value := by
  unfold limitedDrive
  split
  . exact le_refl value
  . split
    next h => exact le_of_lt h
    next => exact le_refl value

namespace DriveLink

variable (s : DriveLink)

-- the drive of the server after the messages that are on their way
def pendingDrive : ℚ :=
  s.commands.foldl (fun _ dbl => limitedDrive s.limit (fromDouble dbl)) s.serverDrive

structure Kept (s : DriveLink) : Prop where
  clientDrive : s.clientDrive = s.last
  pendingDrive : s.pendingDrive = carriedDrive s.limit s.last

theorem pendingDrive_clientSetDrive (value : ℚ)
    : (s.clientSetDrive value).pendingDrive = carriedDrive s.limit (limitedDrive s.limit value) := by
  simp [pendingDrive, clientSetDrive, carriedDrive]

theorem pendingDrive_cmdDrive : s.cmdDrive.pendingDrive = s.pendingDrive := by
  obtain ⟨limit, clientDrive, serverDrive, commands, displays, last⟩ := s
  cases commands with
  | nil => rfl
  | cons dbl commands => rfl

theorem kept_userSetDrive (value : ℚ) : (s.userSetDrive value).Kept where
  clientDrive := rfl
  pendingDrive := s.pendingDrive_clientSetDrive value

theorem kept_cmdDrive_iff : s.cmdDrive.Kept ↔ s.Kept := by
  have hpending := s.pendingDrive_cmdDrive
  have hsame : s.cmdDrive.clientDrive = s.clientDrive ∧ s.cmdDrive.last = s.last
      ∧ s.cmdDrive.limit = s.limit := by
    unfold cmdDrive
    split <;> exact ⟨rfl, rfl, rfl⟩
  obtain ⟨hclient, hlast, hlimit⟩ := hsame
  constructor
  . intro h
    constructor
    . rw [← hclient, ← hlast, h.clientDrive]
    . rw [← hpending, ← hlimit, ← hlast, h.pendingDrive]
  . intro h
    constructor
    . rw [hclient, hlast, h.clientDrive]
    . rw [hpending, hlimit, hlast, h.pendingDrive]

-- packets alone change nothing
theorem kept_displays_iff (displays : List Bool) : { s with displays := displays }.Kept ↔ s.Kept := by
  constructor
  . intro h
    exact ⟨h.clientDrive, h.pendingDrive⟩
  . intro h
    exact ⟨h.clientDrive, h.pendingDrive⟩

variable {s}

-- a drive that is switched off by a packet is not the one that was set
theorem not_kept_clientSetDrive_zero (h : s.Kept) (hdrive : s.clientDrive > double (2 / 5))
    : ¬ (s.clientSetDrive 0).Kept := by
  intro hkept
  have hzero := limitedDrive_le s.limit 0
  have hclient : limitedDrive s.limit 0 = s.last := hkept.clientDrive
  have hlast := h.clientDrive
  have hpos := double_two_fifths.1
  linarith

theorem kept_step_iff (h : s.Kept) (e : Event) : (s.step e).Kept ↔ s.NotStale e := by
  cases e with
  | set value => exact iff_of_true (s.kept_userSetDrive value) trivial
  | command => exact iff_of_true (s.kept_cmdDrive_iff.mpr h) trivial
  | sample => exact iff_of_true ((s.kept_displays_iff _).mpr h) trivial
  | lose i => exact iff_of_true ((s.kept_displays_iff _).mpr h) trivial
  | display i =>
    have herased := (s.kept_displays_iff (s.displays.eraseIdx i)).mpr h
    dsimp only [step, NotStale]
    cases hdisplay : s.displays[i]? with
    | none =>
      apply iff_of_true h
      intro hnone
      contradiction
    | some txzero =>
      dsimp only [clientInfoDisplay]
      split
      next hstale =>
        obtain ⟨htxzero, hdrive⟩ := hstale
        apply iff_of_false (not_kept_clientSetDrive_zero herased hdrive)
        intro hle
        exact absurd (hle (by rw [htxzero])) (not_le.mpr hdrive)
      next hfresh =>
        apply iff_of_true herased
        intro htxzero
        rw [Option.some.injEq] at htxzero
        by_contra hgt
        exact hfresh ⟨htxzero, not_le.mp hgt⟩

theorem exec_commands (s : DriveLink)
    : Run.exec step s (List.replicate s.commands.length .command)
        =
      { s with serverDrive := s.pendingDrive, commands := [] } := by
  obtain ⟨limit, clientDrive, serverDrive, commands, displays, last⟩ := s
  induction commands generalizing serverDrive with
  | nil => rfl
  | cons dbl commands ih => exact ih (limitedDrive limit (fromDouble dbl))

theorem exec_lose (s : DriveLink)
    : Run.exec step s (List.replicate s.displays.length (.lose 0)) = { s with displays := [] } := by
  obtain ⟨limit, clientDrive, serverDrive, commands, displays, last⟩ := s
  induction displays with
  | nil => rfl
  | cons txzero displays ih => exact ih

-- after all messages the server has what was pending
theorem exec_finish (s : DriveLink)
    : Run.exec step s s.finish
        =
      { s with serverDrive := s.pendingDrive, commands := [], displays := [] } := by
  have hcommands := exec_commands s
  have hlose := exec_lose { s with serverDrive := s.pendingDrive, commands := [] }
  rw [finish, Run.exec_append, hcommands]
  exact hlose

theorem settled_finish_iff (s : DriveLink) : (Run.exec step s s.finish).Settled ↔ s.Kept := by
  rw [exec_finish]
  constructor
  . intro h
    exact ⟨h.clientDrive, h.serverDrive⟩
  . intro h
    exact ⟨rfl, rfl, h.clientDrive, h.pendingDrive⟩

theorem Settled.kept (h : s.Settled) : s.Kept where
  clientDrive := h.clientDrive
  pendingDrive := by
    rw [pendingDrive, h.commands]
    exact h.serverDrive

/--
However settings, messages and packets interleave: whenever all messages have been processed, client and
server have the drive that was set last, exactly if no packet is stale when it arrives.
-/
theorem settled_iff_along (hs : s.Settled) (es : List Event)
    : (∀ es', es' <+: es →
          (Run.exec step s (es' ++ (Run.exec step s es').finish)).Settled)
        ↔
      Run.Along step NotStale s es := by
  rw [← Run.forall_prefix_iff_along (I := Kept) (P := NotStale) (fun s e hkept => kept_step_iff hkept e)
    hs.kept es]
  apply forall_congr'
  intro es'
  rw [Run.exec_append, settled_finish_iff]

-- zero on both sides, as the user has set it
def zeroLink : DriveLink where
  limit := none
  clientDrive := 0
  serverDrive := 0
  commands := []
  displays := []
  last := 0

theorem settled_zeroLink : zeroLink.Settled where
  commands := rfl
  displays := rfl
  clientDrive := rfl
  serverDrive := by decide +kernel

-- a packet with the flag arrives before the drive is set
theorem settled_zeroLink_set
    : zeroLink.Settled ∧ ∀ es', es' <+: [Event.sample, .display 0, .set 50] →
        (Run.exec step zeroLink (es' ++ (Run.exec step zeroLink es').finish)).Settled := by
  refine ⟨settled_zeroLink, ?_⟩
  apply (settled_iff_along settled_zeroLink _).mpr
  refine ⟨trivial, ?_, trivial, trivial⟩
  intro _
  exact le_of_lt double_two_fifths.1

-- it arrives after the drive has been set, and when nothing is on its way any more the drive is zero
def staleRun : DriveLink :=
  Run.exec step zeroLink [.sample, .set 50, .command, .display 0, .command]

theorem drive_lost_staleRun
    : staleRun.commands = [] ∧ staleRun.displays = [] ∧ staleRun.last = 50
      ∧ staleRun.clientDrive = 0 ∧ staleRun.serverDrive = 0 := by
  decide +kernel

end DriveLink

end ClientServer
