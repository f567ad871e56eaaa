import Pihpsdr.Lib.Assoc
import Pihpsdr.Vfo.Impl.Change
import Pihpsdr.Vfo.Lemmas.AdcChange

/-!
The search of `band_plus` and `band_minus` ends with one change to the next band where the VFO stays
in the band that it enters. A client goes on asking, as its VFO has not changed yet.
-/

namespace RadioState

variable {s : RadioState} {id : Fin 2} {b : BandIndex}

-- the bands that a step is meant to look for
def Selectable (s : RadioState) (id : Fin 2) (b : BandIndex) : Prop :=
  s.Assigned b ∧ ¬s.Refused id b

theorem vfoIdBandChanged_of_refused (h : s.Refused id b) : s.vfoIdBandChanged id b = s :=
  if_pos h

theorem band_vfoIdBandChanged (h : ¬s.Refused id b)
    : ((s.vfoIdBandChanged id b).vfo id).band = s.bandBand id b := by
  unfold Refused at h
  rw [vfoIdBandChanged, if_neg h, toTuningState_vfoVfosChanged]
  dsimp only
  rw [settled, band_settle, enterBand_eq, toTuningState_applyIfMoved]
  apply (s.sameSettings_steppedFor id b).band_enterEntry

end RadioState

namespace BandChanges

variable {p : Program} {next : BandIndex → BandIndex} {id : Fin 2} {b c : BandIndex}
  {r r' : BandChanges} {n : Nat} {s : RadioState}

theorem search?_of_assigned (h : r.radio.Assigned (next b))
    : search? p next id (n + 1) b r
        =
      if ((r.vfoIdBandChanged p id (next b)).radio.vfo id).band = next b then
        some (r.vfoIdBandChanged p id (next b))
      else
        search? p next id n (next b) (r.vfoIdBandChanged p id (next b)) :=
  if_pos h

theorem search?_of_not_assigned (h : ¬r.radio.Assigned (next b))
    : search? p next id (n + 1) b r = search? p next id n (next b) r :=
  if_neg h

theorem vfoIdBandChanged_of_refused (h : r.radio.Refused id b)
    : r.vfoIdBandChanged .radio id b = r := by
  unfold vfoIdBandChanged
  dsimp only
  rw [if_pos h, RadioState.vfoIdBandChanged_of_refused h]

theorem changes_radio (h : ¬r.radio.Refused id b)
    : (r.vfoIdBandChanged .radio id b).changes = r.changes ++ [b] :=
  if_neg h

-- a band that is refused is not found either
theorem changes_of_found (h : ((r.vfoIdBandChanged p id b).radio.vfo id).band = b)
    : (r.vfoIdBandChanged p id b).changes = r.changes ++ [b] := by
  cases p with
  | radio =>
    by_cases hrefused : r.radio.Refused id b
    . rw [vfoIdBandChanged_of_refused hrefused] at h
      exact absurd h.symm hrefused.1
    . apply changes_radio hrefused
  | client arriving => rfl

theorem length_changes_le
    : r.changes.length ≤ (r.vfoIdBandChanged p id b).changes.length := by
  cases p with
  | radio =>
    by_cases hrefused : r.radio.Refused id b
    . rw [vfoIdBandChanged_of_refused hrefused]
    . rw [changes_radio hrefused, List.length_append]
      omega
  | client arriving =>
    dsimp only [vfoIdBandChanged]
    rw [List.length_append]
    omega

-- the loop ends after one more change, to the band of the VFO
theorem changes_of_search? (h : search? p next id n b r = some r')
    : r.changes.length < r'.changes.length
        ∧ r'.changes.getLast? = some (r'.radio.vfo id).band := by
  induction n generalizing b r with
  | zero => contradiction
  | succ n ih =>
    by_cases hassigned : r.radio.Assigned (next b)
    . rw [search?_of_assigned hassigned] at h
      split at h
      next hfound =>
        have hchanges := changes_of_found hfound
        rw [Option.some.injEq] at h
        rw [h] at hfound hchanges
        rw [hchanges, hfound]
        simp
      next =>
        have hle : r.changes.length ≤ (r.vfoIdBandChanged p id (next b)).changes.length :=
          length_changes_le
        have ⟨hlength, hlast⟩ := ih h
        exact ⟨by omega, hlast⟩
    . rw [search?_of_not_assigned hassigned] at h
      exact ih h

-- after a first change the loop can only end with a second one
theorem search?_ne_of_changes (h : r.changes = [b]) (hr : search? p next id n b r = some r')
    : r'.changes ≠ [c] := by
  intro hc
  have hlength := (changes_of_search? hr).1
  rw [h, hc] at hlength
  exact absurd hlength (lt_irrefl _)

section

variable (next id)

theorem of_search?_radio (h : search? .radio next id n b ⟨s, []⟩ = some r) (hc : r.changes = [c])
    : FirstAfter next (s.Selectable id) b c ∧ s.bandBand id c = c := by
  induction n generalizing b with
  | zero => contradiction
  | succ n ih =>
    by_cases hassigned : s.Assigned (next b)
    . rw [search?_of_assigned hassigned] at h
      by_cases hrefused : s.Refused id (next b)
      . rw [vfoIdBandChanged_of_refused hrefused, if_neg (Ne.symm hrefused.1)] at h
        have ⟨hfirst, hkept⟩ := ih h
        exact ⟨.skip (fun hselectable => hselectable.2 hrefused) hfirst, hkept⟩
      . have hchanges := changes_radio (r := ⟨s, []⟩) hrefused
        split at h
        next hfound =>
          rw [Option.some.injEq] at h
          rw [← h, hchanges, List.nil_append, List.singleton_inj] at hc
          rw [← hc]
          constructor
          . exact .here ⟨hassigned, hrefused⟩
          . rw [← RadioState.band_vfoIdBandChanged hrefused]
            exact hfound
        next => exact absurd hc (search?_ne_of_changes hchanges h)
    . rw [search?_of_not_assigned hassigned] at h
      have ⟨hfirst, hkept⟩ := ih h
      exact ⟨.skip (fun hselectable => hassigned hselectable.1) hfirst, hkept⟩

theorem search?_radio (hfirst : FirstAfter next (s.Selectable id) b c)
    (hkept : s.bandBand id c = c)
    : ∃ n r, search? .radio next id n b ⟨s, []⟩ = some r ∧ r.changes = [c] := by
  induction hfirst with
  | here hselectable =>
    have ⟨hassigned, hrefused⟩ := hselectable
    have hfound := RadioState.band_vfoIdBandChanged hrefused
    rw [hkept] at hfound
    exact ⟨1, _, (search?_of_assigned hassigned).trans (if_pos hfound), changes_radio hrefused⟩
  | @skip b c hnot _ ih =>
    have ⟨n, r, hr, hc⟩ := ih hkept
    refine ⟨n + 1, r, ?_, hc⟩
    by_cases hassigned : s.Assigned (next b)
    . have hrefused : s.Refused id (next b) := by
        by_contra hrefused
        exact hnot ⟨hassigned, hrefused⟩
      rw [search?_of_assigned hassigned, vfoIdBandChanged_of_refused hrefused,
        if_neg (Ne.symm hrefused.1)]
      exact hr
    . rw [search?_of_not_assigned hassigned]
      exact hr

variable {arriving : Nat → VfoState}

-- a client asks for the first band with a title and looks at its VFO
theorem of_search?_client (h : search? (.client arriving) next id n b ⟨s, []⟩ = some r)
    (hc : r.changes = [c])
    : FirstAfter next s.Assigned b c ∧ (arriving 0).band = c := by
  induction n generalizing b with
  | zero => contradiction
  | succ n ih =>
    by_cases hassigned : s.Assigned (next b)
    . rw [search?_of_assigned hassigned] at h
      split at h
      next hfound =>
        rw [Option.some.injEq] at h
        rw [← h] at hc
        have hc : next b = c := List.singleton_inj.mp hc
        rw [← hc]
        constructor
        . exact .here hassigned
        . rw [← hfound]
          exact (congrArg VfoState.band (Function.update_self ..)).symm
      next => exact absurd hc (search?_ne_of_changes rfl h)
    . rw [search?_of_not_assigned hassigned] at h
      have ⟨hfirst, harrived⟩ := ih h
      exact ⟨.skip hassigned hfirst, harrived⟩

theorem search?_client (hfirst : FirstAfter next s.Assigned b c) (harrived : (arriving 0).band = c)
    : ∃ n r, search? (.client arriving) next id n b ⟨s, []⟩ = some r ∧ r.changes = [c] := by
  induction hfirst with
  | @here b hassigned =>
    refine ⟨1, _, (search?_of_assigned hassigned).trans (if_pos ?_), rfl⟩
    exact (congrArg VfoState.band (Function.update_self ..)).trans harrived
  | skip hnot _ ih =>
    have ⟨n, r, hr, hc⟩ := ih harrived
    exact ⟨n + 1, r, (search?_of_not_assigned hnot).trans hr, hc⟩

end

/--
The loop ends after a number of rounds, with one change, to the first band that it is meant to look
for, and the VFO is in that band.
-/
def SelectsNext (next : BandIndex → BandIndex) (s : RadioState) (id : Fin 2)
    (loop : Nat → Option BandChanges) : Prop :=
  ∃ c, FirstAfter next (s.Selectable id) (s.vfo id).band c
    ∧ ∃ n r, loop n = some r ∧ r.changes = [c] ∧ (r.radio.vfo id).band = c

-- the VFO is in the band `c` when the loop looks at it after the change to that band
def Arrives (p : Program) (next : BandIndex → BandIndex) (s : RadioState) (id : Fin 2)
    (c : BandIndex) : Prop :=
  match p with
  | .radio => s.bandBand id c = c
  | .client arriving => FirstAfter next s.Assigned (s.vfo id).band c ∧ (arriving 0).band = c

theorem search?_iff
    : (∃ n r, search? p next id n (s.vfo id).band ⟨s, []⟩ = some r ∧ r.changes = [c])
        ↔
      (p = .radio → FirstAfter next (s.Selectable id) (s.vfo id).band c)
        ∧ Arrives p next s id c := by
  cases p with
  | radio =>
    constructor
    . intro ⟨n, r, hr, hc⟩
      have ⟨hfirst, hkept⟩ := of_search?_radio next id hr hc
      exact ⟨fun _ => hfirst, hkept⟩
    . intro ⟨hfirst, hkept⟩
      apply search?_radio next id (hfirst rfl) hkept
  | client arriving =>
    constructor
    . intro ⟨n, r, hr, hc⟩
      exact ⟨nofun, of_search?_client next id hr hc⟩
    . intro ⟨_, hfirst, harrived⟩
      apply search?_client next id hfirst harrived

theorem selectsNext_search?
    : SelectsNext next s id (fun n => search? p next id n (s.vfo id).band ⟨s, []⟩)
        ↔
      ∃ c, FirstAfter next (s.Selectable id) (s.vfo id).band c ∧ Arrives p next s id c := by
  constructor
  . intro ⟨c, hfirst, n, r, hr, hc, _⟩
    exact ⟨c, hfirst, (search?_iff.mp ⟨n, r, hr, hc⟩).2⟩
  . intro ⟨c, hfirst, harrives⟩
    have ⟨n, r, hr, hc⟩ := search?_iff.mpr ⟨fun _ => hfirst, harrives⟩
    have hlast := (changes_of_search? hr).2
    rw [hc, List.getLast?_singleton, Option.some.injEq] at hlast
    exact ⟨c, hfirst, n, r, hr, hc, hlast.symm⟩

-- `bandSearch` is the same loop, without the record of the changes
theorem bandSearch_of_search? (h : search? .radio next id n b r = some r')
    : RadioState.bandSearch next id n b r.radio = r'.radio := by
  induction n generalizing b r with
  | zero => contradiction
  | succ n ih =>
    dsimp only [RadioState.bandSearch]
    by_cases hassigned : r.radio.Assigned (next b)
    . rw [search?_of_assigned hassigned] at h
      rw [if_neg hassigned]
      split at h
      next hfound =>
        rw [Option.some.injEq] at h
        rw [← h]
        exact if_pos hfound
      next hfound => exact (if_neg hfound).trans (ih h)
    . rw [search?_of_not_assigned hassigned] at h
      rw [if_pos (not_not.mp hassigned)]
      exact ih h

-- without a band to look for the loop of the radio does not end
theorem search?_radio_eq_none (h : ∀ b, ¬s.Selectable id b) (changes : List BandIndex)
    : search? .radio next id n b ⟨s, changes⟩ = none := by
  induction n generalizing b with
  | zero => rfl
  | succ n ih =>
    by_cases hassigned : s.Assigned (next b)
    . have hrefused : s.Refused id (next b) := by
        by_contra hrefused
        exact h (next b) ⟨hassigned, hrefused⟩
      rw [search?_of_assigned hassigned, vfoIdBandChanged_of_refused hrefused,
        if_neg (Ne.symm hrefused.1)]
      apply ih
    . rw [search?_of_not_assigned hassigned]
      apply ih

end BandChanges

namespace RadioState

open BandChanges

theorem selectsNext_iff (p : Program) (s : RadioState) (id : Fin 2)
    : (SelectsNext (· + 1) s id (s.bandPlus? p id)
        ↔ ∃ c, FirstAfter (· + 1) (s.Selectable id) (s.vfo id).band c ∧ Arrives p (· + 1) s id c)
      ∧ (SelectsNext (· - 1) s id (s.bandMinus? p id)
        ↔ ∃ c, FirstAfter (· - 1) (s.Selectable id) (s.vfo id).band c
            ∧ Arrives p (· - 1) s id c) :=
  ⟨selectsNext_search?, selectsNext_search?⟩

-- on 20 m, before an answer of the server, a client asks for 17 m and then for all other bands
theorem bandPlus_asks_again
    : ¬SelectsNext (· + 1) initialState 0 (initialState.bandPlus? (.client fun _ => initialVfo) 0)
      ∧ (initialState.bandPlus? (.client fun _ => initialVfo) 0 34).map (·.changes.length)
          = some numBands := by
  apply And.intro _ (by decide)
  have hassigned : initialState.Assigned (initialVfo.band + 1) := by
    decide
  intro ⟨c, _, n, r, hr, hc, _⟩
  have ⟨hfirst, harrived⟩ := of_search?_client _ _ hr hc
  have hnext := hfirst.unique (.here hassigned)
  rw [← harrived] at hnext
  exact absurd hnext (by decide)

end RadioState
