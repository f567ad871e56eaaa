import Pihpsdr.DxCluster.Impl.Spots
import Pihpsdr.Lib.Run

/-!
What `handle_line` gets of a connection: its complete lines, however they arrive, as long as no close of the
connection finds the error of a time-out.
-/

namespace DxCluster

open Text Run

-- what is kept of a line
def lineOf (piece : List Int) : List Int :=
  (piece.filter fun c => decide (c ≠ 13)).take (lineBufSize - 1)

-- the complete lines that are not empty
def linesOf (data : List Int) : List (List Int) :=
  ((data.splitOn newline).dropLast.map lineOf).filter fun l => decide (l ≠ [])

theorem linesOf_of_not_mem {piece : List Int} (h : newline ∉ piece) : linesOf piece = [] := by
  rw [linesOf, List.splitOn_eq_singleton h]
  rfl

theorem linesOf_append_cons {piece : List Int} (h : newline ∉ piece) (data : List Int)
    : linesOf (piece ++ newline :: data)
        = (if lineOf piece ≠ [] then [lineOf piece] else []) ++ linesOf data := by
  unfold linesOf
  rw [List.splitOn_append_cons_self, List.splitOn_eq_singleton h, List.singleton_append,
    List.dropLast_cons_of_ne_nil (List.splitOn_ne_nil newline data), List.map_cons, List.filter_cons]
  by_cases hempty : lineOf piece = []
  . simp [hempty]
  . simp [hempty]

theorem lineOf_concat_return (piece : List Int) : lineOf (piece ++ [13]) = lineOf piece := by
  simp [lineOf]

theorem lineOf_concat (piece : List Int) {c : Int} (hc : c ≠ 13)
    : lineOf (piece ++ [c])
        = if (lineOf piece).length < lineBufSize - 1 then lineOf piece ++ [c] else lineOf piece := by
  unfold lineOf
  rw [List.filter_append, List.filter_cons_of_pos (by simpa using hc), List.filter_nil]
  generalize piece.filter (fun c => decide (c ≠ 13)) = kept
  rw [List.length_take]
  split
  next hlt =>
    have hle : kept.length + 1 ≤ lineBufSize - 1 := by omega
    rw [List.take_of_length_le (by simpa using hle), List.take_of_length_le (by omega)]
  next hlt => rw [List.take_append_of_le_length (by omega)]

namespace ReadLoop

theorem feed_newline (piece : List Int) (handled : List (List Int))
    : feed false (lineOf piece, handled) newline
        = ([], handled ++ if lineOf piece ≠ [] then [lineOf piece] else []) := by
  have hne : newline ≠ 13 := by decide
  rw [feed, if_neg hne, if_pos rfl]
  by_cases hempty : lineOf piece = []
  . simp [hempty]
  . simp [hempty, List.length_pos_iff]

-- a character that does not end the line
theorem feed_lineOf (piece : List Int) (handled : List (List Int)) {c : Int} (hc : c ≠ newline)
    : feed false (lineOf piece, handled) c = (lineOf (piece ++ [c]), handled) := by
  unfold feed
  by_cases hreturn : c = 13
  . subst hreturn
    rw [if_pos rfl, lineOf_concat_return]
  . rw [if_neg hreturn, if_neg hc, lineOf_concat piece hreturn]
    split <;> rfl

theorem foldl_feed {piece : List Int} (hpiece : newline ∉ piece) (handled : List (List Int))
    (data : List Int)
    : (data.foldl (feed false) (lineOf piece, handled)).2 = handled ++ linesOf (piece ++ data) := by
  induction data generalizing piece handled with
  | nil => rw [List.append_nil, linesOf_of_not_mem hpiece, List.append_nil, List.foldl_nil]
  | cons c data ih =>
    rw [List.foldl_cons]
    by_cases hc : c = newline
    . subst hc
      have hnil := ih (List.not_mem_nil (a := newline))
        (handled ++ if lineOf piece ≠ [] then [lineOf piece] else [])
      rw [feed_newline, linesOf_append_cons hpiece, ← List.append_assoc]
      exact hnil
    . have hmem : newline ∉ piece ++ [c] := by simp [hpiece, Ne.symm hc]
      rw [feed_lineOf piece handled hc, ih hmem, List.append_assoc, List.singleton_append]

theorem handled_foldl (data : List Int) : (data.foldl (feed false) ([], [])).2 = linesOf data := by
  have hnil : newline ∉ ([] : List Int) := List.not_mem_nil
  exact foldl_feed hnil [] data

theorem feed_stopped (p : List Int × List (List Int)) (c : Int) : (feed true p c).2 = p.2 := by
  unfold feed
  split
  . rfl
  . split
    . simp
    . split <;> rfl

theorem feedFrom_none (i : Nat) (p : List Int × List (List Int)) (cs : List Int)
    : feedFrom none i p cs = cs.foldl (feed false) p := by
  induction cs generalizing i p with
  | nil => rfl
  | cons c cs ih => exact ih (i + 1) (feed false p c)

-- no line is handled once the worker is stopped
theorem feedFrom_some (k i : Nat) (p : List Int × List (List Int)) (cs : List Int)
    : (feedFrom (some k) i p cs).2 = ((cs.take (k - i)).foldl (feed false) p).2 := by
  induction cs generalizing i p with
  | nil => simp [feedFrom]
  | cons c cs ih =>
    rw [feedFrom, ih]
    by_cases hk : k ≤ i
    . rw [Nat.sub_eq_zero_of_le hk, Nat.sub_eq_zero_of_le (Nat.le_succ_of_le hk)]
      simp [hk, feed_stopped]
    . have hsub : k - i = k - (i + 1) + 1 := by omega
      rw [hsub, List.take_succ_cons, List.foldl_cons]
      simp [hk]

variable {s : ReadLoop}

structure Exact (s : ReadLoop) : Prop where
  handled : s.handled = linesOf s.received
  running : s.running = !s.ended

-- no close of the connection finds the error of a time-out
def Clear (s : ReadLoop) (e : RecvRound) : Prop :=
  s.running → e.result = .closed → e.stop = none → timedOut s.errno = false

-- the loop is where the characters that have arrived lead it
structure Tracks (s : ReadLoop) : Prop extends Exact s where
  fed : s.running → (s.line, s.handled) = s.received.foldl (feed false) ([], [])

theorem Tracks.start (errno : Int) : (start errno).Tracks where
  handled := rfl
  running := rfl
  fed := fun _ => rfl

theorem Exact.step_idle (h : s.Exact) (hidle : s.running = false) (e : RecvRound) : step s e = s := by
  have hended : s.ended = true := by simpa [hidle] using h.running
  cases s
  simp_all [step]

theorem Exact.ended_of_running (h : s.Exact) (hrunning : s.running = true) : s.ended = false := by
  simpa [hrunning] using h.running.symm

namespace Tracks

-- the lines that are handled of a chunk
theorem handled_feedFrom (h : s.Tracks) (hrunning : s.running = true) (stop : Option Nat) (chunk : List Int)
    : (feedFrom stop 0 (s.line, s.handled) chunk).2
        = linesOf (s.received ++ stop.elim chunk chunk.take) := by
  rw [← handled_foldl, List.foldl_append, ← h.fed hrunning]
  cases stop with
  | none => rw [feedFrom_none, Option.elim_none]
  | some k => rw [feedFrom_some, Nat.sub_zero, Option.elim_some]

theorem step_data (h : s.Tracks) (hrunning : s.running = true) (chunk : List Int) (hne : chunk ≠ [])
    (stop : Option Nat) (enabled : Bool) (errno : Option Int)
    : (step s { result := .data chunk hne, stop, enabled, errno }).Tracks := by
  have hended := h.ended_of_running hrunning
  have hhandled := h.handled_feedFrom hrunning stop chunk
  unfold ReadLoop.step RecvRound.data RecvRound.ends
  simp only [hrunning, hended, if_true, Bool.false_eq_true, if_false, Bool.false_or]
  split
  next hstop =>
    subst hstop
    constructor
    . constructor
      . simpa using h.handled
      . rfl
    . simp
  next hstop =>
    constructor
    . constructor
      . exact hhandled
      . cases stop <;> simp
    . intro hgo
      cases stop with
      | some k => simp at hgo
      | none =>
        dsimp only [Option.elim_none]
        rw [feedFrom_none, List.foldl_append, ← h.fed hrunning]

-- nothing arrives in a round without data
theorem step_empty (h : s.Tracks) {running ended : Bool} (hend : running = !ended) (errno : Int)
    (hrun : running = true → s.running = true)
    : ({ s with running, errno, ended } : ReadLoop).Tracks where
  handled := h.handled
  running := hend
  fed := fun hrunning => h.fed (hrun hrunning)

end Tracks

-- a close is exact only if it ends the loop
theorem step_closed (hrunning : s.running = true) (hended : s.ended = false) (stop : Option Nat)
    (enabled : Bool) (errno : Option Int)
    : step s { result := .closed, stop, enabled, errno }
        = { s with running := timedOut s.errno && stop.isNone, ended := true } := by
  simp [step, RecvRound.data, RecvRound.ends, hrunning, hended]

theorem step_error (hrunning : s.running = true) (hended : s.ended = false) (code : Int) (stop : Option Nat)
    (enabled : Bool) (errno : Option Int)
    : step s { result := .error code, stop, enabled, errno }
        = { s with
            running := timedOut code && stop.isNone
            errno := code
            ended := decide (code ≠ eagain ∧ code ≠ ewouldblock) || stop.isSome } := by
  simp [step, RecvRound.data, RecvRound.ends, hrunning, hended]

theorem Tracks.step (h : s.Tracks) {e : RecvRound} (hclear : s.Clear e) : (step s e).Tracks := by
  by_cases hrunning : s.running = true
  . have hended := h.ended_of_running hrunning
    obtain ⟨result, stop, enabled, errno⟩ := e
    cases result with
    | data chunk hne => exact h.step_data hrunning chunk hne stop enabled errno
    | closed =>
      rw [step_closed hrunning hended]
      apply h.step_empty
      . cases stop with
        | none => simp [hclear hrunning rfl rfl]
        | some k => simp
      . exact fun _ => hrunning
    | error code =>
      rw [step_error hrunning hended]
      apply h.step_empty
      . cases stop with
        | none => simp [timedOut, or_iff_not_imp_left]
        | some k => simp
      . exact fun _ => hrunning
  . rw [h.step_idle (by simpa using hrunning)]
    exact h

theorem Tracks.clear_of_exact (h : s.Tracks) {e : RecvRound} (hnext : (ReadLoop.step s e).Exact)
    : s.Clear e := by
  intro hrunning hresult hstop
  obtain ⟨result, stop, enabled, errno⟩ := e
  dsimp only at hresult hstop
  subst hresult hstop
  have hend := hnext.running
  rw [step_closed hrunning (h.ended_of_running hrunning)] at hend
  simpa using hend

-- Up to each point of a connection the lines that have been handled are its complete lines in their order, and the
-- loop has ended with the connection, exactly if no close finds the error of a time-out.
theorem lines_exec (errno : Int) (es : List RecvRound)
    : (∀ es', es' <+: es → (exec step (start errno) es').Exact) ↔ Along step Clear (start errno) es := by
  apply forall_prefix_iff_along_of (I := Tracks)
  . exact fun s e h hclear => h.step hclear
  . exact fun s e h hnext => h.clear_of_exact hnext
  . exact fun s h => h.toExact
  . exact Tracks.start errno

-- the other side closes the connection after a quiet minute
def quietClose : List RecvRound :=
  [{ result := .error eagain, stop := none, enabled := true, errno := none },
    { result := .closed, stop := none, enabled := true, errno := none }]

theorem not_exact_quietClose : ¬(exec step (start 0) quietClose).Exact := by
  intro h
  exact absurd h.running (by decide)

end ReadLoop

end DxCluster
