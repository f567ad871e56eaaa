import Mathlib.Data.List.Infix

/-!
The search for a word in a stream of symbols by a counter of the symbols matched so far, which falls
back to zero with each symbol that does not continue the word. Such a symbol is lost: it does not
begin the next attempt. The search finds the word exactly after a series of abandoned attempts.
-/

namespace Matcher

variable {α : Type} [DecidableEq α]

-- what follows the word, after the first `k` of its symbols
def search (word : List α) (k : Nat) (stream : List α) : Option (List α) :=
  if k = word.length then
    some stream
  else
    match stream with
    | [] => none
    | c :: stream => if word[k]? = some c then search word (k + 1) stream else search word 0 stream

/--
A series of attempts, each of them a part of the word that a symbol follows which does not continue
it.
-/
inductive Abandoned (word : List α) : List α → Prop where
  | nil : Abandoned word []
  | cons {k : Nat} {c : α} {w : List α} (hk : k < word.length) (hc : word[k]? ≠ some c)
      (hw : Abandoned word w) : Abandoned word (word.take k ++ c :: w)

variable {word stream rest g : List α}

theorem search_of_length_eq (k : Nat) (h : k = word.length)
    : search word k stream = some stream := by
  unfold search
  rw [if_pos h]

theorem search_cons {k : Nat} {c : α} (h : k ≠ word.length)
    : search word k (c :: stream) =
        if word[k]? = some c then search word (k + 1) stream else search word 0 stream := by
  rw [search, if_neg h]

theorem search_drop {k : Nat} (hk : k ≤ word.length)
    : search word k (word.drop k ++ stream) = some stream := by
  induction h : word.drop k generalizing k with
  | nil =>
    apply search_of_length_eq
    have := List.drop_eq_nil_iff.mp h
    omega
  | cons c w ih =>
    have hlt : k < word.length := by
      have := congrArg List.length h
      rw [List.length_drop, List.length_cons] at this
      omega
    have hc : word[k]? = some c := by
      rw [← List.head?_drop, h, List.head?_cons]
    have hw : word.drop (k + 1) = w := by
      rw [← List.tail_drop, h, List.tail_cons]
    rw [List.cons_append, search_cons (by omega), if_pos hc]
    apply ih hlt hw

theorem search_take_append {j : Nat} (hj : j ≤ word.length)
    : search word 0 (word.take j ++ stream) = search word j stream := by
  induction j generalizing stream with
  | zero => rw [List.take_zero, List.nil_append]
  | succ j ih =>
    rw [← List.take_concat_get' word j hj, List.append_assoc, ih (by omega), List.singleton_append]
    rw [search_cons (by omega), if_pos (List.getElem?_eq_getElem hj)]

theorem search_append_of_abandoned (h : Abandoned word g)
    : search word 0 (g ++ stream) = search word 0 stream := by
  induction h with
  | nil => rw [List.nil_append]
  | cons hk hc hw ih =>
    rw [List.append_assoc, search_take_append (by omega), List.cons_append]
    rw [search_cons (by omega), if_neg hc]
    exact ih

theorem abandoned_of_search {k : Nat} (hk : k ≤ word.length)
    (h : search word k stream = some rest)
    : ∃ g, Abandoned word g ∧ word.take k ++ stream = g ++ word ++ rest := by
  induction stream generalizing k with
  | nil =>
    unfold search at h
    split at h
    next hlen =>
      refine ⟨[], .nil, ?_⟩
      rw [List.take_of_length_le (by omega), ← Option.some.inj h, List.nil_append]
    next => simp at h
  | cons c stream ih =>
    by_cases hlen : k = word.length
    . rw [search_of_length_eq k hlen] at h
      refine ⟨[], .nil, ?_⟩
      rw [List.take_of_length_le (by omega), ← Option.some.inj h, List.nil_append]
    . rw [search_cons hlen] at h
      split at h
      next hc =>
        have hlt : k < word.length := by omega
        have ⟨g, hg, heq⟩ := ih hlt h
        refine ⟨g, hg, ?_⟩
        rw [List.getElem?_eq_getElem hlt] at hc
        rw [← heq, ← List.take_concat_get' word k hlt, Option.some.inj hc, List.append_assoc,
          List.singleton_append]
      next hc =>
        have ⟨g, hg, heq⟩ := ih (Nat.zero_le _) h
        refine ⟨word.take k ++ c :: g, .cons (by omega) hc hg, ?_⟩
        rw [List.take_zero, List.nil_append] at heq
        rw [heq]
        simp only [List.append_assoc, List.cons_append]

-- The search ends right behind a given place of the word if and only if it is idle there.
theorem search_append_iff
    : search word 0 (g ++ word ++ rest) = some rest ↔ Abandoned word g := by
  constructor
  . intro h
    have ⟨u, hu, heq⟩ := abandoned_of_search (Nat.zero_le _) h
    rw [List.take_zero, List.nil_append] at heq
    have hgu := List.append_cancel_right (List.append_cancel_right heq)
    rw [hgu]
    exact hu
  . intro h
    rw [List.append_assoc, search_append_of_abandoned h]
    have hdrop : search word 0 (word.drop 0 ++ rest) = some rest := by
      apply search_drop (Nat.zero_le _)
    rw [List.drop_zero] at hdrop
    exact hdrop

end Matcher
