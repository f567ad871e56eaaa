import Mathlib.Data.List.Induction
import Pihpsdr.Lib.Run

/-!
A machine with outputs whose inputs come from several senders, each with a key. It may keep its
senders apart or not: with one state for all of them, an input can be answered by what another sender
has left behind.
-/

structure Mealy (σ ι ο : Type) where
  next : σ → ι → σ
  out : σ → ι → ο

namespace Mealy

open Run

variable {σ ι ο κ : Type} (m : Mealy σ ι ο)

-- the output for each input
def outputs : σ → List ι → List ο
  | _, [] => []
  | s, x :: xs => m.out s x :: outputs (m.next s x) xs

variable [DecidableEq κ] (key : ι → κ)

-- the outputs for the inputs of one sender, among those of all the others
def outputsFor (k : κ) : σ → List ι → List ο
  | _, [] => []
  | s, x :: xs =>
    if key x = k then
      m.out s x :: outputsFor k (m.next s x) xs
    else
      outputsFor k (m.next s x) xs

def inputsOf (k : κ) (xs : List ι) : List ι :=
  xs.filter fun x => key x = k

-- every sender sees what it would see if it were alone
def Separates (s : σ) (xs : List ι) : Prop :=
  ∀ k, m.outputsFor key k s xs = m.outputs s (inputsOf key k xs)

theorem outputs_concat (s : σ) (xs : List ι) (x : ι)
    : m.outputs s (xs ++ [x]) = m.outputs s xs ++ [m.out (exec m.next s xs) x] := by
  induction xs generalizing s with
  | nil => rfl
  | cons y ys ih => simp only [List.cons_append, outputs, ih, exec_cons]

theorem outputsFor_concat_self (s : σ) (xs : List ι) (x : ι)
    : m.outputsFor key (key x) s (xs ++ [x])
        =
      m.outputsFor key (key x) s xs ++ [m.out (exec m.next s xs) x] := by
  induction xs generalizing s with
  | nil => simp [outputsFor]
  | cons y ys ih =>
    simp only [List.cons_append, outputsFor, ih, exec_cons]
    split
    . rfl
    . rfl

theorem outputsFor_concat_of_ne {k : κ} {x : ι} (h : key x ≠ k) (s : σ) (xs : List ι)
    : m.outputsFor key k s (xs ++ [x]) = m.outputsFor key k s xs := by
  induction xs generalizing s with
  | nil => simp [outputsFor, h]
  | cons y ys ih => simp only [List.cons_append, outputsFor, ih]

theorem inputsOf_concat_self (xs : List ι) (x : ι)
    : inputsOf key (key x) (xs ++ [x]) = inputsOf key (key x) xs ++ [x] := by
  simp [inputsOf]

theorem inputsOf_concat_of_ne {k : κ} {x : ι} (h : key x ≠ k) (xs : List ι)
    : inputsOf key k (xs ++ [x]) = inputsOf key k xs := by
  simp [inputsOf, h]

theorem separates_concat_iff (s : σ) (xs : List ι) (x : ι)
    : m.Separates key s (xs ++ [x])
        ↔
      m.Separates key s xs ∧
        m.out (exec m.next s xs) x = m.out (exec m.next s (inputsOf key (key x) xs)) x := by
  constructor
  . intro h
    have hself := h (key x)
    rw [outputsFor_concat_self, inputsOf_concat_self, outputs_concat] at hself
    obtain ⟨hbefore, hout⟩ := List.append_inj' hself rfl
    refine ⟨fun k => ?_, List.singleton_inj.mp hout⟩
    by_cases hk : key x = k
    . rw [← hk]
      exact hbefore
    . have hother := h k
      rwa [outputsFor_concat_of_ne m key hk, inputsOf_concat_of_ne key hk] at hother
  . rintro ⟨hbefore, hout⟩ k
    by_cases hk : key x = k
    . subst hk
      rw [outputsFor_concat_self, inputsOf_concat_self, outputs_concat, hbefore, hout]
    . rw [outputsFor_concat_of_ne m key hk, inputsOf_concat_of_ne key hk]
      exact hbefore k

/--
The senders are kept apart if and only if each input finds a state that answers it as the state after
the inputs of its own sender would.
-/
theorem separates_iff (s : σ) (xs : List ι)
    : m.Separates key s xs
        ↔
      ∀ before x after, xs = before ++ x :: after →
        m.out (exec m.next s before) x
          =
        m.out (exec m.next s (inputsOf key (key x) before)) x := by
  induction xs using List.reverseRecOn with
  | nil =>
    refine iff_of_true (fun k => rfl) fun before x after h => ?_
    simp at h
  | append_singleton ys y ih =>
    rw [separates_concat_iff, ih]
    constructor
    . rintro ⟨hbefore, hlast⟩ before x after h
      cases after using List.reverseRecOn with
      | nil =>
        obtain ⟨rfl, hy⟩ := List.append_inj' h rfl
        obtain rfl := List.singleton_inj.mp hy
        exact hlast
      | append_singleton after z =>
        rw [← List.cons_append, ← List.append_assoc] at h
        exact hbefore before x after (List.append_inj' h rfl).1
    . intro h
      refine ⟨fun before x after heq => ?_, h ys y [] rfl⟩
      apply h before x (after ++ [y])
      rw [heq, List.append_assoc, List.cons_append]

end Mealy
