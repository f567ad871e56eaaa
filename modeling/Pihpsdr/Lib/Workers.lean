import Mathlib.Logic.Function.Basic
import Pihpsdr.Lib.Run

/-!
Workers that share a state: each of them does the operations of one request after those of the other,
and the operations of different workers take turns in any order.
-/

/-- What the workers still have to do, and how many requests each of them has begun with. -/
structure Workers (κ σ α : Type) where
  shared : σ
  todo : κ → List α
  begun : κ → Nat

inductive WorkerEvent (κ ρ : Type) where
  | request (k : κ) (r : ρ)
  | operation (k : κ)

namespace Workers

variable {κ ρ σ α ω : Type} [DecidableEq κ]

section Step

variable (program : κ → ρ → List α) (apply : κ → α → σ → σ)

def begin (y : Workers κ σ α) (k : κ) (ops : List α) : Workers κ σ α :=
  { y with
    todo := Function.update y.todo k ops
    begun := Function.update y.begun k (y.begun k + 1) }

def proceed (y : Workers κ σ α) (k : κ) (op : α) (rest : List α) : Workers κ σ α :=
  { y with
    shared := apply k op y.shared
    todo := Function.update y.todo k rest }

-- a request has to wait as long as the worker is busy
def step (y : Workers κ σ α) : WorkerEvent κ ρ → Workers κ σ α
  | .request k r =>
    match y.todo k with
    | [] => y.begin k (program k r)
    | _ :: _ => y
  | .operation k =>
    match y.todo k with
    | [] => y
    | op :: rest => y.proceed apply k op rest

def exec (y : Workers κ σ α) (evs : List (WorkerEvent κ ρ)) : Workers κ σ α :=
  Run.exec (step program apply) y evs

def Idle (y : Workers κ σ α) : Prop := ∀ k, y.todo k = []

-- what is to be done comes from requests
def Requested (y : Workers κ σ α) : Prop := ∀ k, ∀ op ∈ y.todo k, ∃ r, op ∈ program k r

end Step

variable {program : κ → ρ → List α} {apply : κ → α → σ → σ} {y : Workers κ σ α}

omit [DecidableEq κ] in
theorem Idle.requested (h : y.Idle) : y.Requested program := by
  intro k op hop
  rw [h k] at hop
  contradiction

-- all that a step can do
theorem step_cases (program : κ → ρ → List α) (apply : κ → α → σ → σ) (y : Workers κ σ α)
    (ev : WorkerEvent κ ρ)
    : y.step program apply ev = y
      ∨ (∃ k r, ev = .request k r ∧ y.todo k = []
          ∧ y.step program apply ev = y.begin k (program k r))
      ∨ ∃ k op rest, y.todo k = op :: rest
          ∧ y.step program apply ev = y.proceed apply k op rest := by
  cases ev with
  | request k r =>
    unfold step
    dsimp only
    cases h : y.todo k with
    | nil => exact .inr (.inl ⟨k, r, rfl, h, rfl⟩)
    | cons op rest => exact .inl rfl
  | operation k =>
    unfold step
    dsimp only
    cases h : y.todo k with
    | nil => exact .inl rfl
    | cons op rest => exact .inr (.inr ⟨k, op, rest, h, rfl⟩)

section Fields

variable (y) (k : κ) {k' : κ} (ops : List α) (op : α)

@[simp]
theorem todo_begin_self : (y.begin k ops).todo k = ops := Function.update_self ..

@[simp]
theorem todo_begin_of_ne (h : k' ≠ k) : (y.begin k ops).todo k' = y.todo k' :=
  Function.update_of_ne h ..

@[simp]
theorem begun_begin_of_ne (h : k' ≠ k) : (y.begin k ops).begun k' = y.begun k' :=
  Function.update_of_ne h ..

@[simp]
theorem todo_proceed_self : (y.proceed apply k op ops).todo k = ops := Function.update_self ..

@[simp]
theorem todo_proceed_of_ne (h : k' ≠ k) : (y.proceed apply k op ops).todo k' = y.todo k' :=
  Function.update_of_ne h ..

end Fields

theorem mem_todo_begin {k k' : κ} {ops : List α} {op : α} (h : op ∈ (y.begin k ops).todo k')
    : (k' = k ∧ op ∈ ops) ∨ (k' ≠ k ∧ op ∈ y.todo k') := by
  by_cases hk : k' = k
  . rw [hk, todo_begin_self] at h
    exact .inl ⟨hk, h⟩
  . rw [todo_begin_of_ne _ _ _ hk] at h
    exact .inr ⟨hk, h⟩

theorem mem_todo_proceed {k k' : κ} {op op' : α} {rest : List α} (hk : y.todo k = op :: rest)
    (h : op' ∈ (y.proceed apply k op rest).todo k')
    : op' ∈ y.todo k' := by
  by_cases hk' : k' = k
  . rw [hk', todo_proceed_self] at h
    rw [hk', hk]
    exact List.mem_cons_of_mem op h
  . rwa [todo_proceed_of_ne _ _ _ _ hk'] at h

theorem Requested.step (h : y.Requested program) (ev : WorkerEvent κ ρ)
    : (y.step program apply ev).Requested program := by
  obtain heq | ⟨k, r, _, _, heq⟩ | ⟨k, op, rest, hk, heq⟩ := step_cases program apply y ev
  . rw [heq]
    exact h
  . rw [heq]
    intro k' op hop
    obtain ⟨rfl, hop⟩ | ⟨_, hop⟩ := mem_todo_begin hop
    . exact ⟨r, hop⟩
    . exact h k' op hop
  . rw [heq]
    intro k' op' hop
    exact h k' op' (mem_todo_proceed hk hop)

theorem Requested.exec (h : y.Requested program) (evs : List (WorkerEvent κ ρ))
    : (y.exec program apply evs).Requested program :=
  Run.exec_invariant (P := fun _ _ => True) (fun _ ev hy _ => hy.step ev) h (Run.along_true _ _)

-- what every operation keeps holds in the whole run
theorem shared_invariant {I : σ → Prop}
    (hop : ∀ k r, ∀ op ∈ program k r, ∀ s, I s → I (apply k op s))
    (h : y.Requested program) (hI : I y.shared) (evs : List (WorkerEvent κ ρ))
    : I (y.exec program apply evs).shared := by
  have hstep (y : Workers κ σ α) (ev : WorkerEvent κ ρ)
      (hy : y.Requested program ∧ I y.shared) (_ : True)
      : (y.step program apply ev).Requested program ∧ I (y.step program apply ev).shared := by
    refine ⟨hy.1.step ev, ?_⟩
    obtain heq | ⟨k, r, _, _, heq⟩ | ⟨k, op, rest, hk, heq⟩ := step_cases program apply y ev
    . rw [heq]
      exact hy.2
    . rw [heq]
      exact hy.2
    . rw [heq]
      obtain ⟨r, hr⟩ := hy.1 k op (hk ▸ List.mem_cons_self ..)
      exact hop k r op hr _ hy.2
  exact (Run.exec_invariant (P := fun _ _ => True) hstep ⟨h, hI⟩ (Run.along_true _ _)).2

/-! A value on which all workers that put it agree. -/

section Agreed

variable (program : κ → ρ → List α) (apply : κ → α → σ → σ) (get : σ → ω) (x : ω)

def Keeps (k : κ) (op : α) : Prop := ∀ s, get (apply k op s) = get s

def Puts (k : κ) (op : α) : Prop := ∀ s, get (apply k op s) = x

/-- The value is put, and nothing else in its place. -/
structure Agrees (k : κ) (r : ρ) : Prop where
  only : ∀ op ∈ program k r, Keeps apply get k op ∨ Puts apply get x k op
  puts : ∃ op ∈ program k r, Puts apply get x k op

-- `y` is reached from `y₀`; a worker is renewed when it has begun with a request in between
structure Settling (neutral : κ → Prop) (y₀ y : Workers κ σ α) : Prop where
  only : ∀ k, neutral k ∨ y₀.begun k < y.begun k →
    ∀ op ∈ y.todo k, Keeps apply get k op ∨ Puts apply get x k op
  value : (∀ k, neutral k ∨ y₀.begun k < y.begun k) →
    get y.shared = x ∨ ∃ k, ∃ op ∈ y.todo k, Puts apply get x k op

end Agreed

variable {get : σ → ω} {x : ω} {y₀ : Workers κ σ α} {neutral : κ → Prop}

theorem Settling.step (h : Settling apply get x neutral y₀ y) {ev : WorkerEvent κ ρ}
    (hev : ∀ k r, ev = .request k r →
      neutral k ∧ (∀ op ∈ program k r, Keeps apply get k op) ∨ Agrees program apply get x k r)
    : Settling apply get x neutral y₀ (y.step program apply ev) := by
  obtain heq | ⟨k, r, hr, hnil, heq⟩ | ⟨k, op, rest, hk, heq⟩ := step_cases program apply y ev
  . rw [heq]
    exact h
  . rw [heq]
    have hprogram : ∀ op ∈ program k r, Keeps apply get k op ∨ Puts apply get x k op := by
      intro op hop
      obtain hneutral | hagrees := hev k r hr
      . exact .inl (hneutral.2 op hop)
      . exact hagrees.only op hop
    have hrenewed {k' : κ} (hk' : k' ≠ k)
        (hn : neutral k' ∨ y₀.begun k' < (y.begin k (program k r)).begun k')
        : neutral k' ∨ y₀.begun k' < y.begun k' := by
      rwa [begun_begin_of_ne _ _ _ hk'] at hn
    constructor
    . intro k' hn op hop
      obtain ⟨rfl, hop⟩ | ⟨hk', hop⟩ := mem_todo_begin hop
      . exact hprogram op hop
      . exact h.only k' (hrenewed hk' hn) op hop
    . intro hall
      obtain hneutral | hagrees := hev k r hr
      . -- the worker has not had anything to do with the value before
        have hall' : ∀ k', neutral k' ∨ y₀.begun k' < y.begun k' := by
          intro k'
          by_cases hk' : k' = k
          . exact .inl (hk' ▸ hneutral.1)
          . exact hrenewed hk' (hall k')
        obtain hvalue | ⟨k', op, hop, hputs⟩ := h.value hall'
        . exact .inl hvalue
        . right
          refine ⟨k', op, ?_, hputs⟩
          have hk' : k' ≠ k := by
            rintro rfl
            rw [hnil] at hop
            contradiction
          rwa [todo_begin_of_ne _ _ _ hk']
      . obtain ⟨op, hop, hputs⟩ := hagrees.puts
        right
        refine ⟨k, op, ?_, hputs⟩
        rwa [todo_begin_self]
  . rw [heq]
    constructor
    . intro k' hn op' hop
      exact h.only k' hn op' (mem_todo_proceed hk hop)
    . intro hall
      have hmem : op ∈ y.todo k := hk ▸ List.mem_cons_self ..
      obtain hkeeps | hputs := h.only k (hall k) op hmem
      . obtain hvalue | ⟨k', op', hop', hputs'⟩ := h.value hall
        . exact .inl ((hkeeps _).trans hvalue)
        . by_cases hk' : k' = k
          . subst hk'
            rw [hk, List.mem_cons] at hop'
            obtain rfl | hop' := hop'
            . exact .inl (hputs' _)
            . right
              refine ⟨k', op', ?_, hputs'⟩
              rwa [todo_proceed_self]
          . right
            refine ⟨k', op', ?_, hputs'⟩
            rwa [todo_proceed_of_ne _ _ _ _ hk']
      . exact .inl (hputs _)

section Owned

variable {view : σ → ω} {act : α → ω → ω} {k : κ} {P : ω → Prop}

-- what becomes of the part when the worker is done
def outlook (view : σ → ω) (act : α → ω → ω) (k : κ) (y : Workers κ σ α) : ω :=
  (y.todo k).foldl (fun v op => act op v) (view y.shared)

theorem outlook_step (hown : ∀ op s, view (apply k op s) = act op (view s))
    (hother : ∀ k', k' ≠ k → ∀ r, ∀ op ∈ program k' r, ∀ s, view (apply k' op s) = view s)
    (hy : y.Requested program) (ev : WorkerEvent κ ρ)
    : (outlook view act k (y.step program apply ev) = outlook view act k y
        ∧ (y.step program apply ev).begun k = y.begun k)
      ∨ ∃ r, ev = .request k r
        ∧ outlook view act k (y.step program apply ev)
            = (program k r).foldl (fun v op => act op v) (view y.shared) := by
  obtain heq | ⟨k', r, hr, _, heq⟩ | ⟨k', op, rest, hk', heq⟩ := step_cases program apply y ev
  . rw [heq]
    exact .inl ⟨rfl, rfl⟩
  . rw [heq]
    by_cases hk : k = k'
    . subst hk
      right
      refine ⟨r, hr, ?_⟩
      rw [outlook, todo_begin_self]
      rfl
    . left
      rw [outlook, todo_begin_of_ne _ _ _ hk, begun_begin_of_ne _ _ _ hk]
      exact ⟨rfl, rfl⟩
  . rw [heq]
    left
    refine ⟨?_, rfl⟩
    by_cases hk : k = k'
    . subst hk
      rw [outlook, outlook, todo_proceed_self, hk', List.foldl_cons, ← hown]
      rfl
    . obtain ⟨r, hr⟩ := hy k' op (hk' ▸ List.mem_cons_self ..)
      rw [outlook, outlook, todo_proceed_of_ne _ _ _ _ hk,
        ← hother k' (Ne.symm hk) r op hr y.shared]
      rfl

/-- What each request of the worker leads to, wherever it starts, is there when it is done. -/
theorem owned {evs : List (WorkerEvent κ ρ)}
    (hown : ∀ op s, view (apply k op s) = act op (view s))
    (hother : ∀ k', k' ≠ k → ∀ r, ∀ op ∈ program k' r, ∀ s, view (apply k' op s) = view s)
    (hy : y.Requested program)
    (hevs : ∀ r, .request k r ∈ evs → ∀ v, P ((program k r).foldl (fun v op => act op v) v))
    (hbegun : y.begun k < (y.exec program apply evs).begun k)
    (hidle : (y.exec program apply evs).todo k = [])
    : P (view (y.exec program apply evs).shared) := by
  have hstep (z : Workers κ σ α) (ev : WorkerEvent κ ρ)
      (hz : z.Requested program ∧ (y.begun k < z.begun k → P (outlook view act k z)))
      (hev : ∀ r, ev = .request k r → ∀ v, P ((program k r).foldl (fun v op => act op v) v))
      : (z.step program apply ev).Requested program
        ∧ (y.begun k < (z.step program apply ev).begun k →
          P (outlook view act k (z.step program apply ev))) := by
    refine ⟨hz.1.step ev, fun hlt => ?_⟩
    obtain ⟨hsame, hbegun⟩ | ⟨r, hr, hnew⟩ := outlook_step hown hother hz.1 ev
    . rw [hsame]
      exact hz.2 (hbegun ▸ hlt)
    . rw [hnew]
      exact hev r hr _
  have hes : ∀ ev ∈ evs, ∀ r, ev = .request k r →
      ∀ v, P ((program k r).foldl (fun v op => act op v) v) := by
    rintro ev hev r rfl
    exact hevs r hev
  have hend : _ ∧ (y.begun k < (y.exec program apply evs).begun k →
      P (outlook view act k (y.exec program apply evs))) :=
    Run.exec_invariant hstep ⟨hy, fun hlt => absurd hlt (Nat.lt_irrefl _)⟩
      (Run.along_of_forall_mem hes y)
  have hdone := hend.2 hbegun
  rwa [outlook, hidle] at hdone

end Owned

end Workers
