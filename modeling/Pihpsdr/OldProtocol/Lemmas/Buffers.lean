import Pihpsdr.Lib.Ring
import Pihpsdr.Lib.Run
import Pihpsdr.OldProtocol.Impl.Buffers

/-!
Each buffer is free, queued, or in the hands of one of the threads, as long as no packet arrives at a
full ring: such a packet takes its buffer away for good.
-/

namespace OldProtocol

-- the buffer that a thread works with
def ReceiveThread.held : ReceiveThread → List Nat
  | .reading b => [b]
  | _ => []

def ProcessThread.held : ProcessThread → List Nat
  | .processing b => [b]
  | _ => []

-- the slot at the read index is that of the buffer in work
def ProcessThread.unread : ProcessThread → List Nat → List Nat
  | .idle, q => q
  | _, q => q.tail

theorem BufferPath.increment_pos (path : BufferPath) : 0 < path.increment := by
  cases path <;> decide

-- the last of the new buffers is the first of its list
theorem BufferPool.headD_grow (p : BufferPool) {n : Nat} (hn : 0 < n)
    : ((p.grow n).lists (p.grow n).cnt).headD 0 = p.num + (n - 1) := by
  obtain ⟨k, rfl⟩ := Nat.exists_eq_add_one.mpr hn
  dsimp only [grow]
  rw [Function.update_self, List.range'_1_concat, List.reverse_append]
  rfl

namespace BufferPool

variable {p : BufferPool}

theorem lists_lt_grow (h : ∀ c, ∀ b ∈ p.lists c, b < p.num) (n : Nat)
    : ∀ c, ∀ b ∈ (p.grow n).lists c, b < (p.grow n).num := by
  intro c b hb
  dsimp only [grow] at *
  by_cases hc : c = p.cnt
  . rw [hc, Function.update_self, List.mem_append, List.mem_reverse, List.mem_range'_1] at hb
    cases hb with
    | inl hb => exact hb.2
    | inr hb => exact Nat.lt_of_lt_of_le (h _ b hb) (Nat.le_add_right _ _)
  . rw [Function.update_of_ne hc] at hb
    exact Nat.lt_of_lt_of_le (h c b hb) (Nat.le_add_right _ _)

-- new buffers are free, and others stay as they are
theorem free_grow_of_lt {b : Nat} (hb : b < p.num) (n : Nat) : (p.grow n).free b = p.free b := by
  simp [grow, List.mem_range'_1, Nat.not_le.mpr hb]

theorem free_grow_of_le {b : Nat} (hb : p.num ≤ b) {n : Nat} (hn : b < p.num + n)
    : (p.grow n).free b = true := by
  simp [grow, List.mem_range'_1, hb, hn]

structure AllFree (p : BufferPool) : Prop where
  free : ∀ b < p.num, p.free b
  lists_lt : ∀ c, ∀ b ∈ p.lists c, b < p.num

theorem AllFree.grow (h : p.AllFree) (n : Nat) : (p.grow n).AllFree where
  free b hb := by
    by_cases hold : b < p.num
    . rw [free_grow_of_lt hold]
      exact h.free b hold
    . exact free_grow_of_le (Nat.not_lt.mp hold) hb
  lists_lt := lists_lt_grow h.lists_lt n

theorem allFree_prealloc (n : Nat) : (prealloc n).AllFree := by
  have hfold (cs : List (Fin 8)) {p : BufferPool} (h : p.AllFree)
      : (cs.foldl (fun p c => { p with cnt := c }.grow n) p).AllFree := by
    induction cs generalizing p with
    | nil => exact h
    | cons c cs ih =>
      have hcnt : ({ p with cnt := c } : BufferPool).AllFree := ⟨h.free, h.lists_lt⟩
      exact ih (hcnt.grow n)
  apply hfold
  constructor
  . intro b hb
    contradiction
  . intro c b hb
    contradiction

end BufferPool

namespace BufferSystem

variable (path : BufferPath) (y : BufferSystem)

def queued : List Nat :=
  y.consumer.unread (Ring.contents path.ringLength y.ringbuf y.inptr y.outptr)

-- the number of places where a buffer is
def places (b : Nat) : Nat :=
  (y.pool.free b).toNat + (y.queued path).count b + y.receiver.held.count b
    + y.consumer.held.count b

/--
Each buffer is in one place, a buffer that is handed out is in no other, and there are not more
buffers than slots in the ring, up to one increment.
-/
structure Conserved : Prop where
  places : ∀ b < y.pool.num, y.places path b = 1
  apart : ∀ b, y.receiver = .reading b → b ∉ y.queued path ∧ b ∉ y.consumer.held
  num : y.pool.num ≤ path.ringLength + path.increment

/--
What a step must not do: find the ring full, or a list without a free buffer a second time.
-/
structure Room (e : BufferEvent) : Prop where
  ring : ∀ b, e = .receive true → y.receiver = .reading b → ¬y.skipCount < 0 →
    Ring.next path.ringLength y.inptr ≠ y.outptr
  list : ∀ ok, e = .receive ok → y.receiver = .searching [] → y.pool.num ≤ path.ringLength

-- the places of a buffer, with `q` in the ring
def placesIn (q : List Nat) (b : Nat) : Nat :=
  (y.pool.free b).toNat + (y.consumer.unread q).count b + y.receiver.held.count b
    + y.consumer.held.count b

/--
The invariant, for the ring with the buffers `q`.
-/
structure Inv (q : List Nat) : Prop where
  holds : Ring.Holds path.ringLength y.ringbuf y.inptr y.outptr q
  processing : ∀ b, y.consumer = .processing b → q.head? = some b
  freed : y.consumer = .freed → q ≠ []
  places : ∀ b < y.pool.num, y.placesIn q b = 1
  num : y.pool.num ≤ path.ringLength + path.increment
  queued_lt : ∀ b ∈ q, b < y.pool.num
  lists_lt : ∀ c, ∀ b ∈ y.pool.lists c, b < y.pool.num
  rest_lt : ∀ rest, y.receiver = .searching rest → ∀ b ∈ rest, b < y.pool.num
  reading_lt : ∀ b, y.receiver = .reading b → b < y.pool.num

variable {path : BufferPath} {y : BufferSystem} {q : List Nat}

theorem Inv.conserved (h : y.Inv path q) : y.Conserved path where
  places b hb := by
    have hplaces := h.places b hb
    unfold placesIn at hplaces
    unfold BufferSystem.places queued
    rw [h.holds.contents_eq]
    exact hplaces
  apart b hb := by
    have hplaces := h.places b (h.reading_lt b hb)
    unfold placesIn at hplaces
    rw [hb] at hplaces
    have hheld : (ReceiveThread.reading b).held.count b = 1 := by
      simp [ReceiveThread.held]
    unfold queued
    rw [h.holds.contents_eq, ← List.count_eq_zero, ← List.count_eq_zero]
    omega
  num := h.num

section

variable (h : y.Inv path q)
include h

-- the receive thread begins a search or goes on with it
theorem Inv.searching {pool : BufferPool} {rest : List Nat} (hfree : pool.free = y.pool.free)
    (hnum : pool.num = y.pool.num) (hlists : pool.lists = y.pool.lists)
    (hheld : y.receiver.held = []) (hrest : ∀ b ∈ rest, b < y.pool.num)
    : ({ y with pool := pool, receiver := .searching rest } : BufferSystem).Inv path q where
  holds := h.holds
  processing := h.processing
  freed := h.freed
  places b hb := by
    rw [hnum] at hb
    have hplaces := h.places b hb
    unfold placesIn at *
    rw [hheld] at hplaces
    dsimp only
    rw [hfree]
    exact hplaces
  num := by
    rw [hnum]
    exact h.num
  queued_lt := by
    rw [hnum]
    exact h.queued_lt
  lists_lt := by
    rw [hnum, hlists]
    exact h.lists_lt
  rest_lt rest' hrest' := by
    cases hrest'
    rw [hnum]
    exact hrest
  reading_lt := by
    intro b hb
    contradiction

-- the receive thread takes a free buffer
theorem Inv.take {b : Nat} (hb : b < y.pool.num) (hfree : y.pool.free b)
    (hheld : y.receiver.held = [])
    : ({ y with pool := y.pool.setFree b false, receiver := .reading b } : BufferSystem).Inv
        path q where
  holds := h.holds
  processing := h.processing
  freed := h.freed
  places b' hb' := by
    have hplaces := h.places b' hb'
    unfold placesIn at *
    rw [hheld] at hplaces
    dsimp only [BufferPool.setFree, ReceiveThread.held]
    by_cases heq : b' = b
    . rw [heq, hfree, List.count_nil, Bool.toNat_true] at hplaces
      rw [heq, Function.update_self, List.count_singleton_self, Bool.toNat_false]
      omega
    . rw [Function.update_of_ne heq, List.count_singleton, if_neg (by simpa using Ne.symm heq)]
      exact hplaces
  num := h.num
  queued_lt := h.queued_lt
  lists_lt := h.lists_lt
  rest_lt := by
    intro rest hrest
    contradiction
  reading_lt b' hb' := by
    cases hb'
    exact hb

-- the receive thread marks its buffer free
theorem Inv.release {b : Nat} (hb : y.receiver = .reading b)
    : ({ y with pool := y.pool.setFree b true, receiver := .idle } : BufferSystem).Inv path q where
  holds := h.holds
  processing := h.processing
  freed := h.freed
  places b' hb' := by
    have hplaces := h.places b' hb'
    unfold placesIn at *
    rw [hb] at hplaces
    dsimp only [BufferPool.setFree, ReceiveThread.held] at *
    rw [List.count_nil]
    by_cases heq : b' = b
    . rw [heq, List.count_singleton_self] at hplaces
      have hfree : (y.pool.free b).toNat ≤ 1 := Bool.toNat_le _
      rw [heq, Function.update_self, Bool.toNat_true]
      omega
    . rw [List.count_singleton, if_neg (by simpa using Ne.symm heq)] at hplaces
      rw [Function.update_of_ne heq]
      exact hplaces
  num := h.num
  queued_lt := h.queued_lt
  lists_lt := h.lists_lt
  rest_lt := by
    intro rest hrest
    contradiction
  reading_lt := by
    intro b hb
    contradiction

theorem Inv.processing_lt {b : Nat} (hb : b ∈ y.consumer.held) : b < y.pool.num := by
  unfold ProcessThread.held at hb
  split at hb
  next b' hprocessing =>
    rw [List.mem_singleton] at hb
    rw [hb]
    apply h.queued_lt
    exact List.mem_of_head? (h.processing b' hprocessing)
  next => contradiction

theorem Inv.unread_lt {b : Nat} (hb : b ∈ y.consumer.unread q) : b < y.pool.num := by
  apply h.queued_lt
  unfold ProcessThread.unread at hb
  split at hb
  . exact hb
  . exact List.mem_of_mem_tail hb

-- new buffers are free
theorem Inv.grow {rest : List Nat} (hsearching : y.receiver = .searching rest)
    (hnum : y.pool.num ≤ path.ringLength)
    : ({ y with pool := y.pool.grow path.increment } : BufferSystem).Inv path q where
  holds := h.holds
  processing := h.processing
  freed := h.freed
  places b hb := by
    unfold placesIn
    dsimp only
    rw [hsearching]
    by_cases hold : b < y.pool.num
    . have hplaces := h.places b hold
      unfold placesIn at hplaces
      rw [hsearching] at hplaces
      rw [BufferPool.free_grow_of_lt hold]
      exact hplaces
    . have hunread : (y.consumer.unread q).count b = 0 := by
        apply List.count_eq_zero.mpr
        intro hmem
        exact hold (h.unread_lt hmem)
      have hheld : y.consumer.held.count b = 0 := by
        apply List.count_eq_zero.mpr
        intro hmem
        exact hold (h.processing_lt hmem)
      rw [BufferPool.free_grow_of_le (Nat.not_lt.mp hold) hb, hunread, hheld]
      rfl
  num := Nat.add_le_add_right hnum _
  queued_lt b hb := Nat.lt_of_lt_of_le (h.queued_lt b hb) (Nat.le_add_right _ _)
  lists_lt := BufferPool.lists_lt_grow h.lists_lt _
  rest_lt rest' hrest' b hb :=
    Nat.lt_of_lt_of_le (h.rest_lt rest' hrest' b hb) (Nat.le_add_right _ _)
  reading_lt b hb := Nat.lt_of_lt_of_le (h.reading_lt b hb) (Nat.le_add_right _ _)

theorem Inv.skip (n : Int) : ({ y with skipCount := n } : BufferSystem).Inv path q where
  holds := h.holds
  processing := h.processing
  freed := h.freed
  places := h.places
  num := h.num
  queued_lt := h.queued_lt
  lists_lt := h.lists_lt
  rest_lt := h.rest_lt
  reading_lt := h.reading_lt

theorem Inv.unread_append (b : Nat) : y.consumer.unread (q ++ [b]) = y.consumer.unread q ++ [b] := by
  have hcons {x : Nat} (hx : q.head? = some x) : (q ++ [b]).tail = q.tail ++ [b] := by
    apply List.tail_append_of_ne_nil
    intro hq
    rw [hq] at hx
    contradiction
  have hprocessing := h.processing
  have hfreed := h.freed
  cases hconsumer : y.consumer with
  | idle => rfl
  | processing b' => exact hcons (hprocessing b' hconsumer)
  | freed => exact List.tail_append_of_ne_nil (hfreed hconsumer)

-- the receive thread puts its buffer into the ring
theorem Inv.push {b : Nat} (hb : y.receiver = .reading b)
    (hroom : Ring.next path.ringLength y.inptr ≠ y.outptr)
    : ({ y with
          ringbuf := fun i => if i = y.inptr then b else y.ringbuf i
          inptr := Ring.next path.ringLength y.inptr
          receiver := .idle } : BufferSystem).Inv path (q ++ [b]) where
  holds := h.holds.push hroom b
  processing b' hb' := by
    have hhead := h.processing b' hb'
    rw [List.head?_append, hhead]
    rfl
  freed _ := by simp
  places b' hb' := by
    have hplaces := h.places b' hb'
    unfold placesIn at *
    rw [hb] at hplaces
    dsimp only [ReceiveThread.held] at *
    rw [h.unread_append, List.count_append, List.count_nil]
    omega
  num := h.num
  queued_lt b' hb' := by
    rw [List.mem_append, List.mem_singleton] at hb'
    cases hb' with
    | inl hb' => exact h.queued_lt b' hb'
    | inr hb' =>
      rw [hb']
      exact h.reading_lt b hb
  lists_lt := h.lists_lt
  rest_lt := by
    intro rest hrest
    contradiction
  reading_lt := by
    intro b hb
    contradiction

-- the consumer turns to the oldest buffer
theorem Inv.begin {b : Nat} {q' : List Nat} (hidle : y.consumer = .idle) (hq : q = b :: q')
    : ({ y with consumer := .processing b } : BufferSystem).Inv path q where
  holds := h.holds
  processing b' hb' := by
    cases hb'
    rw [hq]
    rfl
  freed := by
    intro hfreed
    contradiction
  places b' hb' := by
    have hplaces := h.places b' hb'
    unfold placesIn at *
    rw [hidle, hq] at hplaces
    rw [hq]
    dsimp only [ProcessThread.unread, ProcessThread.held, List.tail_cons] at *
    rw [List.count_cons, List.count_nil] at hplaces
    rw [List.count_singleton]
    omega
  num := h.num
  queued_lt := h.queued_lt
  lists_lt := h.lists_lt
  rest_lt := h.rest_lt
  reading_lt := h.reading_lt

-- the consumer marks its buffer free
theorem Inv.free {b : Nat} (hb : y.consumer = .processing b)
    : ({ y with pool := y.pool.setFree b true, consumer := .freed } : BufferSystem).Inv path q where
  holds := h.holds
  processing := by
    intro b hb
    contradiction
  freed _ hq := by
    have hhead := h.processing b hb
    rw [hq] at hhead
    contradiction
  places b' hb' := by
    have hplaces := h.places b' hb'
    unfold placesIn at *
    rw [hb] at hplaces
    dsimp only [BufferPool.setFree, ProcessThread.unread, ProcessThread.held] at *
    rw [List.count_nil]
    by_cases heq : b' = b
    . have hfree : (y.pool.free b).toNat ≤ 1 := Bool.toNat_le _
      rw [heq, List.count_singleton_self] at hplaces
      rw [heq, Function.update_self, Bool.toNat_true]
      omega
    . rw [List.count_singleton, if_neg (by simpa using Ne.symm heq)] at hplaces
      rw [Function.update_of_ne heq]
      exact hplaces
  num := h.num
  queued_lt := h.queued_lt
  lists_lt := h.lists_lt
  rest_lt := h.rest_lt
  reading_lt := h.reading_lt

-- the consumer leaves the slot of the buffer
theorem Inv.advance (hfreed : y.consumer = .freed)
    : ({ y with
          outptr := Ring.next path.ringLength y.outptr
          consumer := .idle } : BufferSystem).Inv path q.tail := by
  have hne := h.freed hfreed
  cases q with
  | nil => contradiction
  | cons b q' =>
    constructor
    . exact h.holds.pop
    . intro b hb
      contradiction
    . intro hb
      contradiction
    . intro b' hb'
      have hplaces := h.places b' hb'
      unfold placesIn at *
      rw [hfreed] at hplaces
      exact hplaces
    . exact h.num
    . intro b' hb'
      exact h.queued_lt b' (List.mem_of_mem_tail hb')
    . exact h.lists_lt
    . exact h.rest_lt
    . exact h.reading_lt

theorem Inv.process : ∃ q', (y.process path).Inv path q' := by
  unfold BufferSystem.process
  split
  next hidle =>
    split
    next hne =>
      have hq := h.holds.ne_iff.mp hne
      cases q with
      | nil => contradiction
      | cons b q' =>
        rw [h.holds.head_eq]
        exact ⟨_, h.begin hidle rfl⟩
    next => exact ⟨q, h⟩
  next b hb => exact ⟨q, h.free hb⟩
  next hfreed => exact ⟨q.tail, h.advance hfreed⟩

theorem Inv.searchFor {rest : List Nat} (hrest : y.receiver = .searching rest)
    (hnum : rest = [] → y.pool.num ≤ path.ringLength)
    : (y.search path rest).Inv path q := by
  have hheld : y.receiver.held = [] := by
    rw [hrest]
    rfl
  cases rest with
  | cons b rest =>
    have hlt := h.rest_lt (b :: rest) hrest
    dsimp only [search]
    split
    next hfree => exact h.take (hlt b List.mem_cons_self) hfree hheld
    next =>
      apply h.searching rfl rfl rfl hheld
      intro b' hb'
      exact hlt b' (List.mem_cons_of_mem b hb')
  | nil =>
    have hpos := path.increment_pos
    dsimp only [search]
    rw [y.pool.headD_grow hpos]
    apply (h.grow hrest (hnum rfl)).take
    . dsimp only [BufferPool.grow]
      omega
    . simp only [BufferPool.grow, decide_eq_true_eq, List.mem_range'_1]
      left
      omega
    . exact hheld

theorem Inv.queue {b : Nat} (hb : y.receiver = .reading b)
    (hroom : ¬y.skipCount < 0 → Ring.next path.ringLength y.inptr ≠ y.outptr)
    : ∃ q', (({ y with receiver := .idle } : BufferSystem).queueBuffer path b).Inv path q' := by
  unfold queueBuffer
  dsimp only
  split
  next => exact ⟨q, (h.release hb).skip _⟩
  next hskip =>
    rw [if_pos (hroom hskip)]
    exact ⟨_, h.push hb (hroom hskip)⟩

theorem Inv.receive {ok : Bool} (hroom : Room path y (.receive ok))
    : ∃ q', (y.receive path ok).Inv path q' := by
  unfold BufferSystem.receive
  split
  next hidle =>
    have hheld : y.receiver.held = [] := by
      rw [hidle]
      rfl
    exact ⟨q, h.searching rfl rfl rfl hheld (h.lists_lt _)⟩
  next rest hrest =>
    refine ⟨q, h.searchFor hrest ?_⟩
    intro hnil
    rw [hnil] at hrest
    exact hroom.list ok rfl hrest
  next b hb =>
    split
    next hok =>
      apply h.queue hb
      apply hroom.ring b (by rw [hok]) hb
    next => exact ⟨q, h.release hb⟩

end

theorem inv_step {e : BufferEvent} (h : ∃ q, y.Inv path q) (hroom : Room path y e)
    : ∃ q, (y.step path e).Inv path q := by
  have ⟨q, h⟩ := h
  cases e with
  | receive ok => exact h.receive hroom
  | process => exact h.process

-- the buffer of a packet that finds the ring full is nowhere any more
theorem Inv.lost (h : y.Inv path q) {b : Nat} (hb : y.receiver = .reading b)
    (hskip : ¬y.skipCount < 0) (hfull : Ring.next path.ringLength y.inptr = y.outptr)
    : ¬(y.receive path true).Conserved path := by
  have hplaces := h.places b (h.reading_lt b hb)
  have hreceive : y.receive path true
      = { y with receiver := .idle, skipCount := -path.skipped } := by
    unfold BufferSystem.receive queueBuffer
    rw [hb]
    dsimp only
    rw [if_pos rfl, if_neg hskip, if_neg (not_not.mpr hfull)]
  intro hconserved
  have hnone := hconserved.places b (by rw [hreceive]; exact h.reading_lt b hb)
  rw [hreceive] at hnone
  unfold BufferSystem.places queued at hnone
  unfold placesIn at hplaces
  dsimp only at hnone
  rw [h.holds.contents_eq] at hnone
  rw [hb] at hplaces
  dsimp only [ReceiveThread.held] at *
  rw [List.count_singleton_self] at hplaces
  rw [List.count_nil] at hnone
  omega

theorem Inv.grown (hsearching : y.receiver = .searching [])
    (hnum : ¬y.pool.num ≤ path.ringLength) (ok : Bool)
    : ¬(y.receive path ok).Conserved path := by
  intro hconserved
  have hbound := hconserved.num
  unfold BufferSystem.receive at hbound
  rw [hsearching] at hbound
  change y.pool.num + path.increment ≤ _ at hbound
  omega

theorem room_of_conserved {e : BufferEvent} (h : ∃ q, y.Inv path q)
    (hconserved : (y.step path e).Conserved path) : Room path y e where
  ring b he hb hskip := by
    have ⟨q, h⟩ := h
    subst he
    intro hfull
    exact h.lost hb hskip hfull hconserved
  list ok he hsearching := by
    subst he
    by_contra hnum
    exact Inv.grown hsearching hnum ok hconserved

theorem num_prealloc (path : BufferPath)
    : (BufferPool.prealloc path.increment).num = path.ringLength := by
  cases path <;> rfl

theorem inv_start (path : BufferPath) : (start path).Inv path [] where
  holds := by
    apply Ring.Holds.empty
    cases path <;> decide
  processing := by
    intro b hb
    contradiction
  freed := by
    intro hfreed
    contradiction
  places b hb := by
    have hfree := (BufferPool.allFree_prealloc path.increment).free b hb
    unfold placesIn start
    dsimp only
    rw [hfree]
    rfl
  num := by
    have hnum : (start path).pool.num = path.ringLength := num_prealloc path
    rw [hnum]
    apply Nat.le_add_right
  queued_lt := by
    intro b hb
    contradiction
  lists_lt := (BufferPool.allFree_prealloc path.increment).lists_lt
  rest_lt := by
    intro rest hrest
    contradiction
  reading_lt := by
    intro b hb
    contradiction

/--
The consumer does not run, no list is longer than the pool, and neither is the rest of a search.
-/
structure Alone (y : BufferSystem) : Prop where
  skipCount : y.skipCount = 0
  consumer : y.consumer = .idle
  lists : ∀ c, (y.pool.lists c).length ≤ y.pool.num
  rest : ∀ rest, y.receiver = .searching rest → rest.length ≤ y.pool.num

-- the progress of a search for a buffer, of which 600 turns are never needed
def stage (y : BufferSystem) : Nat :=
  match y.receiver with
  | .idle => 0
  | .searching rest => 1 + (y.pool.num - rest.length)
  | .reading _ => 599

-- the packets in the ring, and the progress to the next one
def progress (path : BufferPath) (y : BufferSystem) : Nat :=
  600 * Ring.fill path.ringLength y.inptr y.outptr + y.stage

theorem num_lt (h : y.Inv path q) : y.pool.num + 2 < 600 := by
  have hnum := h.num
  cases path with
  | metis =>
    simp only [BufferPath.ringLength, BufferPath.increment] at hnum
    omega
  | ozy =>
    simp only [BufferPath.ringLength, BufferPath.increment] at hnum
    omega

theorem alone_start (path : BufferPath) : (start path).Alone where
  skipCount := rfl
  consumer := rfl
  lists := by
    cases path <;> decide
  rest := by
    intro rest hrest
    contradiction

theorem length_lists_grow {p : BufferPool} (h : ∀ c, (p.lists c).length ≤ p.num) (n : Nat)
    : ∀ c, ((p.grow n).lists c).length ≤ (p.grow n).num := by
  intro c
  have hc := h c
  dsimp only [BufferPool.grow]
  by_cases hcnt : c = p.cnt
  . rw [hcnt] at hc
    rw [hcnt, Function.update_self, List.length_append, List.length_reverse, List.length_range']
    omega
  . rw [Function.update_of_ne hcnt]
    omega

section

variable (h : y.Inv path q) (ha : y.Alone)
include h ha

theorem Alone.search {rest : List Nat} (hrest : y.receiver = .searching rest)
    : (y.search path rest).Alone ∧ y.progress path < (y.search path rest).progress path := by
  have hlt := num_lt h
  have hlength := ha.rest rest hrest
  have hstage : y.stage = 1 + (y.pool.num - rest.length) := by
    unfold stage
    rw [hrest]
  cases rest with
  | nil =>
    constructor
    . exact ⟨ha.skipCount, ha.consumer, length_lists_grow ha.lists _, nofun⟩
    . unfold progress
      rw [hstage]
      change _ < 600 * Ring.fill _ y.inptr y.outptr + 599
      omega
  | cons b rest =>
    rw [List.length_cons] at hlength hstage
    dsimp only [BufferSystem.search]
    split
    . constructor
      . exact ⟨ha.skipCount, ha.consumer, ha.lists, nofun⟩
      . unfold progress
        rw [hstage]
        change _ < 600 * Ring.fill _ y.inptr y.outptr + 599
        omega
    . constructor
      . refine ⟨ha.skipCount, ha.consumer, ha.lists, ?_⟩
        intro rest' hrest'
        cases hrest'
        exact Nat.le_of_succ_le hlength
      . unfold progress
        rw [hstage]
        change _ < 600 * Ring.fill _ y.inptr y.outptr + (1 + (y.pool.num - rest.length))
        omega

-- every turn of the receive thread is a step towards a full ring
theorem Alone.receive (hroom : Room path y (.receive true))
    : (y.receive path true).Alone ∧ y.progress path < (y.receive path true).progress path := by
  unfold BufferSystem.receive
  split
  next hidle =>
    constructor
    . refine ⟨ha.skipCount, ha.consumer, ha.lists, ?_⟩
      intro rest hrest
      cases hrest
      apply ha.lists
    . have hstage : y.stage = 0 := by
        unfold stage
        rw [hidle]
      unfold progress
      rw [hstage]
      change _ < 600 * Ring.fill _ y.inptr y.outptr
        + (1 + (y.pool.num - (y.pool.lists (y.pool.cnt + 1)).length))
      omega
  next rest hrest => exact ha.search h hrest
  next b hb =>
    have hskip : ¬y.skipCount < 0 := by
      rw [ha.skipCount]
      decide
    have hnext := hroom.ring b rfl hb hskip
    have hstage : y.stage = 599 := by
      unfold stage
      rw [hb]
    rw [if_pos rfl]
    unfold queueBuffer
    dsimp only
    rw [if_neg hskip, if_pos hnext]
    constructor
    . exact ⟨ha.skipCount, ha.consumer, ha.lists, nofun⟩
    . unfold progress
      rw [hstage]
      change _ < 600 * Ring.fill path.ringLength (Ring.next path.ringLength y.inptr) y.outptr + 0
      rw [Ring.fill_next_inp h.holds.inp_lt h.holds.out_lt hnext]
      omega

end

theorem stage_le (y : BufferSystem) (h : y.Inv path q) : y.stage ≤ 599 := by
  have hlt := num_lt h
  unfold stage
  split
  . omega
  . omega
  . omega

-- without the consumer, the progress is at least one for each turn
theorem progress_exec (path : BufferPath) {n : Nat} {y : BufferSystem} (h : ∃ q, y.Inv path q)
    (ha : y.Alone)
    (hroom : Run.Along (step path) (Room path) y (List.replicate n (.receive true)))
    : n + y.progress path < 600 * 512 := by
  induction n generalizing y with
  | zero =>
    have ⟨q, h⟩ := h
    have hstage := y.stage_le h
    have hfill := h.holds.fill_eq
    have hlength := h.holds.length_lt
    unfold progress
    cases path with
    | metis =>
      simp only [BufferPath.ringLength] at *
      omega
    | ozy =>
      simp only [BufferPath.ringLength] at *
      omega
  | succ n ih =>
    rw [List.replicate_succ, Run.along_cons] at hroom
    have hstep := inv_step h hroom.1
    have ⟨q, h⟩ := h
    have ⟨halone, hprogress⟩ := ha.receive h hroom.1
    have hle := ih hstep halone hroom.2
    change n + (y.receive path true).progress path < _ at hle
    omega

theorem conserved_along {path : BufferPath} {y : BufferSystem} (h : ∃ q, y.Inv path q)
    (es : List BufferEvent)
    : (∀ es', es' <+: es → (Run.exec (step path) y es').Conserved path)
        ↔
      Run.Along (step path) (Room path) y es := by
  apply Run.forall_prefix_iff_along_of (I := fun y => ∃ q, y.Inv path q)
    (J := fun y => y.Conserved path) (P := Room path)
  . intro y e h hroom
    exact inv_step h hroom
  . intro y e h hconserved
    exact room_of_conserved h hconserved
  . intro y h
    have ⟨q, h⟩ := h
    exact h.conserved
  . exact h

/--
The buffers are conserved in all states of a run if and only if each of its steps has room.
-/
theorem conserved_iff (path : BufferPath) (es : List BufferEvent)
    : (∀ es', es' <+: es → (Run.exec (step path) (start path) es').Conserved path)
        ↔
      Run.Along (step path) (Room path) (start path) es :=
  conserved_along ⟨[], inv_start path⟩ es

-- packets that nobody reads take buffers away
theorem buffers_lost
    : ¬∀ es', es' <+: List.replicate 307200 (BufferEvent.receive true) →
        (Run.exec (step .metis) (start .metis) es').Conserved .metis := by
  intro h
  have hstart : ∃ q, (start .metis).Inv .metis q := ⟨[], inv_start .metis⟩
  have hroom := (conserved_along hstart _).mp h
  have hlt := progress_exec .metis hstart (alone_start .metis) hroom
  omega

end BufferSystem

end OldProtocol
