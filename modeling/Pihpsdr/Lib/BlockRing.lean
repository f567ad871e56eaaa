import Pihpsdr.Lib.Ring
import Mathlib.Data.List.Flatten
import Mathlib.Data.List.Infix

/-!
A ring memory of `blocks` blocks, each made of `samples` samples of `width` cells, that is filled
sample by sample and read block by block. `BlockQueue` is the abstract queue such a memory stands
for, `Represents` the relation between the two.
-/

def Stores {β : Type} (mem : Nat → β) (base : Nat) (xs : List β) : Prop :=
  ∀ i (h : i < xs.length), mem (base + i) = xs[i]

def writeCells {β : Type} (mem : Nat → β) (base : Nat) (xs : List β) (i : Nat) : β :=
  if h : base ≤ i ∧ i < base + xs.length then xs[i - base] else mem i

def readCells {β : Type} (mem : Nat → β) (base n : Nat) : List β :=
  (List.range n).map (fun i => mem (base + i))

section Cells

variable {β : Type} {mem : Nat → β} {base : Nat} {xs ys : List β}

@[simp]
theorem length_readCells (base n : Nat) : (readCells mem base n).length = n := by
  simp [readCells]

theorem readCells_append (base m n : Nat)
    : readCells mem base m ++ readCells mem (base + m) n = readCells mem base (m + n) := by
  simp [readCells, List.range_add, Nat.add_assoc]

theorem readCells_write_succ (base n : Nat) (x : β)
    : readCells (fun i => if i = base + n then x else mem i) base (n + 1)
        = readCells mem base n ++ [x] := by
  rw [readCells, List.range_succ, List.map_append, List.map_singleton, if_pos rfl, readCells]
  congr 1
  apply List.map_congr_left
  intro i hi
  rw [List.mem_range] at hi
  rw [if_neg (by omega)]

theorem readCells_succ (base n : Nat)
    : readCells mem base (n + 1) = mem base :: readCells mem (base + 1) n := by
  rw [Nat.add_comm, ← readCells_append]
  rfl

theorem readCells_sublist {m n : Nat} (h : m ≤ n)
    : (readCells mem base m).Sublist (readCells mem base n) := by
  obtain ⟨k, rfl⟩ := Nat.exists_eq_add_of_le h
  rw [← readCells_append]
  exact List.sublist_append_left _ _

theorem Stores.readCells_eq (h : Stores mem base xs) : readCells mem base xs.length = xs := by
  apply List.ext_getElem
  . simp
  . intro i h1 h2
    simp [readCells, h i h2]

theorem stores_nil : Stores mem base [] := by
  intro i h
  simp at h

theorem Stores.append (hx : Stores mem base xs) (hy : Stores mem (base + xs.length) ys)
    : Stores mem base (xs ++ ys) := by
  intro i h
  cases Nat.lt_or_ge i xs.length with
  | inl hlt =>
    rw [hx i hlt, List.getElem_append_left hlt]
  | inr hge =>
    have := hy (i - xs.length) (by simp at h; omega)
    rw [List.getElem_append_right hge, ← this]
    congr 1
    omega

theorem stores_writeCells : Stores (writeCells mem base xs) base xs := by
  intro i h
  have : base ≤ base + i ∧ base + i < base + xs.length := by omega
  simp [writeCells, h]

theorem writeCells_of_lt {i : Nat} (h : i < base) : writeCells mem base xs i = mem i := by
  unfold writeCells
  rw [dif_neg]
  omega

theorem writeCells_of_le {i : Nat} (h : base + xs.length ≤ i)
    : writeCells mem base xs i = mem i := by
  unfold writeCells
  rw [dif_neg]
  omega

theorem Stores.writeCells_disjoint {b : Nat} (h : Stores mem b ys)
    (hd : b + ys.length ≤ base ∨ base + xs.length ≤ b)
    : Stores (writeCells mem base xs) b ys := by
  intro i hi
  rw [← h i hi]
  cases hd with
  | inl hd => exact writeCells_of_lt (by omega)
  | inr hd => exact writeCells_of_le (by omega)

end Cells

structure BlockGeometry where
  width : Nat
  samples : Nat
  blocks : Nat
  width_pos : 0 < width
  samples_pos : 0 < samples
  blocks_pos : 0 < blocks

namespace BlockGeometry

def blockLen (g : BlockGeometry) : Nat := g.width * g.samples

theorem block_end_le (g : BlockGeometry) {i j : Nat} (h : i < j)
    : g.blockLen * i + g.blockLen ≤ g.blockLen * j := by
  calc g.blockLen * i + g.blockLen
    _ = g.blockLen * (i + 1) := by rw [Nat.mul_succ]
    _ ≤ g.blockLen * j := Nat.mul_le_mul_left _ h

theorem sample_end_le (g : BlockGeometry) {c : Nat} (h : c < g.samples)
    : g.width * c + g.width ≤ g.blockLen := by
  calc g.width * c + g.width
    _ = g.width * (c + 1) := by rw [Nat.mul_succ]
    _ ≤ g.blockLen := Nat.mul_le_mul_left _ h

end BlockGeometry

structure BlockQueue (α : Type) where
  full : List (List α)
  cur : List α

namespace BlockQueue

variable {α : Type}

def empty : BlockQueue α := ⟨[], []⟩

def put (q : BlockQueue α) (a : α) : BlockQueue α := ⟨q.full, q.cur ++ [a]⟩

def flush (q : BlockQueue α) : BlockQueue α := ⟨q.full ++ [q.cur], []⟩

def discard (q : BlockQueue α) : BlockQueue α := ⟨q.full, []⟩

structure Within (q : BlockQueue α) (log : List α) : Prop where
  full : ∀ blk ∈ q.full, blk <:+: log
  cur : q.cur <:+ log

theorem within_empty : (empty : BlockQueue α).Within [] :=
  ⟨by simp [empty], by simp [empty]⟩

theorem Within.put {q : BlockQueue α} {log : List α} (h : q.Within log) (a : α)
    : (q.put a).Within (log ++ [a]) := by
  constructor
  . intro blk hblk
    exact (h.full blk hblk).trans (List.prefix_append _ _).isInfix
  . have ⟨pre, hpre⟩ := h.cur
    exact ⟨pre, by simp [BlockQueue.put, ← hpre]⟩

theorem Within.flush {q : BlockQueue α} {log : List α} (h : q.Within log)
    : q.flush.Within log := by
  constructor
  . intro blk hblk
    simp only [BlockQueue.flush, List.mem_append, List.mem_singleton] at hblk
    cases hblk with
    | inl hblk => exact h.full blk hblk
    | inr hblk =>
      subst hblk
      exact h.cur.isInfix
  . exact List.nil_suffix

theorem Within.discard {q : BlockQueue α} {log : List α} (h : q.Within log)
    : q.discard.Within log :=
  ⟨h.full, List.nil_suffix⟩

theorem Within.tail {blk : List α} {full : List (List α)} {cur log : List α}
    (h : (⟨blk :: full, cur⟩ : BlockQueue α).Within log)
    : (⟨full, cur⟩ : BlockQueue α).Within log :=
  ⟨fun b hb => h.full b (List.mem_cons_of_mem _ hb), h.cur⟩

end BlockQueue

section Represents

variable {α β : Type} (g : BlockGeometry) (enc : α → List β)

/--
The ring memory `mem` with write block `inp` and read block `out` stands for the queue `q`, whose
samples are encoded by `enc`.
-/
structure Represents (mem : Nat → β) (inp out : Nat) (q : BlockQueue α) : Prop where
  out_lt : out < g.blocks
  inp_eq : inp = Ring.slot g.blocks out q.full.length
  full_lt : q.full.length < g.blocks
  blocks : ∀ k (h : k < q.full.length),
    Stores mem (g.blockLen * Ring.slot g.blocks out k) (q.full[k].flatMap enc)
  full_length : ∀ blk ∈ q.full, blk.length = g.samples
  cur : Stores mem (g.blockLen * inp) (q.cur.flatMap enc)
  cur_le : q.cur.length ≤ g.samples

variable {g enc} {mem : Nat → β} {inp out : Nat} {q : BlockQueue α}

theorem length_flatMap_enc (henc : ∀ a, (enc a).length = g.width) (xs : List α)
    : (xs.flatMap enc).length = g.width * xs.length := by
  induction xs with
  | nil => simp
  | cons a xs ih => simp [ih, henc, Nat.mul_add, Nat.add_comm]

theorem Represents.inp_lt (h : Represents g enc mem inp out q) : inp < g.blocks := by
  rw [h.inp_eq]
  exact Ring.slot_lt g.blocks_pos _ _

theorem Represents.fill_eq (h : Represents g enc mem inp out q)
    : Ring.fill g.blocks inp out = q.full.length := by
  rw [h.inp_eq]
  exact Ring.fill_slot h.out_lt h.full_lt

theorem Represents.slot_ne_inp (h : Represents g enc mem inp out q) {k : Nat}
    (hk : k < q.full.length)
    : Ring.slot g.blocks out k ≠ inp := by
  intro heq
  rw [h.inp_eq] at heq
  have := Ring.slot_injective h.out_lt (by have := h.full_lt; omega) h.full_lt heq
  omega

theorem Represents.disjoint (h : Represents g enc mem inp out q) {k c : Nat}
    (hk : k < q.full.length) (hc : c < g.samples)
    : g.blockLen * Ring.slot g.blocks out k + g.blockLen ≤ g.blockLen * inp + g.width * c
      ∨ g.blockLen * inp + g.width * c + g.width ≤ g.blockLen * Ring.slot g.blocks out k := by
  have hend := g.sample_end_le hc
  cases Nat.lt_or_gt_of_ne (h.slot_ne_inp hk) with
  | inl hlt =>
    have := g.block_end_le hlt
    omega
  | inr hgt =>
    have := g.block_end_le hgt
    omega

theorem represents_empty (hout : out < g.blocks)
    : Represents g enc mem out out BlockQueue.empty where
  out_lt := hout
  inp_eq := (Ring.slot_zero hout).symm
  full_lt := g.blocks_pos
  blocks := by
    intro k h
    simp [BlockQueue.empty] at h
  full_length := by simp [BlockQueue.empty]
  cur := stores_nil
  cur_le := by simp [BlockQueue.empty]

-- The first `n` blocks are full if all their cells are `b` and so are the cells of the sample `a`.
theorem represents_const {a : α} {b : β} {n : Nat} (ha : enc a = List.replicate g.width b)
    (hmem : ∀ i < g.blockLen * n, mem i = b) (hn : n < g.blocks)
    : Represents g enc mem n 0 ⟨List.replicate n (List.replicate g.samples a), []⟩ where
  out_lt := g.blocks_pos
  inp_eq := by
    rw [Ring.slot_eq_ite g.blocks_pos (by simpa using Nat.le_of_lt hn)]
    simp [hn]
  full_lt := by simpa using hn
  blocks := by
    intro k hk
    have hk' : k < n := by simpa using hk
    have hslot : Ring.slot g.blocks 0 k = k := by
      rw [Ring.slot_eq_ite g.blocks_pos (by omega), if_pos (by omega), Nat.zero_add]
    have hcells : (List.replicate g.samples a).flatMap enc = List.replicate g.blockLen b := by
      rw [List.flatMap_replicate, ha, List.flatten_replicate_replicate, Nat.mul_comm]
      rfl
    rw [List.getElem_replicate, hslot, hcells]
    intro i hi
    have hend := g.block_end_le hk'
    rw [List.length_replicate] at hi
    rw [List.getElem_replicate]
    apply hmem
    omega
  full_length := by
    intro blk hblk
    rw [List.eq_of_mem_replicate hblk, List.length_replicate]
  cur := stores_nil
  cur_le := Nat.zero_le _

theorem Represents.put (henc : ∀ a, (enc a).length = g.width) (h : Represents g enc mem inp out q)
    (hlt : q.cur.length < g.samples) (a : α)
    : Represents g enc (writeCells mem (g.blockLen * inp + g.width * q.cur.length) (enc a)) inp out
        (q.put a) where
  out_lt := h.out_lt
  inp_eq := h.inp_eq
  full_lt := h.full_lt
  blocks := by
    intro k hk
    change k < q.full.length at hk
    apply (h.blocks k hk).writeCells_disjoint
    have hlen : (q.full[k].flatMap enc).length = g.blockLen := by
      rw [length_flatMap_enc henc, h.full_length _ (List.getElem_mem hk)]
      rfl
    rw [hlen, henc]
    exact h.disjoint hk hlt
  full_length := h.full_length
  cur := by
    have hlen := length_flatMap_enc henc q.cur
    simp only [BlockQueue.put, List.flatMap_append, List.flatMap_singleton]
    apply Stores.append
    . apply h.cur.writeCells_disjoint
      omega
    . rw [hlen]
      exact stores_writeCells
  cur_le := by
    simp [BlockQueue.put]
    omega

theorem Represents.flush (h : Represents g enc mem inp out q) (hfull : q.cur.length = g.samples)
    (hne : Ring.next g.blocks inp ≠ out)
    : Represents g enc mem (Ring.next g.blocks inp) out q.flush := by
  have hroom : q.full.length + 1 < g.blocks := by
    have := Ring.next_eq_out_iff h.inp_lt h.out_lt
    rw [h.fill_eq] at this
    have := h.full_lt
    omega
  constructor
  case out_lt => exact h.out_lt
  case inp_eq =>
    simp only [BlockQueue.flush, List.length_append, List.length_singleton]
    rw [h.inp_eq, Ring.next_slot]
  case full_lt => simpa [BlockQueue.flush] using hroom
  case blocks =>
    intro k hk
    simp only [BlockQueue.flush, List.length_append, List.length_singleton] at hk
    cases Nat.lt_or_ge k q.full.length with
    | inl hlt =>
      simpa [BlockQueue.flush, List.getElem_append_left hlt] using h.blocks k hlt
    | inr hge =>
      have : k = q.full.length := by omega
      subst this
      simpa [BlockQueue.flush, ← h.inp_eq] using h.cur
  case full_length =>
    intro blk hblk
    simp only [BlockQueue.flush, List.mem_append, List.mem_singleton] at hblk
    cases hblk with
    | inl hblk => exact h.full_length blk hblk
    | inr hblk =>
      subst hblk
      exact hfull
  case cur => exact stores_nil
  case cur_le => simp [BlockQueue.flush]

theorem Represents.discard (h : Represents g enc mem inp out q)
    : Represents g enc mem inp out q.discard where
  out_lt := h.out_lt
  inp_eq := h.inp_eq
  full_lt := h.full_lt
  blocks := h.blocks
  full_length := h.full_length
  cur := stores_nil
  cur_le := by simp [BlockQueue.discard]

theorem Represents.reset (h : Represents g enc mem inp out q)
    : Represents g enc mem out out BlockQueue.empty :=
  represents_empty h.out_lt

theorem Represents.full_nil_iff (h : Represents g enc mem inp out q)
    : q.full = [] ↔ inp = out := by
  rw [← Ring.fill_eq_zero_iff h.inp_lt h.out_lt, h.fill_eq, List.length_eq_zero_iff]

theorem Represents.readCells_block (henc : ∀ a, (enc a).length = g.width)
    (h : Represents g enc mem inp out q) {k : Nat} (hk : k < q.full.length)
    : readCells mem (g.blockLen * Ring.slot g.blocks out k) g.blockLen
        = q.full[k].flatMap enc := by
  have hlen : (q.full[k].flatMap enc).length = g.blockLen := by
    rw [length_flatMap_enc henc, h.full_length _ (List.getElem_mem hk)]
    rfl
  have := (h.blocks k hk).readCells_eq
  rwa [hlen] at this

section Pop

variable {blk : List α} {full : List (List α)} {cur : List α}

theorem Represents.read (henc : ∀ a, (enc a).length = g.width)
    (h : Represents g enc mem inp out ⟨blk :: full, cur⟩)
    : readCells mem (g.blockLen * out) g.blockLen = blk.flatMap enc := by
  have := h.readCells_block henc (k := 0) (by simp)
  rwa [Ring.slot_zero h.out_lt] at this

theorem Represents.pop (h : Represents g enc mem inp out ⟨blk :: full, cur⟩)
    : Represents g enc mem inp (Ring.next g.blocks out) ⟨full, cur⟩ where
  out_lt := Ring.next_lt g.blocks_pos _
  inp_eq := by
    rw [← Ring.slot_succ]
    exact h.inp_eq
  full_lt := by
    have := h.full_lt
    simp at this
    dsimp
    omega
  blocks := by
    intro k hk
    rw [← Ring.slot_succ]
    exact h.blocks (k + 1) (by simpa using hk)
  full_length := fun b hb => h.full_length b (List.mem_cons_of_mem _ hb)
  cur := h.cur
  cur_le := h.cur_le

end Pop

end Represents
