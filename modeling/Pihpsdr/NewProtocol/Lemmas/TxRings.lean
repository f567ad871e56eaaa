import Pihpsdr.Lib.Run
import Pihpsdr.NewProtocol.Impl.TxRings

/-!
The rings for the samples to the radio as queues of blocks. The system is run together with logs,
one for each ring and new after each reset: the samples offered to the ring, cut into blocks, and the
packets made from it. No operation of the program reads them.
-/

namespace NewProtocol

-- a block of offered samples, how many of them were skipped, and whether the ring was full
structure TxBlock where
  samples : List Sample
  skipped : Nat
  overflow : Bool

def TxBlock.kept (b : TxBlock) : Bool :=
  b.skipped == 0 && !b.overflow

structure TxLog where
  blocks : List TxBlock
  cur : List Sample
  skipped : Nat
  packets : List (List UInt8)

namespace TxLog

def init : TxLog :=
  ⟨[], [], 0, []⟩

def put (a : Sample) (l : TxLog) : TxLog :=
  { l with cur := l.cur ++ [a] }

def flush (overflow : Bool) (l : TxLog) : TxLog :=
  { l with blocks := l.blocks ++ [⟨l.cur, l.skipped, overflow⟩], cur := [], skipped := 0 }

def skip (k : RingKind) (a : Sample) (l : TxLog) : TxLog :=
  let l := { l with cur := l.cur ++ [a], skipped := l.skipped + 1 }
  if l.cur.length = k.samples then l.flush false else l

def take (packet : Option (List UInt8)) (l : TxLog) : TxLog :=
  { l with packets := l.packets ++ packet.toList }

def prefilled (k : RingKind) (n : Nat) : TxLog :=
  { init with blocks := List.replicate n ⟨List.replicate k.samples ⟨0, 0⟩, 0, false⟩ }

end TxLog

structure TxHistory where
  sys : TxSystem
  rxaudio : TxLog
  txiq : TxLog

namespace TxHistory

def init : TxHistory :=
  ⟨.init, .init, .init⟩

def storeLog (a : Sample) (r : RxAudio) (l : TxLog) : TxLog :=
  let l := l.put a
  if l.cur.length = 64 then l.flush (rxaudioNptr r.inptr = r.outptr) else l

def rxaudioLog (h : TxHistory) (e : TxEvent) : TxLog :=
  let r := h.sys.rxaudio
  match e with
  | .txAudio s =>
    if r.count < 0 then
      h.rxaudio.skip NewProtocol.rxaudio ⟨s, s⟩
    else
      storeLog ⟨s, s⟩ r.txReset
        (if r.flag ≠ 1 then .prefilled NewProtocol.rxaudio 1 else h.rxaudio)
  | .audio transmitting duplex ls rs =>
    if transmitting && !duplex then
      h.rxaudio
    else if r.count < 0 then
      h.rxaudio.skip NewProtocol.rxaudio ⟨ls, rs⟩
    else
      storeLog ⟨ls, rs⟩ r.rxReset
        (if r.flag ≠ 0 then .prefilled NewProtocol.rxaudio 3 else h.rxaudio)
  | e => h.rxaudio.take (h.sys.rxaudioPacket e)

def txiqLog (h : TxHistory) (e : TxEvent) : TxLog :=
  let r := h.sys.txiq
  match e with
  | .iq is qs =>
    if h.sys.txiqProducer ≠ .idle then
      h.txiq
    else if r.count < 0 then
      h.txiq.skip NewProtocol.txiq ⟨is, qs⟩
    else
      let l := h.txiq.put ⟨is, qs⟩
      if l.cur.length = 240 ∧ txiqNptr r.inptr = r.outptr then l.flush true else l
  | .iqPublish => if h.sys.txiqProducer = .publishing then h.txiq.flush false else h.txiq
  | e => h.txiq.take (h.sys.txiqPacket e)

def step (h : TxHistory) (e : TxEvent) : TxHistory :=
  ⟨h.sys.step e, h.rxaudioLog e, h.txiqLog e⟩

end TxHistory

namespace TxRing

variable (k : RingKind) (r : TxRing)

-- the number of unread blocks
def unread : Nat :=
  Ring.fill k.blocks (r.inptr / k.blockLen) (r.outptr / k.blockLen)

def unreadPtrs : List Nat :=
  (List.range (r.unread k)).map
    (fun j => k.blockLen * Ring.slot k.blocks (r.outptr / k.blockLen) j)

def unreadPayloads : List (List UInt8) :=
  (r.unreadPtrs k).map (fun p => readCells r.buf p k.blockLen)

theorem sem_publish : (r.publish k).sem = r.sem :=
  rfl

-- The next sample is written into the buffer, and not into an unread block.
def WriteSafe : Prop :=
  r.iptr k + k.width ≤ k.blockLen * k.blocks
    ∧ ∀ p ∈ r.unreadPtrs k, r.iptr k + k.width ≤ p ∨ p + k.blockLen ≤ r.iptr k

end TxRing

-- the post that a consumer has taken from its semaphore, and the one the producer still has to make
def TxThread.held : TxThread → Nat
  | .waiting => 0
  | _ => 1

def TxProducer.owed : TxProducer → Nat
  | .posting => 1
  | _ => 0

/--
What a ring with the log `l` has to do: blocks are accepted or skipped as a whole, the packets and
the unread blocks are the accepted blocks, in their order, that did not meet a full ring, and with
`posts` the semaphore covers the unread blocks.
-/
structure Delivers (k : RingKind) (r : TxRing) (posts : Nat) (l : TxLog) : Prop where
  blocks : ∀ b ∈ l.blocks,
    b.samples.length = k.samples ∧ (b.skipped = 0 ∨ b.skipped = k.samples)
  packets : l.packets ++ r.unreadPayloads k
    = (l.blocks.filter TxBlock.kept).map (fun b => b.samples.flatMap k.bytes)
  sem : r.unread k ≤ r.sem + posts

namespace TxHistory

structure Delivers (h : TxHistory) : Prop where
  rxaudio : NewProtocol.Delivers NewProtocol.rxaudio h.sys.rxaudio.toTxRing
    h.sys.rxaudioThread.held h.rxaudio
  txiq : NewProtocol.Delivers NewProtocol.txiq h.sys.txiq
    (h.sys.txiqThread.held + h.sys.txiqProducer.owed) h.txiq

def WriteSafe (h : TxHistory) : TxEvent → Prop
  | .txAudio _ => 0 ≤ h.sys.rxaudio.count → h.sys.rxaudio.txReset.WriteSafe NewProtocol.rxaudio
  | .audio transmitting duplex _ _ => ¬(transmitting && !duplex) → 0 ≤ h.sys.rxaudio.count →
    h.sys.rxaudio.rxReset.WriteSafe NewProtocol.rxaudio
  | .iq _ _ => h.sys.txiqProducer = .idle → 0 ≤ h.sys.txiq.count →
    h.sys.txiq.WriteSafe NewProtocol.txiq
  | _ => True

end TxHistory

section Stands

/--
The ring `r` with write block `inp` and read block `out` stands for the queue `q`, and with its log
delivers what was accepted.
-/
structure Stands (k : RingKind) (inp out : Nat) (q : BlockQueue Sample) (r : TxRing) (l : TxLog)
    : Prop where
  inptr_eq : r.inptr = k.blockLen * inp
  outptr_eq : r.outptr = k.blockLen * out
  rep : Represents k.toBlockGeometry k.bytes r.buf inp out q
  accepted : 0 ≤ r.count → q.cur = l.cur ∧ l.skipped = 0 ∧ r.count = l.cur.length
  skipping : r.count < 0 → q.cur = [] ∧ l.skipped = l.cur.length ∧ l.cur.length < k.samples
    ∧ (k.samples : Int) ∣ l.cur.length - r.count
  blocks : ∀ b ∈ l.blocks,
    b.samples.length = k.samples ∧ (b.skipped = 0 ∨ b.skipped = k.samples)
  packets : l.packets ++ q.full.map (fun blk => blk.flatMap k.bytes)
    = (l.blocks.filter TxBlock.kept).map (fun b => b.samples.flatMap k.bytes)

variable {k : RingKind} {inp out : Nat} {q : BlockQueue Sample} {r : TxRing} {l : TxLog}

theorem RingKind.blockLen_pos (k : RingKind) : 0 < k.blockLen :=
  Nat.mul_pos k.width_pos k.samples_pos

theorem RingKind.neg_skip_lt (k : RingKind) : -(k.skip : Int) < k.samples := by
  have := k.samples_pos
  omega

namespace Stands

theorem inptr_div (h : Stands k inp out q r l) : r.inptr / k.blockLen = inp := by
  rw [h.inptr_eq, Nat.mul_div_cancel_left _ k.blockLen_pos]

theorem outptr_div (h : Stands k inp out q r l) : r.outptr / k.blockLen = out := by
  rw [h.outptr_eq, Nat.mul_div_cancel_left _ k.blockLen_pos]

theorem unread_eq (h : Stands k inp out q r l) : r.unread k = q.full.length := by
  rw [TxRing.unread, h.inptr_div, h.outptr_div]
  exact h.rep.fill_eq

theorem unreadPayloads_eq (h : Stands k inp out q r l)
    : r.unreadPayloads k = q.full.map (fun blk => blk.flatMap k.bytes) := by
  apply List.ext_getElem
  . simp [TxRing.unreadPayloads, TxRing.unreadPtrs, h.unread_eq]
  . intro i h1 h2
    have hi : i < q.full.length := by simpa using h2
    simp only [TxRing.unreadPayloads, TxRing.unreadPtrs, List.getElem_map, List.getElem_range,
      h.outptr_div]
    exact h.rep.readCells_block k.length_bytes hi

theorem delivers (h : Stands k inp out q r l) {posts : Nat} (hsem : r.unread k ≤ r.sem + posts)
    : Delivers k r posts l where
  blocks := h.blocks
  packets := by
    rw [h.unreadPayloads_eq]
    exact h.packets
  sem := hsem

theorem iptr_eq (h : Stands k inp out q r l) (hcount : 0 ≤ r.count)
    : r.iptr k = k.blockLen * inp + k.width * q.cur.length := by
  have ⟨hcur, _, hlen⟩ := h.accepted hcount
  rw [TxRing.iptr, h.inptr_eq, hcur, hlen, Int.toNat_natCast]

theorem cur_lt (h : Stands k inp out q r l) (hcount : 0 ≤ r.count) (hlt : r.count < k.samples)
    : q.cur.length < k.samples := by
  have ⟨hcur, _, hlen⟩ := h.accepted hcount
  rw [hcur]
  omega

theorem writeSafe (h : Stands k inp out q r l) (hcount : 0 ≤ r.count) (hlt : r.count < k.samples)
    : r.WriteSafe k := by
  have hcur := h.cur_lt hcount hlt
  rw [TxRing.WriteSafe, h.iptr_eq hcount]
  constructor
  . have hend := k.sample_end_le hcur
    have hblock := k.block_end_le h.rep.inp_lt
    omega
  . intro p hp
    simp only [TxRing.unreadPtrs, h.unread_eq, h.outptr_div, List.mem_map, List.mem_range] at hp
    have ⟨j, hj, hpj⟩ := hp
    rw [← hpj]
    exact (h.rep.disjoint hj hcur).symm

theorem with_sem (h : Stands k inp out q r l) (n : Nat)
    : Stands k inp out q { r with sem := n } l :=
  ⟨h.inptr_eq, h.outptr_eq, h.rep, h.accepted, h.skipping, h.blocks, h.packets⟩

theorem put (h : Stands k inp out q r l) (hcount : 0 ≤ r.count) (hlt : r.count < k.samples)
    (a : Sample)
    : Stands k inp out (q.put a) (r.put k a) (l.put a) where
  inptr_eq := h.inptr_eq
  outptr_eq := h.outptr_eq
  rep := by
    have := h.rep.put k.length_bytes (h.cur_lt hcount hlt) a
    rwa [← h.iptr_eq hcount] at this
  accepted := by
    intro _
    have ⟨hcur, hskip, hlen⟩ := h.accepted hcount
    refine ⟨by simp [BlockQueue.put, TxLog.put, hcur], hskip, ?_⟩
    simp [TxRing.put, TxLog.put, hlen]
  skipping := by
    intro hneg
    simp only [TxRing.put] at hneg
    omega
  blocks := h.blocks
  packets := h.packets

theorem skip (h : Stands k inp out q r l) (hneg : r.count < 0) (a : Sample)
    : Stands k inp out q r.skipSample (l.skip k a) := by
  have ⟨hnil, hskip, hlt, hdvd⟩ := h.skipping hneg
  unfold TxLog.skip
  dsimp only
  split
  . next hfull =>
    simp only [List.length_append, List.length_singleton] at hfull
    constructor
    case inptr_eq => exact h.inptr_eq
    case outptr_eq => exact h.outptr_eq
    case rep => exact h.rep
    case accepted =>
      intro hcount
      simp only [TxRing.skipSample] at hcount ⊢
      refine ⟨hnil, rfl, ?_⟩
      simp only [TxLog.flush, List.length_nil]
      omega
    case skipping =>
      intro hcount
      refine ⟨hnil, rfl, k.samples_pos, ?_⟩
      simp only [TxRing.skipSample, TxLog.flush, List.length_nil]
      have hstep : ((0 : Nat) : Int) - (r.count + 1) = l.cur.length - r.count - k.samples := by
        omega
      rw [hstep]
      exact Int.dvd_sub hdvd (Int.dvd_refl _)
    case blocks =>
      intro b hb
      simp only [TxLog.flush, List.mem_append, List.mem_singleton] at hb
      cases hb with
      | inl hb => exact h.blocks b hb
      | inr hb =>
        subst hb
        refine ⟨by simpa using hfull, .inr ?_⟩
        dsimp only
        omega
    case packets =>
      have hkept : TxBlock.kept ⟨l.cur ++ [a], l.skipped + 1, false⟩ = false := by
        simp [TxBlock.kept]
      simpa [TxLog.flush, List.filter_append, hkept] using h.packets
  . next hpart =>
    simp only [List.length_append, List.length_singleton] at hpart
    constructor
    case inptr_eq => exact h.inptr_eq
    case outptr_eq => exact h.outptr_eq
    case rep => exact h.rep
    case accepted =>
      -- The last sample to be skipped completes a block.
      intro hcount
      simp only [TxRing.skipSample] at hcount
      have hlen : (k.samples : Int) ∣ ((l.cur.length + 1 : Nat) : Int) := by
        have : ((l.cur.length + 1 : Nat) : Int) = l.cur.length - r.count := by omega
        rwa [this]
      have := Nat.le_of_dvd (by omega) (Int.natCast_dvd_natCast.mp hlen)
      omega
    case skipping =>
      intro _
      refine ⟨hnil, ?_, ?_, ?_⟩
      . simp [hskip]
      . simp only [List.length_append, List.length_singleton]
        omega
      . have hstep : ((l.cur ++ [a]).length : Int) - (r.count + 1) = l.cur.length - r.count := by
          simp only [List.length_append, List.length_singleton]
          omega
        simpa only [TxRing.skipSample, hstep] using hdvd
    case blocks => exact h.blocks
    case packets => exact h.packets

theorem kept_flush (h : Stands k inp out q r l) (hcount : 0 ≤ r.count) (overflow : Bool)
    : (l.flush overflow).blocks.filter TxBlock.kept
        = l.blocks.filter TxBlock.kept
          ++ if overflow then [] else [⟨l.cur, l.skipped, overflow⟩] := by
  have ⟨_, hskip, _⟩ := h.accepted hcount
  cases overflow <;> simp [TxLog.flush, List.filter_append, TxBlock.kept, hskip]

theorem blocks_flush (h : Stands k inp out q r l) (hcount : r.count = k.samples)
    (overflow : Bool)
    : ∀ b ∈ (l.flush overflow).blocks,
        b.samples.length = k.samples ∧ (b.skipped = 0 ∨ b.skipped = k.samples) := by
  intro b hb
  have ⟨_, hskip, hlen⟩ := h.accepted (by omega)
  simp only [TxLog.flush, List.mem_append, List.mem_singleton] at hb
  cases hb with
  | inl hb => exact h.blocks b hb
  | inr hb =>
    subst hb
    exact ⟨by dsimp only; omega, .inl hskip⟩

theorem nptr_inptr (h : Stands k inp out q r l)
    : k.nptr r.inptr = k.blockLen * Ring.next k.blocks inp := by
  rw [h.inptr_eq]
  exact k.nptr_eq _ h.rep.inp_lt

theorem nptr_outptr (h : Stands k inp out q r l)
    : k.nptr r.outptr = k.blockLen * Ring.next k.blocks out := by
  rw [h.outptr_eq]
  exact k.nptr_eq _ h.rep.out_lt

theorem nptr_ne_iff (h : Stands k inp out q r l)
    : k.nptr r.inptr ≠ r.outptr ↔ Ring.next k.blocks inp ≠ out := by
  rw [h.nptr_inptr, h.outptr_eq, ne_eq, Nat.mul_right_inj (Nat.ne_of_gt k.blockLen_pos)]

theorem publish (h : Stands k inp out q r l) (hcount : r.count = k.samples)
    (hne : k.nptr r.inptr ≠ r.outptr)
    : Stands k (Ring.next k.blocks inp) out q.flush (r.publish k) (l.flush false) where
  inptr_eq := h.nptr_inptr
  outptr_eq := h.outptr_eq
  rep := by
    have ⟨hcur, _, hlen⟩ := h.accepted (by omega)
    exact h.rep.flush (by rw [hcur]; omega) (h.nptr_ne_iff.mp hne)
  accepted := by
    intro _
    exact ⟨rfl, rfl, rfl⟩
  skipping := by
    intro hneg
    simp [TxRing.publish] at hneg
  blocks := h.blocks_flush hcount false
  packets := by
    have ⟨hcur, _, _⟩ := h.accepted (by omega)
    rw [h.kept_flush (by omega), List.map_append, ← h.packets]
    simp [TxLog.flush, BlockQueue.flush, hcur]

theorem unread_publish (h : Stands k inp out q r l) (hcount : r.count = k.samples)
    (hne : k.nptr r.inptr ≠ r.outptr)
    : (r.publish k).unread k = r.unread k + 1 := by
  rw [(h.publish hcount hne).unread_eq, h.unread_eq]
  simp [BlockQueue.flush]

theorem overflow (h : Stands k inp out q r l) (hcount : r.count = k.samples)
    : Stands k inp out q.discard (r.overflow k) (l.flush true) where
  inptr_eq := h.inptr_eq
  outptr_eq := h.outptr_eq
  rep := h.rep.discard
  accepted := by
    intro hcount
    have hskip : (k.skip : Int) = 0 := by
      simp only [TxRing.overflow] at hcount
      omega
    exact ⟨rfl, rfl, by simp [TxRing.overflow, TxLog.flush, hskip]⟩
  skipping := by
    intro _
    refine ⟨rfl, rfl, k.samples_pos, ?_⟩
    simpa [TxRing.overflow, TxLog.flush] using Int.natCast_dvd_natCast.mpr k.samples_dvd_skip
  blocks := h.blocks_flush hcount true
  packets := by
    rw [h.kept_flush (by omega)]
    simpa [TxLog.flush, BlockQueue.discard] using h.packets

theorem take {blk : List Sample} {full : List (List Sample)} {cur : List Sample}
    (h : Stands k inp out ⟨blk :: full, cur⟩ r l)
    : Stands k inp (Ring.next k.blocks out) ⟨full, cur⟩ { r with outptr := k.nptr r.outptr }
        (l.take (some (readCells r.buf r.outptr k.blockLen))) where
  inptr_eq := h.inptr_eq
  outptr_eq := h.nptr_outptr
  rep := h.rep.pop
  accepted := h.accepted
  skipping := h.skipping
  blocks := h.blocks
  packets := by
    have hread := h.rep.read k.length_bytes
    rw [← h.outptr_eq] at hread
    simpa [TxLog.take, hread] using h.packets

theorem take_of_unread (h : Stands k inp out q r l) (hpos : 0 < r.unread k)
    : ∃ full, Stands k inp (Ring.next k.blocks out) ⟨full, q.cur⟩
        { r with outptr := k.nptr r.outptr }
        (l.take (some (readCells r.buf r.outptr k.blockLen)))
      ∧ full.length + 1 = r.unread k := by
  rw [h.unread_eq] at hpos ⊢
  rcases q with ⟨full, cur⟩
  cases full with
  | nil => simp at hpos
  | cons blk full => exact ⟨full, h.take, rfl⟩

theorem prefill (hzero : k.bytes ⟨0, 0⟩ = List.replicate k.width 0) (r : TxRing) {n : Nat}
    (hn : n < k.blocks)
    : Stands k n 0 ⟨List.replicate n (List.replicate k.samples ⟨0, 0⟩), []⟩ (r.prefill k n)
        (TxLog.prefilled k n) where
  inptr_eq := rfl
  outptr_eq := rfl
  rep := by
    apply represents_const hzero _ hn
    intro i hi
    exact if_pos hi
  accepted := by
    intro _
    exact ⟨rfl, rfl, rfl⟩
  skipping := by
    intro hneg
    simp [TxRing.prefill] at hneg
  blocks := by
    intro b hb
    rw [List.eq_of_mem_replicate hb]
    exact ⟨List.length_replicate, .inl rfl⟩
  packets := by
    have hkept : (List.replicate n (⟨List.replicate k.samples ⟨0, 0⟩, 0, false⟩ : TxBlock)).filter
        TxBlock.kept = List.replicate n ⟨List.replicate k.samples ⟨0, 0⟩, 0, false⟩ := by
      rw [List.filter_replicate, if_pos (by rfl)]
    simp [TxLog.prefilled, TxLog.init, hkept]

theorem init : Stands k 0 0 BlockQueue.empty TxRing.init TxLog.init where
  inptr_eq := (Nat.mul_zero _).symm
  outptr_eq := (Nat.mul_zero _).symm
  rep := represents_empty k.blocks_pos
  accepted := by
    intro _
    exact ⟨rfl, rfl, rfl⟩
  skipping := by
    intro hneg
    simp [TxRing.init] at hneg
  blocks := by
    intro b hb
    simp [TxLog.init] at hb
  packets := rfl

theorem room_iff (h : Stands k inp out q r l)
    : k.nptr r.inptr ≠ r.outptr ↔ r.unread k + 1 < k.blocks := by
  have hfull := Ring.next_eq_out_iff h.rep.inp_lt h.rep.out_lt
  rw [h.rep.fill_eq] at hfull
  have hlt := h.rep.full_lt
  rw [h.nptr_ne_iff, h.unread_eq]
  omega

theorem head_unreadPayloads (h : Stands k inp out q r l) (hpos : 0 < r.unread k)
    : (r.unreadPayloads k).head? = some (readCells r.buf r.outptr k.blockLen) := by
  rw [h.unreadPayloads_eq, h.outptr_eq]
  rw [h.unread_eq] at hpos
  rcases q with ⟨full, cur⟩
  cases full with
  | nil => simp at hpos
  | cons blk full =>
    rw [h.rep.read k.length_bytes]
    rfl

theorem unreadPayloads_put (h : Stands k inp out q r l) (hcount : 0 ≤ r.count)
    (hlt : r.count < k.samples) (a : Sample)
    : (r.put k a).unreadPayloads k = r.unreadPayloads k := by
  rw [(h.put hcount hlt a).unreadPayloads_eq, h.unreadPayloads_eq]
  rfl

theorem head_publish (h : Stands k inp out q r l) (hcount : r.count = k.samples)
    (hne : k.nptr r.inptr ≠ r.outptr) {p : List UInt8}
    (hp : (r.unreadPayloads k).head? = some p)
    : ((r.publish k).unreadPayloads k).head? = some p := by
  rw [h.unreadPayloads_eq] at hp
  rw [(h.publish hcount hne).unreadPayloads_eq, BlockQueue.flush, List.map_append,
    List.head?_append, hp]
  rfl

end Stands

end Stands

theorem TxLog.take_none (l : TxLog) : l.take none = l := by
  simp [take]

section Audio

theorem samples_rxaudio : rxaudio.samples = 64 :=
  rfl

theorem rxaudioBytes_zero : rxaudio.bytes ⟨0, 0⟩ = List.replicate rxaudio.width 0 := by
  decide

theorem RxAudio.count_txReset {r : RxAudio} (hcount : 0 ≤ r.count) : 0 ≤ r.txReset.count := by
  unfold txReset
  split
  . exact Int.le_refl 0
  . exact hcount

theorem RxAudio.count_rxReset {r : RxAudio} (hcount : 0 ≤ r.count) : 0 ≤ r.rxReset.count := by
  unfold rxReset
  split
  . exact Int.le_refl 0
  . exact hcount

structure RxAudio.Inv (r : RxAudio) (held : Nat) (l : TxLog) : Prop where
  stands : ∃ inp out q, Stands NewProtocol.rxaudio inp out q r.toTxRing l
  count_lt : r.count < NewProtocol.rxaudio.samples
  sem : r.unread NewProtocol.rxaudio ≤ r.sem + held

namespace RxAudio.Inv

variable {r : RxAudio} {held : Nat} {l : TxLog}

theorem skip (h : r.Inv held l) (hneg : r.count < 0) (a : Sample)
    : RxAudio.Inv { r with toTxRing := r.skipSample } held (l.skip NewProtocol.rxaudio a) := by
  have ⟨inp, out, q, hst⟩ := h.stands
  refine ⟨⟨inp, out, q, hst.skip hneg a⟩, ?_, h.sem⟩
  rw [samples_rxaudio]
  simp only [TxRing.skipSample]
  omega

theorem store (h : r.Inv held l) (hcount : 0 ≤ r.count) (a : Sample)
    : (r.store a).Inv held (TxHistory.storeLog a r l) := by
  have ⟨inp, out, q, hst⟩ := h.stands
  have hput := hst.put hcount h.count_lt a
  have hnext : (r.put NewProtocol.rxaudio a).count = r.count + 1 := rfl
  have ⟨_, _, hlen⟩ := hput.accepted (by omega)
  have hlt := h.count_lt
  rw [samples_rxaudio] at hlt
  unfold RxAudio.store TxHistory.storeLog
  dsimp only
  split
  . next hfull =>
    have hsamples : (r.put NewProtocol.rxaudio a).count = NewProtocol.rxaudio.samples := by
      rw [samples_rxaudio]
      omega
    have hcur : (l.put a).cur.length = 64 := by omega
    rw [if_pos hcur]
    split
    . next hne =>
      have hdec : decide (rxaudioNptr r.inptr = r.outptr) = false := decide_eq_false hne
      have hunread := hput.unread_publish hsamples hne
      rw [hdec]
      refine ⟨⟨_, _, _, (hput.publish hsamples hne).with_sem _⟩, ?_, ?_⟩
      . exact Int.natCast_pos.mpr NewProtocol.rxaudio.samples_pos
      . have hsem : r.unread NewProtocol.rxaudio ≤ r.sem + held := h.sem
        have heq : (r.put NewProtocol.rxaudio a).unread NewProtocol.rxaudio
            = r.unread NewProtocol.rxaudio := rfl
        change TxRing.unread NewProtocol.rxaudio
          ((r.put NewProtocol.rxaudio a).publish NewProtocol.rxaudio) ≤ r.sem + 1 + held
        omega
    . next heq =>
      have hdec : decide (rxaudioNptr r.inptr = r.outptr) = true :=
        decide_eq_true (not_not.mp heq)
      rw [hdec]
      exact ⟨⟨_, _, _, hput.overflow hsamples⟩, NewProtocol.rxaudio.neg_skip_lt, h.sem⟩
  . next hpart =>
    have hcur : (l.put a).cur.length ≠ 64 := by omega
    rw [if_neg hcur]
    refine ⟨⟨_, _, _, hput⟩, ?_, h.sem⟩
    rw [samples_rxaudio]
    simp only
    omega

theorem prefill (r : RxAudio) (held : Nat) {n : Nat} (hn : n < NewProtocol.rxaudio.blocks)
    (flag : Nat)
    : RxAudio.Inv ⟨r.prefill NewProtocol.rxaudio n, flag⟩ held (.prefilled NewProtocol.rxaudio n)
    := by
  have hst := Stands.prefill rxaudioBytes_zero r.toTxRing hn
  refine ⟨⟨_, _, _, hst⟩, Int.natCast_pos.mpr NewProtocol.rxaudio.samples_pos, ?_⟩
  rw [hst.unread_eq]
  simp only [TxRing.prefill, List.length_replicate]
  omega

theorem txReset (h : r.Inv held l)
    : r.txReset.Inv held (if r.flag ≠ 1 then .prefilled NewProtocol.rxaudio 1 else l) := by
  unfold RxAudio.txReset
  split
  . exact prefill r held (by decide) 1
  . exact h

theorem rxReset (h : r.Inv held l)
    : r.rxReset.Inv held (if r.flag ≠ 0 then .prefilled NewProtocol.rxaudio 3 else l) := by
  unfold RxAudio.rxReset
  split
  . exact prefill r held (by decide) 0
  . exact h

theorem wait (h : r.Inv 0 l)
    : RxAudio.Inv { r with sem := r.sem - 1 } 1 l := by
  have ⟨inp, out, q, hst⟩ := h.stands
  refine ⟨⟨inp, out, q, hst.with_sem _⟩, h.count_lt, ?_⟩
  have := h.sem
  change r.unread _ ≤ r.sem - 1 + 1
  omega

-- Only here the semaphore may have been too large.
theorem empty (h : r.Inv 1 l) (heq : r.outptr = r.inptr) : r.Inv 0 l := by
  refine ⟨h.stands, h.count_lt, ?_⟩
  rw [TxRing.unread, heq, Ring.fill_self]
  exact Nat.zero_le _

theorem dequeue (h : r.Inv 1 l) (hne : r.outptr ≠ r.inptr)
    : RxAudio.Inv { r with outptr := rxaudioNptr r.outptr } 0
        (l.take (some (readCells r.buf r.outptr 256))) := by
  have ⟨inp, out, q, hst⟩ := h.stands
  have hpos : 0 < r.unread NewProtocol.rxaudio := by
    rw [hst.unread_eq, List.length_pos_iff, ne_eq, hst.rep.full_nil_iff]
    intro heq
    apply hne
    rw [hst.inptr_eq, hst.outptr_eq, heq]
  have ⟨full, htake, hlen⟩ := hst.take_of_unread hpos
  refine ⟨⟨_, _, _, htake⟩, h.count_lt, ?_⟩
  have hsem := h.sem
  have hunread := htake.unread_eq
  change TxRing.unread NewProtocol.rxaudio { r.toTxRing with outptr := rxaudioNptr r.outptr }
    ≤ r.sem + 0
  change TxRing.unread NewProtocol.rxaudio { r.toTxRing with outptr := rxaudioNptr r.outptr }
    = full.length at hunread
  omega

end RxAudio.Inv

end Audio

section Iq

theorem samples_txiq : txiq.samples = 240 :=
  rfl

theorem nptr_txiq : txiq.nptr = txiqNptr := by
  dsimp only [txiq]

structure IqInv (r : TxRing) (producer : TxProducer) (thread : TxThread) (l : TxLog) : Prop where
  stands : ∃ inp out q, Stands txiq inp out q r l
  count_lt : producer ≠ .publishing → r.count < txiq.samples
  publishing : producer = .publishing → r.count = txiq.samples ∧ r.unread txiq + 1 < txiq.blocks
  sem : r.unread txiq = r.sem + thread.held + producer.owed
  copied : ∀ p, thread = .copied p → (r.unreadPayloads txiq).head? = some p

namespace IqInv

variable {r : TxRing} {thread : TxThread} {l : TxLog}

theorem skip (h : IqInv r .idle thread l) (hneg : r.count < 0) (a : Sample)
    : IqInv r.skipSample .idle thread (l.skip txiq a) := by
  have ⟨inp, out, q, hst⟩ := h.stands
  refine ⟨⟨inp, out, q, hst.skip hneg a⟩, ?_, by simp, h.sem, h.copied⟩
  intro _
  rw [samples_txiq]
  simp only [TxRing.skipSample]
  omega

theorem put (h : IqInv r .idle thread l) (hcount : 0 ≤ r.count) (is qs : Int)
    : IqInv (newProtocolIqSamples is qs r).1 (newProtocolIqSamples is qs r).2 thread
        (if (l.put ⟨is, qs⟩).cur.length = 240 ∧ txiqNptr r.inptr = r.outptr then
          (l.put ⟨is, qs⟩).flush true
        else
          l.put ⟨is, qs⟩) := by
  have ⟨inp, out, q, hst⟩ := h.stands
  have hlt := h.count_lt (by simp)
  have hput := hst.put hcount hlt ⟨is, qs⟩
  have hcopied := h.copied
  rw [← hst.unreadPayloads_put hcount hlt ⟨is, qs⟩] at hcopied
  have hnext : (r.put txiq ⟨is, qs⟩).count = r.count + 1 := rfl
  have ⟨_, _, hlen⟩ := hput.accepted (by omega)
  rw [samples_txiq] at hlt
  unfold newProtocolIqSamples
  rw [if_neg (by omega)]
  dsimp only
  split
  . next hfull =>
    have hsamples : (r.put txiq ⟨is, qs⟩).count = txiq.samples := by
      rw [samples_txiq]
      omega
    have hcur : (l.put ⟨is, qs⟩).cur.length = 240 := by omega
    split
    . next hne =>
      rw [if_neg fun hand => hne hand.2]
      rw [← nptr_txiq] at hne
      have hroom := hput.room_iff.mp hne
      refine ⟨⟨_, _, _, hput⟩, by simp, ?_, h.sem, hcopied⟩
      intro _
      exact ⟨hsamples, hroom⟩
    . next heq =>
      rw [if_pos ⟨hcur, not_not.mp heq⟩]
      refine ⟨⟨_, _, _, hput.overflow hsamples⟩, ?_, by simp, h.sem, hcopied⟩
      intro _
      exact txiq.neg_skip_lt
  . next hpart =>
    have hcur : (l.put ⟨is, qs⟩).cur.length ≠ 240 := by omega
    rw [if_neg fun hand => hcur hand.1]
    refine ⟨⟨_, _, _, hput⟩, ?_, by simp, h.sem, hcopied⟩
    intro _
    rw [samples_txiq]
    simp only
    omega

theorem publish (h : IqInv r .publishing thread l)
    : IqInv (r.publish txiq) .posting thread (l.flush false) := by
  have ⟨inp, out, q, hst⟩ := h.stands
  have ⟨hcount, hroom⟩ := h.publishing rfl
  have hne := hst.room_iff.mpr hroom
  refine ⟨⟨_, _, _, hst.publish hcount hne⟩, ?_, by simp, ?_, ?_⟩
  . intro _
    exact Int.natCast_pos.mpr txiq.samples_pos
  . have hsem : r.unread txiq = r.sem + thread.held + 0 := h.sem
    rw [hst.unread_publish hcount hne, hsem, TxRing.sem_publish, Nat.add_zero, TxProducer.owed]
  . intro p hp
    exact hst.head_publish hcount hne (h.copied p hp)

theorem post (h : IqInv r .posting thread l) : IqInv r.post .idle thread l := by
  have ⟨inp, out, q, hst⟩ := h.stands
  refine ⟨⟨inp, out, q, hst.with_sem _⟩, ?_, by simp, ?_, h.copied⟩
  . intro _
    exact h.count_lt (by simp)
  . have hsem : r.unread txiq = r.sem + thread.held + 1 := h.sem
    change r.unread txiq = r.sem + 1 + thread.held + 0
    omega

variable {producer : TxProducer}

theorem wait (h : IqInv r producer .waiting l) (hsem : r.sem ≠ 0)
    : IqInv { r with sem := r.sem - 1 } producer .ready l := by
  have ⟨inp, out, q, hst⟩ := h.stands
  refine ⟨⟨inp, out, q, hst.with_sem _⟩, h.count_lt, h.publishing, ?_, by simp⟩
  have heq : r.unread txiq = r.sem + 0 + producer.owed := h.sem
  change r.unread txiq = r.sem - 1 + 1 + producer.owed
  omega

theorem copy (h : IqInv r producer .ready l)
    : IqInv r producer (.copied (readCells r.buf r.outptr 1440)) l := by
  have ⟨inp, out, q, hst⟩ := h.stands
  refine ⟨h.stands, h.count_lt, h.publishing, h.sem, ?_⟩
  intro p hp
  have heq : r.unread txiq = r.sem + 1 + producer.owed := h.sem
  rw [TxThread.copied.injEq] at hp
  rw [← hp]
  exact hst.head_unreadPayloads (by omega)

theorem advance {p : List UInt8} (h : IqInv r producer (.copied p) l)
    : IqInv { r with outptr := txiqNptr r.outptr } producer .waiting (l.take (some p)) := by
  have ⟨inp, out, q, hst⟩ := h.stands
  have heq : r.unread txiq = r.sem + 1 + producer.owed := h.sem
  have hread := h.copied p rfl
  rw [hst.head_unreadPayloads (by omega), Option.some.injEq] at hread
  have ⟨full, htake, hlen⟩ := hst.take_of_unread (by omega)
  rw [hread, nptr_txiq] at htake
  have hunread := htake.unread_eq
  dsimp only at hunread
  refine ⟨⟨_, _, _, htake⟩, h.count_lt, ?_, ?_, by simp⟩
  . intro hpub
    have ⟨hcount, hroom⟩ := h.publishing hpub
    exact ⟨hcount, by omega⟩
  . rw [hunread]
    change full.length = r.sem + 0 + producer.owed
    omega

end IqInv

end Iq

namespace TxHistory

structure Inv (h : TxHistory) : Prop where
  rxaudio : h.sys.rxaudio.Inv h.sys.rxaudioThread.held h.rxaudio
  txiq : IqInv h.sys.txiq h.sys.txiqProducer h.sys.txiqThread h.txiq

theorem inv_init : init.Inv where
  rxaudio := by
    refine ⟨⟨_, _, _, Stands.init⟩, by decide, ?_⟩
    exact Nat.zero_le _
  txiq := by
    refine ⟨⟨_, _, _, Stands.init⟩, ?_, by simp [init, TxSystem.init], rfl,
      by simp [init, TxSystem.init]⟩
    intro _
    exact Int.natCast_pos.mpr NewProtocol.txiq.samples_pos

variable {h : TxHistory}

theorem Inv.delivers (hinv : h.Inv) : h.Delivers where
  rxaudio := by
    have ⟨_, _, _, hst⟩ := hinv.rxaudio.stands
    exact hst.delivers hinv.rxaudio.sem
  txiq := by
    have ⟨_, _, _, hst⟩ := hinv.txiq.stands
    apply hst.delivers
    rw [← Nat.add_assoc]
    exact Nat.le_of_eq hinv.txiq.sem

theorem Inv.writeSafe (hinv : h.Inv) (e : TxEvent) : h.WriteSafe e := by
  cases e with
  | txAudio s =>
    intro hcount
    have hreset := hinv.rxaudio.txReset
    have ⟨_, _, _, hst⟩ := hreset.stands
    exact hst.writeSafe (RxAudio.count_txReset hcount) hreset.count_lt
  | audio transmitting duplex ls rs =>
    intro _ hcount
    have hreset := hinv.rxaudio.rxReset
    have ⟨_, _, _, hst⟩ := hreset.stands
    exact hst.writeSafe (RxAudio.count_rxReset hcount) hreset.count_lt
  | iq is qs =>
    intro hidle hcount
    have ⟨_, _, _, hst⟩ := hinv.txiq.stands
    exact hst.writeSafe hcount (hinv.txiq.count_lt (by simp [hidle]))
  | _ => exact trivial

theorem Inv.step_rxaudio (hinv : h.Inv) (e : TxEvent)
    : (h.sys.step e).rxaudio.Inv (h.sys.step e).rxaudioThread.held (h.rxaudioLog e) := by
  have hrx := hinv.rxaudio
  cases e with
  | txAudio s =>
    simp only [TxSystem.step, rxaudioLog, newProtocolTxAudioSamples]
    split
    . next hneg => exact hrx.skip hneg _
    . next hcount =>
      refine hrx.txReset.store ?_ _
      exact RxAudio.count_txReset (by omega)
  | audio transmitting duplex ls rs =>
    simp only [TxSystem.step, rxaudioLog, newProtocolAudioSamples]
    split
    . exact hrx
    . split
      . next hneg => exact hrx.skip hneg _
      . next hcount =>
        refine hrx.rxReset.store ?_ _
        exact RxAudio.count_rxReset (by omega)
  | iq is qs =>
    simp only [TxSystem.step, TxSystem.iq, rxaudioLog, TxSystem.rxaudioPacket, TxLog.take_none]
    split <;> exact hrx
  | iqPublish =>
    simp only [TxSystem.step, TxSystem.iqPublish, rxaudioLog, TxSystem.rxaudioPacket,
      TxLog.take_none]
    split <;> exact hrx
  | iqPost =>
    simp only [TxSystem.step, TxSystem.iqPost, rxaudioLog, TxSystem.rxaudioPacket,
      TxLog.take_none]
    split <;> exact hrx
  | rxaudioWait =>
    simp only [TxSystem.step, TxSystem.rxaudioWait, rxaudioLog, TxSystem.rxaudioPacket,
      TxLog.take_none]
    split
    . next hthread =>
      rw [hthread] at hrx
      split
      . rw [hthread]
        exact hrx
      . exact hrx.wait
    . exact hrx
  | rxaudioDequeue =>
    simp only [TxSystem.step, TxSystem.rxaudioDequeue, rxaudioLog, TxSystem.rxaudioPacket]
    split
    . next hthread =>
      rw [hthread] at hrx
      split
      . next heq =>
        rw [TxLog.take_none]
        exact hrx.empty heq
      . next hne => exact hrx.dequeue hne
    . rw [TxLog.take_none]
      exact hrx
  | txiqWait =>
    simp only [TxSystem.step, TxSystem.txiqWait, rxaudioLog, TxSystem.rxaudioPacket,
      TxLog.take_none]
    split
    . split <;> exact hrx
    . exact hrx
  | txiqCopy =>
    simp only [TxSystem.step, TxSystem.txiqCopy, rxaudioLog, TxSystem.rxaudioPacket,
      TxLog.take_none]
    split <;> exact hrx
  | txiqAdvance =>
    simp only [TxSystem.step, TxSystem.txiqAdvance, rxaudioLog, TxSystem.rxaudioPacket,
      TxLog.take_none]
    split <;> exact hrx

theorem Inv.step_txiq (hinv : h.Inv) (e : TxEvent)
    : IqInv (h.sys.step e).txiq (h.sys.step e).txiqProducer (h.sys.step e).txiqThread
        (h.txiqLog e) := by
  have hiq := hinv.txiq
  cases e with
  | txAudio s =>
    simp only [TxSystem.step, txiqLog, TxSystem.txiqPacket, TxLog.take_none]
    exact hiq
  | audio transmitting duplex ls rs =>
    simp only [TxSystem.step, txiqLog, TxSystem.txiqPacket, TxLog.take_none]
    exact hiq
  | iq is qs =>
    simp only [TxSystem.step, TxSystem.iq, txiqLog]
    split
    . next hidle =>
      rw [hidle] at hiq
      rw [if_neg (not_not.mpr hidle)]
      dsimp only
      split
      . next hneg =>
        rw [newProtocolIqSamples, if_pos hneg]
        exact hiq.skip hneg _
      . exact hiq.put (by omega) is qs
    . next hbusy =>
      rw [if_pos hbusy]
      exact hiq
  | iqPublish =>
    simp only [TxSystem.step, TxSystem.iqPublish, txiqLog]
    split
    . next hpub =>
      rw [hpub] at hiq
      rw [if_pos hpub]
      exact hiq.publish
    . next hpub =>
      rw [if_neg hpub]
      exact hiq
  | iqPost =>
    simp only [TxSystem.step, TxSystem.iqPost, txiqLog, TxSystem.txiqPacket, TxLog.take_none]
    split
    . next hpost =>
      rw [hpost] at hiq
      exact hiq.post
    . exact hiq
  | rxaudioWait =>
    simp only [TxSystem.step, TxSystem.rxaudioWait, txiqLog, TxSystem.txiqPacket,
      TxLog.take_none]
    split
    . split <;> exact hiq
    . exact hiq
  | rxaudioDequeue =>
    simp only [TxSystem.step, TxSystem.rxaudioDequeue, txiqLog, TxSystem.txiqPacket,
      TxLog.take_none]
    split
    . split <;> exact hiq
    . exact hiq
  | txiqWait =>
    simp only [TxSystem.step, TxSystem.txiqWait, txiqLog, TxSystem.txiqPacket, TxLog.take_none]
    split
    . next hthread =>
      split
      . exact hiq
      . next hsem =>
        rw [hthread] at hiq
        exact hiq.wait hsem
    . exact hiq
  | txiqCopy =>
    simp only [TxSystem.step, TxSystem.txiqCopy, txiqLog, TxSystem.txiqPacket, TxLog.take_none]
    split
    . next hthread =>
      rw [hthread] at hiq
      exact hiq.copy
    . exact hiq
  | txiqAdvance =>
    simp only [TxSystem.step, TxSystem.txiqAdvance, txiqLog, TxSystem.txiqPacket]
    split
    . next p hthread =>
      rw [hthread] at hiq
      exact hiq.advance
    . rw [TxLog.take_none]
      exact hiq

theorem Inv.step (hinv : h.Inv) (e : TxEvent) : (h.step e).Inv :=
  ⟨hinv.step_rxaudio e, hinv.step_txiq e⟩

theorem inv_exec (es : List TxEvent) : (Run.exec TxHistory.step init es).Inv :=
  Run.exec_invariant (P := fun _ _ => True) (fun _ e hinv _ => hinv.step e) inv_init
    (Run.along_true _ _)

theorem rings_deliver (es : List TxEvent)
    : (Run.exec TxHistory.step init es).Delivers
      ∧ Run.Along TxHistory.step WriteSafe init es := by
  refine ⟨(inv_exec es).delivers, ?_⟩
  exact Run.along_of_invariant (P := fun _ _ => True) (fun _ e hinv _ => hinv.step e)
    (fun _ e hinv _ => hinv.writeSafe e) inv_init (Run.along_true _ _)

-- After `sem_wait` the semaphore is below the number of unread blocks.
theorem sem_below_unread
    : ¬ ∀ es, (Run.exec TxHistory.step init es).sys.rxaudio.unread NewProtocol.rxaudio
        ≤ (Run.exec TxHistory.step init es).sys.rxaudio.sem
      ∧ (Run.exec TxHistory.step init es).sys.txiq.unread NewProtocol.txiq
        ≤ (Run.exec TxHistory.step init es).sys.txiq.sem := by
  intro hall
  have := (hall [.audio false false 0 0, .rxaudioWait]).1
  revert this
  decide

end TxHistory

end NewProtocol
