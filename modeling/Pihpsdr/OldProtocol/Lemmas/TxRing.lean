import Pihpsdr.OldProtocol.Impl.TxRing
import Mathlib.Tactic.Ring

/-!
The transmit ring buffer as a queue of blocks. The system is run together with the log of the
samples accepted since the last pointer reset, which no operation of the program reads.

If a transition finds samples of the current block stored, they stay in the block although the reset
gives them up. In runs without such transitions every block consists of consecutive accepted
samples.
-/

namespace OldProtocol

def txGeometry : BlockGeometry where
  width := 8
  samples := 126
  blocks := 32
  width_pos := by decide
  samples_pos := by decide
  blocks_pos := by decide

@[simp]
theorem blockLen_txGeometry : txGeometry.blockLen = 1008 := rfl

@[simp]
theorem samples_txGeometry : txGeometry.samples = 126 := rfl

@[simp]
theorem width_txGeometry : txGeometry.width = 8 := rfl

@[simp]
theorem blocks_txGeometry : txGeometry.blocks = 32 := rfl

def TxEvent.call : TxEvent → Option (Bool × TxSample)
  | .audio transmitting c ls rs => if !transmitting then some (false, audioSample c ls rs) else none
  | .iq transmitting c is qs sd => if transmitting then some (true, iqSample c is qs sd) else none
  | _ => none

structure TxHistory where
  sys : TxSystem
  accepted : List TxSample
  held : List TxSample

namespace TxHistory

def init : TxHistory := ⟨TxSystem.init, [], []⟩

def log (h : TxHistory) (e : TxEvent) : List TxSample :=
  match e.call with
  | some (tx, s) =>
    if h.sys.ring.count < 0 then
      h.accepted
    else if h.sys.ring.transition tx then
      [s]
    else
      h.accepted ++ [s]
  | none => h.accepted

def Dequeues (h : TxHistory) : TxEvent → Prop
  | .dequeue =>
    match h.sys.thread with
    | .ready => h.sys.ring.inptr ≠ h.sys.ring.outptr
    | _ => False
  | _ => False

instance (h : TxHistory) (e : TxEvent) : Decidable (h.Dequeues e) := by
  unfold Dequeues
  split
  . split <;> infer_instance
  . infer_instance

def step (h : TxHistory) (e : TxEvent) : TxHistory where
  sys := h.sys.step e
  accepted := h.log e
  held := if h.Dequeues e then h.accepted else h.held

theorem Dequeues.sending {h : TxHistory} (hd : h.Dequeues .dequeue)
    : ∃ b1 b2, (h.step .dequeue).sys.thread = .sending b1 b2 := by
  simp only [Dequeues] at hd
  split at hd
  . next hthread =>
    refine ⟨readCells h.sys.ring.buf h.sys.ring.outptr 504,
      readCells h.sys.ring.buf (h.sys.ring.outptr + 504) 504, ?_⟩
    simp [step, TxSystem.step, TxSystem.dequeue, hthread, hd]
  . exact hd.elim

end TxHistory

namespace TxRing

def unread (r : TxRing) : List Nat :=
  (List.range (Ring.fill 32 (r.inptr / 1008) (r.outptr / 1008))).map
    (fun k => 1008 * Ring.slot 32 (r.outptr / 1008) k)

def target (tx : Bool) (r : TxRing) : TxRing := if r.transition tx then r.reset tx else r

def WriteSafe (r : TxRing) : Prop :=
  r.iptr + 8 ≤ txRingBufLen ∧ ∀ p ∈ r.unread, r.iptr + 8 ≤ p ∨ p + 1008 ≤ r.iptr

theorem produce_eq (tx : Bool) (s : TxSample) (r : TxRing)
    : r.produce tx s =
        if r.count < 0 then { r with count := r.count + 1 } else (r.target tx).store s := by
  unfold produce target
  split
  . rfl
  . split <;> rfl

end TxRing

def IsBlockOf (log : List TxSample) (b1 b2 : List UInt8) : Prop :=
  ∃ blk, blk <:+: log ∧ blk.length = 126 ∧ b1 ++ b2 = blk.flatMap TxSample.bytes

/--
Block integrity at one step: a block the thread holds after it consists of 126 consecutive samples
accepted between the last pointer reset and its being dequeued, and a sample is written safely.
-/
structure BlockIntegrity (h : TxHistory) (e : TxEvent) : Prop where
  block : ∀ b1 b2, (h.step e).sys.thread = .sending b1 b2 → IsBlockOf (h.step e).held b1 b2
  write : ∀ tx s, e.call = some (tx, s) → 0 ≤ h.sys.ring.count →
    (h.sys.ring.target tx).WriteSafe

def CleanTransition (h : TxHistory) (e : TxEvent) : Prop :=
  match e.call with
  | some (tx, _) => 0 ≤ h.sys.ring.count → h.sys.ring.transition tx → h.sys.ring.count = 0
  | none => True

instance (h : TxHistory) (e : TxEvent) : Decidable (CleanTransition h e) := by
  unfold CleanTransition
  split <;> infer_instance

theorem step_of_call {e : TxEvent} {tx : Bool} {s : TxSample} (h : e.call = some (tx, s))
    (y : TxSystem)
    : y.step e = { y with ring := y.ring.produce tx s } := by
  cases e with
  | audio transmitting c ls rs =>
    simp only [TxEvent.call] at h
    split at h
    . next ht =>
      simp only [Option.some.injEq, Prod.mk.injEq] at h
      simp [TxSystem.step, oldProtocolAudioSamples, ht, h]
    . simp at h
  | iq transmitting c is qs sd =>
    simp only [TxEvent.call] at h
    split at h
    . next ht =>
      simp only [Option.some.injEq, Prod.mk.injEq] at h
      simp [TxSystem.step, oldProtocolIqSamples, ht, h]
    . simp at h
  | _ => simp [TxEvent.call] at h

theorem step_of_not_call {e : TxEvent} (h : e.call = none) (y : TxSystem)
    : (y.step e).ring.buf = y.ring.buf ∧ (y.step e).ring.inptr = y.ring.inptr
      ∧ (y.step e).ring.count = y.ring.count := by
  cases e with
  | audio transmitting c ls rs =>
    cases transmitting
    . simp [TxEvent.call] at h
    . exact ⟨rfl, rfl, rfl⟩
  | iq transmitting c is qs sd =>
    cases transmitting
    . exact ⟨rfl, rfl, rfl⟩
    . simp [TxEvent.call] at h
  | semWait =>
    simp only [TxSystem.step, TxSystem.semWait]
    split
    . split <;> exact ⟨rfl, rfl, rfl⟩
    . exact ⟨rfl, rfl, rfl⟩
  | dequeue =>
    simp only [TxSystem.step, TxSystem.dequeue]
    split
    . split <;> exact ⟨rfl, rfl, rfl⟩
    . exact ⟨rfl, rfl, rfl⟩
  | send =>
    simp only [TxSystem.step, TxSystem.send]
    split <;> exact ⟨rfl, rfl, rfl⟩
  | stop => exact ⟨rfl, rfl, rfl⟩
  | run => exact ⟨rfl, rfl, rfl⟩

structure TxRing.Stands (r : TxRing) (q : BlockQueue TxSample) : Prop where
  inptr_dvd : 1008 ∣ r.inptr
  outptr_dvd : 1008 ∣ r.outptr
  rep : Represents txGeometry TxSample.bytes r.buf (r.inptr / 1008) (r.outptr / 1008) q
  count_lt : r.count < 126
  cur_eq : q.cur.length = r.count.toNat

namespace TxRing.Stands

variable {r : TxRing} {q : BlockQueue TxSample}

theorem inptr_eq (h : r.Stands q) : 1008 * (r.inptr / 1008) = r.inptr :=
  Nat.mul_div_cancel' h.inptr_dvd

theorem outptr_eq (h : r.Stands q) : 1008 * (r.outptr / 1008) = r.outptr :=
  Nat.mul_div_cancel' h.outptr_dvd

theorem nptr_eq {i : Nat} (h : i < 32) : TxRing.nptr (1008 * i) = 1008 * Ring.next 32 i := by
  rw [Ring.next_eq_ite h]
  unfold TxRing.nptr txRingBufLen
  split <;> split <;> omega

theorem nptr_inptr (h : r.Stands q)
    : TxRing.nptr r.inptr = 1008 * Ring.next 32 (r.inptr / 1008) := by
  rw [← nptr_eq h.rep.inp_lt, h.inptr_eq]

theorem nptr_outptr (h : r.Stands q)
    : TxRing.nptr r.outptr = 1008 * Ring.next 32 (r.outptr / 1008) := by
  rw [← nptr_eq h.rep.out_lt, h.outptr_eq]

theorem nptr_ne_iff (h : r.Stands q)
    : TxRing.nptr r.inptr ≠ r.outptr ↔ Ring.next 32 (r.inptr / 1008) ≠ r.outptr / 1008 := by
  have := h.outptr_eq
  rw [h.nptr_inptr]
  omega

theorem iptr_eq (h : r.Stands q)
    : r.iptr = 1008 * (r.inptr / 1008) + 8 * q.cur.length := by
  rw [h.inptr_eq, h.cur_eq]
  rfl

theorem writeSafe (h : r.Stands q) (hcount : 0 ≤ r.count) : r.WriteSafe := by
  have hlt : q.cur.length < 126 := by
    have := h.cur_eq
    have := h.count_lt
    omega
  have hinp : r.inptr / 1008 < 32 := h.rep.inp_lt
  rw [TxRing.WriteSafe, h.iptr_eq]
  constructor
  . unfold txRingBufLen
    omega
  . intro p hp
    have hfill := h.rep.fill_eq
    simp only [TxRing.unread, List.mem_map, List.mem_range] at hp
    have ⟨k, hk, hpk⟩ := hp
    have := h.rep.disjoint (k := k) (by rw [← hfill]; exact hk) hlt
    simp only [blockLen_txGeometry, blocks_txGeometry, width_txGeometry] at this
    omega

theorem store (h : r.Stands q) (hcount : 0 ≤ r.count) (s : TxSample)
    : (r.store s).Stands (q.put s)
      ∨ (r.store s).Stands (q.put s).flush
      ∨ (r.store s).Stands (q.put s).discard := by
  have hcur := h.cur_eq
  have hlt := h.count_lt
  have hput := h.rep.put TxSample.length_bytes (a := s) (by simp; omega)
  have hlen : (q.put s).cur.length = r.count.toNat + 1 := by simp [BlockQueue.put, hcur]
  simp only [blockLen_txGeometry, width_txGeometry] at hput
  rw [← h.iptr_eq] at hput
  unfold TxRing.store
  dsimp only
  split
  . next hfull =>
    split
    . next hne =>
      -- the block is complete and there is room for the next one
      have hflush := hput.flush (by rw [hlen]; simp; omega) (h.nptr_ne_iff.mp hne)
      refine .inr (.inl ?_)
      constructor
      case inptr_dvd =>
        dsimp only
        rw [h.nptr_inptr]
        exact Nat.dvd_mul_right _ _
      case outptr_dvd => exact h.outptr_dvd
      case rep =>
        dsimp only
        rw [h.nptr_inptr, Nat.mul_div_cancel_left _ (by decide)]
        exact hflush
      case count_lt => simp
      case cur_eq => rfl
    . -- the ring buffer is full: the block is given up and samples are skipped
      refine .inr (.inr ?_)
      exact ⟨h.inptr_dvd, h.outptr_dvd, hput.discard, by simp, rfl⟩
  . refine .inl ⟨h.inptr_dvd, h.outptr_dvd, hput, by dsimp only; omega, ?_⟩
    rw [hlen]
    dsimp only
    omega

theorem skip (h : r.Stands q) (hcount : r.count < 0)
    : TxRing.Stands { r with count := r.count + 1 } q := by
  refine ⟨h.inptr_dvd, h.outptr_dvd, h.rep, by dsimp only; omega, ?_⟩
  rw [h.cur_eq]
  dsimp only
  omega

theorem reset (h : r.Stands q) (hcount : r.count = 0) (tx : Bool)
    : (r.reset tx).Stands BlockQueue.empty :=
  ⟨h.outptr_dvd, h.outptr_dvd, h.rep.reset, h.count_lt, by simp [TxRing.reset, hcount]; rfl⟩

end TxRing.Stands

structure TxHistory.Inv (h : TxHistory) : Prop where
  ring : ∃ q, h.sys.ring.Stands q ∧ q.Within h.accepted
  thread : ∀ b1 b2, h.sys.thread = .sending b1 b2 → IsBlockOf h.held b1 b2

theorem TxHistory.inv_init : TxHistory.init.Inv where
  ring := by
    refine ⟨BlockQueue.empty, ⟨by simp [init, TxSystem.init, TxRing.init], by
      simp [init, TxSystem.init, TxRing.init], ?_, by decide, rfl⟩, BlockQueue.within_empty⟩
    exact represents_empty (by decide)
  thread := by
    intro b1 b2 h
    simp [init, TxSystem.init] at h

section Step

variable {h : TxHistory} {e : TxEvent}

theorem target_stands (hinv : h.Inv) {tx : Bool} {s : TxSample} (hcall : e.call = some (tx, s))
    (hclean : CleanTransition h e) (hcount : 0 ≤ h.sys.ring.count)
    : ∃ q log, (h.sys.ring.target tx).Stands q ∧ q.Within log ∧ h.log e = log ++ [s] := by
  have ⟨q, hq, hwithin⟩ := hinv.ring
  have hnot : ¬ h.sys.ring.count < 0 := by omega
  simp only [CleanTransition, hcall] at hclean
  simp only [TxHistory.log, hcall, hnot, ↓reduceIte, TxRing.target]
  split
  . next ht =>
    exact ⟨BlockQueue.empty, [], hq.reset (hclean hcount ht) tx, BlockQueue.within_empty, rfl⟩
  . exact ⟨q, h.accepted, hq, hwithin, rfl⟩

theorem step_ring_of_call (hinv : h.Inv) {tx : Bool} {s : TxSample}
    (hcall : e.call = some (tx, s)) (hclean : CleanTransition h e)
    : ∃ q, (h.step e).sys.ring.Stands q ∧ q.Within (h.step e).accepted := by
  simp only [TxHistory.step, step_of_call hcall, TxRing.produce_eq]
  split
  . next hneg =>
    have ⟨q, hq, hwithin⟩ := hinv.ring
    have hlog : h.log e = h.accepted := by simp [TxHistory.log, hcall, hneg]
    rw [hlog]
    exact ⟨q, hq.skip hneg, hwithin⟩
  . next hcount =>
    have ⟨q, log, hq, hwithin, hlog⟩ := target_stands hinv hcall hclean (by omega)
    have hcount' : 0 ≤ (h.sys.ring.target tx).count := by
      unfold TxRing.target
      split
      . simp only [TxRing.reset]
        omega
      . omega
    have hput := hwithin.put s
    rw [hlog]
    cases hq.store hcount' s with
    | inl hq => exact ⟨_, hq, hput⟩
    | inr hq =>
      cases hq with
      | inl hq => exact ⟨_, hq, hput.flush⟩
      | inr hq => exact ⟨_, hq, hput.discard⟩

theorem dequeue_inv (hinv : h.Inv) : (h.step .dequeue).Inv := by
  have ⟨q, hq, hwithin⟩ := hinv.ring
  have hstep : (h.step .dequeue).sys = h.sys.dequeue := rfl
  have hheld : (h.step .dequeue).held = if h.Dequeues .dequeue then h.accepted else h.held := rfl
  cases hthread : h.sys.thread with
  | waiting =>
    have hsys : h.sys.dequeue = h.sys := by simp [TxSystem.dequeue, hthread]
    refine ⟨⟨q, by rw [hstep, hsys]; exact hq, hwithin⟩, ?_⟩
    intro b1 b2 hb
    rw [hstep, hsys, hthread] at hb
    simp at hb
  | sending c1 c2 =>
    have hsys : h.sys.dequeue = h.sys := by simp [TxSystem.dequeue, hthread]
    refine ⟨⟨q, by rw [hstep, hsys]; exact hq, hwithin⟩, ?_⟩
    intro b1 b2 hb
    rw [hstep, hsys] at hb
    rw [hheld, if_neg (by simp [TxHistory.Dequeues, hthread])]
    exact hinv.thread b1 b2 hb
  | ready =>
    cases Decidable.em (h.sys.ring.inptr = h.sys.ring.outptr) with
    | inl heq =>
      have hsys : h.sys.dequeue = { h.sys with thread := .waiting } := by
        simp [TxSystem.dequeue, hthread, heq]
      refine ⟨⟨q, by rw [hstep, hsys]; exact hq, hwithin⟩, ?_⟩
      intro b1 b2 hb
      rw [hstep, hsys] at hb
      simp at hb
    | inr hne =>
      have hnil : q.full ≠ [] := by
        intro hnil
        have := hq.rep.full_nil_iff.mp hnil
        have := hq.inptr_eq
        have := hq.outptr_eq
        omega
      rcases q with ⟨full, cur⟩
      cases full with
      | nil => simp at hnil
      | cons blk full =>
        have hread := hq.rep.read TxSample.length_bytes
        have hlen := hq.rep.full_length blk (by simp)
        have hinfix := hwithin.full blk (by simp)
        simp only [blockLen_txGeometry, hq.outptr_eq] at hread
        constructor
        case ring =>
          refine ⟨⟨full, cur⟩, ?_, hwithin.tail⟩
          simp only [hstep, TxSystem.dequeue, hthread, hne, ↓reduceIte]
          refine ⟨hq.inptr_dvd, ?_, ?_, hq.count_lt, hq.cur_eq⟩
          . dsimp only
            rw [hq.nptr_outptr]
            exact Nat.dvd_mul_right _ _
          . dsimp only
            rw [hq.nptr_outptr, Nat.mul_div_cancel_left _ (by decide)]
            exact hq.rep.pop
        case thread =>
          intro b1 b2 hb
          have hdeq : h.Dequeues .dequeue := by simp [TxHistory.Dequeues, hthread, hne]
          simp only [hstep, TxSystem.dequeue, hthread, hne, ↓reduceIte, TxiqThread.sending.injEq]
            at hb
          rw [hheld, if_pos hdeq]
          refine ⟨blk, hinfix, hlen, ?_⟩
          rw [← hb.1, ← hb.2, readCells_append]
          exact hread

theorem step_thread (hinv : h.Inv) (hne : e ≠ .dequeue)
    : ∀ b1 b2, (h.step e).sys.thread = .sending b1 b2 → IsBlockOf (h.step e).held b1 b2 := by
  intro b1 b2 hb
  have hheld : (h.step e).held = h.held := by
    simp only [TxHistory.step]
    rw [if_neg]
    cases e <;> simp_all [TxHistory.Dequeues]
  rw [hheld]
  apply hinv.thread
  simp only [TxHistory.step, TxSystem.step] at hb
  cases e with
  | dequeue => simp at hne
  | semWait =>
    simp only [TxSystem.semWait] at hb
    split at hb
    . split at hb
      . exact hb
      . dsimp only at hb
        split at hb <;> simp at hb
    . exact hb
  | send =>
    simp only [TxSystem.send] at hb
    split at hb
    . simp at hb
    . exact hb
  | _ => exact hb

theorem step_ring_of_not_call (hinv : h.Inv) (hcall : e.call = none) (hne : e ≠ .dequeue)
    : ∃ q, (h.step e).sys.ring.Stands q ∧ q.Within (h.step e).accepted := by
  have ⟨q, hq, hwithin⟩ := hinv.ring
  have ⟨hbuf, hinptr, hcount⟩ := step_of_not_call hcall h.sys
  have hout : (h.sys.step e).ring.outptr = h.sys.ring.outptr := by
    cases e with
    | audio transmitting c ls rs =>
      cases transmitting
      . simp [TxEvent.call] at hcall
      . rfl
    | iq transmitting c is qs sd =>
      cases transmitting
      . rfl
      . simp [TxEvent.call] at hcall
    | semWait =>
      simp only [TxSystem.step, TxSystem.semWait]
      split
      . split <;> rfl
      . rfl
    | dequeue => simp at hne
    | send =>
      simp only [TxSystem.step, TxSystem.send]
      split <;> rfl
    | stop => rfl
    | run => rfl
  refine ⟨q, ?_, by simpa [TxHistory.step, TxHistory.log, hcall] using hwithin⟩
  constructor
  case inptr_dvd => simpa [TxHistory.step, hinptr] using hq.inptr_dvd
  case outptr_dvd => simpa [TxHistory.step, hout] using hq.outptr_dvd
  case rep => simpa [TxHistory.step, hbuf, hinptr, hout] using hq.rep
  case count_lt => simpa [TxHistory.step, hcount] using hq.count_lt
  case cur_eq => simpa [TxHistory.step, hcount] using hq.cur_eq

theorem TxHistory.inv_step (hinv : h.Inv) (hclean : CleanTransition h e) : (h.step e).Inv := by
  cases hcall : e.call with
  | some p =>
    have hne : e ≠ .dequeue := by
      intro he
      subst he
      simp [TxEvent.call] at hcall
    exact ⟨step_ring_of_call hinv hcall hclean, step_thread hinv hne⟩
  | none =>
    cases e with
    | dequeue => exact dequeue_inv hinv
    | _ =>
      exact ⟨step_ring_of_not_call hinv hcall (by simp), step_thread hinv (by simp)⟩

theorem TxHistory.Inv.blockIntegrity (hinv : h.Inv) (hclean : CleanTransition h e)
    : BlockIntegrity h e where
  block := (TxHistory.inv_step hinv hclean).thread
  write := by
    intro tx s hcall hcount
    have ⟨q, log, hq, hwithin, hlog⟩ := target_stands hinv hcall hclean hcount
    apply hq.writeSafe
    unfold TxRing.target
    split <;> exact hcount

end Step

theorem blockIntegrity_of_cleanTransitions (es : List TxEvent)
    (hclean : Run.Along TxHistory.step CleanTransition TxHistory.init es)
    : Run.Along TxHistory.step BlockIntegrity TxHistory.init es :=
  Run.along_of_invariant (fun _ _ hinv h => TxHistory.inv_step hinv h)
    (fun _ _ hinv h => hinv.blockIntegrity h) TxHistory.inv_init hclean

theorem blockIntegrity_audio_then_iq
    : Run.Along TxHistory.step BlockIntegrity TxHistory.init
        (.run :: List.replicate 126 (.audio false ⟨.hermes, false⟩ 1 2)
          ++ [.semWait, .dequeue, .send, .iq true ⟨.hermes, false⟩ 3 4 5]) :=
  blockIntegrity_of_cleanTransitions _ (by decide +kernel)

theorem not_blockIntegrity_of_short_log {h : TxHistory} (hdeq : h.Dequeues .dequeue)
    (hlen : (h.step .dequeue).held.length < 126)
    : ¬ BlockIntegrity h .dequeue := by
  intro hint
  have ⟨b1, b2, hsending⟩ := hdeq.sending
  have ⟨blk, hinfix, hblk, _⟩ := hint.block b1 b2 hsending
  have := hinfix.length_le
  omega

def partialBlockRun : List TxEvent :=
  .run :: .audio false ⟨.hermes, false⟩ 1 2
    :: List.replicate 125 (.iq true ⟨.hermes, false⟩ 3 4 5) ++ [.semWait]

theorem not_blockIntegrity_partial_block
    : ¬ ∀ es, Run.Along TxHistory.step BlockIntegrity TxHistory.init es := by
  intro hall
  apply not_blockIntegrity_of_short_log
    (h := Run.exec TxHistory.step TxHistory.init partialBlockRun)
  . decide +kernel
  . decide +kernel
  . exact (hall (partialBlockRun ++ .dequeue :: [])).at

end OldProtocol

/-!
The semaphore of the transmit ring buffer: there is a token for each unread block, as long as the consumer takes
none that is needed while the protocol is stopped.
-/

namespace OldProtocol

namespace TxRing

def unreadBlocks (r : TxRing) : Nat :=
  Ring.fill 32 (r.inptr / 1008) (r.outptr / 1008)

theorem length_unread (r : TxRing) : r.unread.length = r.unreadBlocks := by
  simp [unread, unreadBlocks]

structure Aligned (r : TxRing) : Prop where
  inptr_lt : r.inptr / 1008 < 32
  outptr_lt : r.outptr / 1008 < 32
  inptr_eq : r.inptr = 1008 * (r.inptr / 1008)
  outptr_eq : r.outptr = 1008 * (r.outptr / 1008)

variable {r : TxRing}

theorem nptr_eq {ptr : Nat} (h : ptr / 1008 < 32) (heq : ptr = 1008 * (ptr / 1008))
    : nptr ptr = 1008 * Ring.next 32 (ptr / 1008) := by
  rw [← Stands.nptr_eq h, ← heq]

namespace Aligned

theorem inptr_eq_outptr_iff (h : r.Aligned) : r.inptr = r.outptr ↔ r.unreadBlocks = 0 := by
  have hin := h.inptr_eq
  have hout := h.outptr_eq
  unfold unreadBlocks
  rw [Ring.fill_eq_zero_iff h.inptr_lt h.outptr_lt]
  omega

-- a block more, if there is room
theorem push (h : r.Aligned) (hroom : nptr r.inptr ≠ r.outptr)
    : Aligned { r with inptr := nptr r.inptr }
      ∧ unreadBlocks { r with inptr := nptr r.inptr } = r.unreadBlocks + 1 := by
  have hin := h.inptr_eq
  have hout := h.outptr_eq
  rw [nptr_eq h.inptr_lt hin] at hroom ⊢
  have hlt := Ring.next_lt (N := 32) (by decide) (r.inptr / 1008)
  have hdiv : 1008 * Ring.next 32 (r.inptr / 1008) / 1008 = Ring.next 32 (r.inptr / 1008) :=
    Nat.mul_div_cancel_left _ (by decide)
  refine ⟨⟨?_, h.outptr_lt, ?_, hout⟩, ?_⟩
  . dsimp only
    rw [hdiv]
    exact hlt
  . dsimp only
    rw [hdiv]
  . unfold unreadBlocks
    dsimp only
    rw [hdiv]
    apply Ring.fill_next_inp h.inptr_lt h.outptr_lt
    omega

-- a block less, if there is one
theorem pop (h : r.Aligned) (hne : r.inptr ≠ r.outptr)
    : Aligned { r with outptr := nptr r.outptr }
      ∧ unreadBlocks { r with outptr := nptr r.outptr } + 1 = r.unreadBlocks := by
  have hin := h.inptr_eq
  have hout := h.outptr_eq
  rw [nptr_eq h.outptr_lt hout]
  have hlt := Ring.next_lt (N := 32) (by decide) (r.outptr / 1008)
  have hdiv : 1008 * Ring.next 32 (r.outptr / 1008) / 1008 = Ring.next 32 (r.outptr / 1008) :=
    Nat.mul_div_cancel_left _ (by decide)
  refine ⟨⟨h.inptr_lt, ?_, hin, ?_⟩, ?_⟩
  . dsimp only
    rw [hdiv]
    exact hlt
  . dsimp only
    rw [hdiv]
  . unfold unreadBlocks
    dsimp only
    rw [hdiv]
    apply Ring.fill_next_out h.inptr_lt h.outptr_lt
    omega

theorem target (h : r.Aligned) (tx : Bool)
    : (r.target tx).Aligned ∧ (r.target tx).unreadBlocks ≤ r.unreadBlocks
      ∧ (r.target tx).sem = r.sem := by
  unfold TxRing.target
  split
  . refine ⟨⟨h.outptr_lt, h.outptr_lt, h.outptr_eq, h.outptr_eq⟩, ?_, rfl⟩
    unfold unreadBlocks reset
    rw [Ring.fill_self]
    exact Nat.zero_le _
  . exact ⟨h, Nat.le_refl _, rfl⟩

theorem store (h : r.Aligned) (s : TxSample)
    : (r.store s).Aligned ∧ (r.store s).unreadBlocks + r.sem = r.unreadBlocks + (r.store s).sem := by
  unfold TxRing.store
  dsimp only
  split
  . split
    next hroom =>
      have ⟨haligned, hblocks⟩ := h.push hroom
      refine ⟨⟨haligned.inptr_lt, h.outptr_lt, haligned.inptr_eq, h.outptr_eq⟩, ?_⟩
      show unreadBlocks { r with inptr := nptr r.inptr } + r.sem = r.unreadBlocks + (r.sem + 1)
      omega
    next => exact ⟨⟨h.inptr_lt, h.outptr_lt, h.inptr_eq, h.outptr_eq⟩, rfl⟩
  . exact ⟨⟨h.inptr_lt, h.outptr_lt, h.inptr_eq, h.outptr_eq⟩, rfl⟩

theorem produce (h : r.Aligned) (tx : Bool) (s : TxSample)
    : (r.produce tx s).Aligned
      ∧ (r.produce tx s).unreadBlocks + r.sem ≤ r.unreadBlocks + (r.produce tx s).sem := by
  rw [produce_eq]
  split
  . exact ⟨⟨h.inptr_lt, h.outptr_lt, h.inptr_eq, h.outptr_eq⟩, Nat.le_refl _⟩
  . have ⟨htarget, hle, hsem⟩ := h.target tx
    have ⟨hstore, hblocks⟩ := htarget.store s
    refine ⟨hstore, ?_⟩
    omega

end Aligned

end TxRing

def TxiqThread.isWaiting : TxiqThread → Bool
  | .waiting => true
  | _ => false

namespace TxSystem

-- the token that the consumer has taken for the block that it dequeues next
def inHand (y : TxSystem) : Nat :=
  match y.thread with
  | .ready => 1
  | _ => 0

def Backed (y : TxSystem) : Prop :=
  y.ring.unread.length ≤ y.ring.sem + y.inHand

def consumerRound : List TxEvent :=
  [.semWait, .dequeue, .send]

-- the consumer ends what it is at, and goes on
def consumerRun (rounds : Nat) : List TxEvent :=
  [.dequeue, .send] ++ (List.replicate rounds consumerRound).flatten

-- while the protocol runs, the consumer empties the ring
def Drains (y : TxSystem) : Prop :=
  y.running = true → ∃ rounds, (Run.exec step y (consumerRun rounds)).ring.unread = []

structure NoneStranded (y : TxSystem) : Prop where
  backed : y.Backed
  drains : y.Drains

-- a token that the consumer takes while the protocol is stopped is not needed
def SparesToken (y : TxSystem) : TxEvent → Prop
  | .semWait => y.thread.isWaiting = true → y.running = false → 0 < y.ring.sem →
    y.ring.unread.length < y.ring.sem
  | _ => True

structure Wf (y : TxSystem) : Prop where
  aligned : y.ring.Aligned
  backed : y.Backed

variable {y : TxSystem}

theorem init_wf : init.Wf where
  aligned := ⟨by decide, by decide, rfl, rfl⟩
  backed := by
    unfold Backed
    rw [TxRing.length_unread]
    decide

theorem Wf.unreadBlocks_le (h : y.Wf) : y.ring.unreadBlocks ≤ y.ring.sem + y.inHand := by
  rw [← TxRing.length_unread]
  exact h.backed

theorem Wf.of_le (h : y.ring.Aligned) (hle : y.ring.unreadBlocks ≤ y.ring.sem + y.inHand) : y.Wf := by
  refine ⟨h, ?_⟩
  unfold Backed
  rw [TxRing.length_unread]
  exact hle

theorem Wf.produce (h : y.Wf) (tx : Bool) (s : TxSample)
    : Wf { y with ring := y.ring.produce tx s } := by
  have ⟨haligned, hle⟩ := h.aligned.produce tx s
  have hbacked := h.unreadBlocks_le
  refine .of_le haligned ?_
  show (y.ring.produce tx s).unreadBlocks ≤ (y.ring.produce tx s).sem + y.inHand
  omega

theorem Wf.semWait (h : y.Wf) (hspares : y.SparesToken .semWait) : y.semWait.Wf := by
  have hbacked := h.unreadBlocks_le
  unfold TxSystem.semWait
  split
  next hthread =>
    have hhand : y.inHand = 0 := by simp [inHand, hthread]
    split
    next => exact h
    next hsem =>
      refine .of_le ⟨h.aligned.inptr_lt, h.aligned.outptr_lt, h.aligned.inptr_eq, h.aligned.outptr_eq⟩ ?_
      show y.ring.unreadBlocks ≤ y.ring.sem - 1 + _
      cases hrunning : y.running with
      | true =>
        show y.ring.unreadBlocks ≤ y.ring.sem - 1 + 1
        omega
      | false =>
        have hlt := hspares (by simp [TxiqThread.isWaiting, hthread]) hrunning (by omega)
        rw [TxRing.length_unread] at hlt
        show y.ring.unreadBlocks ≤ y.ring.sem - 1 + 0
        omega
  next => exact h

theorem Wf.dequeue (h : y.Wf) : y.dequeue.Wf := by
  have hbacked := h.unreadBlocks_le
  unfold TxSystem.dequeue
  split
  next hthread =>
    have hhand : y.inHand = 1 := by simp [inHand, hthread]
    split
    next heq =>
      refine .of_le h.aligned ?_
      have hzero := h.aligned.inptr_eq_outptr_iff.mp heq
      dsimp only
      omega
    next hne =>
      obtain ⟨haligned, hblocks⟩ := h.aligned.pop hne
      have hle : y.ring.unreadBlocks ≤ y.ring.sem + 1 := by omega
      exact .of_le haligned (Nat.le_of_succ_le_succ (hblocks.trans_le hle))
  next => exact h

theorem Wf.send (h : y.Wf) : y.send.Wf := by
  have hbacked := h.unreadBlocks_le
  unfold TxSystem.send
  split
  next hthread =>
    refine .of_le h.aligned ?_
    simp only [inHand, hthread] at hbacked
    exact hbacked
  next => exact h

theorem Wf.step (h : y.Wf) {e : TxEvent} (hspares : y.SparesToken e) : (y.step e).Wf := by
  cases hcall : e.call with
  | some p =>
    rw [step_of_call hcall]
    exact h.produce p.1 p.2
  | none =>
    cases e with
    | audio transmitting c ls rs =>
      cases transmitting with
      | false => simp [TxEvent.call] at hcall
      | true => exact h
    | iq transmitting c is qs sd =>
      cases transmitting with
      | false => exact h
      | true => simp [TxEvent.call] at hcall
    | semWait => exact h.semWait hspares
    | dequeue => exact h.dequeue
    | send => exact h.send
    | stop => exact ⟨h.aligned, h.backed⟩
    | run => exact ⟨h.aligned, h.backed⟩

theorem step_semWait_of_backed (h : y.Wf) (hthread : y.thread = .waiting) (hrunning : y.running = true)
    (hblocks : y.ring.unreadBlocks ≠ 0)
    : y.step .semWait
        = { y with ring := { y.ring with sem := y.ring.sem - 1 }, thread := .ready } := by
  have hbacked := h.unreadBlocks_le
  have hsem : y.ring.sem ≠ 0 := by
    simp only [inHand, hthread] at hbacked
    omega
  simp [step, TxSystem.semWait, hthread, hrunning, hsem]

-- one block for each round of the consumer
theorem consumerRound_spec (h : y.Wf) (hthread : y.thread = .waiting) (hrunning : y.running = true)
    (hblocks : y.ring.unreadBlocks ≠ 0)
    : (Run.exec step y consumerRound).Wf
        ∧ (Run.exec step y consumerRound).thread = .waiting
        ∧ (Run.exec step y consumerRound).running = true
        ∧ (Run.exec step y consumerRound).ring.unreadBlocks + 1 = y.ring.unreadBlocks := by
  have hwait := step_semWait_of_backed h hthread hrunning hblocks
  have hspares : y.SparesToken .semWait := fun _ hstopped => by
    rw [hrunning] at hstopped
    contradiction
  have hwf : (Run.exec step y consumerRound).Wf := (h.step hspares).dequeue.send
  have hne : y.ring.inptr ≠ y.ring.outptr := by
    rw [Ne, h.aligned.inptr_eq_outptr_iff]
    exact hblocks
  have hround : Run.exec step y consumerRound
      = { y with
          ring := { y.ring with
            sem := y.ring.sem - 1
            outptr := TxRing.nptr y.ring.outptr }
          thread := .waiting } := by
    show ((y.step .semWait).step .dequeue).step .send = _
    rw [hwait]
    simp [step, TxSystem.dequeue, TxSystem.send, hne]
  refine ⟨hwf, ?_, ?_, ?_⟩
  . rw [hround]
  . rw [hround]
    exact hrunning
  . obtain ⟨_, hpop⟩ := h.aligned.pop hne
    rw [hround]
    exact hpop

theorem exists_rounds (h : y.Wf) (hthread : y.thread = .waiting) (hrunning : y.running = true)
    : ∃ rounds, (Run.exec step y (List.replicate rounds consumerRound).flatten).ring.unreadBlocks = 0 := by
  generalize hn : y.ring.unreadBlocks = n
  induction n generalizing y with
  | zero => exact ⟨0, hn⟩
  | succ n ih =>
    have ⟨hwf, hthread', hrunning', hless⟩ := consumerRound_spec h hthread hrunning (by omega)
    have ⟨rounds, hrounds⟩ := ih hwf hthread' hrunning' (by omega)
    refine ⟨rounds + 1, ?_⟩
    rw [List.replicate_succ, List.flatten_cons, Run.exec_append]
    exact hrounds

theorem Wf.drains (h : y.Wf) : y.Drains := by
  intro hrunning
  have hend : (Run.exec TxSystem.step y [.dequeue, .send]).thread = .waiting
      ∧ (Run.exec TxSystem.step y [.dequeue, .send]).running = true := by
    show (y.dequeue.send).thread = .waiting ∧ (y.dequeue.send).running = true
    cases hthread : y.thread with
    | waiting => simp [TxSystem.dequeue, TxSystem.send, hthread, hrunning]
    | ready =>
      by_cases heq : y.ring.inptr = y.ring.outptr
      . simp [TxSystem.dequeue, TxSystem.send, hthread, hrunning, heq]
      . simp [TxSystem.dequeue, TxSystem.send, hthread, hrunning, heq]
    | sending b1 b2 => simp [TxSystem.dequeue, TxSystem.send, hthread, hrunning]
  obtain ⟨rounds, hrounds⟩ := exists_rounds h.dequeue.send hend.1 hend.2
  refine ⟨rounds, ?_⟩
  rw [consumerRun, Run.exec_append, ← List.length_eq_zero_iff, TxRing.length_unread]
  exact hrounds

theorem Wf.noneStranded (h : y.Wf) : y.NoneStranded :=
  ⟨h.backed, h.drains⟩

theorem sparesToken_of_backed {e : TxEvent} (hbacked : (y.step e).Backed) : y.SparesToken e := by
  cases e with
  | semWait =>
    intro hwaiting hstopped hsem
    cases hthread : y.thread with
    | waiting =>
      have hstep : y.step .semWait
          = { y with ring := { y.ring with sem := y.ring.sem - 1 }, thread := .waiting } := by
        have hne : y.ring.sem ≠ 0 := by omega
        simp [TxSystem.step, TxSystem.semWait, hthread, hstopped, hne]
      rw [hstep] at hbacked
      have hbacked : y.ring.unread.length ≤ y.ring.sem - 1 + 0 := hbacked
      omega
    | ready => simp [TxiqThread.isWaiting, hthread] at hwaiting
    | sending b1 b2 => simp [TxiqThread.isWaiting, hthread] at hwaiting
  | _ => trivial

/--
There is a token for each unread block at all times, and a running consumer empties the ring, exactly if each token
that is taken while the protocol is stopped was one too many.
-/
theorem noneStranded_iff (es : List TxEvent)
    : (∀ es', es' <+: es → (Run.exec step init es').NoneStranded)
        ↔ Run.Along step SparesToken init es :=
  Run.forall_prefix_iff_along_of (I := Wf) (J := NoneStranded) (P := SparesToken)
    (fun _ _ h hspares => h.step hspares) (fun _ _ _ hnone => sparesToken_of_backed hnone.backed)
    (fun _ h => h.noneStranded) init_wf es

-- the protocol is stopped before the consumer takes the token of a block
theorem block_stranded
    : let y := Run.exec step init
        (.run :: List.replicate 126 (.audio false ⟨.hermes, false⟩ 1 2) ++ [.stop, .semWait, .run])
      y.ring.unread.length = 1 ∧ y.ring.sem = 0 ∧ y.inHand = 0 := by
  decide +kernel

end TxSystem

end OldProtocol
