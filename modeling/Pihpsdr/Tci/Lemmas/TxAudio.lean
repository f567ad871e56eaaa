import Pihpsdr.Lib.BlockRing
import Pihpsdr.Lib.Run
import Pihpsdr.Tci.Impl.TxAudio

/-!
The transmitter gets the samples that were received, in order, and after a reset or an underrun none of them
before enough are there, as long as it does not come with the marks of the time before a reset.
-/

namespace Tci

variable {α : Type}

namespace TciTxAudioRing

variable {ring : TciTxAudioRing α} {q : List α}

-- what is left in the cache
def cached (ring : TciTxAudioRing α) : List α :=
  readCells ring.cache ring.cachePos (ring.cacheLen - ring.cachePos)

theorem put_eq (ring : TciTxAudioRing α) (xs : List α)
    : ∃ samples inpt, ring.put xs = { ring with samples, inpt } := by
  fun_induction ring.put xs with
  | case1 ring => exact ⟨ring.samples, ring.inpt, rfl⟩
  | case2 ring x xs newpt hfull => exact ⟨ring.samples, ring.inpt, rfl⟩
  | case3 ring x xs newpt hroom ih => exact ih

theorem put_holds (h : Ring.Holds tciTxAudioRingFrames ring.samples ring.inpt ring.outpt q)
    (xs : List α)
    : ∃ k, Ring.Holds tciTxAudioRingFrames (ring.put xs).samples (ring.put xs).inpt
          (ring.put xs).outpt (q ++ xs.take k)
        ∧ (q.length + xs.length < tciTxAudioRingFrames → xs.take k = xs) := by
  induction xs generalizing ring q with
  | nil => exact ⟨0, by simpa [put] using h, fun _ => rfl⟩
  | cons x xs ih =>
    unfold put
    dsimp only
    split
    next hfull =>
      refine ⟨0, by simpa using h, fun hlength => ?_⟩
      rw [h.full_iff] at hfull
      simp at hlength
      omega
    next hroom =>
      have ⟨k, hholds, hk⟩ := @ih
        { ring with
          samples := fun i => if i = ring.inpt then x else ring.samples i
          inpt := Ring.next tciTxAudioRingFrames ring.inpt } _ (h.push hroom x)
      refine ⟨k + 1, by simpa using hholds, fun hlength => ?_⟩
      rw [List.take_succ_cons, hk]
      simp at hlength ⊢
      omega

theorem available_eq (h : Ring.Holds tciTxAudioRingFrames ring.samples ring.inpt ring.outpt q)
    : ring.available = q.length :=
  h.fill_eq

theorem copy_spec {newpt : Nat} (h : Ring.Holds tciTxAudioRingFrames ring.samples ring.inpt newpt q)
    (room : Nat)
    : let r := ring.copy newpt room
      readCells r.cache 0 r.cacheLen = readCells ring.cache 0 ring.cacheLen ++ q.take room
        ∧ Ring.Holds tciTxAudioRingFrames r.samples r.inpt r.outpt (q.drop room)
        ∧ r.cachePos = ring.cachePos := by
  induction room generalizing ring newpt q with
  | zero => exact ⟨by simp [copy], h, rfl⟩
  | succ room ih =>
    unfold copy
    have hempty : newpt = ring.inpt ↔ q = [] := by
      rw [eq_comm, ← Ring.fill_eq_zero_iff h.inp_lt h.out_lt, h.fill_eq, List.length_eq_zero_iff]
    cases q with
    | nil =>
      rw [if_pos (hempty.mpr rfl)]
      exact ⟨by simp, by simpa using h, rfl⟩
    | cons x q =>
      rw [if_neg (by simp [hempty])]
      have ⟨hcache, hholds, hpos⟩ := @ih
        { ring with
          cache := fun i => if i = ring.cacheLen then ring.samples newpt else ring.cache i
          cacheLen := ring.cacheLen + 1 } _ _ h.pop
      refine ⟨?_, hholds, hpos⟩
      have hwrite := @readCells_write_succ α ring.cache 0 ring.cacheLen (ring.samples newpt)
      rw [Nat.zero_add] at hwrite
      rw [hcache, hwrite, h.head_eq, List.take_succ_cons, List.append_assoc]
      rfl

-- whether the transmitter gets samples from the ring
def Due (prebuffering : Bool) (q : List α) : Prop :=
  q ≠ [] ∧ (tciTxPrebufferFrames ≤ q.length ∨ prebuffering = false)

theorem refill_of_due (h : Ring.Holds tciTxAudioRingFrames ring.samples ring.inpt ring.outpt q)
    {prebuffering : Bool} (hdue : Due prebuffering q)
    : ∃ ring' x q', ring.refill prebuffering = (ring', false, some x)
        ∧ Ring.Holds tciTxAudioRingFrames ring'.samples ring'.inpt ring'.outpt q'
        ∧ x :: ring'.cached ++ q' = q := by
  have ⟨hne, hlength⟩ := hdue
  have havailable : available { ring with cachePos := 0, cacheLen := 0 } = q.length :=
    available_eq h
  have hpos : 0 < q.length := List.length_pos_iff.mpr hne
  have hflag : (if q.length ≤ 0 then true
      else if q.length ≥ tciTxPrebufferFrames then false else prebuffering) = false := by
    rw [if_neg (by omega)]
    split
    next => rfl
    next hfew => exact hlength.resolve_left hfew
  have ⟨hcache, hholds, hcachePos⟩ := @copy_spec α
    { ring with cachePos := 0, cacheLen := 0 } q ring.outpt h tciTxAudioFrameFrames
  have hcacheLen := congrArg List.length hcache
  unfold refill
  dsimp only
  rw [havailable, hflag]
  generalize copy { ring with cachePos := 0, cacheLen := 0 } ring.outpt tciTxAudioFrameFrames = r
    at hcache hholds hcachePos hcacheLen
  simp only [length_readCells, List.length_append, List.length_take, Nat.zero_add] at hcacheLen
  have hcachePos : r.cachePos = 0 := hcachePos
  have hcache : readCells r.cache 0 r.cacheLen = q.take tciTxAudioFrameFrames := hcache
  have hlt : 0 < r.cacheLen := by
    rw [hcacheLen]
    exact lt_min (by decide) hpos
  rw [Bool.not_false, if_pos rfl, hcachePos, if_pos hlt]
  refine ⟨_, _, _, rfl, hholds, ?_⟩
  show r.cache 0 :: readCells r.cache (0 + 1) (r.cacheLen - (0 + 1)) ++ _ = q
  rw [← readCells_succ, Nat.sub_add_cancel hlt, hcache, List.take_append_drop]

theorem refill_of_not_due
    (h : Ring.Holds tciTxAudioRingFrames ring.samples ring.inpt ring.outpt q)
    {prebuffering : Bool} (hdue : ¬Due prebuffering q)
    : ring.refill prebuffering = ({ ring with cachePos := 0, cacheLen := 0 }, true, none) := by
  have havailable : available { ring with cachePos := 0, cacheLen := 0 } = q.length :=
    available_eq h
  have hflag : (if q.length ≤ 0 then true
      else if q.length ≥ tciTxPrebufferFrames then false else prebuffering) = true := by
    split
    next => rfl
    next hpos =>
      have hne : q ≠ [] := by
        intro hnil
        simp [hnil] at hpos
      split
      next hmany => exact absurd ⟨hne, .inl hmany⟩ hdue
      next =>
        cases prebuffering with
        | true => rfl
        | false => exact absurd ⟨hne, .inr rfl⟩ hdue
  unfold refill
  dsimp only
  rw [havailable, hflag]
  rfl

end TciTxAudioRing

open TciTxAudioRing

namespace TxAudio

variable {s : TxAudio α} {q : List α}

-- the samples that were taken from the ring and may still be returned
def held (s : TxAudio α) : List α :=
  let unread := s.ring.cacheLen - s.ring.cachePos
  readCells s.ring.cache s.ring.cachePos (if s.call = .cached then max 1 unread else unread)

def samples (s : TxAudio α) : List α :=
  s.returned.filterMap id

-- the samples returned are those received, in order and none twice, and none of them came too early
structure Lawful (s : TxAudio α) : Prop where
  order : s.samples.Sublist s.received
  early : s.early = false

structure Wf (s : TxAudio α) (q : List α) : Prop where
  holds : Ring.Holds tciTxAudioRingFrames s.ring.samples s.ring.inpt s.ring.outpt q
  quiet : s.Quiet → q.length = s.gathered ∧ s.ring.cacheLen ≤ s.ring.cachePos
  order : (s.samples ++ (s.held ++ q)).Sublist s.received
  early : s.early = false

theorem Wf.lawful (h : s.Wf q) : s.Lawful where
  order := (List.sublist_append_left _ _).trans h.order
  early := h.early

theorem start_wf (samples cache : Nat → α) : (start samples cache).Wf [] where
  holds := Ring.Holds.empty (Nat.zero_lt_succ _)
  quiet := fun _ => ⟨rfl, Nat.le_refl 0⟩
  order := List.Sublist.refl []
  early := rfl

/--
While samples are to be gathered, a call does not come with one that it found in the cache, and under the mutex it
finds the ring empty or the mark for pre-buffering set.
-/
def Buffered (s : TxAudio α) : TxAudioEvent α → Prop
  | .take => s.Quiet → s.call ≠ .cached
      ∧ (s.call = .locking → s.prebuffering = true ∨ s.ring.available = 0)
  | _ => True

theorem Wf.frame (h : s.Wf q) (stream : TciStream α) (len : Nat)
    : ∃ q', (s.frame stream len).Wf q' := by
  have ⟨k, hholds, hk⟩ := put_holds h.holds (stream.left len)
  have ⟨samples, inpt, hput⟩ := put_eq s.ring (stream.left len)
  refine ⟨q ++ (stream.left len).take k, hholds, ?_, ?_, h.early⟩
  . intro hquiet
    have hquiet : s.gathered + (stream.left len).length < tciTxPrebufferFrames := hquiet
    have ⟨hlength, hcache⟩ := h.quiet (Nat.lt_of_le_of_lt (Nat.le_add_right _ _) hquiet)
    have hroom : q.length + (stream.left len).length < tciTxAudioRingFrames := by
      rw [hlength]
      exact hquiet.trans (by decide)
    rw [hk hroom, List.length_append, hlength]
    refine ⟨rfl, ?_⟩
    show (s.ring.put (stream.left len)).cacheLen ≤ (s.ring.put (stream.left len)).cachePos
    rw [hput]
    exact hcache
  . have hheld : (s.frame stream len).held = s.held := by
      show held { s with ring := s.ring.put (stream.left len), .. } = s.held
      rw [hput]
      rfl
    have horder := h.order.append (List.take_sublist k (stream.left len))
    rw [hheld]
    show (s.samples ++ (s.held ++ (q ++ _))).Sublist (s.received ++ stream.left len)
    simpa only [List.append_assoc] using horder

theorem Wf.reset (h : s.Wf q) : s.reset.Wf [] where
  holds := Ring.Holds.empty (Nat.zero_lt_succ _)
  quiet := fun _ => ⟨rfl, Nat.zero_le _⟩
  order := by
    refine List.Sublist.trans ?_ h.order
    refine List.Sublist.append (List.Sublist.refl _) ?_
    rw [List.append_nil]
    refine List.Sublist.trans (readCells_sublist ?_) (List.sublist_append_left _ _)
    show (if s.call = .cached then max 1 (0 - s.ring.cachePos) else 0 - s.ring.cachePos) ≤ _
    rw [Nat.zero_sub]
    split <;> omega
  early := h.early

theorem look_eq (hcall : s.call = .idle) (hcache : s.ring.cacheLen ≤ s.ring.cachePos)
    : ∃ chronoCounter chronoFrames,
        s.look = { s with chronoCounter, chronoFrames, call := .locking } := by
  unfold look
  rw [hcall]
  dsimp only
  rw [if_neg (Nat.not_lt.mpr hcache)]
  exact ⟨_, _, rfl⟩

-- With the result as a variable the loops of `refill` are not evaluated.
theorem take_of_refill (hcall : s.call = .locking) {ring : TciTxAudioRing α} {prebuffering : Bool}
    {sample : Option α} (hrefill : s.ring.refill s.prebuffering = (ring, prebuffering, sample))
    : s.take = give { s with
        ring, prebuffering, gathered := if s.ring.available = 0 then 0 else s.gathered } sample := by
  unfold take
  generalize s.ring.refill s.prebuffering = p at hrefill
  subst hrefill
  rw [hcall]

theorem take_of_cached (hcall : s.call = .cached)
    : s.take = give { s with ring := { s.ring with cachePos := s.ring.cachePos + 1 } }
        (some (s.ring.cache s.ring.cachePos)) := by
  unfold take
  rw [hcall]

theorem early_take
    (h : Ring.Holds tciTxAudioRingFrames s.ring.samples s.ring.inpt s.ring.outpt q)
    (hcall : s.call = .locking) (hdue : Due s.prebuffering q) (hquiet : s.Quiet)
    : s.take.early = true := by
  have ⟨ring', x, q', hrefill, _, _⟩ := refill_of_due h hdue
  have hne : s.ring.available ≠ 0 := by
    rw [available_eq h]
    exact fun hzero => hdue.1 (List.length_eq_zero_iff.mp hzero)
  rw [take_of_refill hcall hrefill, if_neg hne]
  show (s.early || (true && decide s.Quiet)) = true
  simp [hquiet]

theorem Wf.look (h : s.Wf q) : s.look.Wf q := by
  unfold TxAudio.look
  split
  next hcall =>
    refine ⟨h.holds, h.quiet, ?_, h.early⟩
    have hheld : ∀ n frames, held { s with
        chronoCounter := n
        chronoFrames := frames
        call := if s.ring.cachePos < s.ring.cacheLen then .cached else .locking } = s.held := by
      intro n frames
      unfold held
      dsimp only
      rw [hcall]
      congr 1
      split
      . simp
        omega
      . simp
    rw [hheld]
    exact h.order
  next => exact h

theorem samples_give (s : TxAudio α) (sample : Option α)
    : (s.give sample).samples = s.samples ++ sample.toList := by
  cases sample <;> simp [samples, give]

-- a sample that is in the cache
theorem Wf.take_cached (h : s.Wf q) (hbuffered : s.Buffered .take) (hcall : s.call = .cached)
    : ∃ q', s.take.Wf q' := by
  have hquiet : ¬s.Quiet := fun hquiet => (hbuffered hquiet).1 hcall
  rw [take_of_cached hcall]
  refine ⟨q, h.holds, fun hquiet' => absurd hquiet' hquiet, ?_, ?_⟩
  . rw [samples_give, List.append_assoc]
    refine List.Sublist.trans ?_ h.order
    refine List.Sublist.append (List.Sublist.refl _) ?_
    rw [← List.append_assoc]
    refine List.Sublist.append ?_ (List.Sublist.refl q)
    have hone : 1 ≤ max 1 (s.ring.cacheLen - s.ring.cachePos) := Nat.le_max_left _ _
    show (s.ring.cache s.ring.cachePos ::
      readCells s.ring.cache (s.ring.cachePos + 1) (s.ring.cacheLen - (s.ring.cachePos + 1))).Sublist
        s.held
    unfold held
    dsimp only
    rw [if_pos hcall, ← readCells_succ]
    apply readCells_sublist
    omega
  . show (s.early || (true && decide s.Quiet)) = false
    rw [h.early, decide_eq_false hquiet]
    rfl

-- a block that is long enough goes into the cache
theorem Wf.take_due (h : s.Wf q) (hbuffered : s.Buffered .take) (hcall : s.call = .locking)
    (hdue : Due s.prebuffering q) : ∃ q', s.take.Wf q' := by
  have havailable := available_eq h.holds
  have ⟨ring', x, q', hrefill, hholds, hq⟩ := refill_of_due h.holds hdue
  have hne : s.ring.available ≠ 0 := by
    rw [havailable]
    exact fun hzero => hdue.1 (List.length_eq_zero_iff.mp hzero)
  have hquiet : ¬s.Quiet := by
    intro hquiet
    have ⟨hlength, _⟩ := h.quiet hquiet
    cases (hbuffered hquiet).2 hcall with
    | inl hflag =>
      have hmany := hdue.2.resolve_right (by simp [hflag])
      rw [hlength] at hmany
      exact absurd hquiet (Nat.not_lt.mpr hmany)
    | inr hzero => exact hne hzero
  rw [take_of_refill hcall hrefill, if_neg hne]
  refine ⟨q', hholds, fun hquiet' => absurd hquiet' hquiet, ?_, ?_⟩
  . rw [samples_give]
    refine List.Sublist.trans ?_ h.order
    rw [List.append_assoc]
    refine List.Sublist.append (List.Sublist.refl _) ?_
    rw [← hq]
    exact List.sublist_append_right _ _
  . show (s.early || (true && decide s.Quiet)) = false
    rw [h.early, decide_eq_false hquiet]
    rfl

-- silence, until there is enough
theorem Wf.take_silence (h : s.Wf q) (hcall : s.call = .locking) (hdue : ¬Due s.prebuffering q)
    : ∃ q', s.take.Wf q' := by
  have havailable := available_eq h.holds
  rw [take_of_refill hcall (refill_of_not_due h.holds hdue)]
  refine ⟨q, h.holds, ?_, ?_, ?_⟩
  . intro hquiet
    refine ⟨?_, Nat.le_refl 0⟩
    have hquiet : (if s.ring.available = 0 then 0 else s.gathered) < tciTxPrebufferFrames :=
      hquiet
    show q.length = if s.ring.available = 0 then 0 else s.gathered
    split at hquiet
    next hzero =>
      rw [if_pos hzero, ← havailable, hzero]
    next hne =>
      rw [if_neg hne]
      exact (h.quiet hquiet).1
  . rw [samples_give]
    refine List.Sublist.trans ?_ h.order
    rw [List.append_assoc]
    refine List.Sublist.append (List.Sublist.refl _) ?_
    exact List.sublist_append_right _ _
  . show (s.early || (false && _)) = false
    rw [h.early]
    rfl

theorem Wf.take (h : s.Wf q) (hbuffered : s.Buffered .take) : ∃ q', s.take.Wf q' := by
  cases hcall : s.call with
  | idle =>
    refine ⟨q, ?_⟩
    unfold TxAudio.take
    rw [hcall]
    exact h
  | cached => exact h.take_cached hbuffered hcall
  | locking =>
    by_cases hdue : Due s.prebuffering q
    . exact h.take_due hbuffered hcall hdue
    . exact h.take_silence hcall hdue

theorem Wf.buffered (h : s.Wf q) (hlawful : s.take.Lawful) : s.Buffered .take := by
  intro hquiet
  have hearly := hlawful.early
  constructor
  . intro hcall
    rw [take_of_cached hcall] at hearly
    have hearly : (s.early || (true && decide s.Quiet)) = false := hearly
    simp [hquiet] at hearly
  . intro hcall
    by_cases hdue : Due s.prebuffering q
    . rw [early_take h.holds hcall hdue hquiet] at hearly
      contradiction
    . cases hflag : s.prebuffering with
      | true => exact .inl rfl
      | false =>
        right
        rw [available_eq h.holds, List.length_eq_zero_iff]
        by_contra hne
        exact hdue ⟨hne, .inr hflag⟩

/--
Whatever comes in which order: the law holds at all times exactly if no call takes a sample from the cache, or finds
the ring non-empty with the mark for pre-buffering not set, while samples are to be gathered.
-/
theorem returned_lawful_iff (samples cache : Nat → α) (events : List (TxAudioEvent α))
    : (∀ events', events' <+: events → (Run.exec step (start samples cache) events').Lawful)
        ↔ Run.Along step Buffered (start samples cache) events := by
  apply Run.forall_prefix_iff_along_of (I := fun s => ∃ q, s.Wf q) (J := Lawful) (P := Buffered)
  . rintro s event ⟨q, h⟩ hbuffered
    cases event with
    | frame stream len => exact h.frame stream len
    | reset => exact ⟨[], h.reset⟩
    | look => exact ⟨q, h.look⟩
    | take => exact h.take hbuffered
  . rintro s event ⟨q, h⟩ hlawful
    cases event with
    | take => exact h.buffered hlawful
    | _ => trivial
  . rintro s ⟨q, h⟩
    exact h.lawful
  . exact ⟨[], start_wf samples cache⟩

theorem prebuffering_take
    (h : Ring.Holds tciTxAudioRingFrames s.ring.samples s.ring.inpt s.ring.outpt q)
    (hcall : s.call = .locking) (hdue : Due s.prebuffering q)
    : s.take.prebuffering = false ∧ s.take.call = .idle := by
  have ⟨ring', x, q', hrefill, _, _⟩ := refill_of_due h hdue
  rw [take_of_refill hcall hrefill]
  exact ⟨rfl, rfl⟩

-- a whole call that goes for the mutex
theorem early_look_take
    (h : Ring.Holds tciTxAudioRingFrames s.ring.samples s.ring.inpt s.ring.outpt q)
    (hcall : s.call = .idle) (hcache : s.ring.cacheLen ≤ s.ring.cachePos)
    (hdue : Due s.prebuffering q) (hquiet : s.Quiet)
    : s.look.take.early = true := by
  have ⟨_, _, hlook⟩ := look_eq hcall hcache
  rw [hlook]
  exact early_take h rfl hdue hquiet

theorem prebuffering_look_take
    (h : Ring.Holds tciTxAudioRingFrames s.ring.samples s.ring.inpt s.ring.outpt q)
    (hcall : s.call = .idle) (hcache : s.ring.cacheLen ≤ s.ring.cachePos)
    (hdue : Due s.prebuffering q)
    : s.look.take.prebuffering = false ∧ s.look.take.call = .idle := by
  have ⟨_, _, hlook⟩ := look_eq hcall hcache
  rw [hlook]
  exact prebuffering_take h rfl hdue

theorem ring_frame (s : TxAudio α) (stream : TciStream α) (len : Nat)
    : (s.frame stream len).ring = s.ring.put (stream.left len) :=
  rfl

theorem exec_frame (s : TxAudio α) (stream : TciStream α) (len : Nat)
    : Run.exec step s [.frame stream len, .look, .take] = (s.frame stream len).look.take := by
  have hframe : s.step (.frame stream len) = s.frame stream len := rfl
  have hlook (t : TxAudio α) : t.step .look = t.look := rfl
  have htake (t : TxAudio α) : t.step .take = t.take := rfl
  rw [Run.exec_cons, Run.exec_cons, Run.exec_cons, Run.exec_nil, hframe, hlook, htake]

-- a reset leaves the mark for pre-buffering as it is
theorem early_of_reset (hflag : s.prebuffering = false) (hcall : s.call = .idle)
    {stream : TciStream α} {len : Nat} (hne : stream.left len ≠ [])
    (hfew : (stream.left len).length < tciTxPrebufferFrames)
    : (Run.exec step s [.reset, .frame stream len, .look, .take]).early = true := by
  have hempty : Ring.Holds tciTxAudioRingFrames s.reset.ring.samples s.reset.ring.inpt
      s.reset.ring.outpt [] :=
    Ring.Holds.empty (Nat.zero_lt_succ _)
  have ⟨k, hholds, hk⟩ := put_holds hempty (stream.left len)
  have ⟨samples, inpt, hput⟩ := put_eq s.reset.ring (stream.left len)
  have hroom : ([] : List α).length + (stream.left len).length < tciTxAudioRingFrames := by
    rw [List.length_nil, Nat.zero_add]
    exact hfew.trans (by decide)
  rw [hk hroom, List.nil_append, ← ring_frame] at hholds
  rw [← ring_frame] at hput
  have hcache : (s.reset.frame stream len).ring.cacheLen
      ≤ (s.reset.frame stream len).ring.cachePos := by
    rw [hput]
    exact Nat.zero_le _
  have hreset : s.step .reset = s.reset := rfl
  rw [Run.exec_cons, hreset, exec_frame]
  refine early_look_take hholds hcall hcache ⟨hne, .inr hflag⟩ ?_
  show 0 + (stream.left len).length < tciTxPrebufferFrames
  rw [Nat.zero_add]
  exact hfew

theorem length_left {stream : TciStream α} {len : Nat} (htype : stream.type = tciStreamTxAudio)
    (hlength : 2 ≤ stream.length.toNat)
    (hlen : sizeofTciStreamHeader + 4 * stream.length.toNat ≤ len)
    : (stream.left len).length = stream.length.toNat / 2 := by
  unfold TciStream.left
  rw [if_neg (by omega), if_neg (not_not_intro htype)]
  dsimp only
  rw [if_neg (by omega), if_neg (by omega), List.length_map, List.length_range]

theorem prebuffering_of_frame (samples cache : Nat → α) {stream : TciStream α} {len : Nat}
    (hmany : tciTxPrebufferFrames ≤ (stream.left len).length)
    (hroom : (stream.left len).length < tciTxAudioRingFrames)
    : let s := Run.exec step (start samples cache) [.frame stream len, .look, .take]
      s.prebuffering = false ∧ s.call = .idle := by
  have ⟨k, hholds, hk⟩ := put_holds (start_wf samples cache).holds (stream.left len)
  have ⟨samples', inpt, hput⟩ := put_eq (start samples cache).ring (stream.left len)
  rw [hk (by simpa using hroom), List.nil_append, ← ring_frame] at hholds
  rw [← ring_frame] at hput
  have hcache : ((start samples cache).frame stream len).ring.cacheLen
      ≤ ((start samples cache).frame stream len).ring.cachePos := by
    rw [hput]
    exact Nat.le_refl 0
  have hne : stream.left len ≠ [] := by
    intro hnil
    simp [hnil, tciTxPrebufferFrames] at hmany
  rw [exec_frame]
  exact prebuffering_look_take hholds rfl hcache ⟨hne, .inl hmany⟩

theorem early_after_reset
    : (Run.exec step (start (fun _ => 0) (fun _ => 0))
        ([.frame ⟨2, 8192, fun _ => 1⟩ 32832, .look, .take]
          ++ [.reset, .frame ⟨2, 2, fun _ => 1⟩ 72, .look, .take])).early = true := by
  have hmany : (TciStream.left ⟨2, 8192, fun _ => 1⟩ 32832).length = 4096 :=
    length_left rfl (by decide) (by decide)
  have hone : (TciStream.left ⟨2, 2, fun _ => 1⟩ 72).length = 1 :=
    length_left rfl (by decide) (by decide)
  have ⟨hflag, hcall⟩ := prebuffering_of_frame (fun _ => 0) (fun _ => 0) (Nat.le_of_eq hmany.symm)
    (by rw [hmany]; decide)
  rw [Run.exec_append]
  refine early_of_reset hflag hcall ?_ (by rw [hone]; decide)
  rw [← List.length_pos_iff, hone]
  exact Nat.one_pos

end TxAudio

end Tci
