import Pihpsdr.DxCluster.Impl.Panadapter
import Pihpsdr.DxCluster.Lemmas.SpotFile
import Pihpsdr.Lib.Run

/-!
What a click hits: a group of the last frame of its receiver, as long as each frame puts all of its groups into the
cache.
-/

namespace DxCluster

open Run

-- the spots that pass, from the newest to the oldest one
theorem collectSpots_eq (ring : Nat → DxSpot) (passes : DxSpot → Bool) {maxOut n idx : Nat}
    (hidx : idx < dxcMaxSpots) (hn : n ≤ dxcMaxSpots) {out : List DxSpot} (h : out.length + n ≤ maxOut)
    : collectSpots ring passes maxOut n idx out
        = out ++ ((List.range n).map fun k => ring ((idx + dxcMaxSpots - k) % dxcMaxSpots)).filter passes := by
  induction n generalizing idx out with
  | zero => simp [collectSpots]
  | succ n ih =>
    have hprev : (idx + dxcMaxSpots - 1) % dxcMaxSpots < dxcMaxSpots := Nat.mod_lt _ (by decide)
    have hlength : (if passes (ring idx) then out ++ [ring idx] else out).length + n ≤ maxOut := by
      split
      . rw [List.length_append, List.length_singleton]
        omega
      . omega
    have hwalk : (List.range n).map (fun k =>
          ring (((idx + dxcMaxSpots - 1) % dxcMaxSpots + dxcMaxSpots - k) % dxcMaxSpots))
        = (List.range n).map fun k => ring ((idx + dxcMaxSpots - (k + 1)) % dxcMaxSpots) := by
      apply List.map_congr_left
      intro k hk
      rw [List.mem_range] at hk
      unfold dxcMaxSpots at hidx hn ⊢
      have hback : ((idx + 500 - 1) % 500 + 500 - k) % 500 = (idx + 500 - (k + 1)) % 500 := by omega
      rw [hback]
    have hhead : (idx + dxcMaxSpots - 0) % dxcMaxSpots = idx := by
      rw [Nat.sub_zero, Nat.add_mod_right, Nat.mod_eq_of_lt hidx]
    rw [collectSpots, if_pos (by omega), ih hprev (by omega) hlength, List.range_succ_eq_map, List.map_cons,
      List.map_map, List.filter_cons, hwalk, hhead]
    split
    . rw [List.append_assoc, List.singleton_append]
      rfl
    . rfl

theorem querySpots_eq (r : SpotRing) {s : DxcSettings} (now : BitVec 64) (loHz hiHz : BitVec 64)
    (hshow : s.showOnPanadapter = true) (henabled : s.enabled = true)
    : querySpots r s now dxcMaxSpots loHz hiHz
        = r.spots.reverse.filter fun spot =>
            decide (loHz.toInt ≤ spot.freqHz.toInt ∧ spot.freqHz.toInt ≤ hiHz.toInt)
              && spotPassesFilters spot s now := by
  have hcount := r.count_le
  have hhead := r.head_lt
  unfold querySpots
  rw [if_neg (by simp [hshow, henabled])]
  dsimp only
  rw [collectSpots_eq _ _ (Nat.mod_lt _ (by decide)) hcount (by simpa using hcount), List.nil_append,
    SpotRing.spots_eq]
  congr 1
  apply List.ext_getElem
  . simp
  . intro k hk _
    rw [List.length_map, List.length_range] at hk
    simp only [List.getElem_map, List.getElem_range, List.getElem_reverse, List.length_map, List.length_range]
    unfold dxcMaxSpots at hhead hcount ⊢
    have hback : ((r.ringHead + 500 - 1) % 500 + 500 - k) % 500
        = (r.ringHead + 500 - r.ringCount + (r.ringCount - 1 - k)) % 500 := by omega
    rw [hback]

namespace DrawFrame

variable (f : DrawFrame)

-- each position that is more than 30 pixels from those before it
def mark (marks : List Int) (x : Int) : List Int :=
  if x < 0 ∨ x ≥ f.width ∨ ∃ m ∈ marks, (m - x).natAbs ≤ 30 then marks else marks ++ [x]

def places (spots : List DxSpot) : List Int :=
  (spots.map f.spotX).foldl f.mark []

def Spaced (marks : List Int) : Prop :=
  marks.Pairwise fun a b => 30 < (a - b).natAbs

variable {f}

theorem spaced_mark {marks : List Int} (h : Spaced marks) (x : Int) : Spaced (f.mark marks x) := by
  unfold mark
  split
  . exact h
  next hfar =>
    rw [not_or, not_or] at hfar
    apply List.pairwise_append.mpr ⟨h, List.pairwise_singleton _ _, ?_⟩
    intro a ha b hb
    rw [List.mem_singleton] at hb
    subst hb
    by_contra hnear
    exact hfar.2.2 ⟨a, ha, by omega⟩

theorem spaced_places (f : DrawFrame) (spots : List DxSpot) : Spaced (f.places spots) := by
  unfold places
  have hstart : Spaced [] := List.Pairwise.nil
  generalize spots.map f.spotX = xs
  revert hstart
  generalize ([] : List Int) = marks
  intro h
  induction xs generalizing marks with
  | nil => exact h
  | cons x xs ih => exact ih _ (spaced_mark h x)

theorem map_x_modify (lay : List Lay) (g : Nat) (update : Lay → Lay) (h : ∀ l, (update l).x = l.x)
    : (lay.modify g update).map Lay.x = lay.map Lay.x := by
  apply List.ext_getElem
  . simp
  . intro k _ _
    rw [List.getElem_map, List.getElem_map, List.getElem_modify]
    split
    . exact h _
    . rfl

-- a group stands where its first spot does
theorem map_place (lay : List Lay) (spot : DxSpot)
    : (f.place lay spot).map Lay.x = f.mark (lay.map Lay.x) (f.spotX spot) := by
  unfold place mark
  dsimp only
  by_cases hout : f.spotX spot < 0 ∨ f.spotX spot ≥ f.width
  . rw [if_pos hout, if_pos (by tauto)]
  . rw [if_neg hout]
    split
    next hnone =>
      rw [List.findIdx?_eq_none_iff] at hnone
      rw [if_neg, List.map_append, List.map_singleton]
      rintro (hx | hx | ⟨m, hm, hnear⟩)
      . exact hout (.inl hx)
      . exact hout (.inr hx)
      . obtain ⟨l, hl, rfl⟩ := List.mem_map.mp hm
        simpa [hnear] using hnone l hl
    next g hsome =>
      obtain ⟨hg, hnear, -⟩ := List.findIdx?_eq_some_iff_getElem.mp hsome
      rw [map_x_modify, if_pos]
      . refine .inr (.inr ⟨lay[g].x, List.mem_map_of_mem (List.getElem_mem hg), ?_⟩)
        simpa using hnear
      . intro l
        split <;> rfl

theorem map_layout (f : DrawFrame) (spots : List DxSpot) : (f.layout spots).map Lay.x = f.places spots := by
  unfold layout places
  have hstart : ([] : List Lay).map Lay.x = [] := rfl
  rw [← hstart]
  generalize ([] : List Lay) = lay
  induction spots generalizing lay with
  | nil => rfl
  | cons spot spots ih =>
    rw [List.foldl_cons, List.map_cons, List.foldl_cons, ← map_place]
    exact ih _

theorem length_layout (f : DrawFrame) (spots : List DxSpot) : (f.layout spots).length = (f.places spots).length := by
  rw [← map_layout, List.length_map]

end DrawFrame

theorem snd_fillCache_le (base : Nat) (cache : Nat → Lay) {kept : Nat} (lay : List Lay) (h : kept ≤ cap)
    : (fillCache base cache kept lay).2 ≤ cap := by
  induction lay generalizing cache kept with
  | nil => exact h
  | cons l lay ih =>
    rw [fillCache]
    split
    next hlt => exact ih _ hlt
    . exact h

-- the first groups that find space behind those that are there
theorem map_fillCache (base : Nat) (cache : Nat → Lay) {kept : Nat} (lay : List Lay) (h : kept ≤ cap)
    : (List.range (fillCache base cache kept lay).2).map (fun i => (fillCache base cache kept lay).1 (base + i))
        = (List.range kept).map (fun i => cache (base + i)) ++ lay.take (cap - kept) := by
  induction lay generalizing cache kept with
  | nil => simp [fillCache]
  | cons l lay ih =>
    rw [fillCache]
    split
    next hlt =>
      have hkeep : (List.range kept).map (fun i => Function.update cache (base + kept) l (base + i))
          = (List.range kept).map fun i => cache (base + i) := by
        apply List.map_congr_left
        intro i hi
        rw [List.mem_range] at hi
        rw [Function.update_of_ne (by omega)]
      have hspace : cap - kept = cap - (kept + 1) + 1 := by omega
      rw [ih _ hlt, List.range_succ, List.map_append, hkeep, List.map_singleton, Function.update_self,
        hspace, List.take_succ_cons, List.append_assoc, List.singleton_append]
    next hlt =>
      have hfull : cap - kept = 0 := by omega
      rw [hfull, List.take_zero, List.append_nil]

-- the other half of the cache stays
theorem fillCache_of_not_mem (base : Nat) (cache : Nat → Lay) (kept : Nat) (lay : List Lay) {i : Nat}
    (h : i < base ∨ base + cap ≤ i)
    : (fillCache base cache kept lay).1 i = cache i := by
  induction lay generalizing cache kept with
  | nil => rfl
  | cons l lay ih =>
    rw [fillCache]
    split
    next hlt => rw [ih, Function.update_of_ne (by omega)]
    . rfl

namespace Panadapter

open DrawFrame

variable {s : Panadapter}

theorem drawCacheN_updateCache_le (h : ∀ rx, s.drawCacheN rx ≤ cap) (rxId : Int) (lay : List Lay) (rx : Int)
    : (s.updateCache rxId lay).drawCacheN rx ≤ cap := by
  unfold updateCache
  split
  . dsimp only
    by_cases hrx : rx = rxId
    . subst hrx
      rw [Function.update_self]
      exact snd_fillCache_le _ _ _ (Nat.zero_le _)
    . rw [Function.update_of_ne hrx]
      exact h rx
  . exact h rx

theorem entries_updateCache (rxId : Int) (hrx : rxId = 0 ∨ rxId = 1) (lay : List Lay)
    : (s.updateCache rxId lay).entries rxId = lay.take cap := by
  unfold updateCache entries
  rw [if_pos (by omega)]
  dsimp only
  rw [Function.update_self]
  exact map_fillCache (base rxId) s.drawCache lay (Nat.zero_le _)

theorem drawn_updateCache (rxId : Int) (lay : List Lay) : (s.updateCache rxId lay).drawn = s.drawn := by
  unfold updateCache
  split <;> rfl

theorem entries_updateCache_of_ne (h : ∀ rx, s.drawCacheN rx ≤ cap) {rxId rx : Int} (hrx : rx = 0 ∨ rx = 1)
    (hne : rx ≠ rxId) (lay : List Lay)
    : (s.updateCache rxId lay).entries rx = s.entries rx := by
  unfold updateCache entries
  split
  next hrxId =>
    dsimp only
    rw [Function.update_of_ne hne]
    apply List.map_congr_left
    intro i hi
    rw [List.mem_range] at hi
    have hcap := h rx
    apply fillCache_of_not_mem
    -- the receivers are 0 and 1 in one order or the other
    unfold base
    obtain hzero | hone := hrx
    . rw [if_pos hzero, if_neg (by omega)]
      omega
    . rw [if_neg (by omega), if_pos (by omega)]
      omega
  . rfl

-- The clicks on each of the receivers find the groups that the last frame has drawn.
def Exact (s : Panadapter) : Prop :=
  ∀ rx, rx = 0 ∨ rx = 1 → ∀ x y spots,
    s.hitTest rx x y = some spots ↔ ∃ l ∈ s.drawn rx, hit l x y ∧ l.list = spots

-- nothing of the frame is drawn
def Blank (s : Panadapter) (f : DrawFrame) : Prop :=
  let s' := f.meanwhile.foldl change s
  f.cr = false ∨ s.settings.showOnPanadapter = false ∨ s.settings.enabled = false ∨ f.cApZero
    ∨ f.visible s'.ring s'.settings = []

-- A frame that draws nothing finds none of the groups of its receiver in the cache, and there is space for those
-- of any other frame.
def Kept (s : Panadapter) : PanadapterEvent → Prop
  | .change _ => True
  | .draw f =>
    let s' := f.meanwhile.foldl change s
    f.rxId = 0 ∨ f.rxId = 1 →
      (s.Blank f → s.drawCacheN f.rxId = 0)
        ∧ (¬s.Blank f → (f.places (f.visible s'.ring s'.settings)).length ≤ cap)

structure Tracks (s : Panadapter) : Prop where
  bound : ∀ rx, s.drawCacheN rx ≤ cap
  entries : ∀ rx, rx = 0 ∨ rx = 1 → s.entries rx = s.drawn rx
  spaced : ∀ rx, Spaced ((s.drawn rx).map Lay.x)

theorem groups_of_blank {f : DrawFrame} (h : s.Blank f) : s.groups f = none := by
  unfold Blank at h
  unfold groups
  simp only
  split
  . rfl
  . split
    . rfl
    . split
      . rfl
      . rw [if_pos (by tauto)]

theorem groups_of_not_blank {f : DrawFrame} (h : ¬s.Blank f)
    : s.groups f = some (f.layout (f.visible (f.meanwhile.foldl change s).ring
        (f.meanwhile.foldl change s).settings)) := by
  unfold Blank at h
  unfold groups
  simp only [not_or] at h ⊢
  rw [if_neg h.1, if_neg (by tauto), if_neg h.2.2.2.1, if_neg h.2.2.2.2]

-- at most one of the groups is hit
theorem hit_unique {lay : List Lay} (hspaced : Spaced (lay.map Lay.x)) {l l' : Lay} (hl : l ∈ lay)
    (hl' : l' ∈ lay) {x y : Int} (hhit : hit l x y) (hhit' : hit l' x y)
    : l = l' := by
  unfold hit at hhit hhit'
  rw [decide_eq_true_iff] at hhit hhit'
  by_contra hne
  have hpairwise : lay.Pairwise fun a b => 30 < (a.x - b.x).natAbs := List.pairwise_map.mp hspaced
  have hsymm : Std.Symm fun a b : Lay => 30 < (a.x - b.x).natAbs := ⟨fun a b hab => by omega⟩
  have hfar := hpairwise.forall hl hl' hne
  omega

theorem find_hit_iff {lay : List Lay} (hspaced : Spaced (lay.map Lay.x)) {x y : Int} {spots : List DxSpot}
    : (lay.find? fun l => hit l x y).map Lay.list = some spots
        ↔ ∃ l ∈ lay, hit l x y ∧ l.list = spots := by
  constructor
  . intro h
    obtain ⟨l, hfind, hlist⟩ := Option.map_eq_some_iff.mp h
    have hhit := List.find?_some (p := fun l => hit l x y) hfind
    exact ⟨l, List.mem_of_find?_eq_some hfind, hhit, hlist⟩
  . rintro ⟨l, hl, hhit, rfl⟩
    have hsome : (lay.find? fun l => hit l x y).isSome := List.find?_isSome.mpr ⟨l, hl, hhit⟩
    obtain ⟨l', hfind⟩ := Option.isSome_iff_exists.mp hsome
    have hhit' := List.find?_some (p := fun l => hit l x y) hfind
    rw [hfind, hit_unique hspaced hl (List.mem_of_find?_eq_some hfind) hhit hhit']
    rfl

theorem hitTest_eq {rx : Int} (hrx : rx = 0 ∨ rx = 1) (x y : Int)
    : s.hitTest rx x y = ((s.entries rx).find? fun l => hit l x y).map Lay.list :=
  if_neg (by omega)

theorem Tracks.exact (h : s.Tracks) : s.Exact := by
  intro rx hrx x y spots
  rw [hitTest_eq hrx, h.entries rx hrx]
  exact find_hit_iff (h.spaced rx)

-- a click on the group itself
theorem hit_self (l : Lay) : hit l l.x 18 := by
  simp [hit]

theorem foldl_change (changes : List Change)
    : ∃ ring settings, changes.foldl change s = { s with ring, settings } := by
  induction changes generalizing s with
  | nil => exact ⟨s.ring, s.settings, rfl⟩
  | cons c changes ih =>
    obtain ⟨ring, settings, heq⟩ := ih (s := s.change c)
    refine ⟨ring, settings, ?_⟩
    rw [List.foldl_cons, heq]
    cases c <;> rfl

theorem Tracks.with_spots (h : s.Tracks) (ring : SpotRing) (settings : DxcSettings)
    : ({ s with ring, settings } : Panadapter).Tracks where
  bound := h.bound
  entries := h.entries
  spaced := h.spaced

theorem Tracks.changed (h : s.Tracks) (changes : List Change) : (changes.foldl change s).Tracks := by
  obtain ⟨ring, settings, heq⟩ := foldl_change (s := s) changes
  rw [heq]
  exact h.with_spots ring settings

theorem drawCacheN_foldl_change (changes : List Change)
    : (changes.foldl change s).drawCacheN = s.drawCacheN := by
  obtain ⟨ring, settings, heq⟩ := foldl_change (s := s) changes
  rw [heq]

theorem entries_eq_nil_iff {rx : Int} : s.entries rx = [] ↔ s.drawCacheN rx = 0 := by
  rw [entries, List.map_eq_nil_iff, List.range_eq_nil]

theorem spaced_update {drawn : Int → List Lay} (h : ∀ rx, Spaced ((drawn rx).map Lay.x)) (rxId : Int)
    {lay : List Lay} (hlay : Spaced (lay.map Lay.x)) (rx : Int)
    : Spaced ((Function.update drawn rxId lay rx).map Lay.x) := by
  by_cases hrx : rx = rxId
  . subst hrx
    rw [Function.update_self]
    exact hlay
  . rw [Function.update_of_ne hrx]
    exact h rx

theorem spaced_layout (f : DrawFrame) (spots : List DxSpot) : Spaced ((f.layout spots).map Lay.x) := by
  rw [map_layout]
  exact spaced_places f spots

-- a frame draws nothing while nothing is in the cache
theorem Tracks.clear (h : s.Tracks) {rxId : Int} (hzero : rxId = 0 ∨ rxId = 1 → s.drawCacheN rxId = 0)
    : ({ s with drawn := Function.update s.drawn rxId [] } : Panadapter).Tracks where
  bound := h.bound
  entries := by
    intro rx hrx
    dsimp only
    by_cases hne : rx = rxId
    . subst hne
      rw [Function.update_self]
      exact entries_eq_nil_iff.mpr (hzero hrx)
    . rw [Function.update_of_ne hne]
      exact h.entries rx hrx
  spaced := spaced_update h.spaced rxId List.Pairwise.nil

-- a frame draws groups that find space in the cache
theorem Tracks.update (h : s.Tracks) {rxId : Int} {lay : List Lay} (hspaced : Spaced (lay.map Lay.x))
    (hlength : rxId = 0 ∨ rxId = 1 → lay.length ≤ cap)
    : ({ s.updateCache rxId lay with drawn := Function.update (s.updateCache rxId lay).drawn rxId lay }
        : Panadapter).Tracks where
  bound := drawCacheN_updateCache_le h.bound rxId lay
  entries := by
    intro rx hrx
    have hentries : (s.updateCache rxId lay).entries rx = Function.update s.drawn rxId lay rx := by
      by_cases hne : rx = rxId
      . subst hne
        rw [Function.update_self, entries_updateCache rx hrx, List.take_of_length_le (hlength hrx)]
      . rw [Function.update_of_ne hne, entries_updateCache_of_ne h.bound hrx hne]
        exact h.entries rx hrx
    rw [← drawn_updateCache] at hentries
    exact hentries
  spaced := by
    rw [drawn_updateCache]
    exact spaced_update h.spaced rxId hspaced

theorem Tracks.step (h : s.Tracks) {e : PanadapterEvent} (hkept : s.Kept e) : (s.step e).Tracks := by
  cases e with
  | change c => exact h.changed [c]
  | draw f =>
    have h' := h.changed f.meanwhile
    dsimp only [Panadapter.step, drawSpots]
    by_cases hblank : s.Blank f
    . rw [groups_of_blank hblank]
      apply h'.clear
      intro hrx
      rw [drawCacheN_foldl_change]
      exact (hkept hrx).1 hblank
    . rw [groups_of_not_blank hblank]
      apply h'.update (spaced_layout f _)
      intro hrx
      rw [length_layout]
      exact (hkept hrx).2 hblank

-- groups that find no space in the cache are not hit
theorem length_le_of_exact {rxId : Int} (hrx : rxId = 0 ∨ rxId = 1) {lay : List Lay}
    (hspaced : Spaced (lay.map Lay.x))
    (hexact : ({ s.updateCache rxId lay with
      drawn := Function.update (s.updateCache rxId lay).drawn rxId lay } : Panadapter).Exact)
    : lay.length ≤ cap := by
  by_contra hlength
  have hcap : cap < lay.length := by omega
  have hdrawn := (hexact rxId hrx lay[cap].x 18 lay[cap].list).mpr
    ⟨lay[cap], by simp, hit_self lay[cap], rfl⟩
  rw [hitTest_eq hrx] at hdrawn
  obtain ⟨l, hfind, -⟩ := Option.map_eq_some_iff.mp hdrawn
  have hhit := List.find?_some (p := fun l => hit l lay[cap].x 18) hfind
  have hmem : l ∈ lay.take cap := by
    rw [← entries_updateCache (s := s) rxId hrx lay]
    exact List.mem_of_find?_eq_some hfind
  obtain ⟨i, hi, rfl⟩ := List.mem_take_iff_getElem.mp hmem
  have hpairwise : lay.Pairwise fun a b => 30 < (a.x - b.x).natAbs := List.pairwise_map.mp hspaced
  have hfar := List.pairwise_iff_getElem.mp hpairwise i cap (by omega) hcap (by omega)
  unfold hit at hhit
  rw [decide_eq_true_iff] at hhit
  omega

-- a group that is left in the cache is hit
theorem entries_eq_nil_of_exact {rx : Int} (hrx : rx = 0 ∨ rx = 1) (hexact : s.Exact) (hdrawn : s.drawn rx = [])
    : s.entries rx = [] := by
  apply List.eq_nil_iff_forall_not_mem.mpr
  intro l hl
  have hsome : ((s.entries rx).find? fun l' => hit l' l.x 18).isSome :=
    List.find?_isSome.mpr ⟨l, hl, hit_self l⟩
  obtain ⟨l', hfind⟩ := Option.isSome_iff_exists.mp hsome
  have hhit : s.hitTest rx l.x 18 = some l'.list := by
    rw [hitTest_eq hrx, hfind]
    rfl
  obtain ⟨l'', hmem, -⟩ := (hexact rx hrx l.x 18 l'.list).mp hhit
  rw [hdrawn] at hmem
  exact List.not_mem_nil hmem

theorem kept_of_exact {e : PanadapterEvent} (hnext : (s.step e).Exact) : s.Kept e := by
  cases e with
  | change => trivial
  | draw f =>
    dsimp only [Panadapter.step, drawSpots] at hnext
    intro hrx
    constructor
    . intro hblank
      rw [groups_of_blank hblank] at hnext
      have hnil := entries_eq_nil_of_exact hrx hnext (Function.update_self ..)
      rw [entries_eq_nil_iff] at hnil
      rw [← drawCacheN_foldl_change f.meanwhile]
      exact hnil
    . intro hblank
      rw [groups_of_not_blank hblank] at hnext
      rw [← length_layout]
      exact length_le_of_exact hrx (spaced_layout f _) hnext

theorem Tracks.start (ring : SpotRing) (settings : DxcSettings) (drawCache : Nat → Lay)
    : (start ring settings drawCache).Tracks where
  bound := fun _ => Nat.zero_le _
  entries := fun _ _ => rfl
  spaced := fun _ => List.Pairwise.nil

-- Up to each point of a run a click on one of the receivers finds exactly what the last frame has drawn, exactly if
-- the frames that draw nothing come while the cache is empty and the others draw no more groups than it holds.
theorem clicks_exec (ring : SpotRing) (settings : DxcSettings) (drawCache : Nat → Lay)
    (es : List PanadapterEvent)
    : (∀ es', es' <+: es → (exec step (start ring settings drawCache) es').Exact)
        ↔ Along step Kept (start ring settings drawCache) es := by
  apply forall_prefix_iff_along_of (I := Tracks)
  . exact fun s e h hkept => h.step hkept
  . exact fun s e _ hnext => kept_of_exact hnext
  . exact fun s h => h.exact
  . exact Tracks.start ring settings drawCache

def cqSpot : DxSpot where
  freqHz := 14074000
  dxCall := Text.codes "W1AW"
  spotter := Text.codes "K1ABC"
  mode := Text.codes "FT8"
  comment := []
  when := 1000

-- the settings that let each spot pass for ten minutes
def shown : DxcSettings where
  enabled := true
  showOnPanadapter := true
  ageLimitSec := 600
  modeFt8 := true
  modeFt4 := true
  modeCw := true
  modeSsb := true
  modeRtty := true
  modeOther := true
  regionNa := true
  regionEu := true
  regionAs := true
  regionSa := true
  regionAf := true
  regionOc := true
  whitelist := []
  blacklist := []

-- 100 Hz for each pixel
def ft8Frame : DrawFrame where
  cr := true
  rxId := 0
  frequency := 14074000
  cApZero := false
  offset := fun x => BitVec.ofInt 64 (100 * (x - 400))
  position := fun d => 400 + d.toInt / 100
  width := 800
  now := 1060
  meanwhile := []

-- a spot is drawn, and then the display of the spots is switched off
def switchedOff : List PanadapterEvent :=
  [.change (.spot cqSpot), .draw ft8Frame, .change (.settings { shown with showOnPanadapter := false }),
    .draw ft8Frame]

def blankScreen : Panadapter :=
  start (SpotRing.empty fun _ => cqSpot) shown fun _ => { x := 0, list := [] }

theorem not_exact_switchedOff : ¬(exec step blankScreen switchedOff).Exact := by
  intro h
  have hdrawn := entries_eq_nil_of_exact (.inl rfl) h rfl
  exact absurd (congrArg List.length hdrawn) (by decide)

end Panadapter

end DxCluster
