import Pihpsdr.DxCluster.Lemmas.ParseLine

/-!
What becomes of the spots in a restart: the same spots are there again in the same order exactly if none of them has
an empty string or one with a comma.
-/

namespace DxCluster

open Text Fixed

namespace SpotRing

variable {r : SpotRing}

theorem walk_eq (ring : Nat → DxSpot) (n idx : Nat) (h : idx < dxcMaxSpots)
    : walk ring n idx = (List.range n).map fun k => ring ((idx + k) % dxcMaxSpots) := by
  induction n generalizing idx with
  | zero => rfl
  | succ n ih =>
    rw [walk, ih _ (Nat.mod_lt _ (by decide)), List.range_succ_eq_map, List.map_cons, List.map_map,
      Nat.add_zero idx, Nat.mod_eq_of_lt h]
    congr 1
    apply List.map_congr_left
    intro k _
    dsimp only [Function.comp]
    rw [Nat.mod_add_mod]
    congr 2
    omega

theorem spots_eq (r : SpotRing)
    : r.spots = (List.range r.ringCount).map fun k =>
        r.ring ((r.ringHead + dxcMaxSpots - r.ringCount + k) % dxcMaxSpots) := by
  rw [spots, walk_eq _ _ _ (Nat.mod_lt _ (by decide))]
  apply List.map_congr_left
  intro k _
  rw [Nat.mod_add_mod]

theorem length_spots (r : SpotRing) : r.spots.length = r.ringCount := by
  simp [spots_eq]

-- a spot goes to the end, as long as the ring is not full
theorem spots_push (s : DxSpot) (h : r.ringCount < dxcMaxSpots) : (r.push s).spots = r.spots ++ [s] := by
  have hhead := r.head_lt
  have hcount : (r.push s).ringCount = r.ringCount + 1 := if_pos h
  rw [spots_eq, spots_eq, hcount, List.range_succ, List.map_append, List.map_singleton]
  unfold push
  unfold dxcMaxSpots at h hhead ⊢
  dsimp only
  congr 1
  . apply List.map_congr_left
    intro k hk
    rw [List.mem_range] at hk
    have hidx : ((r.ringHead + 1) % 500 + 500 - (r.ringCount + 1) + k) % 500
        = (r.ringHead + 500 - r.ringCount + k) % 500 := by omega
    rw [hidx, if_neg (by omega)]
  . have hidx : ((r.ringHead + 1) % 500 + 500 - (r.ringCount + 1) + r.ringCount) % 500 = r.ringHead := by
      omega
    rw [hidx, if_pos rfl]

theorem spots_foldl_push {l : List DxSpot} (h : r.ringCount + l.length ≤ dxcMaxSpots)
    : (l.foldl push r).spots = r.spots ++ l := by
  induction l generalizing r with
  | nil => simp
  | cons s l ih =>
    rw [List.length_cons] at h
    have hcount : (r.push s).ringCount = r.ringCount + 1 := if_pos (by omega)
    rw [List.foldl_cons, ih (by omega), spots_push s (by omega), List.append_assoc]
    rfl

end SpotRing

-- a spot that the parser has made of a line, which has no line feed
def FromLine (s : DxSpot) : Prop :=
  ∃ undef now line out r, newline ∉ line ∧ parseSpotLine undef now line out = some (true, r) ∧ r.spot = s

-- what the file needs to keep a spot
structure DxSpot.Kept (s : DxSpot) : Prop where
  dxCall : s.dxCall ≠ [] ∧ comma ∉ s.dxCall
  spotter : s.spotter ≠ [] ∧ comma ∉ s.spotter
  mode : s.mode ≠ [] ∧ comma ∉ s.mode
  comment : s.comment ≠ [] ∧ comma ∉ s.comment

-- the strings fit into the arrays and are on one line
structure DxSpot.Fits (s : DxSpot) : Prop where
  dxCall : s.dxCall.length < dxcCallLen ∧ newline ∉ s.dxCall
  spotter : s.spotter.length < dxcCallLen ∧ newline ∉ s.spotter
  mode : s.mode.length < dxcModeLen ∧ newline ∉ s.mode
  comment : s.comment.length < dxcCommentLen ∧ newline ∉ s.comment

section

variable {undef now : BitVec 64} {p spotter : List Int} {s : DxSpot}

theorem not_mem_skipBlanks {c : Int} (h : c ∉ p) : c ∉ skipBlanks p :=
  fun hmem => h ((List.dropWhile_sublist _).subset hmem)

theorem not_mem_drop {c : Int} {n : Nat} (h : c ∉ p) : c ∉ p.drop n :=
  fun hmem => h (List.mem_of_mem_drop hmem)

theorem modeOf_fits (h : newline ∉ p)
    : ((modeOf p).1.length < dxcModeLen ∧ newline ∉ (modeOf p).1) ∧ newline ∉ (modeOf p).2 := by
  have hknown : ∀ mode ∈ knownModes, mode.length < dxcModeLen ∧ newline ∉ mode := by decide
  unfold modeOf
  split
  . exact ⟨⟨Nat.zero_lt_succ _, List.not_mem_nil⟩, h⟩
  next mode hfind =>
    exact ⟨hknown mode (List.mem_of_find?_eq_some hfind), not_mem_skipBlanks (not_mem_drop h)⟩

theorem fits_of_callSpot {freqHz : BitVec 64} (hp : newline ∉ p)
    (hspotter : spotter.length < dxcCallLen ∧ newline ∉ spotter)
    (h : callSpot now p spotter freqHz = some s) : s.Fits := by
  unfold callSpot at h
  dsimp only at h
  split at h
  . contradiction
  next hlength =>
    rw [not_or, not_le] at hlength
    obtain rfl := Option.some.inj h
    generalize hq : skipBlanks (p.drop (p.takeWhile fun c => decide (c ≠ blank)).length) = q
    have hq : newline ∉ q := by
      rw [← hq]
      exact not_mem_skipBlanks (not_mem_drop hp)
    obtain ⟨hmode, hrest⟩ := modeOf_fits hq
    constructor
    case dxCall => exact ⟨hlength.2, fun hmem => hp ((List.takeWhile_sublist _).subset hmem)⟩
    case spotter => exact hspotter
    case mode => exact hmode
    case comment =>
      constructor
      . have hle := List.length_take_le (dxcCommentLen - 1) ((modeOf q).2.filter fun c => !isUtf c)
        unfold commentSpot asciiComment
        dsimp only
        unfold dxcCommentLen at hle ⊢
        omega
      . exact fun hmem => hrest (List.mem_filter.mp (List.mem_of_mem_take hmem)).1

theorem fits_of_frequencySpot (hp : newline ∉ p)
    (hspotter : spotter.length < dxcCallLen ∧ newline ∉ spotter)
    (h : frequencySpot undef now p spotter = some s) : s.Fits := by
  unfold frequencySpot at h
  split at h
  . contradiction
  next freqKhz rest hscan =>
    have hrest : newline ∉ rest := fun hmem => not_mem_skipBlanks hp ((scan_suffix hscan).subset hmem)
    split at h
    . contradiction
    . exact fits_of_callSpot (not_mem_skipBlanks hrest) hspotter h

theorem fits_of_parseSpot {line : List Int} (hline : newline ∉ line)
    (h : parseSpot undef now line = some s) : s.Fits := by
  unfold parseSpot at h
  dsimp only at h
  split at h
  . contradiction
  . have hp : newline ∉ (cString line).drop 6 :=
      not_mem_drop fun hmem => hline ((List.takeWhile_sublist _).subset hmem)
    generalize (cString line).drop 6 = p at hp h
    unfold spotterSpot at h
    split at h
    . contradiction
    next k _ =>
      split at h
      . contradiction
      next hlength =>
        apply fits_of_frequencySpot (not_mem_drop hp) _ h
        have hprefix := List.rdropWhile_prefix (fun c => decide (c = blank)) (p.take k)
        constructor
        . have hle := hprefix.length_le
          rw [List.length_take] at hle
          omega
        . exact fun hmem => hp (List.mem_of_mem_take (List.IsPrefix.subset hprefix hmem))

theorem FromLine.fits (h : FromLine s) : s.Fits := by
  obtain ⟨undef, now, line, out, r, hline, hparse, rfl⟩ := h
  obtain ⟨r', hparse', hspot⟩ := parseSpotLine_spec undef now line out
  rw [hparse] at hparse'
  obtain ⟨hok, rfl⟩ := Prod.mk.inj (Option.some.inj hparse')
  obtain ⟨s, hs⟩ := Option.isSome_iff_exists.mp hok.symm
  rw [(hspot s hs).1]
  exact fits_of_parseSpot hline hs

end

section

variable {cs rest : List Int}

theorem leadingDigits_digits (n : Nat) (hrest : ∀ c ∈ rest.head?, ¬Decimal.IsDigit c)
    : Decimal.leadingDigits (Decimal.digits n ++ rest) = Decimal.digits n := by
  have hdigits : Decimal.leadingDigits (Decimal.digits n) = Decimal.digits n :=
    Decimal.leadingDigits_of_forall fun c hc => Decimal.isDigit_of_mem_digits hc
  cases rest with
  | nil => rw [List.append_nil, hdigits]
  | cons c rest => rw [Decimal.leadingDigits_append (hrest c rfl), hdigits]

-- a number that is printed is read again
theorem scanInt_format (x : BitVec 64) (hrest : ∀ c ∈ rest.head?, ¬Decimal.IsDigit c)
    : scanInt (Decimal.format false 0 x.toInt ++ rest) = some (x, rest) := by
  have hlead := leadingDigits_digits x.toInt.natAbs hrest
  have hne := Decimal.digits_ne_nil x.toInt.natAbs
  have hunsigned : Decimal.unsigned (Decimal.digits x.toInt.natAbs ++ rest) = x.toInt.natAbs := by
    rw [Decimal.unsigned, hlead, Decimal.value_digits]
  have hclamp : Decimal.clamp 64 x.toInt = x.toInt := by
    have hlo := BitVec.le_toInt x
    have hhi := BitVec.toInt_lt (x := x)
    unfold Decimal.clamp
    omega
  -- the text in front of the digits, and what is left of it
  have hscan : ∀ text : List Int, (∀ c ∈ text.head?, ¬Decimal.IsSpace c)
      → Fixed.dropSign text = Decimal.digits x.toInt.natAbs ++ rest → Decimal.signed text = x.toInt
      → scanInt text = some (x, rest) := by
    intro text hhead hdrop hsigned
    have hspace : text.dropWhile (fun c => decide (Decimal.IsSpace c)) = text := by
      cases text with
      | nil => rfl
      | cons c text => rw [List.dropWhile_cons, if_neg (by simpa using hhead c rfl)]
    unfold scanInt
    dsimp only
    rw [hspace, hdrop, hsigned, hlead, if_neg hne, hclamp, BitVec.ofInt_toInt, List.drop_left]
  rw [Decimal.format_false_zero]
  by_cases hneg : x.toInt < 0
  . rw [if_pos hneg]
    apply hscan
    . intro c hc
      rw [← Option.some.inj hc]
      decide
    . rfl
    . change -Decimal.unsigned (Decimal.digits x.toInt.natAbs ++ rest) = x.toInt
      rw [hunsigned]
      omega
  . rw [if_neg hneg, List.nil_append]
    obtain ⟨d, ds, hcons⟩ := List.exists_cons_of_ne_nil hne
    have hd : Decimal.IsDigit d :=
      Decimal.isDigit_of_mem_digits (n := x.toInt.natAbs) (by rw [hcons]; exact List.mem_cons_self)
    rw [hcons] at hunsigned ⊢
    apply hscan
    . intro c hc
      rw [← Option.some.inj hc]
      unfold Decimal.IsDigit at hd
      unfold Decimal.IsSpace
      omega
    . rw [List.cons_append, Fixed.dropSign_of_isDigit hd, hcons, List.cons_append]
    . rw [List.cons_append, Decimal.signed_of_isDigit hd, ← List.cons_append, hunsigned]
      omega

theorem scanField_field {n : Nat} {field : List Int} (hne : field ≠ []) (hcomma : comma ∉ field)
    (hlen : field.length ≤ n) : scanField n (field ++ comma :: rest) = some (field, comma :: rest) := by
  have hall : field.takeWhile (fun c => decide (c ≠ comma)) = field := by
    apply List.takeWhile_eq_self_iff.mpr
    intro c hc
    rw [decide_eq_true_eq]
    rintro rfl
    exact hcomma hc
  have htake : ((field ++ comma :: rest).take n).takeWhile (fun c => decide (c ≠ comma)) = field := by
    rw [List.take_append, List.take_of_length_le hlen]
    obtain heq | ⟨k, hk⟩ : n - field.length = 0 ∨ ∃ k, n - field.length = k + 1 := by
      cases n - field.length with
      | zero => exact Or.inl rfl
      | succ k => exact Or.inr ⟨k, rfl⟩
    . rw [heq, List.take_zero, List.append_nil, hall]
    . rw [hk, List.take_succ_cons, Decimal.takeWhile_append_cons (by decide), hall]
  unfold scanField
  dsimp only
  rw [htake, if_neg hne, List.drop_left]

-- a field that is read is neither empty nor has it a comma
theorem scanField_kept {n : Nat} {field : List Int} (h : scanField n cs = some (field, rest))
    : field ≠ [] ∧ comma ∉ field := by
  unfold scanField at h
  dsimp only at h
  split at h
  . contradiction
  next hne =>
    obtain ⟨rfl, -⟩ := Prod.mk.inj (Option.some.inj h)
    refine ⟨hne, ?_⟩
    intro hmem
    have hcomma := List.mem_takeWhile_imp hmem
    simp at hcomma

end

theorem kept_of_scanSpot {ln : List Int} {s : DxSpot} (h : scanSpot ln = some s) : s.Kept := by
  simp only [scanSpot, Option.bind_eq_bind, Option.bind_eq_some_iff] at h
  obtain ⟨_, _, _, _, ⟨dxCall, _⟩, hcall, _, _, ⟨spotter, _⟩, hspotter, _, _, ⟨mode, _⟩, hmode, _, _,
    ⟨comment, _⟩, hcomment, h⟩ := h
  obtain rfl := Option.some.inj h
  exact ⟨scanField_kept hcall, scanField_kept hspotter, scanField_kept hmode, scanField_kept hcomment⟩

theorem scanSpot_csvText {s : DxSpot} (hfits : s.Fits) (hkept : s.Kept)
    : scanSpot (csvText s ++ [newline]) = some s := by
  have hcomma : ∀ cs : List Int, ∀ c ∈ (comma :: cs).head?, ¬Decimal.IsDigit c := by
    intro cs c hc
    rw [← Option.some.inj hc]
    decide
  have hnewline : ∀ c ∈ [newline].head?, ¬Decimal.IsDigit c := by decide
  have hcall := hfits.dxCall.1
  have hspotter := hfits.spotter.1
  have hmode := hfits.mode.1
  have hcomment := hfits.comment.1
  unfold dxcCallLen at hcall hspotter
  unfold dxcModeLen at hmode
  unfold dxcCommentLen at hcomment
  simp only [scanSpot, csvText, List.append_assoc, List.cons_append, Option.bind_eq_bind]
  rw [scanInt_format _ (hcomma _), Option.bind_some]
  simp only [scanComma, if_true, Option.bind_some]
  rw [scanField_field hkept.dxCall.1 hkept.dxCall.2 (by omega), Option.bind_some]
  simp only [if_true, Option.bind_some]
  rw [scanField_field hkept.spotter.1 hkept.spotter.2 (by omega), Option.bind_some]
  simp only [if_true, Option.bind_some]
  rw [scanField_field hkept.mode.1 hkept.mode.2 (by omega), Option.bind_some]
  simp only [if_true, Option.bind_some]
  rw [scanField_field hkept.comment.1 hkept.comment.2 (by omega), Option.bind_some]
  simp only [if_true, Option.bind_some]
  rw [scanInt_format _ hnewline]
  rfl

theorem scanSpot_eq_some_iff {s : DxSpot} (hfits : s.Fits)
    : scanSpot (csvText s ++ [newline]) = some s ↔ s.Kept :=
  ⟨kept_of_scanSpot, scanSpot_csvText hfits⟩

theorem newline_not_mem_format (x : Int) : newline ∉ Decimal.format false 0 x := by
  intro hmem
  obtain hdigit | hminus | hplus := Decimal.isDigit_or_of_mem_format hmem
  . exact absurd hdigit (by decide)
  . exact absurd hminus (by decide)
  . exact absurd hplus (by decide)

theorem length_format_le (x : BitVec 64) : (Decimal.format false 0 x.toInt).length ≤ 20 := by
  have hlo := BitVec.le_toInt x
  have hhi := BitVec.toInt_lt (x := x)
  apply Decimal.length_format_zero_le (by decide)
  omega

theorem csvText_line {s : DxSpot} (hfits : s.Fits) : newline ∉ csvText s ∧ (csvText s).length < 511 := by
  have hcomma : newline ≠ comma := by decide
  constructor
  . simp [csvText, hcomma, newline_not_mem_format, hfits.dxCall.2, hfits.spotter.2, hfits.mode.2,
      hfits.comment.2]
  . have hfreq := length_format_le s.freqHz
    have hwhen := length_format_le s.when
    have hcall := hfits.dxCall.1
    have hspotter := hfits.spotter.1
    have hmode := hfits.mode.1
    have hcomment := hfits.comment.1
    unfold dxcCallLen at hcall hspotter
    unfold dxcModeLen at hmode
    unfold dxcCommentLen at hcomment
    simp only [csvText, List.length_append, List.length_cons]
    omega

theorem foldl_push_elim (f : List Int → Option DxSpot) (lines : List (List Int)) (r : SpotRing)
    : lines.foldl (fun r ln => (f ln).elim r r.push) r = (lines.filterMap f).foldl SpotRing.push r := by
  induction lines generalizing r with
  | nil => rfl
  | cons ln lines ih =>
    rw [List.foldl_cons, ih, List.filterMap_cons]
    cases f ln <;> rfl

-- every element is kept as it is if all together are
theorem filterMap_eq_self_iff {α : Type} {f : α → Option α} {l : List α}
    : l.filterMap f = l ↔ ∀ a ∈ l, f a = some a := by
  constructor
  . intro h
    induction l with
    | nil => exact fun a ha => absurd ha List.not_mem_nil
    | cons a l ih =>
      rw [List.filterMap_cons] at h
      cases hf : f a with
      | none =>
        rw [hf] at h
        dsimp only at h
        have hle := List.length_filterMap_le f l
        have hlength := congrArg List.length h
        rw [List.length_cons] at hlength
        omega
      | some b =>
        rw [hf] at h
        obtain ⟨rfl, htail⟩ := List.cons.inj h
        intro c hc
        obtain rfl | hc := List.mem_cons.mp hc
        . exact hf
        . exact ih htail c hc
  . intro h
    induction l with
    | nil => rfl
    | cons a l ih =>
      rw [List.filterMap_cons, h a List.mem_cons_self]
      exact congrArg (a :: ·) (ih fun b hb => h b (List.mem_cons_of_mem a hb))

-- what the file brings back
theorem spots_loadSpots {r : SpotRing} (h : ∀ s ∈ r.spots, s.Fits) (ring : Nat → DxSpot)
    : (loadSpots ring (spotFile r)).spots = r.spots.filterMap fun s => scanSpot (csvText s ++ [newline]) := by
  have hfile : spotFile r = (r.spots.map csvText).flatMap fun line => line ++ [newline] := by
    rw [List.flatMap_map]
    rfl
  have hlines : ∀ line ∈ r.spots.map csvText, newline ∉ line ∧ line.length < 511 := by
    intro line hline
    obtain ⟨s, hs, rfl⟩ := List.mem_map.mp hline
    exact csvText_line (h s hs)
  have hfuel : (r.spots.map csvText).length ≤ (spotFile r).length := by
    rw [hfile]
    exact Text.length_le_length_flatMap _
  have hread : readLines 511 (spotFile r).length (spotFile r)
      = (r.spots.map csvText).map fun line => line ++ [newline] := by
    have hall := readLines_lines hlines hfuel
    rw [← hfile] at hall
    exact hall
  have hcount : (SpotRing.empty ring).ringCount
      + (r.spots.filterMap fun s => scanSpot (csvText s ++ [newline])).length ≤ dxcMaxSpots := by
    have hle := List.length_filterMap_le (fun s => scanSpot (csvText s ++ [newline])) r.spots
    have hlength := r.length_spots
    have hbound := r.count_le
    have hzero : (SpotRing.empty ring).ringCount = 0 := rfl
    omega
  unfold loadSpots
  rw [hread, foldl_push_elim, List.map_map, List.filterMap_map]
  exact SpotRing.spots_foldl_push hcount

theorem spots_restart_of_fits {r : SpotRing} (h : ∀ s ∈ r.spots, s.Fits) (ring : Nat → DxSpot)
    : (loadSpots ring (spotFile r)).spots = r.spots ↔ ∀ s ∈ r.spots, s.Kept := by
  rw [spots_loadSpots h, filterMap_eq_self_iff]
  apply forall₂_congr
  intro s hs
  exact scanSpot_eq_some_iff (h s hs)

-- The spots survive a restart exactly if each of them has no empty string and no comma.
theorem spots_restart (r : SpotRing) (ring : Nat → DxSpot) (h : ∀ s ∈ r.spots, FromLine s)
    : (loadSpots ring (spotFile r)).spots = r.spots ↔ ∀ s ∈ r.spots, s.Kept :=
  spots_restart_of_fits (fun s hs => (h s hs).fits) ring

-- a spot without a mode, and the ring that has it
def modelessSpot : DxSpot where
  freqHz := 14076000
  dxCall := codes "W1AW"
  spotter := codes "K1A"
  mode := []
  comment := codes "nice 1430Z"
  when := 0

theorem fromLine_modelessSpot : FromLine modelessSpot := by
  have hparse : (parseSpotLine 0 0 (codes "DX de K1A: 14076.0 W1AW nice 1430Z") emptyRecord).map
      (fun p => (p.1, p.2.spot)) = some (true, modelessSpot) := by decide +kernel
  obtain ⟨⟨ok, r⟩, hres, heq⟩ := Option.map_eq_some_iff.mp hparse
  obtain ⟨rfl, hspot⟩ := Prod.mk.inj heq
  exact ⟨0, 0, codes "DX de K1A: 14076.0 W1AW nice 1430Z", emptyRecord, r, by decide, hres, hspot⟩

def modelessRing : SpotRing :=
  (SpotRing.empty fun _ => modelessSpot).push modelessSpot

theorem spots_modelessRing : modelessRing.spots = [modelessSpot] :=
  SpotRing.spots_push modelessSpot (Nat.zero_lt_succ _)

theorem fromLine_modelessRing : ∀ s ∈ modelessRing.spots, FromLine s := by
  intro s hs
  rw [spots_modelessRing] at hs
  obtain rfl := List.mem_singleton.mp hs
  exact fromLine_modelessSpot

theorem spots_restart_modelessRing
    : (loadSpots (fun _ => modelessSpot) (spotFile modelessRing)).spots = modelessRing.spots
        ↔ ∀ s ∈ modelessRing.spots, s.Kept :=
  spots_restart modelessRing _ fromLine_modelessRing

theorem lost_modelessRing
    : ¬∀ r : SpotRing, (∀ s ∈ r.spots, FromLine s) →
      (loadSpots (fun _ => modelessSpot) (spotFile r)).spots = r.spots := by
  intro hall
  have hsame := hall modelessRing fromLine_modelessRing
  rw [spots_restart_of_fits fun s hs => (fromLine_modelessRing s hs).fits, spots_modelessRing] at hsame
  exact (hsame modelessSpot List.mem_cons_self).mode.1 rfl

end DxCluster
