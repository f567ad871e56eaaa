import Pihpsdr.Properties.Impl.Profiles
import Pihpsdr.Properties.Lemmas.Property

/-!
Which profiles are the same after they have been saved and restored. The loops of the two functions do
not end at the same entry, and the file has six decimal places.
-/

open Text Properties

namespace Profiles

-- all properties that are saved with one index
def savedScalars (remote : Bool) : List (String × Cell) :=
  savedAudio ++ if remote then [] else savedRx ++ savedTx

-- all properties that are saved with two indices
def savedArrays (remote : Bool) : List (String × ArrayField) :=
  if remote then [] else savedRxArrays ++ savedTxArrays

-- everything that is read for an entry
def restoredProps (remote : Bool) : List (Key × Cell) :=
  scalars restoredAudio ++
    if remote then []
    else scalars restoredSettings ++ arrays restoredArrays ++ scalars restoredAudio

theorem mem_scalars {l : List (String × Cell)} {p : Key × Cell}
    : p ∈ scalars l ↔ ∃ q ∈ l, p = ([codes q.1], q.2) := by
  rw [scalars, List.mem_map]
  simp only [eq_comm]

theorem mem_arrays {l : List (String × ArrayField)} {p : Key × Cell}
    : p ∈ arrays l ↔ ∃ q ∈ l, ∃ j, p = ([codes q.1, Decimal.digits j.val], q.2.cell j) := by
  simp only [arrays, List.mem_flatMap, List.mem_map, List.mem_finRange, true_and]
  constructor
  . rintro ⟨j, q, hq, heq⟩
    exact ⟨q, hq, j, heq.symm⟩
  . rintro ⟨q, hq, j, heq⟩
    exact ⟨j, q, hq, heq.symm⟩

theorem mem_scalars_append {l l' : List (String × Cell)} {p : Key × Cell}
    : p ∈ scalars (l ++ l') ↔ p ∈ scalars l ∨ p ∈ scalars l' := by
  simp [scalars]

theorem mem_arrays_append {l l' : List (String × ArrayField)} {p : Key × Cell}
    : p ∈ arrays (l ++ l') ↔ p ∈ arrays l ∨ p ∈ arrays l' := by
  simp only [mem_arrays, List.mem_append, or_and_right, exists_or]

theorem mem_savedProps {remote : Bool} {p : Key × Cell}
    : p ∈ savedProps remote
        ↔
      p ∈ scalars (savedScalars remote) ∨ p ∈ arrays (savedArrays remote) := by
  cases remote with
  | true => simp [savedProps, savedScalars, savedArrays, arrays]
  | false =>
    simp only [savedProps, savedScalars, savedArrays, Bool.false_eq_true, if_false, List.mem_append,
      mem_scalars_append, mem_arrays_append, or_assoc, or_left_comm]

theorem mem_scalars_congr {l l' : List (String × Cell)} (h : ∀ q, q ∈ l ↔ q ∈ l') {p : Key × Cell}
    : p ∈ scalars l ↔ p ∈ scalars l' := by
  simp only [mem_scalars, h]

theorem mem_arrays_congr {l l' : List (String × ArrayField)} (h : ∀ q, q ∈ l ↔ q ∈ l')
    {p : Key × Cell}
    : p ∈ arrays l ↔ p ∈ arrays l' := by
  simp only [mem_arrays, h]

-- both functions use the same keys for the same fields
theorem mem_restoredProps {remote : Bool} {p : Key × Cell}
    : p ∈ restoredProps remote ↔ p ∈ savedProps remote := by
  have haudio (q : String × Cell) : q ∈ restoredAudio ↔ q ∈ savedAudio := by
    have h : (∀ q ∈ restoredAudio, q ∈ savedAudio) ∧ ∀ q ∈ savedAudio, q ∈ restoredAudio := by
      decide
    exact ⟨h.1 q, h.2 q⟩
  have hsettings (q : String × Cell) : q ∈ restoredSettings ↔ q ∈ savedRx ++ savedTx := by
    have h : (∀ q ∈ restoredSettings, q ∈ savedRx ++ savedTx)
        ∧ ∀ q ∈ savedRx ++ savedTx, q ∈ restoredSettings := by
      decide +kernel
    exact ⟨h.1 q, h.2 q⟩
  have harrays (q : String × ArrayField)
      : q ∈ restoredArrays ↔ q ∈ savedRxArrays ++ savedTxArrays := by
    have h : (∀ q ∈ restoredArrays, q ∈ savedRxArrays ++ savedTxArrays)
        ∧ ∀ q ∈ savedRxArrays ++ savedTxArrays, q ∈ restoredArrays := by
      decide
    exact ⟨h.1 q, h.2 q⟩
  cases remote with
  | true =>
    simp only [restoredProps, savedProps, if_true, List.append_nil, mem_scalars_congr haudio]
  | false =>
    simp only [restoredProps, savedProps, Bool.false_eq_true, if_false, List.mem_append,
      mem_scalars_congr haudio, mem_scalars_congr hsettings, mem_arrays_congr harrays,
      mem_scalars_append, mem_arrays_append, or_assoc, or_left_comm, or_comm, or_self_left]

def KeyOk (key : String) : Prop :=
  dot ∉ codes key ∧ equals ∉ codes key ∧ newline ∉ codes key ∧ (codes key).length ≤ 22

instance (key : String) : Decidable (KeyOk key) :=
  inferInstanceAs (Decidable (_ ∧ _))

theorem KeyOk.plain {key : String} (h : KeyOk key) : Plain (codes key) where
  dot := h.1
  equals := h.2.1
  newline := h.2.2.1

theorem keyOk_saved
    : (∀ p ∈ savedScalars false, KeyOk p.1) ∧ ∀ p ∈ savedArrays false, KeyOk p.1 := by
  decide +kernel

theorem nodup_saved
    : ((savedScalars false).map Prod.fst).Nodup ∧ ((savedArrays false).map Prod.fst).Nodup := by
  decide +kernel

theorem savedScalars_subset {remote : Bool} {p : String × Cell} (h : p ∈ savedScalars remote)
    : p ∈ savedScalars false := by
  cases remote with
  | true =>
    unfold savedScalars at *
    rw [if_pos rfl, List.append_nil] at h
    exact List.mem_append_left _ h
  | false => exact h

theorem savedArrays_subset {remote : Bool} {p : String × ArrayField} (h : p ∈ savedArrays remote)
    : p ∈ savedArrays false := by
  cases remote with
  | true => contradiction
  | false => exact h

theorem snd_eq_of_nodup {β : Type} {l : List (String × β)} (h : (l.map Prod.fst).Nodup)
    {p q : String × β} (hp : p ∈ l) (hq : q ∈ l) (hkey : p.1 = q.1)
    : p.2 = q.2 := by
  rw [List.inj_on_of_nodup_map h hp hq hkey]

-- a key belongs to one field
theorem savedProps_functional {remote : Bool} {p q : Key × Cell} (hp : p ∈ savedProps remote)
    (hq : q ∈ savedProps remote) (hkey : p.1 = q.1)
    : p.2 = q.2 := by
  rw [mem_savedProps, mem_scalars, mem_arrays] at hp hq
  obtain ⟨a, ha, rfl⟩ | ⟨a, ha, j, rfl⟩ := hp
  . obtain ⟨b, hb, rfl⟩ | ⟨b, hb, k, rfl⟩ := hq
    . simp only [List.cons.injEq, and_true] at hkey
      exact snd_eq_of_nodup nodup_saved.1 (savedScalars_subset ha) (savedScalars_subset hb)
        (codes_injective hkey)
    . simp at hkey
  . obtain ⟨b, hb, rfl⟩ | ⟨b, hb, k, rfl⟩ := hq
    . simp at hkey
    . simp only [List.cons.injEq, and_true] at hkey
      have hfield := snd_eq_of_nodup nodup_saved.2 (savedArrays_subset ha) (savedArrays_subset hb)
        (codes_injective hkey.1)
      have hdigits := Decimal.digits_inj hkey.2
      dsimp only
      rw [hfield, Fin.ext hdigits]

theorem scalars_complete (c : Cell) (hc : ∀ f j, c ≠ ArrayField.cell f j)
    : ∃ key, (key, c) ∈ savedScalars false := by
  have hmem : c ∈ (savedScalars false).map Prod.snd := by
    match c with
    | .rx (.int f) => cases f <;> decide
    | .rx (.double f) => cases f <;> decide
    | .rx (.array f j) => exact absurd rfl (hc (.rx f) j)
    | .rx .audioName => decide
    | .tx (.int f) => cases f <;> decide
    | .tx (.double f) => cases f <;> decide
    | .tx (.array f j) => exact absurd rfl (hc (.tx f) j)
    | .tx .audioName => decide
  obtain ⟨p, hp, rfl⟩ := List.mem_map.mp hmem
  exact ⟨p.1, hp⟩

theorem arrays_complete (f : ArrayField) : ∃ key, (key, f) ∈ savedArrays false := by
  have hmem : f ∈ (savedArrays false).map Prod.snd := by
    match f with
    | .rx f => cases f <;> decide
    | .tx f => cases f <;> decide
  obtain ⟨p, hp, rfl⟩ := List.mem_map.mp hmem
  exact ⟨p.1, hp⟩

theorem isAudio_iff (c : Cell) : IsAudio c ↔ c ∈ savedAudio.map Prod.snd := by
  match c with
  | .rx (.int f) => cases f <;> decide
  | .rx (.double f) => simp [IsAudio, savedAudio]
  | .rx (.array f j) => simp [IsAudio, savedAudio]
  | .rx .audioName => decide
  | .tx (.int f) => cases f <;> decide
  | .tx (.double f) => simp [IsAudio, savedAudio]
  | .tx (.array f j) => simp [IsAudio, savedAudio]
  | .tx .audioName => decide

-- what is saved at all
def Saved (remote : Bool) (c : Cell) : Prop :=
  remote = false ∨ IsAudio c

instance (remote : Bool) (c : Cell) : Decidable (Saved remote c) :=
  inferInstanceAs (Decidable (_ ∨ _))

theorem exists_key_iff (remote : Bool) (c : Cell)
    : (∃ key, (key, c) ∈ savedProps remote) ↔ Saved remote c := by
  unfold Saved
  cases remote with
  | true =>
    simp only [Bool.true_eq_false, false_or, isAudio_iff, savedProps, if_true, List.append_nil,
      mem_scalars, List.mem_map, Prod.mk.injEq]
    constructor
    . rintro ⟨key, q, hq, -, rfl⟩
      exact ⟨q, hq, rfl⟩
    . rintro ⟨q, hq, rfl⟩
      exact ⟨_, q, hq, rfl, rfl⟩
  | false =>
    simp only [true_or, iff_true]
    by_cases hc : ∃ f j, c = ArrayField.cell f j
    . obtain ⟨f, j, rfl⟩ := hc
      obtain ⟨key, hkey⟩ := arrays_complete f
      refine ⟨[codes key, Decimal.digits j.val], ?_⟩
      rw [mem_savedProps, mem_arrays]
      exact .inr ⟨_, hkey, j, rfl⟩
    . have hne : ∀ f j, c ≠ ArrayField.cell f j := fun f j heq => hc ⟨f, j, heq⟩
      obtain ⟨key, hkey⟩ := scalars_complete c hne
      refine ⟨[codes key], ?_⟩
      rw [mem_savedProps, mem_scalars]
      exact .inl ⟨_, hkey, rfl⟩

-- the parts of a name
def nameParts (i : Fin (modes + numProfiles)) (key : Key) : List (List Int) :=
  codes "modeset" :: Decimal.digits i.val :: key

structure KeyFits (key : Key) : Prop where
  plain : ∀ part ∈ key, Plain part
  length : ∀ i, (dotted (nameParts i key)).length ≤ 40

theorem dotted_cons_cons (p q : List Int) (parts : List (List Int))
    : dotted (p :: q :: parts) = p ++ dot :: dotted (q :: parts) := by
  rw [dotted, List.intercalate_cons_cons, List.append_assoc]
  rfl

theorem keyFits {remote : Bool} {p : Key × Cell} (h : p ∈ savedProps remote) : KeyFits p.1 := by
  have hdigits (n k : Nat) (hk : 0 < k) (hn : n < 10 ^ k) : (Decimal.digits n).length ≤ k :=
    Decimal.length_digits_le hk hn
  have hprefix : (codes "modeset").length = 7 := by decide
  have hindex (i : Fin (modes + numProfiles)) : (Decimal.digits i.val).length ≤ 2 := by
    apply hdigits _ _ (by decide)
    have hi := i.isLt
    unfold modes numProfiles at hi
    omega
  have hsingle (q : List Int) : dotted [q] = q := List.intercalate_singleton
  rw [mem_savedProps, mem_scalars, mem_arrays] at h
  obtain ⟨q, hq, rfl⟩ | ⟨q, hq, j, rfl⟩ := h
  . have hkey := keyOk_saved.1 q (savedScalars_subset hq)
    constructor
    . intro part hpart
      rw [List.mem_singleton] at hpart
      rw [hpart]
      exact hkey.plain
    . intro i
      have hi := hindex i
      have hlen := hkey.2.2.2
      rw [nameParts, dotted_cons_cons, dotted_cons_cons, hsingle, List.length_append,
        List.length_cons, List.length_append, List.length_cons]
      omega
  . have hkey := keyOk_saved.2 q (savedArrays_subset hq)
    constructor
    . intro part hpart
      rw [List.mem_cons, List.mem_singleton] at hpart
      cases hpart with
      | inl hpart =>
        rw [hpart]
        exact hkey.plain
      | inr hpart =>
        rw [hpart]
        apply plain_digits
    . intro i
      have hi := hindex i
      have hlen := hkey.2.2.2
      have hj := hdigits j.val 2 (by decide) (by omega)
      rw [nameParts, dotted_cons_cons, dotted_cons_cons, dotted_cons_cons, hsingle,
        List.length_append, List.length_cons, List.length_append, List.length_cons,
        List.length_append, List.length_cons]
      omega

theorem plain_nameParts {key : Key} (h : KeyFits key) (i : Fin (modes + numProfiles))
    : ∀ part ∈ nameParts i key, Plain part := by
  have hprefix : Plain (codes "modeset") := by constructor <;> decide
  intro part hpart
  rw [nameParts, List.mem_cons, List.mem_cons] at hpart
  obtain rfl | rfl | hpart := hpart
  . exact hprefix
  . apply plain_digits
  . exact h.plain part hpart

theorem profileName_eq {key : Key} (h : KeyFits key) (i : Fin (modes + numProfiles))
    : profileName i key = dotted (nameParts i key) := by
  have hlen := h.length i
  exact propName_eq (by unfold nameParts at hlen; omega)

theorem profileName_inj {key key' : Key} (h : KeyFits key) (h' : KeyFits key')
    {i i' : Fin (modes + numProfiles)} (heq : profileName i key = profileName i' key')
    : i = i' ∧ key = key' := by
  have hlen := h.length i
  have hlen' := h'.length i'
  have hparts := propName_inj (plain_nameParts h i) (plain_nameParts h' i') (by simp [nameParts])
    (by simp [nameParts]) (by omega) (by omega) heq
  simp only [nameParts, List.cons.injEq, true_and] at hparts
  have hdigits := Decimal.digits_inj hparts.1
  exact ⟨Fin.ext hdigits, hparts.2⟩

theorem head?_profileName {key : Key} (h : KeyFits key) (i : Fin (modes + numProfiles))
    : (profileName i key).head? = some 109 := by
  rw [profileName_eq h, nameParts, head?_dotted (by decide)]
  decide

theorem profileName_ne_versionName {key : Key} (h : KeyFits key) (i : Fin (modes + numProfiles))
    : profileName i key ≠ versionName := by
  intro heq
  have hhead := head?_profileName h i
  rw [heq] at hhead
  revert hhead
  decide

theorem length_text_le (c : Cell) (x : c.Value) : (c.text x).length ≤ 127 := by
  have hint (x : Int) : (intText x).length ≤ 127 := by
    have hlen := length_format_longLong x
    rw [intText_eq]
    omega
  have hdouble (x : ℚ) : (doubleText x).length ≤ 127 := by
    rw [doubleText, snprintf128, List.length_take]
    omega
  have hname (x : CString 128) : (CString.codes x).length ≤ 127 := by
    have hlen := x.length_lt
    rw [CString.codes, List.length_map]
    omega
  cases c with
  | rx f =>
    cases f with
    | int f => exact hint x
    | double f => exact hdouble x
    | array f j => exact hdouble x
    | audioName => exact hname x
  | tx f =>
    cases f with
    | int f => exact hint x
    | double f => exact hdouble x
    | array f j => exact hdouble x
    | audioName => exact hname x

-- a line break can only stand in a name
def OneLine : (c : Cell) → c.Value → Prop
  | .rx .audioName, (x : CString 128) => 10 ∉ x.chars
  | .tx .audioName, (x : CString 128) => 10 ∉ x.chars
  | _, _ => True

theorem newline_not_mem_doubleText (x : ℚ) : newline ∉ doubleText x := by
  intro hmem
  rw [doubleText, snprintf128] at hmem
  exact not_mem_format (by decide) (by decide) (by decide) 6 x (List.mem_of_mem_take hmem)

theorem newline_mem_codes_iff {n : Nat} (x : CString n) : newline ∈ CString.codes x ↔ 10 ∈ x.chars := by
  rw [CString.codes, List.mem_map]
  constructor
  . rintro ⟨b, hb, heq⟩
    have hb10 : b = 10 := by
      unfold newline at heq
      bv_omega
    rwa [← hb10]
  . intro h
    exact ⟨10, h, rfl⟩

theorem newline_not_mem_text {c : Cell} {x : c.Value} (h : OneLine c x) : newline ∉ c.text x := by
  match c with
  | .rx (.int f) => apply newline_not_mem_intText
  | .rx (.double f) => apply newline_not_mem_doubleText
  | .rx (.array f j) => apply newline_not_mem_doubleText
  | .rx .audioName => exact (not_congr (newline_mem_codes_iff x)).mpr h
  | .tx (.int f) => apply newline_not_mem_intText
  | .tx (.double f) => apply newline_not_mem_doubleText
  | .tx (.array f j) => apply newline_not_mem_doubleText
  | .tx .audioName => exact (not_congr (newline_mem_codes_iff x)).mpr h

-- the pairs of name and text that are saved
def savedTexts (remote : Bool) (table : Table) : List (List Int × List Int) :=
  ((List.finRange (modes + numProfiles)).filter fun i => decide (i.val < modes)).flatMap fun i =>
    (savedProps remote).map fun p => (profileName i p.1, p.2.text (table i p.2))

theorem mem_savedTexts {remote : Bool} {table : Table} {q : List Int × List Int}
    : q ∈ savedTexts remote table
        ↔
      ∃ i, i.val < modes ∧ ∃ p ∈ savedProps remote,
        q = (profileName i p.1, p.2.text (table i p.2)) := by
  simp only [savedTexts, List.mem_flatMap, List.mem_filter, List.mem_finRange, true_and,
    decide_eq_true_eq, List.mem_map]
  simp only [eq_comm (a := q)]

theorem lineOk_savedTexts {remote : Bool} {table : Table}
    (h : ∀ i, i.val < modes → ∀ c, Saved remote c → OneLine c (table i c))
    : ∀ q ∈ savedTexts remote table, LineOk q := by
  intro q hq
  obtain ⟨i, hi, p, hp, rfl⟩ := mem_savedTexts.mp hq
  have hfits := keyFits hp
  have hplain := plain_nameParts hfits i
  have hlen := hfits.length i
  have htext := length_text_le p.2 (table i p.2)
  constructor
  . dsimp only
    intro hnil
    have hhead := head?_profileName hfits i
    rw [hnil] at hhead
    contradiction
  . dsimp only
    rw [profileName_eq hfits]
    exact not_mem_dotted (by decide) fun part hpart => (hplain part hpart).equals
  . dsimp only
    rw [profileName_eq hfits]
    exact not_mem_dotted (by decide) fun part hpart => (hplain part hpart).newline
  . dsimp only
    rw [head?_profileName hfits]
    decide
  . apply newline_not_mem_text
    exact h i hi p.2 ((exists_key_iff remote p.2).mp ⟨p.1, hp⟩)
  . dsimp only
    rw [profileName_eq hfits]
    omega

section

variable {remote : Bool} {table : Table}

-- what `getProperty` finds after saving
theorem getProperty_save {p : Key × Cell} (hp : p ∈ savedProps remote)
    (i : Fin (modes + numProfiles))
    : getProperty (profilesSaveState remote [] table) (profileName i p.1)
        =
      if i.val < modes then some (p.2.text (table i p.2)) else none := by
  have hsave : profilesSaveState remote [] table = setAll [] (savedTexts remote table) := rfl
  rw [hsave]
  split
  next hi =>
    apply getProperty_setAll
    . exact mem_savedTexts.mpr ⟨i, hi, p, hp, rfl⟩
    . intro q hq hname
      obtain ⟨i', hi', p', hp', rfl⟩ := mem_savedTexts.mp hq
      obtain ⟨rfl, hkey⟩ := profileName_inj (keyFits hp') (keyFits hp) hname
      have hcell := savedProps_functional hp' hp hkey
      dsimp only
      rw [hcell]
  next hi =>
    rw [getProperty_setAll_of_forall_ne]
    . rfl
    . intro q hq hname
      obtain ⟨i', hi', p', hp', rfl⟩ := mem_savedTexts.mp hq
      obtain ⟨rfl, hkey⟩ := profileName_inj (keyFits hp') (keyFits hp) hname
      exact hi hi'

theorem getProperty_load_saved
    (hline : ∀ i, i.val < modes → ∀ c, Saved remote c → OneLine c (table i c))
    {p : Key × Cell} (hp : p ∈ savedProps remote) (i : Fin (modes + numProfiles))
    : getProperty (loadProperties (saveProperties (profilesSaveState remote [] table)))
          (profileName i p.1)
        =
      if i.val < modes ∧ p.2.text (table i p.2) ≠ [] then
        some (p.2.text (table i p.2))
      else
        none := by
  have hwf : WellFormed (profilesSaveState remote [] table) :=
    WellFormed.nil.setAll (lineOk_savedTexts hline)
  rw [getProperty_load_save hwf (profileName_ne_versionName (keyFits hp) i), getProperty_save hp]
  by_cases hi : i.val < modes
  . by_cases htext : p.2.text (table i p.2) = []
    . simp [hi, htext]
    . simp [hi, htext]
  . simp [hi]

end

section

variable {props : Properties} {i : Fin (modes + numProfiles)}

theorem restoreCell_of_ne (e : Entry) {p : Key × Cell} {c : Cell} (h : p.2 ≠ c)
    : restoreCell props i e p c = e c := by
  rw [restoreCell]
  cases getProperty props (profileName i p.1) with
  | some value => exact Function.update_of_ne h.symm _ _
  | none => rfl

theorem restoreCells_of_none (ps : List (Key × Cell)) (e : Entry) {c : Cell}
    (h : ∀ p ∈ ps, p.2 = c → getProperty props (profileName i p.1) = none)
    : restoreCells props i ps e c = e c := by
  induction ps generalizing e with
  | nil => rfl
  | cons p ps ih =>
    have hrest := ih (restoreCell props i e p) fun q hq => h q (List.mem_cons_of_mem p hq)
    rw [restoreCells, List.foldl_cons]
    rw [restoreCells] at hrest
    rw [hrest]
    by_cases hc : p.2 = c
    . rw [restoreCell, h p List.mem_cons_self hc]
    . exact restoreCell_of_ne e hc

-- all properties of the field have the value `x`, and there is one
theorem restoreCells_of_some (ps : List (Key × Cell)) (e : Entry) {c : Cell} {value : List Int}
    (h : ∀ p ∈ ps, p.2 = c → getProperty props (profileName i p.1) = some value)
    (hc : ∃ p ∈ ps, p.2 = c)
    : restoreCells props i ps e c = c.parse value := by
  induction ps generalizing e with
  | nil =>
    obtain ⟨p, hp, -⟩ := hc
    contradiction
  | cons p ps ih =>
    have hps : ∀ q ∈ ps, q.2 = c → getProperty props (profileName i q.1) = some value :=
      fun q hq => h q (List.mem_cons_of_mem p hq)
    by_cases hlater : ∃ q ∈ ps, q.2 = c
    . exact ih (restoreCell props i e p) hps hlater
    . have hnone : ∀ q ∈ ps, q.2 = c → getProperty props (profileName i q.1) = none :=
        fun q hq hqc => absurd ⟨q, hq, hqc⟩ hlater
      have hp : p.2 = c := by
        obtain ⟨q, hq, hqc⟩ := hc
        rw [List.mem_cons] at hq
        cases hq with
        | inl hq => rwa [← hq]
        | inr hq => exact absurd ⟨q, hq, hqc⟩ hlater
      have hrest := restoreCells_of_none ps (restoreCell props i e p) hnone
      rw [restoreCells] at hrest
      rw [restoreCells, List.foldl_cons, hrest, restoreCell, h p List.mem_cons_self hp]
      subst hp
      exact Function.update_self _ _ _

theorem defaultEntry_congr {e e' : Entry} (h : ∀ f j, e' (ArrayField.cell f j) = e (f.cell j))
    (i : Fin (modes + numProfiles)) (c : Cell)
    : defaultEntry i e' c = defaultEntry i e c := by
  have hrx (j : Fin 11) : e' (.rx (.array .eqFreq j)) = e (.rx (.array .eqFreq j)) := h (.rx .eqFreq) j
  have htx (f : TxArray) (j : Fin 11) : e' (.tx (.array f j)) = e (.tx (.array f j)) := h (.tx f) j
  match c with
  | .rx (.int f) => cases f <;> rfl
  | .rx (.double f) => rfl
  | .rx (.array f j) =>
    cases f with
    | eqFreq =>
      have hfreq := congrArg (defaultFreq · j) (hrx j)
      exact hfreq
    | eqGain => rfl
  | .rx .audioName => rfl
  | .tx (.int f) => cases f <;> rfl
  | .tx (.double f) => cases f <;> rfl
  | .tx (.array f j) =>
    cases f with
    | eqFreq =>
      have hfreq := congrArg (defaultFreq · j) (htx .eqFreq j)
      exact hfreq
    | eqGain => rfl
    | cfcFreq =>
      have hfreq := congrArg (defaultFreq · j) (htx .cfcFreq j)
      exact hfreq
    | cfcLvl => rfl
    | cfcPost => rfl
  | .tx .audioName => rfl

theorem not_isAudio_cell (f : ArrayField) (j : Fin 11) : ¬ IsAudio (f.cell j) := by
  cases f <;> exact id

theorem isAudio_of_mem_audio {p : Key × Cell} (h : p ∈ scalars restoredAudio) : IsAudio p.2 := by
  have haudio : ∀ q ∈ restoredAudio, IsAudio q.2 := by decide
  obtain ⟨q, hq, rfl⟩ := mem_scalars.mp h
  exact haudio q hq

theorem exists_audio_key {c : Cell} (h : IsAudio c) : ∃ p ∈ scalars restoredAudio, p.2 = c := by
  obtain ⟨key, hkey⟩ := (exists_key_iff true c).mpr (.inr h)
  have hmem := mem_restoredProps.mpr hkey
  rw [restoredProps, if_pos rfl, List.append_nil] at hmem
  exact ⟨_, hmem, rfl⟩

-- the local audio, before anything else is read
theorem restoreCells_audio {e : Entry} {c : Cell} (h : ¬ IsAudio c)
    : restoreCells props i (scalars restoredAudio) e c = e c := by
  apply restoreCells_of_none
  intro p hp hpc
  have haudio := isAudio_of_mem_audio hp
  rw [hpc] at haudio
  exact absurd haudio h

-- an entry whose properties are all there or all missing for each field
theorem restoreEntry_apply (remote : Bool) (e : Entry) (c : Cell) (value : Option (List Int))
    (h : ∀ p ∈ savedProps remote, p.2 = c → getProperty props (profileName i p.1) = value)
    : restoreEntry remote props i e c
        =
      if Saved remote c then value.elim (defaultEntry i e c) c.parse else e c := by
  cases remote with
  | true =>
    have haudio : restoredProps true = scalars restoredAudio := by
      rw [restoredProps, if_pos rfl, List.append_nil]
    have hps : ∀ p ∈ scalars restoredAudio, p.2 = c →
        getProperty props (profileName i p.1) = value := by
      intro p hp
      apply h p
      rw [← mem_restoredProps, haudio]
      exact hp
    dsimp only [restoreEntry]
    rw [if_pos rfl]
    by_cases hc : IsAudio c
    . rw [if_pos (.inr hc)]
      cases value with
      | some value => exact restoreCells_of_some _ _ hps (exists_audio_key hc)
      | none =>
        rw [restoreCells_of_none _ _ hps]
        exact if_pos hc
    . have hsaved : ¬ Saved true c := by
        rintro (hfalse | haudio)
        . contradiction
        . exact hc haudio
      rw [if_neg hsaved, restoreCells_audio hc, if_neg hc]
  | false =>
    have hall : restoredProps false
        = scalars restoredAudio ++ (scalars restoredSettings ++ arrays restoredArrays
          ++ scalars restoredAudio) := by
      rw [restoredProps, if_neg (by decide)]
    have hps : ∀ p ∈ scalars restoredSettings ++ arrays restoredArrays ++ scalars restoredAudio,
        p.2 = c → getProperty props (profileName i p.1) = value := by
      intro p hp
      apply h p
      rw [← mem_restoredProps, hall]
      exact List.mem_append_right _ hp
    have hexists : ∃ p ∈ scalars restoredSettings ++ arrays restoredArrays ++ scalars restoredAudio,
        p.2 = c := by
      obtain ⟨key, hkey⟩ := (exists_key_iff false c).mpr (.inl rfl)
      have hmem := mem_restoredProps.mpr hkey
      rw [hall, List.mem_append] at hmem
      cases hmem with
      | inl hmem => exact ⟨_, List.mem_append_right _ hmem, rfl⟩
      | inr hmem => exact ⟨_, hmem, rfl⟩
    dsimp only [restoreEntry]
    rw [if_neg (by decide), if_pos (.inl rfl)]
    cases value with
    | some value => exact restoreCells_of_some _ _ hps hexists
    | none =>
      rw [restoreCells_of_none _ _ hps, Option.elim_none]
      split
      next hc =>
        have haudio : ∀ p ∈ scalars restoredAudio, p.2 = c →
            getProperty props (profileName i p.1) = none := by
          intro p hp
          exact hps p (List.mem_append_right _ hp)
        rw [restoreCells_of_none _ _ haudio, if_pos hc]
      next hc =>
        apply defaultEntry_congr
        intro f j
        rw [restoreCells_audio (not_isAudio_cell f j), if_neg (not_isAudio_cell f j)]

end

/--
A value that is the same after it has been written and read.
-/
def Survives : (c : Cell) → c.Value → Prop
  | .rx (.int _), (x : Int) => longLong x = x
  | .rx (.double _), (x : ℚ) => myatof (doubleText x) = x
  | .rx (.array _ _), (x : ℚ) => myatof (doubleText x) = x
  | .rx .audioName, (x : CString 128) => x.chars ≠ [] ∧ 10 ∉ x.chars
  | .tx (.int _), (x : Int) => longLong x = x
  | .tx (.double _), (x : ℚ) => myatof (doubleText x) = x
  | .tx (.array _ _), (x : ℚ) => myatof (doubleText x) = x
  | .tx .audioName, (x : CString 128) => x.chars ≠ [] ∧ 10 ∉ x.chars

theorem ofCodes_codes {n : Nat} (x : CString (n + 1)) : CString.ofCodes n (CString.codes x) = x := by
  have hbyte : ∀ c ∈ CString.codes x, IsByte c := by
    intro c hc
    obtain ⟨b, hb, rfl⟩ := List.mem_map.mp hc
    have hne : b ≠ 0 := by
      intro heq
      rw [heq] at hb
      exact x.no_nul hb
    unfold IsByte
    bv_omega
  have hwhile : (CString.codes x).takeWhile (fun c => decide (IsByte c)) = CString.codes x := by
    apply List.takeWhile_eq_self_iff.mpr
    intro c hc
    exact decide_eq_true (hbyte c hc)
  have hbytes : (CString.codes x).map (BitVec.ofInt 8) = x.chars := by
    rw [CString.codes, List.map_map]
    conv => rhs; rw [← List.map_id x.chars]
    apply List.map_congr_left
    intro b _
    simp
  have hlen := x.length_lt
  have htake : x.chars.take n = x.chars := List.take_of_length_le (by omega)
  cases x with
  | mk chars hlt hnul =>
    simp only [CString.ofCodes, hwhile, hbytes, htake]

theorem newline_not_mem_ofCodes {n : Nat} {cs : List Int} (h : newline ∉ cs)
    : 10 ∉ (CString.ofCodes n cs).chars := by
  intro hmem
  obtain ⟨c, hc, hten⟩ := List.mem_map.mp (List.mem_of_mem_take hmem)
  have hbyte : IsByte c := by simpa using List.mem_takeWhile_imp hc
  have hcode : c = newline := by
    have hnat := congrArg BitVec.toNat hten
    rw [BitVec.toNat_ofInt] at hnat
    unfold IsByte at hbyte
    unfold newline
    simp at hnat
    omega
  rw [hcode] at hc
  exact h ((List.takeWhile_sublist _).subset hc)

theorem codes_eq_nil_iff {n : Nat} (x : CString n) : CString.codes x = [] ↔ x.chars = [] := by
  rw [CString.codes, List.map_eq_nil_iff]

theorem doubleText_ne_nil (x : ℚ) : doubleText x ≠ [] := by
  intro hnil
  have hformat : Fixed.format 6 x ≠ [] := by
    simp [Fixed.format]
  rw [doubleText, snprintf128, List.take_eq_nil_iff] at hnil
  exact hformat (hnil.resolve_left (by decide))

theorem noAudio_ne_nil : noAudio.chars ≠ [] := by
  decide

-- the value of a field that was saved as `text`
def readBack (i : Fin (modes + numProfiles)) (e : Entry) (c : Cell) (text : List Int) : c.Value :=
  if text ≠ [] then c.parse text else defaultEntry i e c

section

variable {i : Fin (modes + numProfiles)} {e : Entry}

theorem readBack_of_ne_nil {c : Cell} {text : List Int} (h : text ≠ [])
    : readBack i e c text = c.parse text :=
  if_pos h

-- an empty name is not in the file, and the default is not empty
theorem readBack_name {c : Cell} {x : c.Value} {y : CString 128} (htext : c.text x = CString.codes y)
    (hparse : c.parse (CString.codes y) = x) (hdefault : y.chars = [] → defaultEntry i e c ≠ x)
    : readBack i e c (c.text x) = x ↔ y.chars ≠ [] := by
  rw [htext, readBack]
  split
  next hnil => simp [hparse, mt (codes_eq_nil_iff y).mpr hnil]
  next hnil =>
    have hchars := (codes_eq_nil_iff y).mp (not_not.mp hnil)
    simp [hdefault hchars, hchars]

theorem noAudio_ne {y : CString 128} (h : y.chars = []) : noAudio ≠ y := by
  intro heq
  rw [← heq] at h
  exact noAudio_ne_nil h

-- a field comes back from its text, or from the default if there is none
theorem readBack_text {c : Cell} {x : c.Value} (h : OneLine c x)
    : readBack i e c (c.text x) = x ↔ Survives c x := by
  match c with
  | .rx (.int f) =>
    have hback : readBack i e (.rx (.int f)) (intText x) = longLong x := by
      rw [readBack_of_ne_nil (intText_ne_nil x)]
      exact parse_intText x
    exact Eq.congr_left hback
  | .rx (.double f) => exact Eq.congr_left (readBack_of_ne_nil (doubleText_ne_nil x))
  | .rx (.array f j) => exact Eq.congr_left (readBack_of_ne_nil (doubleText_ne_nil x))
  | .rx .audioName =>
    have hname := readBack_name (i := i) (e := e) (c := .rx .audioName) rfl (ofCodes_codes x) noAudio_ne
    exact hname.trans (and_iff_left h).symm
  | .tx (.int f) =>
    have hback : readBack i e (.tx (.int f)) (intText x) = longLong x := by
      rw [readBack_of_ne_nil (intText_ne_nil x)]
      exact parse_intText x
    exact Eq.congr_left hback
  | .tx (.double f) => exact Eq.congr_left (readBack_of_ne_nil (doubleText_ne_nil x))
  | .tx (.array f j) => exact Eq.congr_left (readBack_of_ne_nil (doubleText_ne_nil x))
  | .tx .audioName =>
    have hname := readBack_name (i := i) (e := e) (c := .tx .audioName) rfl (ofCodes_codes x) noAudio_ne
    exact hname.trans (and_iff_left h).symm

end

theorem Survives.oneLine {c : Cell} {x : c.Value} (h : Survives c x) : OneLine c x := by
  match c with
  | .rx (.int f) => trivial
  | .rx (.double f) => trivial
  | .rx (.array f j) => trivial
  | .rx .audioName => exact h.2
  | .tx (.int f) => trivial
  | .tx (.double f) => trivial
  | .tx (.array f j) => trivial
  | .tx .audioName => exact h.2

-- a double comes back if it is the double next to its value with six decimal places
theorem myatof_doubleText {x : ℚ} (h : |x| < 10 ^ 100)
    : myatof (doubleText x) = Rounding.round 53 (Fixed.nearest 6 x) := by
  have hlen := Fixed.length_format_le (d := 6) (by decide) h
  have hcomma : (44 : Int) ∉ Fixed.format 6 x := not_mem_format (by decide) (by decide) (by decide) 6 x
  have hmap : (Fixed.format 6 x).map (fun c => if c = 44 then Fixed.point else c)
      = Fixed.format 6 x := by
    conv => rhs; rw [← List.map_id (Fixed.format 6 x)]
    apply List.map_congr_left
    intro c hc
    rw [if_neg (by intro heq; rw [heq] at hc; contradiction), id]
  rw [doubleText, snprintf128, List.take_of_length_le (by omega), myatof, hmap,
    Fixed.strtod_format (by decide)]

section

variable {i : Fin (modes + numProfiles)} {c : Cell}

theorem oneLine_parse {value : List Int} (h : newline ∉ value) : OneLine c (c.parse value) := by
  match c with
  | .rx (.int f) => trivial
  | .rx (.double f) => trivial
  | .rx (.array f j) => trivial
  | .rx .audioName => exact newline_not_mem_ofCodes h
  | .tx (.int f) => trivial
  | .tx (.double f) => trivial
  | .tx (.array f j) => trivial
  | .tx .audioName => exact newline_not_mem_ofCodes h

theorem oneLine_default (e : Entry) : OneLine c (defaultEntry i e c) := by
  have hname : 10 ∉ noAudio.chars := by decide
  match c with
  | .rx (.int f) => trivial
  | .rx (.double f) => trivial
  | .rx (.array f j) => trivial
  | .rx .audioName => exact hname
  | .tx (.int f) => trivial
  | .tx (.double f) => trivial
  | .tx (.array f j) => trivial
  | .tx .audioName => exact hname

-- what is read from a file has no line break
theorem oneLine_restoreCells (file : List Int) (ps : List (Key × Cell)) {e : Entry}
    (h : OneLine c (e c))
    : OneLine c (restoreCells (loadProperties file) i ps e c) := by
  induction ps generalizing e with
  | nil => exact h
  | cons p ps ih =>
    apply ih
    by_cases hp : p.2 = c
    . subst hp
      rw [restoreCell]
      cases hget : getProperty (loadProperties file) (profileName i p.1) with
      | some value =>
        dsimp only
        rw [Function.update_self]
        exact oneLine_parse (lineValue_of_getProperty hget).1
      | none => exact h
    . rw [restoreCell_of_ne e hp]
      exact h

theorem oneLine_restoreEntry (file : List Int) {remote : Bool} (e : Entry) (hc : Saved remote c)
    : OneLine c (restoreEntry remote (loadProperties file) i e c) := by
  unfold restoreEntry
  dsimp only
  split
  next hremote =>
    apply oneLine_restoreCells file
    have haudio : IsAudio c := by
      cases hc with
      | inl hfalse => rw [hremote] at hfalse; contradiction
      | inr haudio => exact haudio
    rw [if_pos haudio]
    apply oneLine_default
  next hremote =>
    apply oneLine_restoreCells file
    split
    next haudio =>
      apply oneLine_restoreCells file
      rw [if_pos haudio]
      apply oneLine_default
    next haudio => apply oneLine_default

end

section

variable {remote : Bool} {table start : Table}

-- the table that is restored
def restored (remote : Bool) (table start : Table) : Table :=
  profilesRestoreState remote (loadProperties (saveProperties (profilesSaveState remote [] table))) start

theorem restored_apply
    (hline : ∀ i, i.val < modes → ∀ c, Saved remote c → OneLine c (table i c))
    (i : Fin (modes + numProfiles)) (c : Cell)
    : restored remote table start i c
        =
      if Saved remote c then
        if i.val < modes then readBack i (start i) c (c.text (table i c))
        else defaultEntry i (start i) c
      else
        start i c := by
  have hget : ∀ p ∈ savedProps remote, p.2 = c →
      getProperty (loadProperties (saveProperties (profilesSaveState remote [] table)))
          (profileName i p.1)
        = if i.val < modes ∧ c.text (table i c) ≠ [] then some (c.text (table i c)) else none := by
    intro p hp hpc
    subst hpc
    exact getProperty_load_saved hline hp i
  rw [restored, profilesRestoreState, restoreEntry_apply remote (start i) c _ hget]
  by_cases hi : i.val < modes
  . by_cases htext : c.text (table i c) = []
    . simp [hi, htext, readBack]
    . simp [hi, htext, readBack]
  . simp [hi]

-- the entries of the modes come back, and nothing of the user profiles
theorem profilesRestoreState_profilesSaveState_iff (remote : Bool) (table start : Table)
    : profilesRestoreState remote
          (loadProperties (saveProperties (profilesSaveState remote [] table))) start
        = table
        ↔
      ∀ i c,
        if Saved remote c then
          if i.val < modes then Survives c (table i c) else table i c = defaultEntry i (start i) c
        else
          table i c = start i c := by
  constructor
  . intro h i c
    have hline : ∀ i, i.val < modes → ∀ c, Saved remote c → OneLine c (table i c) := by
      intro i _ c hc
      have hone := oneLine_restoreEntry (i := i)
        (saveProperties (profilesSaveState remote [] table)) (start i) hc
      rw [← h]
      exact hone
    have happly : restored remote table start i c = _ := restored_apply hline i c
    rw [restored, h] at happly
    split
    next hc =>
      rw [if_pos hc] at happly
      split
      next hi =>
        rw [if_pos hi] at happly
        exact (readBack_text (hline i hi c hc)).mp happly.symm
      next hi => rwa [if_neg hi] at happly
    next hc => rwa [if_neg hc] at happly
  . intro h
    have hline : ∀ i, i.val < modes → ∀ c, Saved remote c → OneLine c (table i c) := by
      intro i hi c hc
      have hic := h i c
      rw [if_pos hc, if_pos hi] at hic
      exact hic.oneLine
    funext i c
    have happly : restored remote table start i c = _ := restored_apply hline i c
    have hic := h i c
    rw [restored] at happly
    rw [happly]
    split
    next hc =>
      rw [if_pos hc] at hic
      split
      next hi =>
        rw [if_pos hi] at hic
        exact (readBack_text hic.oneLine).mpr hic
      next hi => rw [if_neg hi] at hic; exact hic.symm
    next hc => rw [if_neg hc] at hic; exact hic.symm

end

-- a program that has just been started
def blankEntry : Entry
  | .rx (.int _) => (0 : Int)
  | .rx (.double _) => (0 : ℚ)
  | .rx (.array _ _) => (0 : ℚ)
  | .rx .audioName => ⟨[], by decide, by decide⟩
  | .tx (.int _) => (0 : Int)
  | .tx (.double _) => (0 : ℚ)
  | .tx (.array _ _) => (0 : ℚ)
  | .tx .audioName => ⟨[], by decide, by decide⟩

-- the defaults with another filter everywhere
def otherFilter : Table := fun i => fun
  | .rx (.int .filter) => filterF4
  | c => defaultEntry i blankEntry c

theorem oneLine_otherFilter (i : Fin (modes + numProfiles)) (c : Cell)
    : OneLine c (otherFilter i c) := by
  match c with
  | .rx (.int f) => trivial
  | .rx (.double f) => trivial
  | .rx (.array f j) => trivial
  | .rx .audioName => exact oneLine_default (c := .rx .audioName) (i := i) blankEntry
  | .tx f => exact oneLine_default (c := .tx f) (i := i) blankEntry

-- the filter of the first user profile is lost
theorem not_profilesRestoreState_profilesSaveState
    : ¬ ∀ (remote : Bool) (table start : Table),
        profilesRestoreState remote
          (loadProperties (saveProperties (profilesSaveState remote [] table))) start = table := by
  intro h
  have happly : restored false otherFilter (fun _ => blankEntry) ⟨modes, by decide⟩
      (.rx (.int .filter)) = _ :=
    restored_apply (fun i _ c _ => oneLine_otherFilter i c) _ _
  rw [restored, h, if_pos (.inl rfl), if_neg (by decide)] at happly
  have hfilter : filterF4 = filterF0 := happly
  revert hfilter
  decide

end Profiles
