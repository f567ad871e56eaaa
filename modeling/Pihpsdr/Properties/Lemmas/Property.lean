import Pihpsdr.Properties.Impl.Property

/-!
What has been saved is loaded again, if names and values keep to their lines.
-/

namespace Properties

open Text

/--
A name and a value that make a single line of the file.
-/
structure LineOk (p : List Int × List Int) : Prop where
  name_ne_nil : p.1 ≠ []
  equals_not_mem : equals ∉ p.1
  newline_not_mem_name : newline ∉ p.1
  not_comment : p.1.head? ≠ some hash
  newline_not_mem : newline ∉ p.2
  length_lt : p.1.length + p.2.length < 254

instance (p : List Int × List Int) : Decidable (LineOk p) :=
  decidable_of_iff
    (p.1 ≠ [] ∧ equals ∉ p.1 ∧ newline ∉ p.1 ∧ p.1.head? ≠ some hash ∧ newline ∉ p.2 ∧
      p.1.length + p.2.length < 254)
    ⟨fun ⟨hne, heq, hname, hhash, hvalue, hlen⟩ => ⟨hne, heq, hname, hhash, hvalue, hlen⟩,
      fun ⟨hne, heq, hname, hhash, hvalue, hlen⟩ => ⟨hne, heq, hname, hhash, hvalue, hlen⟩⟩

structure WellFormed (props : Properties) : Prop where
  nodup : (props.map Prod.fst).Nodup
  line : ∀ p ∈ props, LineOk p

theorem WellFormed.nil : WellFormed [] where
  nodup := List.nodup_nil
  line _ hp := absurd hp List.not_mem_nil

theorem WellFormed.setProperty {props : Properties} (h : WellFormed props) {name value : List Int}
    (hline : LineOk (name, value))
    : WellFormed (setProperty props name value) where
  nodup := Assoc.nodup_keys_set props name value h.nodup
  line p hp := by
    cases Assoc.mem_set props name value hp with
    | inl heq =>
      rw [heq]
      exact hline
    | inr hmem => exact h.line p hmem

theorem WellFormed.setAll {props : Properties} (h : WellFormed props)
    {ps : List (List Int × List Int)} (hps : ∀ p ∈ ps, LineOk p)
    : WellFormed (setAll props ps) := by
  induction ps generalizing props with
  | nil => exact h
  | cons p ps ih =>
    apply ih
    . exact h.setProperty (hps p List.mem_cons_self)
    . intro q hq
      exact hps q (List.mem_cons_of_mem p hq)

theorem getProperty_setProperty (props : Properties) (name value name' : List Int)
    : getProperty (setProperty props name value) name'
        =
      if name' = name then some value else getProperty props name' :=
  Assoc.get_set props name value name'

theorem getProperty_setAll_of_forall_ne (props : Properties) {ps : List (List Int × List Int)}
    {name : List Int} (h : ∀ p ∈ ps, p.1 ≠ name)
    : getProperty (setAll props ps) name = getProperty props name := by
  induction ps generalizing props with
  | nil => rfl
  | cons p ps ih =>
    have hp := h p List.mem_cons_self
    have hset := getProperty_setProperty props p.1 p.2 name
    rw [if_neg (Ne.symm hp)] at hset
    rw [← hset]
    apply ih
    intro q hq
    exact h q (List.mem_cons_of_mem p hq)

-- all properties of this name have been set to the same value
theorem getProperty_setAll (props : Properties) {ps : List (List Int × List Int)}
    {name value : List Int} (hmem : (name, value) ∈ ps) (hps : ∀ p ∈ ps, p.1 = name → p.2 = value)
    : getProperty (setAll props ps) name = some value := by
  induction ps generalizing props with
  | nil => contradiction
  | cons p ps ih =>
    have hrest : ∀ q ∈ ps, q.1 = name → q.2 = value :=
      fun q hq => hps q (List.mem_cons_of_mem p hq)
    by_cases hin : (name, value) ∈ ps
    . exact ih (setProperty props p.1 p.2) hin hrest
    . rw [List.mem_cons] at hmem
      have heq : (name, value) = p := hmem.resolve_right hin
      have hnone : ∀ q ∈ ps, q.1 ≠ name := by
        intro q hq hname
        apply hin
        rw [← hname, ← hrest q hq hname]
        exact hq
      subst heq
      have hget := getProperty_setProperty props name value name
      rw [if_pos rfl] at hget
      rw [← hget]
      exact getProperty_setAll_of_forall_ne (setProperty props name value) hnone

-- the value that was set last, or the one from before
theorem getProperty_setAll_eq (props : Properties) (ps : List (List Int × List Int))
    (name : List Int)
    : getProperty (setAll props ps) name
        =
      (ps.reverse.lookup name).or (getProperty props name) := by
  induction ps generalizing props with
  | nil => rfl
  | cons p ps ih =>
    have hset := getProperty_setProperty props p.1 p.2 name
    have hlast : ([p].lookup name).or (getProperty props name)
        = getProperty (setProperty props p.1 p.2) name := by
      rw [hset, List.lookup_cons]
      by_cases hname : name = p.1
      . simp [hname]
      . simp [hname, beq_eq_false_iff_ne.mpr hname]
    rw [List.reverse_cons, List.lookup_append, Option.or_assoc, hlast]
    exact ih (setProperty props p.1 p.2)

theorem length_versionText : versionText.length ≤ 7 := by
  have hlt : |propertyVersion| < 10 ^ 1 := by
    rw [propertyVersion]
    norm_num
  have hlen := Fixed.length_format_le (d := 2) (by decide) hlt
  rw [versionText]
  omega

theorem strtod_versionText : Fixed.strtod versionText = propertyVersion := by
  have hunits : Fixed.units 2 3 = 300 := by
    have hround : Rounding.roundEven (300 : ℚ) = 300 := by
      have := Rounding.roundEven_eq_of_near (q := 300) (m := 300) (by norm_num)
      exact this
    have hmul : |(3 : ℚ)| * 10 ^ 2 = 300 := by norm_num
    rw [Fixed.units, hmul, hround]
    rfl
  have hnearest : Fixed.nearest 2 3 = 3 := by
    unfold Fixed.nearest
    rw [hunits]
    norm_num
  rw [versionText, Fixed.strtod_format (by decide), propertyVersion, hnearest]
  have hround := Rounding.round_intCast (p := 53) (m := 3) (by norm_num)
  exact_mod_cast hround

theorem not_mem_format {c : Int} (hdigit : ¬ Decimal.IsDigit c) (hsign : c ≠ 45)
    (hpoint : c ≠ Fixed.point) (d : Nat) (x : ℚ)
    : c ∉ Fixed.format d x := by
  dsimp only [Fixed.format]
  rw [List.mem_append, List.mem_append, List.mem_cons]
  rintro ((hc | hc) | hc | hc)
  . split at hc
    . exact hsign (List.mem_singleton.mp hc)
    . exact List.not_mem_nil hc
  . exact hdigit (Decimal.isDigit_of_mem_digits hc)
  . exact hpoint hc
  . exact hdigit (Fixed.isDigit_of_mem_format hc)

theorem lineOk_version : LineOk (versionName, versionText) where
  name_ne_nil := by decide
  equals_not_mem := by decide
  newline_not_mem_name := by decide
  not_comment := by decide
  newline_not_mem := by apply not_mem_format <;> decide
  length_lt := by
    have hlen := length_versionText
    have hname : versionName.length = 16 := by decide
    dsimp only
    omega

theorem head?_lineOf {p : List Int × List Int} (h : LineOk p) (rest : List Int)
    : (lineOf p ++ rest).head? ≠ some hash := by
  have hne := h.name_ne_nil
  have hcomment := h.not_comment
  unfold lineOf
  cases hname : p.1 with
  | nil => contradiction
  | cons c cs =>
    rw [hname] at hcomment
    exact hcomment

theorem addLine_lineOf {p : List Int × List Int} (h : LineOk p) (hvalue : p.2 ≠ [])
    (acc : Properties × ℚ)
    : addLine acc (lineOf p ++ [newline])
        =
      (p :: acc.1, if p.1 = versionName then Fixed.strtod p.2 else acc.2) := by
  have hname : strtok equals (lineOf p ++ [newline]) = some (p.1, p.2 ++ [newline]) := by
    rw [lineOf, List.append_assoc, List.cons_append]
    exact strtok_append h.equals_not_mem h.name_ne_nil (p.2 ++ [newline])
  have htext : strtok newline (p.2 ++ [newline]) = some (p.2, []) :=
    strtok_append h.newline_not_mem hvalue []
  rw [addLine, if_neg (head?_lineOf h [newline]), hname]
  dsimp only
  rw [htext]

-- the version is the one of this program, if it is in the file at all
theorem foldl_addLine {props : Properties}
    (hprops : ∀ p ∈ props, LineOk p ∧ p.2 ≠ [] ∧ (p.1 = versionName → p.2 = versionText))
    {acc : Properties × ℚ} (hacc : acc.2 = -1 ∨ acc.2 = propertyVersion)
    : ((props.map fun p => lineOf p ++ [newline]).foldl addLine acc).1 = props.reverse ++ acc.1
      ∧ (((props.map fun p => lineOf p ++ [newline]).foldl addLine acc).2 = -1
        ∨ ((props.map fun p => lineOf p ++ [newline]).foldl addLine acc).2 = propertyVersion) := by
  induction props generalizing acc with
  | nil => exact ⟨rfl, hacc⟩
  | cons p props ih =>
    obtain ⟨hline, hvalue, hversion⟩ := hprops p List.mem_cons_self
    rw [List.map_cons, List.foldl_cons, addLine_lineOf hline hvalue, List.reverse_cons,
      List.append_assoc, List.singleton_append]
    apply ih
    . intro q hq
      exact hprops q (List.mem_cons_of_mem p hq)
    . dsimp only
      split
      next hname =>
        rw [hversion hname, strtod_versionText]
        right
        rfl
      next => exact hacc

-- the lines of the file
theorem saveProperties_eq {props : Properties} (h : WellFormed props)
    : saveProperties props
        =
      (((setProperty props versionName versionText).filter fun p => decide (p.2 ≠ [])).map
        lineOf).flatMap fun line => line ++ [newline] := by
  have hwf := h.setProperty lineOk_version
  unfold saveProperties
  generalize setProperty props versionName versionText = props at *
  replace hwf := hwf.line
  induction props with
  | nil => rfl
  | cons p props ih =>
    have hp := hwf p List.mem_cons_self
    have hrest := ih fun q hq => hwf q (List.mem_cons_of_mem p hq)
    rw [List.flatMap_cons, List.filter_cons]
    by_cases hvalue : p.2 = []
    . rw [if_pos hvalue, if_neg (by simpa using hvalue), List.nil_append, hrest]
    . have hlen := hp.length_lt
      have htake : (lineOf p ++ [newline]).take 1023 = lineOf p ++ [newline] := by
        apply List.take_of_length_le
        rw [lineOf, List.length_append, List.length_append, List.length_cons, List.length_singleton]
        omega
      rw [if_neg hvalue, if_pos (by simpa using hvalue), List.map_cons, List.flatMap_cons, htake,
        hrest]

theorem loadProperties_saveProperties {props : Properties} (h : WellFormed props)
    : loadProperties (saveProperties props)
        =
      ((setProperty props versionName versionText).filter fun p => decide (p.2 ≠ [])).reverse := by
  have hwf := h.setProperty lineOk_version
  have hfile := saveProperties_eq h
  have hversion : ∀ p ∈ setProperty props versionName versionText,
      p.1 = versionName → p.2 = versionText := by
    intro p hp hname
    have hget := (Assoc.get_eq_some_iff hwf.nodup).mpr hp
    have hset := getProperty_setProperty props versionName versionText p.1
    rw [if_pos hname] at hset
    rw [getProperty, hget, Option.some.injEq] at hset
    exact hset
  have hlines : ∀ p ∈ (setProperty props versionName versionText).filter fun p => decide (p.2 ≠ []),
      LineOk p ∧ p.2 ≠ [] ∧ (p.1 = versionName → p.2 = versionText) := by
    intro p hp
    rw [List.mem_filter, decide_eq_true_eq] at hp
    exact ⟨hwf.line p hp.1, hp.2, hversion p hp.1⟩
  generalize (setProperty props versionName versionText).filter (fun p => decide (p.2 ≠ [])) = saved
    at *
  have hread : readLines 255 (saveProperties props).length (saveProperties props)
      = (saved.map lineOf).map fun line => line ++ [newline] := by
    rw [hfile]
    apply readLines_lines
    . intro line hline
      rw [List.mem_map] at hline
      obtain ⟨p, hp, hline⟩ := hline
      obtain ⟨hok, -, -⟩ := hlines p hp
      have hlen := hok.length_lt
      subst hline
      rw [lineOf, List.mem_append, List.mem_cons, List.length_append, List.length_cons]
      constructor
      . rintro (hmem | hmem | hmem)
        . exact hok.newline_not_mem_name hmem
        . exact absurd hmem (by decide)
        . exact hok.newline_not_mem hmem
      . omega
    . apply length_le_length_flatMap
  have hstart : ((([], -1) : Properties × ℚ)).2 = -1 ∨ ((([], -1) : Properties × ℚ)).2 = propertyVersion :=
    .inl rfl
  have hfold := foldl_addLine hlines hstart
  rw [List.map_map] at hread
  unfold loadProperties
  rw [hread]
  simp only [Function.comp_def]
  obtain ⟨hprops, hv⟩ := hfold
  split
  next hbad =>
    cases hv with
    | inl hv =>
      rw [hv] at hbad
      exact absurd hbad.1 (by norm_num)
    | inr hv => exact absurd hv hbad.2
  next =>
    rw [hprops, List.append_nil]

-- what is saved is the list with the version
theorem getProperty_load_save_version {props : Properties} (h : WellFormed props) (name : List Int)
    : getProperty (loadProperties (saveProperties props)) name
        =
      (getProperty (setProperty props versionName versionText) name).filter
        fun value => decide (value ≠ []) := by
  have hwf := h.setProperty lineOk_version
  rw [loadProperties_saveProperties h]
  generalize setProperty props versionName versionText = props at *
  have hfilter : ((props.filter fun p => decide (p.2 ≠ [])).map Prod.fst).Nodup :=
    hwf.nodup.sublist (List.filter_sublist.map Prod.fst)
  have hreverse : ((props.filter fun p => decide (p.2 ≠ [])).reverse.map Prod.fst).Nodup := by
    rw [List.map_reverse]
    exact List.nodup_reverse.mpr hfilter
  apply Option.ext
  intro value
  unfold getProperty
  rw [Assoc.get_eq_some_iff hreverse, List.mem_reverse, List.mem_filter, Option.filter_eq_some_iff,
    Assoc.get_eq_some_iff hwf.nodup]

theorem getProperty_load_save {props : Properties} (h : WellFormed props) {name : List Int}
    (hname : name ≠ versionName)
    : getProperty (loadProperties (saveProperties props)) name
        =
      (getProperty props name).filter fun value => decide (value ≠ []) := by
  rw [getProperty_load_save_version h, getProperty_setProperty, if_neg hname]

/--
The properties that have been set come back with the values that were set last, and no others do. The
version is always that of the program.
-/
theorem getProperty_load_save_setAll {ps : List (List Int × List Int)}
    (hps : ∀ p ∈ ps, LineOk p ∧ p.2 ≠ []) (name : List Int)
    : getProperty (loadProperties (saveProperties (setAll [] ps))) name
        =
      if name = versionName then some versionText else ps.reverse.lookup name := by
  have hwf : WellFormed (setAll [] ps) := WellFormed.nil.setAll fun p hp => (hps p hp).1
  have hlast : getProperty (setAll [] ps) name = ps.reverse.lookup name := by
    rw [getProperty_setAll_eq]
    exact Option.or_none
  rw [getProperty_load_save_version hwf, getProperty_setProperty]
  split
  next =>
    have hne : versionText ≠ [] := by
      intro hnil
      have hstrtod := strtod_versionText
      rw [hnil] at hstrtod
      exact absurd hstrtod (by decide +kernel)
    rw [Option.filter_some, if_pos (decide_eq_true hne)]
  next =>
    rw [hlast]
    cases hvalue : ps.reverse.lookup name with
    | none => rfl
    | some value =>
      obtain ⟨before, after, hps', -⟩ := List.lookup_eq_some_iff.mp hvalue
      have hmem : (name, value) ∈ ps := by
        rw [← List.mem_reverse, hps']
        simp
      rw [Option.filter_some, if_pos (decide_eq_true (hps _ hmem).2)]

theorem getProperty_load_save_twice
    : getProperty (loadProperties (saveProperties (setAll []
          [(codes "a", codes "x=y"), (codes "b", codes "#1"), (codes "a", codes "=#2")])))
        (codes "a")
        =
      some (codes "=#2") :=
  getProperty_load_save_setAll (by decide) (codes "a")

-- the version is there although it has not been set, and a line without a name is read as another one
theorem getProperty_load_save_ne
    : getProperty (loadProperties (saveProperties (setAll [] []))) versionName
        = some (codes "3.00")
      ∧ getProperty (loadProperties (saveProperties (setAll [] [([], codes "a=b")]))) (codes "a")
        = some (codes "b") := by
  decide +kernel

-- whatever has been saved, a value from a file ends with its line
theorem lineValue_addLine {acc : Properties × ℚ}
    (hacc : ∀ p ∈ acc.1, newline ∉ p.2 ∧ p.2 ≠ []) (line : List Int)
    : ∀ p ∈ (addLine acc line).1, newline ∉ p.2 ∧ p.2 ≠ [] := by
  unfold addLine
  split
  . exact hacc
  . split
    . exact hacc
    . split
      . exact hacc
      next value rest htok =>
        intro p hp
        rw [List.mem_cons] at hp
        cases hp with
        | inl heq =>
          rw [heq]
          exact ⟨not_mem_of_strtok htok, ne_nil_of_strtok htok⟩
        | inr hmem => exact hacc p hmem

theorem lineValue_of_getProperty {file name value : List Int}
    (h : getProperty (loadProperties file) name = some value)
    : newline ∉ value ∧ value ≠ [] := by
  have hfold (lines : List (List Int)) {acc : Properties × ℚ}
      (hacc : ∀ p ∈ acc.1, newline ∉ p.2 ∧ p.2 ≠ [])
      : ∀ p ∈ (lines.foldl addLine acc).1, newline ∉ p.2 ∧ p.2 ≠ [] := by
    induction lines generalizing acc with
    | nil => exact hacc
    | cons line lines ih => exact ih (lineValue_addLine hacc line)
  have hmem := Assoc.mem_of_get h
  unfold loadProperties at hmem
  dsimp only at hmem
  split at hmem
  . contradiction
  . apply hfold _ _ _ hmem
    intro p hp
    contradiction

theorem longLong_eq {x : Int} (hlo : -2 ^ 63 ≤ x) (hhi : x < 2 ^ 63) : longLong x = x := by
  rw [longLong, BitVec.toInt_ofInt]
  apply Int.bmod_eq_of_le <;> omega

theorem length_format_longLong (x : Int)
    : (Decimal.format false 0 (longLong x)).length ≤ 20 := by
  have hlo := BitVec.le_toInt (BitVec.ofInt 64 x)
  have hhi := BitVec.toInt_lt (x := BitVec.ofInt 64 x)
  apply Decimal.length_format_zero_le (by decide)
  unfold longLong
  omega

theorem intText_eq (x : Int) : intText x = Decimal.format false 0 (longLong x) := by
  have hlen := length_format_longLong x
  rw [intText, snprintf128, List.take_of_length_le (by omega)]

theorem parse_intText (x : Int) : Decimal.parse (intText x) = longLong x := by
  rw [intText_eq, Decimal.parse_format]

theorem intText_ne_nil (x : Int) : intText x ≠ [] := by
  intro hnil
  have hlen : (Decimal.digits (longLong x).natAbs).length = 0 := by
    rw [intText_eq, Decimal.format, List.append_eq_nil_iff] at hnil
    rw [hnil.2, List.length_nil]
  exact Decimal.digits_ne_nil _ (List.length_eq_zero_iff.mp hlen)

theorem newline_not_mem_intText (x : Int) : newline ∉ intText x := by
  rw [intText_eq]
  intro hmem
  have := Decimal.isDigit_or_of_mem_format hmem
  revert this
  decide

-- a text without the separators and the end of a line
structure Plain (part : List Int) : Prop where
  dot : dot ∉ part
  equals : equals ∉ part
  newline : newline ∉ part

theorem plain_digits (n : Nat) : Plain (Decimal.digits n) := by
  constructor
  . intro hmem
    exact absurd (Decimal.isDigit_of_mem_digits hmem) (by decide)
  . intro hmem
    exact absurd (Decimal.isDigit_of_mem_digits hmem) (by decide)
  . intro hmem
    exact absurd (Decimal.isDigit_of_mem_digits hmem) (by decide)

theorem propName_eq {parts : List (List Int)} (h : (dotted parts).length ≤ 127)
    : propName parts = dotted parts := by
  rw [propName, snprintf128, List.take_of_length_le h]

theorem propName_inj {parts parts' : List (List Int)} (hparts : ∀ p ∈ parts, Plain p)
    (hparts' : ∀ p ∈ parts', Plain p) (hne : parts ≠ []) (hne' : parts' ≠ [])
    (hlen : (dotted parts).length ≤ 127) (hlen' : (dotted parts').length ≤ 127)
    (h : propName parts = propName parts')
    : parts = parts' := by
  rw [propName_eq hlen, propName_eq hlen'] at h
  exact dotted_inj (fun p hp => (hparts p hp).dot) (fun p hp => (hparts' p hp).dot) hne hne' h

end Properties

/-!
Integers that are saved under names with an index: a group, a number and the name of a field.
-/

namespace Properties

open Text

/--
The names of a group of properties. No two fields have the same name, and none of the names is cut off.
-/
structure Group (n : Nat) (F : Type) where
  group : String
  key : F → String
  group_ne_nil : codes group ≠ []
  not_comment : (codes group).head? ≠ some hash
  plain_group : Plain (codes group)
  plain_key : ∀ f, Plain (codes (key f))
  key_injective : Function.Injective key
  length_le : ∀ (i : Fin n) (f : F),
    (dotted [codes group, Decimal.digits i.val, codes (key f)]).length ≤ 100

namespace Group

variable {n : Nat} {F : Type} (g : Group n F)

def parts (i : Fin n) (f : F) : List (List Int) :=
  [codes g.group, Decimal.digits i.val, codes (g.key f)]

def name (i : Fin n) (f : F) : List Int :=
  propName (g.parts i f)

def saved (fields : List F) (value : Fin n → F → Int) : List (List Int × List Int) :=
  (List.finRange n).flatMap fun i => fields.map fun f => (g.name i f, intText (value i f))

theorem plain_parts (i : Fin n) (f : F) : ∀ p ∈ g.parts i f, Plain p := by
  intro p hp
  simp only [parts, List.mem_cons, List.not_mem_nil, or_false] at hp
  obtain rfl | rfl | rfl := hp
  . exact g.plain_group
  . exact plain_digits i.val
  . exact g.plain_key f

theorem name_eq (i : Fin n) (f : F) : g.name i f = dotted (g.parts i f) := by
  have hlen := g.length_le i f
  apply propName_eq
  unfold parts
  omega

theorem head?_name (i : Fin n) (f : F) : (g.name i f).head? = (codes g.group).head? := by
  rw [name_eq]
  exact head?_dotted g.group_ne_nil _

theorem name_inj {i i' : Fin n} {f f' : F} (h : g.name i f = g.name i' f') : i = i' ∧ f = f' := by
  have hlen := g.length_le i f
  have hlen' := g.length_le i' f'
  have hparts := propName_inj (g.plain_parts i f) (g.plain_parts i' f') (by simp [parts])
    (by simp [parts]) (by unfold parts; omega) (by unfold parts; omega) h
  simp only [parts, List.cons.injEq, and_true, true_and] at hparts
  constructor
  . apply Fin.ext
    exact Decimal.digits_inj hparts.1
  . exact g.key_injective (codes_injective hparts.2)

-- a name with an index has a dot
theorem name_ne_versionName (i : Fin n) (f : F) : g.name i f ≠ versionName := by
  intro h
  have hdot : dot ∈ g.name i f := by
    rw [name_eq, dotted, parts, List.intercalate_cons_cons]
    simp
  rw [h] at hdot
  revert hdot
  decide

variable (fields : List F) (value : Fin n → F → Int)

theorem lineOk_saved : ∀ p ∈ g.saved fields value, LineOk p := by
  intro p hp
  simp only [saved, List.mem_flatMap, List.mem_map] at hp
  obtain ⟨i, -, f, -, rfl⟩ := hp
  have hplain := g.plain_parts i f
  have hlen : (dotted (g.parts i f)).length ≤ 100 := g.length_le i f
  have htext := length_format_longLong (value i f)
  constructor
  . dsimp only
    intro hnil
    have hhead := g.head?_name i f
    rw [hnil] at hhead
    exact g.group_ne_nil (List.head?_eq_none_iff.mp hhead.symm)
  . dsimp only
    rw [name_eq]
    exact not_mem_dotted (by decide) fun p hp => (hplain p hp).equals
  . dsimp only
    rw [name_eq]
    exact not_mem_dotted (by decide) fun p hp => (hplain p hp).newline
  . dsimp only
    rw [head?_name]
    exact g.not_comment
  . exact newline_not_mem_intText (value i f)
  . dsimp only
    rw [name_eq, intText_eq]
    omega

-- what has been saved in the group is read again, whatever else is in the file
theorem getInt_saved {props : Properties} (hprops : WellFormed props) (i : Fin n) {f : F}
    (hf : f ∈ fields)
    : getInt (loadProperties (saveProperties (setAll props (g.saved fields value)))) (g.name i f)
        =
      some (longLong (value i f)) := by
  have hwf : WellFormed (setAll props (g.saved fields value)) :=
    hprops.setAll (g.lineOk_saved fields value)
  have hget : getProperty (setAll props (g.saved fields value)) (g.name i f)
      = some (intText (value i f)) := by
    apply getProperty_setAll
    . rw [saved, List.mem_flatMap]
      refine ⟨i, List.mem_finRange i, ?_⟩
      exact List.mem_map.mpr ⟨f, hf, rfl⟩
    . intro p hp hname
      simp only [saved, List.mem_flatMap, List.mem_map] at hp
      obtain ⟨i', -, f', -, rfl⟩ := hp
      obtain ⟨rfl, rfl⟩ := g.name_inj hname
      rfl
  rw [getInt, getProperty_load_save hwf (g.name_ne_versionName i f), hget, Option.filter_some,
    if_pos (by simpa using intText_ne_nil (value i f)), Option.map_some, parse_intText]

end Group

end Properties
