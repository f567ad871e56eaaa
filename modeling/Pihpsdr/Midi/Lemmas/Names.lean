import Pihpsdr.Midi.Impl.Commands
import Pihpsdr.Properties.Lemmas.Property

/-!
The names of the properties of the MIDI commands are all different, and each property makes a line of the file.
-/

namespace Midi

open Text Properties

inductive MidiKey where
  | ignore
  | entries (i : Fin 129)
  | channel (i : Fin 129) (entry : Nat)
  | field (i : Fin 129) (entry : Nat) (channel : BitVec 32) (f : MidiField)

namespace MidiKey

def parts : MidiKey → List (List Int)
  | ignore => [codes "midiIgnoreCtrlPairs"]
  | entries i => [indexed "midi" (Decimal.digits i), codes "entries"]
  | channel i entry =>
    [indexed "midi" (Decimal.digits i), indexed "entry" (Decimal.digits entry), codes "channel"]
  | field i entry c f =>
    [indexed "midi" (Decimal.digits i), indexed "entry" (Decimal.digits entry),
      indexed "channel" (Decimal.format false 0 c.toInt), codes f.name]

def name (k : MidiKey) : List Int :=
  propName k.parts

-- the entries are counted by an `int`
def Fits : MidiKey → Prop
  | ignore => True
  | entries _ => True
  | channel _ entry => entry < 2 ^ 31
  | field _ entry _ _ => entry < 2 ^ 31

end MidiKey

theorem indexed_inj {name : String} {index index' : List Int}
    (h : indexed name index = indexed name index')
    : index = index' := by
  have h := List.cons_inj_right _ |>.mp (List.append_cancel_left h)
  exact List.append_cancel_right h

theorem length_indexed (name : String) (index : List Int)
    : (indexed name index).length = (codes name).length + index.length + 2 := by
  simp [indexed]
  omega

theorem not_mem_indexed {name : String} {index : List Int} {c : Int} (hname : c ∉ codes name)
    (hindex : c ∉ index) (hopen : c ≠ 91) (hclose : c ≠ 93)
    : c ∉ indexed name index := by
  unfold indexed
  simp only [List.mem_append, List.mem_cons, List.not_mem_nil, or_false, not_or]
  exact ⟨hname, hopen, hindex, hclose⟩

theorem plain_indexed {name : String} {index : List Int} (hname : Plain (codes name))
    (hindex : Plain index)
    : Plain (indexed name index) where
  dot := not_mem_indexed hname.dot hindex.dot (by decide) (by decide)
  equals := not_mem_indexed hname.equals hindex.equals (by decide) (by decide)
  newline := not_mem_indexed hname.newline hindex.newline (by decide) (by decide)

theorem not_mem_format_int {c : Int} (hdigit : ¬Decimal.IsDigit c) (hminus : c ≠ 45)
    (hplus : c ≠ 43) (x : Int)
    : c ∉ Decimal.format false 0 x := by
  intro hmem
  have := Decimal.isDigit_or_of_mem_format hmem
  tauto

theorem plain_format (x : Int) : Plain (Decimal.format false 0 x) where
  dot := not_mem_format_int (by decide) (by decide) (by decide) x
  equals := not_mem_format_int (by decide) (by decide) (by decide) x
  newline := not_mem_format_int (by decide) (by decide) (by decide) x

instance (part : List Int) : Decidable (Plain part) :=
  decidable_of_iff (dot ∉ part ∧ equals ∉ part ∧ newline ∉ part)
    ⟨fun ⟨hdot, hequals, hnewline⟩ => ⟨hdot, hequals, hnewline⟩,
      fun ⟨hdot, hequals, hnewline⟩ => ⟨hdot, hequals, hnewline⟩⟩

theorem plain_fieldName (f : MidiField) : Plain (codes f.name) ∧ (codes f.name).length ≤ 6 := by
  cases f with
  | event => decide
  | type => decide
  | action => decide
  | param p => cases p <;> decide

def MidiField.all : List MidiField :=
  [.event, .type, .action] ++ EncoderParam.all.map .param

theorem MidiField.mem_all (f : MidiField) : f ∈ MidiField.all := by
  cases f with
  | param p => cases p <;> decide
  | _ => decide

theorem fieldName_injective : Function.Injective MidiField.name := by
  have hnodup : (MidiField.all.map MidiField.name).Nodup := by decide
  intro f g h
  exact List.inj_on_of_nodup_map hnodup (MidiField.mem_all f) (MidiField.mem_all g) h

theorem length_format32 (c : BitVec 32) : (Decimal.format false 0 c.toInt).length ≤ 11 := by
  have hlo := BitVec.le_toInt c
  have hhi := BitVec.toInt_lt (x := c)
  have hdigits : (Decimal.digits c.toInt.natAbs).length ≤ 10 := by
    apply Decimal.length_digits_le (by decide)
    omega
  unfold Decimal.format
  rw [List.length_append, List.length_append, List.length_replicate]
  split <;> simp only [List.length_singleton, List.length_nil, Bool.false_eq_true, if_false] <;> omega

namespace MidiKey

theorem plain_parts (k : MidiKey) : ∀ p ∈ k.parts, Plain p := by
  have hmidi : ∀ n, Plain (indexed "midi" (Decimal.digits n)) := fun n =>
    plain_indexed (by decide) (plain_digits n)
  have hentry : ∀ n, Plain (indexed "entry" (Decimal.digits n)) := fun n =>
    plain_indexed (by decide) (plain_digits n)
  intro p hp
  cases k with
  | ignore =>
    obtain rfl := List.mem_singleton.mp hp
    decide
  | entries i =>
    simp only [parts, List.mem_cons, List.not_mem_nil, or_false] at hp
    obtain rfl | rfl := hp
    . exact hmidi i
    . decide
  | channel i entry =>
    simp only [parts, List.mem_cons, List.not_mem_nil, or_false] at hp
    obtain rfl | rfl | rfl := hp
    . exact hmidi i
    . exact hentry entry
    . decide
  | field i entry c f =>
    simp only [parts, List.mem_cons, List.not_mem_nil, or_false] at hp
    obtain rfl | rfl | rfl | rfl := hp
    . exact hmidi i
    . exact hentry entry
    . exact plain_indexed (by decide) (plain_format c.toInt)
    . exact (plain_fieldName f).1

theorem parts_ne_nil (k : MidiKey) : k.parts ≠ [] := by
  cases k <;> exact List.cons_ne_nil _ _

theorem length_parts {k : MidiKey} (h : k.Fits) : (dotted k.parts).length ≤ 60 := by
  have hmidi : ∀ i : Fin 129, (indexed "midi" (Decimal.digits i)).length ≤ 9 := by
    intro i
    have hlen := Decimal.length_digits_le (n := i) (k := 3) (by decide) (by omega)
    have hname : (codes "midi").length = 4 := by decide
    rw [length_indexed]
    omega
  have hentry : ∀ n < 2 ^ 31, (indexed "entry" (Decimal.digits n)).length ≤ 17 := by
    intro n hn
    have hlen := Decimal.length_digits_le (n := n) (k := 10) (by decide) (by omega)
    have hname : (codes "entry").length = 5 := by decide
    rw [length_indexed]
    omega
  cases k with
  | ignore => decide
  | entries i =>
    have hname : (codes "entries").length = 7 := by decide
    have := hmidi i
    simp only [parts, dotted, List.intercalate_cons_cons, List.intercalate_singleton,
      List.length_append, List.length_singleton]
    omega
  | channel i entry =>
    have hname : (codes "channel").length = 7 := by decide
    have := hmidi i
    have := hentry entry h
    simp only [parts, dotted, List.intercalate_cons_cons, List.intercalate_singleton,
      List.length_append, List.length_singleton]
    omega
  | field i entry c f =>
    have hname : (codes "channel").length = 7 := by decide
    have := hmidi i
    have := hentry entry h
    have := length_format32 c
    have := (plain_fieldName f).2
    simp only [parts, dotted, List.intercalate_cons_cons, List.intercalate_singleton,
      List.length_append, List.length_singleton, length_indexed "channel"]
    omega

theorem name_eq {k : MidiKey} (h : k.Fits) : k.name = dotted k.parts := by
  have hlen := length_parts h
  apply propName_eq
  omega

theorem name_inj {k k' : MidiKey} (h : k.Fits) (h' : k'.Fits) (hname : k.name = k'.name)
    : k = k' := by
  have hlen := length_parts h
  have hlen' := length_parts h'
  have hparts := propName_inj k.plain_parts k'.plain_parts k.parts_ne_nil k'.parts_ne_nil
    (by omega) (by omega) hname
  have hindex : ∀ {i i' : Fin 129}, indexed "midi" (Decimal.digits i)
      = indexed "midi" (Decimal.digits i') → i = i' := fun heq =>
    Fin.ext (Decimal.digits_inj (indexed_inj heq))
  cases k with
  | ignore => cases k' <;> simp [parts] at hparts ⊢
  | entries i =>
    cases k' <;> simp [parts] at hparts ⊢
    exact hindex hparts
  | channel i entry =>
    cases k' <;> simp [parts] at hparts ⊢
    exact ⟨hindex hparts.1, Decimal.digits_inj (indexed_inj hparts.2)⟩
  | field i entry c f =>
    cases k' <;> simp [parts] at hparts ⊢
    obtain ⟨hi, hentry, hc, hf⟩ := hparts
    refine ⟨hindex hi, Decimal.digits_inj (indexed_inj hentry), ?_, fieldName_injective (codes_injective hf)⟩
    exact BitVec.eq_of_toInt_eq (Decimal.format_injective false 0 (indexed_inj hc))

theorem name_ne_versionName {k : MidiKey} (h : k.Fits) : k.name ≠ versionName := by
  intro hname
  have hversion : versionName = dotted [codes "property_version"] := by decide
  rw [name_eq h, hversion] at hname
  have hparts := dotted_inj (fun p hp => (k.plain_parts p hp).dot) (by decide) k.parts_ne_nil
    (by decide) hname
  cases k with
  | ignore => exact absurd hparts (by decide)
  | _ => simp [parts] at hparts

theorem head?_name {k : MidiKey} (h : k.Fits) : k.name.head? = some 109 := by
  rw [name_eq h]
  cases k with
  | ignore => decide
  | _ => exact head?_dotted (by simp [indexed]) _

theorem lineOk {k : MidiKey} (h : k.Fits) {text : List Int} (hnewline : newline ∉ text)
    (hlength : text.length ≤ 127)
    : LineOk (k.name, text) := by
  have hlen := length_parts h
  have hhead := head?_name h
  constructor
  . dsimp only
    intro hnil
    rw [hnil] at hhead
    contradiction
  . dsimp only
    rw [name_eq h]
    exact not_mem_dotted (by decide) fun p hp => (k.plain_parts p hp).equals
  . dsimp only
    rw [name_eq h]
    exact not_mem_dotted (by decide) fun p hp => (k.plain_parts p hp).newline
  . dsimp only
    rw [hhead]
    decide
  . exact hnewline
  . dsimp only
    rw [name_eq h]
    omega

end MidiKey

end Midi
