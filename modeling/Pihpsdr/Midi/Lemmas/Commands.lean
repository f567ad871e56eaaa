import Pihpsdr.Midi.Lemmas.Names

/-!
What becomes of the MIDI commands in a restart: the commands for any channel are gone, the others stand in the
opposite order, and their types follow from their events and actions.
-/

namespace Midi

open Text Properties

def Desc.fieldText (desc : Desc) : MidiField → Option (List Int)
  | .event => some (midiEvent2String desc.event)
  | .type => some (actionType2String desc.type)
  | .action => some (action2String desc.action)
  | .param p => if desc.type = atEnc then some (intText (desc.params p).toInt) else none

theorem Desc.mem_saved {desc : Desc} {f : MidiField} {text : List Int}
    : (f, text) ∈ desc.saved ↔ desc.fieldText f = some text := by
  have hall : ∀ p, p ∈ EncoderParam.all := by
    intro p
    cases p <;> decide
  unfold saved
  by_cases henc : desc.type = atEnc
  . rw [if_pos henc]
    cases f with
    | param p =>
      simp only [fieldText, henc, if_true]
      simp [hall]
    | _ => simp [fieldText, eq_comm]
  . rw [if_neg henc]
    cases f <;> simp [fieldText, henc, eq_comm]

def listKeys (i : Fin 129) (l : List Desc) : List (MidiKey × List Int) :=
  (l.zipIdx.flatMap fun p =>
      (.channel i p.2, intText p.1.channel.toInt) ::
        p.1.saved.map fun q => (.field i p.2 p.1.channel q.1, q.2))
    ++ [(.entries i, intText l.length)]

def savedKeys (ignore : BitVec 32) (table : MidiCommandsTable) : List (MidiKey × List Int) :=
  (.ignore, intText ignore.toInt) :: (List.finRange 129).flatMap fun i => listKeys i (table i)

theorem midiSaveState_eq (props : Properties) (ignore : BitVec 32) (table : MidiCommandsTable)
    : midiSaveState props ignore table
        = setAll props ((savedKeys ignore table).map fun p => (p.1.name, p.2)) := by
  have hlist : ∀ i, savedList i (table i) = (listKeys i (table i)).map fun p => (p.1.name, p.2) := by
    intro i
    simp only [savedList, listKeys, List.map_append, List.map_flatMap, List.map_cons, List.map_map,
      List.map_nil]
    rfl
  simp only [midiSaveState, savedKeys, List.map_cons, List.map_flatMap, hlist]
  rfl

-- the text that is stored under a name
def valueOf (ignore : BitVec 32) (table : MidiCommandsTable) : MidiKey → Option (List Int)
  | .ignore => some (intText ignore.toInt)
  | .entries i => some (intText (table i).length)
  | .channel i entry => (table i)[entry]?.map fun desc => intText desc.channel.toInt
  | .field i entry c f =>
    (table i)[entry]?.bind fun desc => if desc.channel = c then desc.fieldText f else none

variable {ignore : BitVec 32} {table : MidiCommandsTable}

theorem mem_savedKeys {k : MidiKey} {text : List Int}
    : (k, text) ∈ savedKeys ignore table ↔ valueOf ignore table k = some text := by
  cases k with
  | ignore =>
    simp [savedKeys, listKeys, valueOf, List.mem_zipIdx_iff_getElem?, eq_comm]
  | entries i =>
    simp [savedKeys, listKeys, valueOf, List.mem_zipIdx_iff_getElem?, eq_comm]
  | channel i entry =>
    simp [savedKeys, listKeys, valueOf, List.mem_zipIdx_iff_getElem?, eq_comm]
  | field i entry c f =>
    simp [savedKeys, listKeys, valueOf, List.mem_zipIdx_iff_getElem?, Desc.mem_saved,
      Option.bind_eq_some_iff, and_comm]

theorem textOk_action (id : ActionId)
    : newline ∉ action2String id ∧ (action2String id).length ≤ 127 ∧ action2String id ≠ [] := by
  have htable : ∀ a ∈ actionTable,
      newline ∉ codes a.1 ∧ (codes a.1).length ≤ 127 ∧ codes a.1 ≠ [] := by decide +kernel
  unfold action2String
  split
  next => decide
  next hid =>
    have hlt : id.toNat < actionTable.length := by
      have hnat := BitVec.toInt_eq_toNat_cond id
      simp only [actions] at hid
      split at hnat <;> omega
    rw [List.getElem?_eq_getElem hlt, Option.elim_some]
    have ⟨hnewline, hlength, hne⟩ := htable _ (List.getElem_mem hlt)
    rw [snprintf128, List.take_of_length_le hlength]
    exact ⟨hnewline, hlength, hne⟩

theorem textOk_int (x : Int)
    : newline ∉ intText x ∧ (intText x).length ≤ 127 ∧ intText x ≠ [] := by
  refine ⟨newline_not_mem_intText x, ?_, intText_ne_nil x⟩
  have hlen := length_format_longLong x
  rw [intText_eq]
  omega

theorem Desc.textOk {desc : Desc} {f : MidiField} {text : List Int}
    (h : desc.fieldText f = some text)
    : newline ∉ text ∧ text.length ≤ 127 ∧ text ≠ [] := by
  cases f with
  | event =>
    obtain rfl := Option.some.inj h
    cases desc.event <;> decide
  | type =>
    obtain rfl := Option.some.inj h
    unfold actionType2String
    split
    . decide
    . split
      . decide
      . split <;> decide
  | action =>
    obtain rfl := Option.some.inj h
    exact textOk_action desc.action
  | param p =>
    simp only [fieldText] at h
    split at h
    . obtain rfl := Option.some.inj h
      exact textOk_int _
    . contradiction

theorem textOk_valueOf {k : MidiKey} {text : List Int} (h : valueOf ignore table k = some text)
    : newline ∉ text ∧ text.length ≤ 127 ∧ text ≠ [] := by
  cases k with
  | ignore =>
    obtain rfl := Option.some.inj h
    exact textOk_int _
  | entries i =>
    obtain rfl := Option.some.inj h
    exact textOk_int _
  | channel i entry =>
    simp only [valueOf, Option.map_eq_some_iff] at h
    obtain ⟨desc, -, rfl⟩ := h
    exact textOk_int _
  | field i entry c f =>
    simp only [valueOf, Option.bind_eq_some_iff] at h
    obtain ⟨desc, -, htext⟩ := h
    split at htext
    . exact Desc.textOk htext
    . contradiction

-- the lists are counted by an `int`
def Counted (table : MidiCommandsTable) : Prop :=
  ∀ i, (table i).length < 2 ^ 31

theorem fits_of_valueOf (hcounted : Counted table) {k : MidiKey} {text : List Int}
    (h : valueOf ignore table k = some text)
    : k.Fits := by
  cases k with
  | ignore => trivial
  | entries i => trivial
  | channel i entry =>
    simp only [valueOf, Option.map_eq_some_iff] at h
    obtain ⟨desc, hdesc, -⟩ := h
    have ⟨hlt, _⟩ := List.getElem?_eq_some_iff.mp hdesc
    exact hlt.trans (hcounted i)
  | field i entry c f =>
    simp only [valueOf, Option.bind_eq_some_iff] at h
    obtain ⟨desc, hdesc, -⟩ := h
    have ⟨hlt, _⟩ := List.getElem?_eq_some_iff.mp hdesc
    exact hlt.trans (hcounted i)

-- the properties after a restart, of a list that was empty before
def restarted (ignore : BitVec 32) (table : MidiCommandsTable) : Properties :=
  loadProperties (saveProperties (midiSaveState [] ignore table))

theorem getProperty_restarted (hcounted : Counted table) {k : MidiKey} (hk : k.Fits)
    : getProperty (restarted ignore table) k.name = valueOf ignore table k := by
  have hok : ∀ p ∈ (savedKeys ignore table).map fun p => (p.1.name, p.2), LineOk p := by
    intro p hp
    rw [List.mem_map] at hp
    obtain ⟨⟨k', text⟩, hmem, rfl⟩ := hp
    have hvalue := mem_savedKeys.mp hmem
    have ⟨hnewline, hlength, _⟩ := textOk_valueOf hvalue
    exact MidiKey.lineOk (fits_of_valueOf hcounted hvalue) hnewline hlength
  have hwf : WellFormed (midiSaveState [] ignore table) := by
    rw [midiSaveState_eq]
    exact WellFormed.nil.setAll hok
  have hsame : ∀ {k' : MidiKey} {text : List Int}, (k', text) ∈ savedKeys ignore table →
      k'.name = k.name → valueOf ignore table k = some text := by
    intro k' text hmem hname
    have hvalue := mem_savedKeys.mp hmem
    rw [← MidiKey.name_inj (fits_of_valueOf hcounted hvalue) hk hname]
    exact hvalue
  rw [restarted, getProperty_load_save hwf (MidiKey.name_ne_versionName hk), midiSaveState_eq]
  cases hvalue : valueOf ignore table k with
  | none =>
    rw [getProperty_setAll_of_forall_ne]
    . rfl
    . intro p hp hname
      rw [List.mem_map] at hp
      obtain ⟨⟨k', text⟩, hmem, rfl⟩ := hp
      have hsome := hsame hmem hname
      rw [hvalue] at hsome
      contradiction
  | some text =>
    have hmem := mem_savedKeys.mpr hvalue
    rw [getProperty_setAll [] (List.mem_map.mpr ⟨(k, text), hmem, rfl⟩), Option.filter_some,
      if_pos (decide_eq_true (textOk_valueOf hvalue).2.2)]
    intro p hp hname
    rw [List.mem_map] at hp
    obtain ⟨⟨k', text'⟩, hmem', rfl⟩ := hp
    have hsome := hsame hmem' hname
    rw [hvalue] at hsome
    exact (Option.some.inj hsome).symm

theorem getInt32_of_value {props : Properties} {name : List Int} {x : BitVec 32}
    (h : getProperty props name = some (intText x.toInt)) (default : BitVec 32)
    : getInt32 props name default = x := by
  have hlo := BitVec.le_toInt x
  have hhi := BitVec.toInt_lt (x := x)
  rw [getInt32, getInt, h, Option.map_some, parse_intText, longLong_eq (by omega) (by omega)]
  exact BitVec.ofInt_toInt

theorem getText_of_value {props : Properties} {name text : List Int}
    (h : getProperty props name = some text) (hlength : text.length ≤ 127)
    : getText props name = text := by
  rw [getText, h]
  exact List.take_of_length_le hlength

theorem string2MidiEvent_midiEvent2String (event : MidiEventKind)
    : string2MidiEvent (midiEvent2String event) = event := by
  cases event <;> decide

theorem string2Action_lt (str : List Int)
    : 0 ≤ (string2Action str).toInt ∧ (string2Action str).toInt < actions := by
  have hactions : actions = 208 := rfl
  unfold string2Action
  split
  next i hi =>
    have hlt : i < actionTable.length := (List.findIdx?_eq_some_iff_getElem.mp hi).1
    have hlt : i < 208 := hlt
    have htoInt : (BitVec.ofNat 32 i).toInt = i := by
      rw [BitVec.toInt_ofNat']
      apply Int.bmod_eq_of_le <;> omega
    omega
  next =>
    rw [hactions]
    decide

/--
The command that is restored for one that has a channel of its own.
-/
def Desc.asRestored (desc : Desc) : Desc :=
  let action := string2Action (action2String desc.action)
  let type := restoredType desc.event action (actionType2String desc.type)
  { channel := desc.channel
    event := desc.event
    type
    params := fun p => if type = atEnc ∧ desc.type = atEnc then desc.params p else p.default
    action }

def Desc.kept (desc : Desc) : Bool :=
  0 ≤ desc.channel.toInt && desc.event ≠ .none

def Desc.restored (desc : Desc) : Option Desc :=
  if desc.kept then some desc.asRestored else none

theorem restoreEntry_eq (hcounted : Counted table) (i : Fin 129) {entry : Nat}
    (hentry : entry < (table i).length)
    : restoreEntry (restarted ignore table) i entry = (table i)[entry].restored := by
  have hfits : entry < 2 ^ 31 := hentry.trans (hcounted i)
  generalize hdesc : (table i)[entry] = desc
  have hget : (table i)[entry]? = some desc := by
    rw [List.getElem?_eq_getElem hentry, hdesc]
  have hchannel : getProperty (restarted ignore table) (channelName i entry)
      = some (intText desc.channel.toInt) := by
    have hvalue := @getProperty_restarted ignore table hcounted (.channel i entry) hfits
    rw [valueOf, hget] at hvalue
    exact hvalue
  have hfield : ∀ f, getProperty (restarted ignore table) (fieldName i entry desc.channel f)
      = desc.fieldText f := by
    intro f
    have hvalue := @getProperty_restarted ignore table hcounted (.field i entry desc.channel f) hfits
    rw [valueOf, hget, Option.bind_some, if_pos rfl] at hvalue
    exact hvalue
  have hevent : getText (restarted ignore table) (fieldName i entry desc.channel .event)
      = midiEvent2String desc.event :=
    getText_of_value (hfield .event) (@Desc.textOk desc .event _ rfl).2.1
  have htype : getText (restarted ignore table) (fieldName i entry desc.channel .type)
      = actionType2String desc.type :=
    getText_of_value (hfield .type) (@Desc.textOk desc .type _ rfl).2.1
  have haction : (getProperty (restarted ignore table)
      (fieldName i entry desc.channel .action)).elim noAction string2Action
        = string2Action (action2String desc.action) := by
    rw [hfield]
    rfl
  have hparam : ∀ p, getInt32 (restarted ignore table)
      (fieldName i entry desc.channel (.param p)) p.default
        = if desc.type = atEnc then desc.params p else p.default := by
    intro p
    have htext := hfield (.param p)
    simp only [Desc.fieldText] at htext
    split
    next henc =>
      rw [if_pos henc] at htext
      exact getInt32_of_value htext _
    next henc =>
      rw [if_neg henc] at htext
      rw [getInt32, getInt, htext]
      rfl
  unfold restoreEntry Desc.restored Desc.kept
  rw [getInt32_of_value hchannel]
  dsimp only
  by_cases hneg : desc.channel.toInt < 0
  . rw [if_pos hneg, if_neg]
    simp [hneg]
  . obtain ⟨hlo, hhi⟩ := string2Action_lt (action2String desc.action)
    rw [if_neg hneg, hevent, htype, haction, string2MidiEvent_midiEvent2String]
    by_cases hnone : desc.event = .none
    . rw [if_pos (.inl hnone), if_neg]
      simp [hnone]
    . rw [if_neg (not_or.mpr ⟨hnone, by omega⟩), if_pos]
      . unfold Desc.asRestored
        simp only [hparam, ite_and]
      . simp [hnone]
        omega

/-!
The lists after a restart.
-/

theorem filterMap_range {α β : Type} (l : List α) (f : α → Option β)
    : (List.range l.length).filterMap (fun k => l[k]?.bind f) = l.filterMap f := by
  induction l with
  | nil => rfl
  | cons x l ih =>
    rw [List.length_cons, List.range_succ_eq_map, List.filterMap_cons, List.filterMap_map,
      List.filterMap_cons]
    simp only [List.getElem?_cons_zero, Option.bind_some, Function.comp_def, List.getElem?_cons_succ,
      ih]

-- commands with a channel of their own are put in front
theorem foldl_addTo {descs : List Desc} (h : ∀ desc ∈ descs, 0 ≤ desc.channel.toInt) (l : List Desc)
    : descs.foldl (fun l desc => desc.addTo l) l = descs.reverse ++ l := by
  induction descs generalizing l with
  | nil => rfl
  | cons desc descs ih =>
    have hdesc : desc.addTo l = desc :: l := by
      unfold Desc.addTo
      split
      next hnil => rw [hnil]
      next => rw [if_pos (h desc List.mem_cons_self)]
    rw [List.foldl_cons, hdesc, ih fun d hd => h d (List.mem_cons_of_mem desc hd), List.reverse_cons,
      List.append_assoc]
    rfl

theorem midiAddCommand_eq (table : MidiCommandsTable) (i : Fin 129) (desc : Desc)
    : table.midiAddCommand (i.val : Int) desc = Function.update table i (desc.addTo (table i)) := by
  unfold MidiCommandsTable.midiAddCommand
  rw [dif_neg (by omega)]
  rfl

theorem foldl_midiAddCommand (table : MidiCommandsTable) (i : Fin 129)
    (entry : Nat → Option Desc) (ns : List Nat)
    : ns.foldl (fun table n => (entry n).elim table (table.midiAddCommand (i.val : Int))) table
        = Function.update table i ((ns.filterMap entry).foldl (fun l desc => desc.addTo l) (table i)) := by
  induction ns generalizing table with
  | nil => simp
  | cons n ns ih =>
    rw [List.foldl_cons, ih]
    cases hentry : entry n with
    | none => simp [hentry]
    | some desc => simp [hentry, midiAddCommand_eq]

theorem foldl_update {ι β : Type} [DecidableEq ι] {step : (ι → β) → ι → ι → β} {g : ι → β → β}
    (h : ∀ f i, step f i = Function.update f i (g i (f i))) {is : List ι} (his : is.Nodup)
    (f : ι → β) (j : ι)
    : is.foldl step f j = if j ∈ is then g j (f j) else f j := by
  induction is generalizing f with
  | nil => rfl
  | cons i is ih =>
    rw [List.nodup_cons] at his
    rw [List.foldl_cons, ih his.2, h]
    by_cases hj : j = i
    . subst hj
      simp [his.1]
    . simp [hj]

theorem restoreList_eq (hcounted : Counted table) (f : MidiCommandsTable) (i : Fin 129)
    : restoreList (restarted ignore table) f i
        = Function.update f i (((table i).filterMap Desc.restored).reverse ++ f i) := by
  have hlt := hcounted i
  have hlength : (BitVec.ofNat 32 (table i).length).toInt = (table i).length := by
    rw [BitVec.toInt_ofNat']
    apply Int.bmod_eq_of_le <;> omega
  have hentries : getProperty (restarted ignore table) (entriesName i)
      = some (intText (BitVec.ofNat 32 (table i).length).toInt) := by
    rw [hlength]
    exact @getProperty_restarted ignore table hcounted (.entries i) trivial
  have hrestored : (List.range (table i).length).filterMap (restoreEntry (restarted ignore table) i)
      = (table i).filterMap Desc.restored := by
    rw [← filterMap_range (table i)]
    apply List.filterMap_congr
    intro entry hentry
    rw [List.mem_range] at hentry
    rw [restoreEntry_eq hcounted i hentry, List.getElem?_eq_getElem hentry, Option.bind_some]
  have hchannel : ∀ desc ∈ (table i).filterMap Desc.restored, 0 ≤ desc.channel.toInt := by
    intro desc hdesc
    obtain ⟨desc', -, hdesc'⟩ := List.mem_filterMap.mp hdesc
    unfold Desc.restored Desc.kept at hdesc'
    split at hdesc'
    next hkept =>
      obtain rfl := Option.some.inj hdesc'
      simp at hkept
      exact hkept.1
    next => exact absurd hdesc'.symm (Option.some_ne_none desc)
  unfold restoreList
  rw [getInt32_of_value hentries]
  dsimp only
  rw [hlength, Int.toNat_natCast, foldl_midiAddCommand, hrestored, foldl_addTo hchannel]

theorem midiRestoreState_eq (hcounted : Counted table) (ignore' : BitVec 32) (i : Fin 129)
    : (midiRestoreState (restarted ignore table) ignore').2 i
        = ((table i).filterMap Desc.restored).reverse := by
  have hfold := foldl_update (@restoreList_eq ignore table hcounted) (List.nodup_finRange 129)
    MidiCommandsTable.empty i
  rw [if_pos (List.mem_finRange i)] at hfold
  unfold midiRestoreState
  dsimp only
  rw [hfold, MidiCommandsTable.empty, List.append_nil]

/-!
What an event does after a restart.
-/

-- the command is for just this channel
def Desc.isFor (desc : Desc) (event : MidiEventKind) (channel : Int) : Bool :=
  desc.kept && desc.channel.toInt = channel && desc.event = event

theorem any_restored (desc : Desc) (event : MidiEventKind) (channel : Int)
    : (desc.restored.any fun d => d.handles event channel) = desc.isFor event channel := by
  unfold Desc.restored Desc.isFor
  cases hkept : desc.kept with
  | false => rfl
  | true =>
    have hchannel : 0 ≤ desc.channel.toInt := by
      simp [Desc.kept] at hkept
      exact hkept.1
    have hany : ¬desc.channel.toInt = -1 := by omega
    simp [Desc.handles, Desc.asRestored, hany]

theorem find?_restored (l : List Desc) (event : MidiEventKind) (channel : Int)
    : ((l.filterMap Desc.restored).reverse.find? fun desc => desc.handles event channel)
        = (l.reverse.find? fun desc => desc.isFor event channel).map Desc.asRestored := by
  rw [← List.filterMap_reverse, List.find?_filterMap]
  simp only [any_restored]
  cases hfind : l.reverse.find? fun desc => desc.isFor event channel with
  | none => rfl
  | some desc =>
    have hisFor := List.find?_some hfind
    simp only [Desc.isFor, Bool.and_eq_true] at hisFor
    rw [Option.bind_some, Desc.restored, if_pos hisFor.1.1]
    rfl

/--
The newest command for this event does the same as the oldest one for just this channel with the type that
follows from its event and action.
-/
def Survives (table : MidiCommandsTable) (event : MidiEventKind) (channel note val : Int) : Prop :=
  ∀ l, table.listOf event channel note = some l →
    (l.find? fun desc => desc.handles event channel).bind (fun desc => desc.act val)
      = (l.reverse.find? fun desc => desc.isFor event channel).bind fun desc => desc.asRestored.act val

theorem newMidiEvent_eq (table : MidiCommandsTable) (event : MidiEventKind) (channel note val : Int)
    : table.newMidiEvent event channel note val
        = (table.listOf event channel note).bind fun l =>
          (l.find? fun desc => desc.handles event channel).bind fun desc => desc.act val := by
  unfold MidiCommandsTable.newMidiEvent
  split
  next hnone => rw [hnone, Option.bind_none]
  next l hsome =>
    rw [hsome, Option.bind_some]
    split
    next hfind => rw [hfind, Option.bind_none]
    next desc hfind => rw [hfind, Option.bind_some]

-- which list is looked at does not depend on what is in there
theorem listOf_map {table' : MidiCommandsTable} {f : List Desc → List Desc}
    (h : ∀ i, table' i = f (table i)) (event : MidiEventKind) (channel note : Int)
    : table'.listOf event channel note = (table.listOf event channel note).map f := by
  unfold MidiCommandsTable.listOf
  split
  . rfl
  . split
    . rw [h, Option.map_some]
    . split
      . rfl
      . rw [h, Option.map_some]

def built (commands : List (Int × Desc)) : MidiCommandsTable :=
  commands.foldl (fun table p => table.midiAddCommand p.1 p.2) .empty

theorem length_addTo (desc : Desc) (l : List Desc) : (desc.addTo l).length = l.length + 1 := by
  unfold Desc.addTo
  split
  next hnil => simp [hnil]
  next => split <;> simp

theorem length_midiAddCommand (table : MidiCommandsTable) (note : Int) (desc : Desc) (i : Fin 129)
    : (table.midiAddCommand note desc i).length ≤ (table i).length + 1 := by
  unfold MidiCommandsTable.midiAddCommand
  split
  . exact Nat.le_succ _
  next hnote =>
    dsimp only
    by_cases hi : i = ⟨note.toNat, by omega⟩
    . rw [hi, Function.update_self, length_addTo]
    . rw [Function.update_of_ne hi]
      exact Nat.le_succ _

theorem counted_built {commands : List (Int × Desc)} (h : commands.length < 2 ^ 31)
    : Counted (built commands) := by
  have hlength : ∀ (table : MidiCommandsTable) (i : Fin 129),
      (commands.foldl (fun table p => table.midiAddCommand p.1 p.2) table i).length
        ≤ (table i).length + commands.length := by
    clear h
    induction commands with
    | nil => exact fun table i => Nat.le_refl _
    | cons p commands ih =>
      intro table i
      have hadd := length_midiAddCommand table p.1 p.2 i
      have hrest := ih (table.midiAddCommand p.1 p.2) i
      rw [List.foldl_cons, List.length_cons]
      omega
  intro i
  have := hlength .empty i
  simp only [MidiCommandsTable.empty, List.length_nil, Nat.zero_add] at this
  exact Nat.lt_of_le_of_lt this h

/--
After a restart an event does the same as before exactly if its command survives.
-/
theorem newMidiEvent_restored_iff {commands : List (Int × Desc)} (h : commands.length < 2 ^ 31)
    (ignore ignore' : BitVec 32) (event : MidiEventKind) (channel note val : Int)
    : (midiRestoreState (restarted ignore (built commands)) ignore').2.newMidiEvent event channel note val
          = (built commands).newMidiEvent event channel note val
        ↔ Survives (built commands) event channel note val := by
  have hlist := @listOf_map _ _ (fun l => (l.filterMap Desc.restored).reverse)
    (@midiRestoreState_eq ignore _ (counted_built h) ignore') event channel note
  rw [newMidiEvent_eq, newMidiEvent_eq, hlist]
  unfold Survives
  cases hl : (built commands).listOf event channel note with
  | none => simp
  | some l =>
    rw [Option.map_some, Option.bind_some, Option.bind_some, find?_restored, Option.bind_map]
    constructor
    . intro heq l' hl'
      obtain rfl := Option.some.inj hl'
      exact heq.symm
    . intro hsurvives
      exact (hsurvives l rfl).symm

-- a button for the key 60 of the first channel, and one for this key of any channel
def oneKey : List (Int × Desc) :=
  [(60, ⟨0, .note, atBtn, EncoderParam.default, 1⟩)]

def anyKey : List (Int × Desc) :=
  [(60, ⟨-1, .note, atBtn, EncoderParam.default, 1⟩)]

theorem newMidiEvent_restored_iff_oneKey
    : (midiRestoreState (restarted 0 (built oneKey)) 0).2.newMidiEvent .note 0 60 1
          = (built oneKey).newMidiEvent .note 0 60 1
        ↔ Survives (built oneKey) .note 0 60 1 :=
  newMidiEvent_restored_iff (by decide) 0 0 .note 0 60 1

theorem anyKey_lost
    : (midiRestoreState (restarted 0 (built anyKey)) 0).2.newMidiEvent .note 0 60 1 = none
      ∧ (built anyKey).newMidiEvent .note 0 60 1 = some ⟨1, atBtn, 1⟩ := by
  have hcounted : Counted (built anyKey) := counted_built (by decide)
  have hlist := @listOf_map _ _ (fun l => (l.filterMap Desc.restored).reverse)
    (@midiRestoreState_eq 0 _ hcounted 0) .note 0 60
  refine ⟨?_, by decide⟩
  rw [newMidiEvent_eq, hlist]
  decide

end Midi
