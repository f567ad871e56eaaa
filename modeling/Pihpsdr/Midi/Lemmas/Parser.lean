import Pihpsdr.Midi.Impl.Parser

/-!
The parser emits the events that the stream of bytes stands for as long as no status byte comes within a message
and each message with an event has its own status byte.
-/

namespace Midi

def commandOf (status : Byte) : Option MidiParseCommand :=
  if status &&& 0xF0 = 0x80 then some .noteoff
  else if status &&& 0xF0 = 0x90 then some .noteon
  else if status &&& 0xF0 = 0xB0 then some .ctrl
  else if status &&& 0xF0 = 0xE0 then some .pitch
  else none

theorem commandOf_status
    : ∀ b : Byte, commandOf b ≠ none → 0x80 ≤ b ∧ ¬0xF0 ≤ b ∧ ¬0xF8 ≤ b ∧ dataBytes b = 2 := by
  decide +kernel

theorem and_7F : ∀ b : Byte, b < 0x80 → b &&& 0x7F = b := by
  decide +kernel

variable {settings : MidiSettings} {parser : MidiParser} {decoder : Decoder} {b : Byte}

theorem parse_skip (h : parser.state = .skip) (settings : MidiSettings) (b : Byte)
    : parser.parseMidiByte settings b
        = match commandOf b with
          | some command => ({ parser with chan := b &&& 0x0F, command, state := .arg2 }, none)
          | none => ({ parser with chan := b &&& 0x0F }, none) := by
  unfold MidiParser.parseMidiByte commandOf
  simp only [h]
  split
  . rfl
  . split
    . rfl
    . split
      . rfl
      . split <;> rfl

theorem parse_arg2 (h : parser.state = .arg2) (settings : MidiSettings) (hb : b < 0x80)
    : parser.parseMidiByte settings b = ({ parser with arg1 := b, state := .arg1 }, none) := by
  unfold MidiParser.parseMidiByte
  simp only [h, and_7F b hb]

theorem parse_arg1 (h : parser.state = .arg1) (settings : MidiSettings) (hb : b < 0x80)
    : parser.parseMidiByte settings b
        = ({ parser with arg2 := b, state := .skip },
          { parser with arg2 := b }.emit settings) := by
  unfold MidiParser.parseMidiByte
  simp only [h, and_7F b hb]

theorem emit_eq_channelEvent {status : Byte} (hcommand : commandOf status = some parser.command)
    (hchan : parser.chan = status &&& 0x0F) (settings : MidiSettings)
    : parser.emit settings = channelEvent settings status [parser.arg1, parser.arg2] := by
  unfold commandOf at hcommand
  unfold MidiParser.emit channelEvent
  split at hcommand
  next hkind =>
    cases hcommand' : parser.command <;> simp_all
  next h8 =>
    split at hcommand
    next hkind =>
      cases hcommand' : parser.command <;> simp_all
      split <;> rfl
    next h9 =>
      split at hcommand
      next hkind =>
        cases hcommand' : parser.command <;> simp_all
        grind
      next hB =>
        split at hcommand
        next hkind =>
          cases hcommand' : parser.command <;> simp_all
        next hE => simp at hcommand

-- the parser is in the message that the decoder is in, or skips bytes
structure Follows (parser : MidiParser) (decoder : Decoder) : Prop where
  message : parser.state ≠ .skip → ∃ status, decoder.status = some status
    ∧ commandOf status = some parser.command ∧ parser.chan = status &&& 0x0F
  arg2 : parser.state = .arg2 → decoder.data = []
  arg1 : parser.state = .arg1 → decoder.data = [parser.arg1]

-- the next byte is one that the parser understands
structure Undisturbed (s : MidiStream) (input : MidiSettings × Byte) : Prop where
  data : s.parser.state ≠ .skip → input.2 < 0x80
  status : s.parser.state = .skip → (s.decoder.feed input.1 input.2).2 = none

theorem feed_data {status : Byte} (hstatus : decoder.status = some status)
    (hcommand : commandOf status ≠ none) (settings : MidiSettings) (hb : b < 0x80)
    : decoder.feed settings b
        = if (decoder.data ++ [b]).length = 2 then
            (⟨some status, []⟩, channelEvent settings status (decoder.data ++ [b]))
          else
            (⟨some status, decoder.data ++ [b]⟩, none) := by
  have htwo := (commandOf_status status hcommand).2.2.2
  unfold Decoder.feed
  rw [if_neg (by bv_omega), if_neg (by bv_omega), if_neg (by bv_omega), hstatus]
  dsimp only
  rw [htwo]

theorem feed_status (hcommand : commandOf b ≠ none) (decoder : Decoder) (settings : MidiSettings)
    : decoder.feed settings b = (⟨some b, []⟩, none) := by
  have ⟨hge, hlt, hlt', _⟩ := commandOf_status b hcommand
  unfold Decoder.feed
  rw [if_neg hlt', if_neg hlt, if_pos hge]

namespace Follows

theorem step (h : Follows parser decoder) {settings : MidiSettings} {b : Byte}
    (hdata : parser.state ≠ .skip → b < 0x80)
    : Follows (parser.parseMidiByte settings b).1 (decoder.feed settings b).1
        ∧ (parser.state ≠ .skip →
          (parser.parseMidiByte settings b).2 = (decoder.feed settings b).2) := by
  cases hstate : parser.state with
  | skip =>
    refine ⟨?_, fun h => absurd rfl h⟩
    rw [parse_skip hstate]
    cases hcommand : commandOf b with
    | none =>
      dsimp only
      constructor <;> simp [hstate]
    | some command =>
      have hne : commandOf b ≠ none := by simp [hcommand]
      rw [feed_status hne]
      exact ⟨fun _ => ⟨b, rfl, hcommand, rfl⟩, fun _ => rfl, (nomatch ·)⟩
  | arg2 =>
    have hne : parser.state ≠ .skip := by simp [hstate]
    have ⟨status, hstatus, hcommand, hchan⟩ := h.message hne
    have hsome : commandOf status ≠ none := by simp [hcommand]
    rw [parse_arg2 hstate settings (hdata hne), feed_data hstatus hsome settings (hdata hne),
      h.arg2 hstate]
    refine ⟨?_, fun _ => rfl⟩
    exact ⟨fun _ => ⟨status, rfl, hcommand, hchan⟩, (nomatch ·), fun _ => rfl⟩
  | arg1 =>
    have hne : parser.state ≠ .skip := by simp [hstate]
    have ⟨status, hstatus, hcommand, hchan⟩ := h.message hne
    have hsome : commandOf status ≠ none := by simp [hcommand]
    rw [parse_arg1 hstate settings (hdata hne), feed_data hstatus hsome settings (hdata hne),
      h.arg1 hstate]
    refine ⟨⟨fun h => absurd rfl h, (nomatch ·), (nomatch ·)⟩, fun _ => ?_⟩
    exact @emit_eq_channelEvent { parser with arg2 := b } status hcommand hchan settings

end Follows

theorem emitted_skip (h : parser.state = .skip) (settings : MidiSettings) (b : Byte)
    : (parser.parseMidiByte settings b).2 = none := by
  rw [parse_skip h]
  cases commandOf b <;> rfl

namespace MidiStream

-- the events so far are those that the stream stands for, and all data bytes were data bytes
def Decoded (s : MidiStream) : Prop :=
  s.events = s.expected ∧ s.taken = false

structure Wf (s : MidiStream) : Prop where
  follows : Follows s.parser s.decoder
  decoded : s.Decoded

theorem start_wf (parser : MidiParser) : (start parser).Wf where
  follows := ⟨fun h => absurd rfl h, (nomatch ·), (nomatch ·)⟩
  decoded := ⟨rfl, rfl⟩

variable {s : MidiStream} {input : MidiSettings × Byte}

theorem Wf.step (h : s.Wf) (hinput : Undisturbed s input) : (s.step input).Wf := by
  have ⟨hfollows, hsame⟩ := @Follows.step _ _ h.follows input.1 input.2 hinput.data
  have hemitted : (s.parser.parseMidiByte input.1 input.2).2
      = (s.decoder.feed input.1 input.2).2 := by
    by_cases hstate : s.parser.state = .skip
    . rw [emitted_skip hstate, hinput.status hstate]
    . exact hsame hstate
  refine ⟨hfollows, ?_, ?_⟩
  . show s.events ++ _ = s.expected ++ _
    rw [h.decoded.1, hemitted]
  . show (s.taken || (s.parser.state ≠ .skip && 0x80 ≤ input.2 : Bool)) = false
    rw [h.decoded.2, Bool.false_or]
    simpa using hinput.data

theorem Wf.undisturbed (h : s.Wf) (hdecoded : (s.step input).Decoded) : Undisturbed s input where
  data := by
    intro hstate
    have htaken : (s.taken || (s.parser.state ≠ .skip && 0x80 ≤ input.2 : Bool)) = false :=
      hdecoded.2
    simp only [h.decoded.2, Bool.false_or, Bool.and_eq_false_iff, decide_eq_false_iff_not,
      not_not] at htaken
    simpa using htaken.resolve_left hstate
  status := by
    intro hstate
    have hevents : s.events ++ (s.parser.parseMidiByte input.1 input.2).2.toList
        = s.expected ++ (s.decoder.feed input.1 input.2).2.toList := hdecoded.1
    rw [h.decoded.1, emitted_skip hstate] at hevents
    simpa using hevents

/--
The parser emits just the events that the bytes stand for, and takes no status byte for data, exactly if in a
message it gets data bytes only, and outside no message without status byte stands for an event.
-/
theorem decoded_iff (parser : MidiParser) (inputs : List (MidiSettings × Byte))
    : (∀ inputs', inputs' <+: inputs → (Run.exec step (start parser) inputs').Decoded)
        ↔ Run.Along step Undisturbed (start parser) inputs :=
  Run.forall_prefix_iff_along_of (I := Wf) (J := Decoded) (P := Undisturbed)
    (fun _ _ h => h.step) (fun _ _ h => h.undisturbed) (fun _ h => h.decoded) (start_wf parser) inputs

-- A real-time byte in a note-on message: another note is played.
theorem realtime_taken
    : let s := Run.exec step (start ⟨.skip, .noteon, 0, 0, 0⟩)
        [(⟨false, false⟩, 0x90), (⟨false, false⟩, 0xF8), (⟨false, false⟩, 0x3C),
          (⟨false, false⟩, 0x40)]
      s.taken = true ∧ s.events = [⟨false, .note, 0, 0x78, 1⟩]
        ∧ s.expected = [⟨false, .note, 0, 0x3C, 1⟩] := by
  decide

end MidiStream

/-!
The decoder on streams of messages.
-/

structure Message where
  status : Byte
  data : List Byte

def Message.event (settings : MidiSettings) (m : Message) : Option Emitted :=
  channelEvent settings m.status m.data

namespace Decoder

def decode (settings : MidiSettings) (d : Decoder) : List Byte → List Emitted
  | [] => []
  | b :: bs => (d.feed settings b).2.toList ++ decode settings (d.feed settings b).1 bs

def IsStatus (b : Byte) : Prop :=
  0x80 ≤ b ∧ b < 0xF0

-- `bs` begins with a status byte, if it has a byte
def Fresh (bs : List Byte) : Prop :=
  ∀ b ∈ bs.head?, IsStatus b

/--
The bytes `bs` hold the complete messages `ms`: with their status bytes, or without where the status is that of
the message before, and maybe with others that a status byte cuts short.
-/
inductive Holds : Option Byte → List Byte → List Message → Prop where
  | nil (running : Option Byte) : Holds running [] []
  | message {running : Option Byte} {status : Byte} {data bs : List Byte} {ms : List Message}
      (hstatus : IsStatus status) (hdata : ∀ b ∈ data, b < 0x80)
      (hlength : data.length = dataBytes status) (hbs : Holds (some status) bs ms)
      : Holds running (status :: (data ++ bs)) (⟨status, data⟩ :: ms)
  | running {status : Byte} {data bs : List Byte} {ms : List Message}
      (hdata : ∀ b ∈ data, b < 0x80) (hlength : data.length = dataBytes status)
      (hbs : Holds (some status) bs ms)
      : Holds (some status) (data ++ bs) (⟨status, data⟩ :: ms)
  | cut {running : Option Byte} {status : Byte} {data bs : List Byte} {ms : List Message}
      (hstatus : IsStatus status) (hdata : ∀ b ∈ data, b < 0x80)
      (hlength : data.length < dataBytes status) (hfresh : Fresh bs)
      (hbs : Holds (some status) bs ms)
      : Holds running (status :: (data ++ bs)) ms

theorem feed_isStatus {b : Byte} (h : IsStatus b) (d : Decoder) (settings : MidiSettings)
    : d.feed settings b = (⟨some b, []⟩, none) := by
  have ⟨hge, hlt⟩ := h
  unfold feed
  rw [if_neg (by bv_omega), if_neg (by bv_omega), if_pos hge]

theorem feed_below {b : Byte} (h : b < 0x80) (status : Byte) (data : List Byte)
    (settings : MidiSettings)
    : feed settings ⟨some status, data⟩ b
        = if (data ++ [b]).length = dataBytes status then
            (⟨some status, []⟩, channelEvent settings status (data ++ [b]))
          else
            (⟨some status, data ++ [b]⟩, none) := by
  unfold feed
  rw [if_neg (by bv_omega), if_neg (by bv_omega), if_neg (by bv_omega)]

-- the data bytes of a message without the last one
theorem decode_partial {status : Byte} {data : List Byte} (hdata : ∀ b ∈ data, b < 0x80)
    (before : List Byte) (hlength : (before ++ data).length < dataBytes status)
    (settings : MidiSettings) (bs : List Byte)
    : decode settings ⟨some status, before⟩ (data ++ bs)
        = decode settings ⟨some status, before ++ data⟩ bs := by
  induction data generalizing before with
  | nil => simp
  | cons b data ih =>
    have hb := hdata b List.mem_cons_self
    have hshort : (before ++ [b]).length ≠ dataBytes status := by
      simp at hlength ⊢
      omega
    rw [List.cons_append, decode, feed_below hb, if_neg hshort]
    have hrest := ih (fun b' h => hdata b' (List.mem_cons_of_mem b h)) (before ++ [b])
      (by simpa using hlength)
    simpa using hrest

theorem dataBytes_pos (status : Byte) : 0 < dataBytes status := by
  unfold dataBytes
  split <;> omega

theorem decode_data {status : Byte} {data : List Byte} (hdata : ∀ b ∈ data, b < 0x80)
    (hlength : data.length = dataBytes status) (settings : MidiSettings) (bs : List Byte)
    : decode settings ⟨some status, []⟩ (data ++ bs)
        = (channelEvent settings status data).toList ++ decode settings ⟨some status, []⟩ bs := by
  have hpos := dataBytes_pos status
  obtain rfl | ⟨before, b, rfl⟩ := List.eq_nil_or_concat' data
  . simp at hlength
    omega
  . have hb : b < 0x80 := hdata b (by simp)
    have hshort : before.length < dataBytes status := by
      simp at hlength
      omega
    rw [List.append_assoc, decode_partial (fun b' h => hdata b' (by simp [h])) [] hshort,
      List.singleton_append, decode, List.nil_append, feed_below hb, if_pos hlength]

theorem decode_fresh {bs : List Byte} (h : Fresh bs) (settings : MidiSettings) (d d' : Decoder)
    : decode settings d bs = decode settings d' bs := by
  cases bs with
  | nil => rfl
  | cons b bs =>
    have hb : IsStatus b := h b rfl
    rw [decode, decode, feed_isStatus hb, feed_isStatus hb]

theorem Holds.decode_eq {running : Option Byte} {bs : List Byte} {ms : List Message}
    (h : Holds running bs ms) (settings : MidiSettings)
    : decode settings ⟨running, []⟩ bs = ms.filterMap (Message.event settings) := by
  induction h with
  | nil running => rfl
  | @message running status data bs ms hstatus hdata hlength _ ih =>
    rw [decode, feed_isStatus hstatus, decode_data hdata hlength, ih]
    cases hevent : channelEvent settings status data <;> simp [Message.event, hevent]
  | @running status data bs ms hdata hlength _ ih =>
    rw [decode_data hdata hlength, ih]
    cases hevent : channelEvent settings status data <;> simp [Message.event, hevent]
  | @cut running status data bs ms hstatus hdata hlength hfresh _ ih =>
    rw [decode, feed_isStatus hstatus, decode_partial hdata [] hlength, ← ih,
      decode_fresh hfresh settings _ ⟨some status, []⟩]
    rfl

-- the real-time bytes are no part of the messages around them
theorem decode_filter (settings : MidiSettings) (d : Decoder) (bs : List Byte)
    : decode settings d bs = decode settings d (bs.filter (· < 0xF8)) := by
  induction bs generalizing d with
  | nil => rfl
  | cons b bs ih =>
    by_cases hb : b < 0xF8
    . rw [List.filter_cons_of_pos (by simpa using hb), decode, decode, ih]
    . have hfeed : d.feed settings b = (d, none) := by
        unfold feed
        rw [if_pos (by bv_omega)]
      rw [List.filter_cons_of_neg (by simpa using hb), decode, hfeed, ih]
      rfl

end Decoder

namespace MidiStream

theorem expected_exec (settings : MidiSettings) (s : MidiStream) (bs : List Byte)
    : (Run.exec step s (bs.map (settings, ·))).expected
        = s.expected ++ s.decoder.decode settings bs := by
  induction bs generalizing s with
  | nil => simp [Decoder.decode]
  | cons b bs ih =>
    rw [List.map_cons, Run.exec_cons, ih]
    simp [Decoder.decode, step]

-- what is expected on a stream of messages with real-time bytes anywhere between and in them
theorem expected_of_holds {bs : List Byte} {ms : List Message}
    (h : Decoder.Holds none (bs.filter (· < 0xF8)) ms) (settings : MidiSettings)
    (parser : MidiParser)
    : (Run.exec step (start parser) (bs.map (settings, ·))).expected
        = ms.filterMap (Message.event settings) := by
  rw [expected_exec, Decoder.decode_filter]
  exact h.decode_eq settings

end MidiStream

end Midi
