import Pihpsdr.Lib.Run

/-!
The parser of a MIDI byte stream, `parse_midi_byte` of `midi2.c`, and what MIDI itself says of such a stream.
-/

namespace Midi

abbrev Byte :=
  BitVec 8

inductive MidiParseState where
  | skip
  | arg1
  | arg2
  deriving DecidableEq

inductive MidiParseCommand where
  | noteon
  | noteoff
  | ctrl
  | pitch
  deriving DecidableEq

structure MidiParser where
  state : MidiParseState
  command : MidiParseCommand
  chan : Byte
  arg1 : Byte
  arg2 : Byte
  deriving DecidableEq

-- `enum MIDIevent`
inductive MidiEventKind where
  | none
  | note
  | ctrl
  | pitch
  deriving DecidableEq

structure MidiEvent where
  event : MidiEventKind
  channel : Byte
  note : Byte
  val : Byte
  deriving DecidableEq

-- if `configure` is set, the event goes to `NewMidiConfigureEvent`, else to `NewMidiEvent`
structure MidiSettings where
  configure : Bool
  midiIgnoreCtrlPairs : Bool
  deriving DecidableEq

structure Emitted where
  configure : Bool
  event : MidiEvent
  deriving DecidableEq

namespace MidiParser

def emit (settings : MidiSettings) (parser : MidiParser) : Option Emitted :=
  match parser.command with
  | .noteon =>
    -- some controllers send this with velocity zero when a button is released
    if parser.arg2 = 0 then
      some ⟨settings.configure, .note, parser.chan, parser.arg1, 0⟩
    else
      some ⟨settings.configure, .note, parser.chan, parser.arg1, 1⟩
  | .noteoff => some ⟨settings.configure, .note, parser.chan, parser.arg1, 0⟩
  | .ctrl =>
    if ¬settings.midiIgnoreCtrlPairs ∨ parser.arg1 < 32 ∨ parser.arg1 ≥ 64 then
      some ⟨settings.configure, .ctrl, parser.chan, parser.arg1, parser.arg2⟩
    else
      none
  | .pitch => some ⟨settings.configure, .pitch, parser.chan, 0, parser.arg2⟩

def parseMidiByte (settings : MidiSettings) (parser : MidiParser) (byte : Byte)
    : MidiParser × Option Emitted :=
  match parser.state with
  | .skip =>
    let parser := { parser with chan := byte &&& 0x0F }
    let kind := byte &&& 0xF0
    if kind = 0x80 then
      ({ parser with command := .noteoff, state := .arg2 }, none)
    else if kind = 0x90 then
      ({ parser with command := .noteon, state := .arg2 }, none)
    else if kind = 0xB0 then
      ({ parser with command := .ctrl, state := .arg2 }, none)
    else if kind = 0xE0 then
      ({ parser with command := .pitch, state := .arg2 }, none)
    else
      (parser, none)
  | .arg2 => ({ parser with arg1 := byte &&& 0x7F, state := .arg1 }, none)
  | .arg1 =>
    let parser := { parser with arg2 := byte &&& 0x7F }
    ({ parser with state := .skip }, parser.emit settings)

end MidiParser

/--
What MIDI says: a status byte stands for all messages up to the next one, a system message ends this, and the
bytes from F8 on are no part of any message.
-/
structure Decoder where
  status : Option Byte
  data : List Byte
  deriving DecidableEq

-- the number of data bytes in a message
def dataBytes (status : Byte) : Nat :=
  if status &&& 0xF0 = 0xC0 ∨ status &&& 0xF0 = 0xD0 then 1 else 2

-- the event that a complete message stands for
def channelEvent (settings : MidiSettings) (status : Byte) : List Byte → Option Emitted
  | [note, val] =>
    let channel := status &&& 0x0F
    if status &&& 0xF0 = 0x80 then
      some ⟨settings.configure, .note, channel, note, 0⟩
    else if status &&& 0xF0 = 0x90 then
      some ⟨settings.configure, .note, channel, note, if val = 0 then 0 else 1⟩
    else if status &&& 0xF0 = 0xB0 then
      if settings.midiIgnoreCtrlPairs ∧ 32 ≤ note ∧ note < 64 then
        none
      else
        some ⟨settings.configure, .ctrl, channel, note, val⟩
    else if status &&& 0xF0 = 0xE0 then
      some ⟨settings.configure, .pitch, channel, 0, val⟩
    else
      none
  | _ => none

def Decoder.feed (settings : MidiSettings) (d : Decoder) (byte : Byte) : Decoder × Option Emitted :=
  if 0xF8 ≤ byte then
    (d, none)
  else if 0xF0 ≤ byte then
    (⟨none, []⟩, none)
  else if 0x80 ≤ byte then
    (⟨some byte, []⟩, none)
  else
    match d.status with
    | none => (d, none)
    | some status =>
      let data := d.data ++ [byte]
      if data.length = dataBytes status then
        (⟨some status, []⟩, channelEvent settings status data)
      else
        (⟨some status, data⟩, none)

/--
The parser and the decoder are given the same bytes. `events` and `expected` are the events of the one and of
the other, `taken` tells whether the parser has taken a status byte for a data byte.
-/
structure MidiStream where
  parser : MidiParser
  decoder : Decoder
  events : List Emitted
  expected : List Emitted
  taken : Bool
  deriving DecidableEq

namespace MidiStream

def step (s : MidiStream) (input : MidiSettings × Byte) : MidiStream :=
  let parsed := s.parser.parseMidiByte input.1 input.2
  let decoded := s.decoder.feed input.1 input.2
  { parser := parsed.1
    decoder := decoded.1
    events := s.events ++ parsed.2.toList
    expected := s.expected ++ decoded.2.toList
    taken := s.taken || (s.parser.state ≠ .skip && 0x80 ≤ input.2) }

-- the other fields of the parser are not initialised
def start (parser : MidiParser) : MidiStream where
  parser := { parser with state := .skip }
  decoder := ⟨none, []⟩
  events := []
  expected := []
  taken := false

end MidiStream

end Midi
