import Mathlib.Data.List.Basic
import Pihpsdr.Lib.Ring
import Pihpsdr.Rigctl.Impl.Command
import Pihpsdr.Rigctl.Impl.CwRing

/-!
CW text from TCI clients: `tci_parse_text`, `tci_cw_decode_text`, `tci_cmd_cw_macros` and
`tci_cmd_cw_msg` of `tci.c`, and how `rigctl.c` queues the characters.

Text is a list of characters, each of which stands for one byte.
-/

namespace Tci

def maxMsgSize : Nat :=
  512

def tciMaxArgs : Nat :=
  16

/-- The text of a message as it is in the buffer of a payload. -/
structure TextMessage where
  chars : List Char
  length_lt : chars.length < maxMsgSize
  no_nul : Char.ofNat 0 ∉ chars

structure ParsedCmd where
  cmd : List Char
  argv : List (List Char)
  deriving DecidableEq

-- with no room for a further argument, what follows the last comma is cut off
def splitArgs : Nat → List Char → List (List Char)
  | 0, _ => []
  | left + 1, p =>
    p.takeWhile (· ≠ ',')
      :: match p.dropWhile (· ≠ ',') with
        | [] => []
        | _ :: p => splitArgs left p

def tciParseText (s : List Char) : ParsedCmd :=
  let s := s.takeWhile (· ≠ ';')
  match s.dropWhile (· ≠ ':') with
  | [] => ⟨s, []⟩
  | _ :: p => ⟨s.takeWhile (· ≠ ':'), splitArgs tciMaxArgs p⟩

-- the characters that must not be in the text of a message
def plainChar (c : Char) : Char :=
  if c = '^' then ':'
  else if c = '~' then ','
  else if c = '*' then ';'
  else c

-- in normal text, where a change of speed may be open, and between two bars
inductive DecodeMode where
  | text (speedOpen : Bool)
  | joined

def closeSpeed (speedOpen : Bool) : List Char :=
  if speedOpen then [']'] else []

def decodeFrom : DecodeMode → List Char → List Char
  | .text speedOpen, [] => closeSpeed speedOpen
  | .joined, [] => []
  | .joined, c :: cs =>
    if c = '|' then
      ']' :: decodeFrom (.text false) cs
    else
      plainChar c :: decodeFrom .joined cs
  | .text speedOpen, c :: cs =>
    if c = '|' then
      -- a bar without a second one is an ordinary character
      if '|' ∈ cs then
        closeSpeed speedOpen ++ '[' :: '.' :: decodeFrom .joined cs
      else
        '|' :: decodeFrom (.text speedOpen) cs
    else if c = '>' then
      closeSpeed speedOpen ++ '[' :: '+' :: decodeFrom (.text true) cs
    else if c = '<' then
      closeSpeed speedOpen ++ '[' :: '-' :: decodeFrom (.text true) cs
    else
      plainChar c :: decodeFrom (.text speedOpen) cs

def tciCwDecodeText (text : List Char) : List Char :=
  decodeFrom (.text false) text

theorem cwBufSize_pos : 0 < Rigctl.cwBufSize := by
  decide

/--
The ring of `rigctl.c` for CW text; `queued` lists all characters that were put into it.
-/
structure CwBuffer where
  buf : Nat → Char
  inp : Nat
  out : Nat
  queued : List Char
  inp_lt : inp < Rigctl.cwBufSize
  out_lt : out < Rigctl.cwBufSize

-- `char` may be a type with a sign
def charCode (signed : Bool) (c : Char) : Int :=
  if signed ∧ 128 ≤ c.toNat then c.toNat - 256 else c.toNat

namespace CwBuffer

def fill (b : CwBuffer) : Nat :=
  Ring.fill Rigctl.cwBufSize b.inp b.out

def rigctlQueueCwChar (signed : Bool) (b : CwBuffer) (c : Char) : CwBuffer :=
  if charCode signed c < 32 then
    b
  else if Ring.next Rigctl.cwBufSize b.inp ≠ b.out then
    { b with
      buf := fun i => if i = b.inp then c else b.buf i
      inp := Ring.next Rigctl.cwBufSize b.inp
      queued := b.queued ++ [c]
      inp_lt := Ring.next_lt cwBufSize_pos b.inp }
  else
    b

-- the CW thread takes a character
def take (b : CwBuffer) : CwBuffer :=
  if b.inp = b.out then
    b
  else
    { b with
      out := Ring.next Rigctl.cwBufSize b.out
      out_lt := Ring.next_lt cwBufSize_pos b.out }

def takes (b : CwBuffer) : Nat → CwBuffer
  | 0 => b
  | n + 1 => b.take.takes n

-- before each character the CW thread may take some of those that are in the ring
def rigctlQueueCwString (signed : Bool) : (Nat → Nat) → CwBuffer → List Char → CwBuffer
  | _, b, [] => b
  | thread, b, c :: str =>
    rigctlQueueCwString signed (fun i => thread (i + 1))
      ((b.takes (thread 0)).rigctlQueueCwChar signed c) str

def tciCmdCwMacros (signed : Bool) (thread : Nat → Nat) (b : CwBuffer) (cmd : ParsedCmd) : CwBuffer :=
  match cmd.argv with
  | _ :: arg :: args =>
    b.rigctlQueueCwString signed thread (tciCwDecodeText ([','].intercalate (arg :: args)))
  | _ => b

-- `tci_handle_text` for the command `cw_macros`, which must have two arguments at least
def handleCwMacros (signed : Bool) (thread : Nat → Nat) (b : CwBuffer) (msg : TextMessage)
    : CwBuffer :=
  let cmd := tciParseText msg.chars
  if cmd.cmd.map Char.toLower = "cw_macros".toList ∧ 2 ≤ cmd.argv.length then
    b.tciCmdCwMacros signed thread cmd
  else
    b

end CwBuffer

/-- The message of `cw_msg` that is being sent. -/
structure CwMsg where
  pendingCallsign : List Char
  activeCallsign : List Char
  activeSuffix : List Char
  active : Bool
  callPos : Nat
  callRepeat : Int
  callRepeatIndex : Int
  suffixPending : Bool
  deriving DecidableEq

-- `tci_cw_msg_reset_state`
def CwMsg.reset : CwMsg where
  pendingCallsign := []
  activeCallsign := []
  activeSuffix := []
  active := false
  callPos := 0
  callRepeat := 1
  callRepeatIndex := 0
  suffixPending := false

-- what fits into a buffer of `MAXMSGSIZE` characters
def strlcpy (src : List Char) : List Char :=
  src.take (maxMsgSize - 1)

-- an argument that is empty or a single underscore stands for no text
def isBlank (part : List Char) : Bool :=
  part = [] ∨ part = ['_']

def appendPart (out part : List Char) : List Char :=
  if isBlank part then out
  else if out.length > 0 then out ++ ' ' :: part
  else part

-- the callsign before the last `$`, and the number of repetitions behind it
def extractCallsign (src : List Char) : List Char × Int :=
  if '$' ∈ src then
    let behind := (src.reverse.takeWhile (· ≠ '$')).reverse
    let r := Rigctl.atoi (behind.map fun c => (c.toNat : Int))
    (src.take (src.length - behind.length - 1), if r < 1 then 1 else r)
  else
    (src, 1)

/-- The message with the ring, and what was sent to all clients. -/
structure CwSender where
  msg : CwMsg
  ring : CwBuffer
  sent : List (List Char)

namespace CwSender

variable (signed : Bool)

def queueChar (s : CwSender) (c : Char) : CwSender :=
  { s with ring := s.ring.rigctlQueueCwChar signed c }

def queueString (s : CwSender) (str : List Char) : CwSender :=
  { s with ring := s.ring.rigctlQueueCwString signed (fun _ => 0) str }

-- what comes after the callsigns
def queueSuffix (s : CwSender) : CwSender :=
  let s :=
    if s.msg.pendingCallsign ≠ [] then
      { s with
        sent := s.sent ++
          [strlcpy ("callsign_send:".toList ++ s.msg.pendingCallsign ++ [';'])]
        msg := { s.msg with pendingCallsign := [] } }
    else
      s
  if s.msg.suffixPending ∧ s.msg.activeSuffix ≠ [] then
    ({ s with msg := { s.msg with suffixPending := false } }).queueString signed
      (strlcpy (' ' :: s.msg.activeSuffix))
  else
    { s with msg := .reset }

-- `tci_cw_msg_queue_next`
def queueNext (s : CwSender) : CwSender :=
  if ¬ s.msg.active then
    s
  else if s.msg.activeCallsign.length > 0 ∧ s.msg.callRepeatIndex < s.msg.callRepeat then
    if s.msg.callPos < s.msg.activeCallsign.length then
      ({ s with msg := { s.msg with callPos := s.msg.callPos + 1 } }).queueChar signed
        (s.msg.activeCallsign.getD s.msg.callPos ' ')
    else if s.msg.callRepeatIndex + 1 < s.msg.callRepeat then
      ({ s with
        msg := { s.msg with
          callRepeatIndex := s.msg.callRepeatIndex + 1
          callPos := 0 } }).queueChar signed ' '
    else
      ({ s with msg := { s.msg with callRepeatIndex := s.msg.callRepeatIndex + 1 } }).queueSuffix
        signed
  else
    s.queueSuffix signed

-- `cw_msg:CALL;`
def correctCallsign (s : CwSender) (arg : List Char) : CwSender :=
  if ¬ s.msg.active ∨ s.msg.pendingCallsign = [] then
    s
  else
    let callsign := (extractCallsign (tciCwDecodeText arg)).1
    if isBlank callsign then
      s
    else
      { s with
        msg := { s.msg with
          activeCallsign := strlcpy callsign
          pendingCallsign := strlcpy callsign
          callPos := if s.msg.callPos > callsign.length then callsign.length else s.msg.callPos } }

-- a new message, of which nothing is sent yet
def prepareMsg (s : CwSender) (call suf : List Char) : CwSender :=
  let callsign := (extractCallsign (tciCwDecodeText call)).1
  let suffix := tciCwDecodeText suf
  { s with
    msg := { CwMsg.reset with
      activeCallsign := strlcpy callsign
      pendingCallsign := strlcpy callsign
      activeSuffix := if isBlank suffix then [] else strlcpy suffix
      suffixPending := !isBlank suffix
      callRepeat := (extractCallsign (tciCwDecodeText call)).2
      active := true } }

-- `cw_msg` with four arguments, the first of which is not used
def startMsg (s : CwSender) (pre call suf : List Char) : CwSender :=
  let text := appendPart [] (tciCwDecodeText pre)
  if text.length > 0 then
    (s.prepareMsg call suf).queueString signed (text ++ [' '])
  else
    (s.prepareMsg call suf).queueNext signed

def tciCmdCwMsg (s : CwSender) : List (List Char) → CwSender
  | [arg] => s.correctCallsign arg
  | _ :: pre :: call :: suf :: _ => s.startMsg signed pre call suf
  | _ => s

end CwSender

-- what goes on while a message is being sent; a tick is the CW thread taking a character
inductive CwMsgEvent where
  | correction (arg : List Char)
  | tick

-- no timer and no other function calls `tci_cw_msg_queue_next`
def CwSender.step (signed : Bool) (s : CwSender) : CwMsgEvent → CwSender
  | .correction arg => s.tciCmdCwMsg signed [arg]
  | .tick => { s with ring := s.ring.take }

end Tci
