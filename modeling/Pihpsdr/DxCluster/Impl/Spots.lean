import Mathlib.Data.List.DropRight
import Pihpsdr.Lib.Fixed
import Pihpsdr.Lib.Text

/-!
The spots of a DX cluster in `dxcluster.c`: the parser of the lines that a cluster sends. A character array is
written cell by cell, and a write outside of it gives no result.
-/

namespace DxCluster

open Text Fixed

def blank : Int := 32

def colon : Int := 58

def comma : Int := 44

-- the string at the start of the memory
def cString (memory : List Int) : List Int :=
  memory.takeWhile fun c => decide (c ≠ 0)

abbrev CharArray (n : Nat) :=
  Vector Int n

namespace CharArray

variable {n : Nat}

def put (b : CharArray n) (i : Nat) (c : Int) : Option (CharArray n) :=
  if h : i < n then some (b.set i c) else none

-- `memcpy` to the cells from `i` on
def putAll (b : CharArray n) (i : Nat) : List Int → Option (CharArray n)
  | [] => some b
  | c :: cs => (b.put i c).bind fun b => putAll b (i + 1) cs

-- a text and its terminator
def copy (b : CharArray n) (text : List Int) : Option (CharArray n) :=
  (b.putAll 0 text).bind fun b => b.put text.length 0

-- the string in the array
def text (b : CharArray n) : List Int :=
  cString b.toList

def Terminated (b : CharArray n) : Prop :=
  0 ∈ b.toList

end CharArray

def dxcCallLen : Nat := 16

def dxcModeLen : Nat := 8

def dxcCommentLen : Nat := 40

-- `DX_SPOT`
structure SpotRecord where
  freqHz : BitVec 64
  dxCall : CharArray dxcCallLen
  spotter : CharArray dxcCallLen
  mode : CharArray dxcModeLen
  comment : CharArray dxcCommentLen
  when : BitVec 64

-- the same by the strings in the arrays
structure DxSpot where
  freqHz : BitVec 64
  dxCall : List Int
  spotter : List Int
  mode : List Int
  comment : List Int
  when : BitVec 64
  deriving DecidableEq

def SpotRecord.spot (r : SpotRecord) : DxSpot where
  freqHz := r.freqHz
  dxCall := r.dxCall.text
  spotter := r.spotter.text
  mode := r.mode.text
  comment := r.comment.text
  when := r.when

def knownModes : List (List Int) :=
  ["FT8", "FT4", "CW", "SSB", "USB", "LSB", "RTTY", "PSK", "PSK31", "JT65", "JT9", "MFSK", "OLIVIA", "SSTV",
    "FM", "AM"].map codes

def skipBlanks (p : List Int) : List Int :=
  p.dropWhile fun c => decide (c = blank)

-- a mode with a blank, a tab or nothing behind it
def startsWithMode (p mode : List Int) : Bool :=
  decide (p.take mode.length = mode)
    && (p[mode.length]?).elim true fun c => decide (c = blank ∨ c = 9)

-- bit 7 of a character
def isUtf (c : Int) : Bool :=
  decide (c / 128 % 2 ≠ 0)

-- strip trailing spaces
def stripSpotter (b : CharArray dxcCallLen) : Nat → Option (CharArray dxcCallLen)
  | 0 => some b
  | len + 1 => if b[len]? = some blank then (b.put len 0).bind fun b => stripSpotter b len else some b

-- copy the comment without UTF characters
def fillComment (b : CharArray dxcCommentLen) (q : Nat) : List Int → Option (CharArray dxcCommentLen)
  | [] => b.put q 0
  | c :: p =>
    if isUtf c then
      fillComment b q p
    else
      (b.put q c).bind fun b =>
        if q + 1 = dxcCommentLen - 1 then b.put (q + 1) 0 else fillComment b (q + 1) p

-- the double `freq_khz` is out of range; what is not a number never is
def outOfRange : Number → Bool
  | .finite x => decide (x < 1 ∨ x > 200000)
  | .infinite _ => true
  | .nan => false

/--
The conversion to `long long` of `freq_khz * 1000.0 + 0.5`; `undef` is its result where the language leaves it
open, for what is not a number.
-/
def toHz (undef : BitVec 64) : Number → BitVec 64
  | .finite x => BitVec.ofInt 64 ⌊Rounding.round 53 (Rounding.round 53 (x * 1000) + 1 / 2)⌋
  | _ => undef

-- the length of the comment without the time stamp and the white space around it
def remain (p : List Int) : Nat :=
  let p := p.rdropWhile fun c => decide (c = newline ∨ c = 13 ∨ c = blank ∨ c = 9)
  let stamp := p.drop (p.length - 5)
  if stamp.length = 5 ∧ stamp.getLast? = some 90 ∧ ∀ c ∈ stamp.dropLast, Decimal.IsDigit c then
    ((p.take (p.length - 5)).rdropWhile fun c => decide (c = blank)).length
  else
    p.length

-- the mode, if the remainder starts with a known one
def parseMode (b : CharArray dxcModeLen) (p : List Int) : Option (CharArray dxcModeLen × List Int) := do
  let b ← b.put 0 0
  match knownModes.find? (startsWithMode p) with
  | none => some (b, p)
  | some mode => do
    let b ← b.copy (mode.take (dxcModeLen - 1))
    some (b, skipBlanks (p.drop mode.length))

-- the value of `remain` is not used
def parseComment (now : BitVec 64) (p : List Int) (out : SpotRecord) : Option (Bool × SpotRecord) := do
  let (mode, p) ← parseMode out.mode p
  let comment ← fillComment out.comment 0 p
  some (true, { out with mode, comment, when := now })

def parseCall (now : BitVec 64) (p : List Int) (out : SpotRecord) : Option (Bool × SpotRecord) :=
  let call := p.takeWhile fun c => decide (c ≠ blank)
  if call.length = 0 ∨ call.length ≥ dxcCallLen then
    some (false, out)
  else do
    let dxCall ← out.dxCall.copy call
    parseComment now (skipBlanks (p.drop call.length)) { out with dxCall }

def parseFrequency (undef now : BitVec 64) (p : List Int) (out : SpotRecord)
    : Option (Bool × SpotRecord) :=
  match scan (skipBlanks p) with
  | none => some (false, out)
  | some (freqKhz, p) =>
    if outOfRange freqKhz then
      some (false, out)
    else
      parseCall now (skipBlanks p) { out with freqHz := toHz undef freqKhz }

def parseSpotter (undef now : BitVec 64) (p : List Int) (out : SpotRecord) : Option (Bool × SpotRecord) :=
  match p.findIdx? fun c => decide (c = colon) with
  | none => some (false, out)
  | some spotterLen =>
    if spotterLen = 0 ∨ spotterLen ≥ dxcCallLen then
      some (false, out)
    else do
      let spotter ← out.spotter.copy (p.take spotterLen)
      let spotter ← stripSpotter spotter spotterLen
      parseFrequency undef now (p.drop (spotterLen + 1)) { out with spotter }

/--
`parse_spot_line`, field by field; `line` is the memory from the start of the line on, and `now` the time. The
result is whether a spot has been parsed, and what has been written to `out`.
-/
def parseSpotLine (undef now : BitVec 64) (line : List Int) (out : SpotRecord)
    : Option (Bool × SpotRecord) :=
  let line := cString line
  if line.take 6 ≠ codes "DX de " ∧ line.take 6 ≠ codes "DX DE " then
    some (false, out)
  else
    parseSpotter undef now (line.drop 6) out

end DxCluster

/-!
The ring of the spots, and the file `dxspots.csv` that keeps them from one start of the program to the next.
-/

namespace DxCluster

open Text

def dxcMaxSpots : Nat := 500

-- `ring_head` is the next write position
structure SpotRing where
  ring : Nat → DxSpot
  ringHead : Nat
  ringCount : Nat
  head_lt : ringHead < dxcMaxSpots
  count_le : ringCount ≤ dxcMaxSpots

namespace SpotRing

def empty (ring : Nat → DxSpot) : SpotRing where
  ring := ring
  ringHead := 0
  ringCount := 0
  head_lt := by decide
  count_le := by decide

def push (r : SpotRing) (s : DxSpot) : SpotRing where
  ring := fun i => if i = r.ringHead then s else r.ring i
  ringHead := (r.ringHead + 1) % dxcMaxSpots
  ringCount := if r.ringCount < dxcMaxSpots then r.ringCount + 1 else r.ringCount
  head_lt := Nat.mod_lt _ (by decide)
  count_le := by
    split
    . assumption
    . exact r.count_le

-- `n` spots from `idx` on
def walk (ring : Nat → DxSpot) : Nat → Nat → List DxSpot
  | 0, _ => []
  | n + 1, idx => ring idx :: walk ring n ((idx + 1) % dxcMaxSpots)

-- from the oldest to the newest one
def spots (r : SpotRing) : List DxSpot :=
  walk r.ring r.ringCount ((r.ringHead + dxcMaxSpots - r.ringCount) % dxcMaxSpots)

end SpotRing

-- `%lld,%s,%s,%s,%s,%ld`
def csvText (s : DxSpot) : List Int :=
  Decimal.format false 0 s.freqHz.toInt
    ++ comma :: (s.dxCall ++ comma :: (s.spotter ++ comma :: (s.mode ++ comma :: (s.comment
      ++ comma :: Decimal.format false 0 s.when.toInt))))

-- the file that `dxcluster_shutdown` writes
def spotFile (r : SpotRing) : List Int :=
  r.spots.flatMap fun s => csvText s ++ [newline]

-- the conversions `%lld` and `%ld` of `sscanf`, with what follows
def scanInt (cs : List Int) : Option (BitVec 64 × List Int) :=
  let cs := cs.dropWhile fun c => decide (Decimal.IsSpace c)
  let ds := Decimal.leadingDigits (Fixed.dropSign cs)
  if ds = [] then
    none
  else
    some (BitVec.ofInt 64 (Decimal.clamp 64 (Decimal.signed cs)), (Fixed.dropSign cs).drop ds.length)

-- `%n[^,]`
def scanField (n : Nat) (cs : List Int) : Option (List Int × List Int) :=
  let field := (cs.take n).takeWhile fun c => decide (c ≠ comma)
  if field = [] then none else some (field, cs.drop field.length)

def scanComma : List Int → Option (List Int)
  | [] => none
  | c :: cs => if c = comma then some cs else none

/--
A line of the file. The conversions end with the first one that fails, and a spot needs five of them; where the
last one fails the time stays 0.
-/
def scanSpot (ln : List Int) : Option DxSpot := do
  let (freqHz, cs) ← scanInt ln
  let cs ← scanComma cs
  let (dxCall, cs) ← scanField 15 cs
  let cs ← scanComma cs
  let (spotter, cs) ← scanField 15 cs
  let cs ← scanComma cs
  let (mode, cs) ← scanField 7 cs
  let cs ← scanComma cs
  let (comment, cs) ← scanField 39 cs
  let when := ((scanComma cs).bind scanInt).elim 0 Prod.fst
  some { freqHz, dxCall, spotter, mode, comment, when }

-- the loop of `dxcluster_init`; the ring is not initialised
def loadSpots (ring : Nat → DxSpot) (file : List Int) : SpotRing :=
  (readLines 511 file.length file).foldl (fun r ln => (scanSpot ln).elim r r.push) (SpotRing.empty ring)

end DxCluster

/-!
The read loop of `worker_main`: the lines of a connection, from the results of `recv`.
-/

namespace DxCluster

open Text

def eagain : Int := 11

def ewouldblock : Int := 11

def lineBufSize : Nat := 1024

-- a result of `recv`: some characters, 0 for a close, or an error
inductive Recv where
  | data (chunk : List Int) (hne : chunk ≠ [])
  | closed
  | error (errno : Int)

/--
A round of the loop. `worker_stop` is set once `stop` characters of the chunk have been looked at, if it is set
at all, where 0 is before the call returns; `enabled` are the settings after it, and `errno` is what the handling
of the lines leaves there if it changes it.
-/
structure RecvRound where
  result : Recv
  stop : Option Nat
  enabled : Bool
  errno : Option Int

namespace RecvRound

-- the characters that arrive before the worker is stopped
def data (e : RecvRound) : List Int :=
  match e.result with
  | .data chunk _ => e.stop.elim chunk chunk.take
  | _ => []

-- whether the connection ends, or the worker is stopped or disabled
def ends (e : RecvRound) : Bool :=
  match e.result with
  | .data _ _ => e.stop.isSome || !e.enabled
  | .closed => true
  | .error errno => decide (errno ≠ eagain ∧ errno ≠ ewouldblock) || e.stop.isSome

end RecvRound

/--
`line` is what `line_buf` has in front of `line_pos`, and `handled` are the lines that `handle_line` has been given.
What has been received until the first end of the connection, or of the worker, is in `received`, and `ended` is
whether there has been one.
-/
structure ReadLoop where
  running : Bool
  errno : Int
  line : List Int
  handled : List (List Int)
  received : List Int
  ended : Bool

namespace ReadLoop

def start (errno : Int) : ReadLoop where
  running := true
  errno := errno
  line := []
  handled := []
  received := []
  ended := false

def timedOut (errno : Int) : Bool :=
  decide (errno = eagain ∨ errno = ewouldblock)

-- one character of the chunk
def feed (stopped : Bool) (p : List Int × List (List Int)) (c : Int) : List Int × List (List Int) :=
  if c = 13 then
    p
  else if c = newline then
    ([], if p.1.length > 0 ∧ stopped = false then p.2 ++ [p.1] else p.2)
  else if p.1.length < lineBufSize - 1 then
    (p.1 ++ [c], p.2)
  else
    p

-- the characters from number `i` on
def feedFrom (stop : Option Nat) (i : Nat) (p : List Int × List (List Int))
    : List Int → List Int × List (List Int)
  | [] => p
  | c :: cs => feedFrom stop (i + 1) (feed (stop.any fun k => decide (k ≤ i)) p c) cs

def step (s : ReadLoop) (e : RecvRound) : ReadLoop :=
  let s := { s with
    received := if s.ended then s.received else s.received ++ e.data
    ended := s.ended || e.ends }
  if s.running then
    match e.result with
    | .data chunk _ =>
      if e.stop = some 0 then
        { s with running := false }
      else
        let p := feedFrom e.stop 0 (s.line, s.handled) chunk
        { s with
          running := e.enabled && e.stop.isNone
          errno := e.errno.getD s.errno
          line := p.1
          handled := p.2 }
    -- `sock_read` gives -1 for both, and only an error sets `errno`
    | .closed => { s with running := timedOut s.errno && e.stop.isNone }
    | .error errno => { s with running := timedOut errno && e.stop.isNone, errno }
  else
    s

end ReadLoop

end DxCluster
