import Mathlib.Data.List.Basic

/-!
CW text by CAT: `rigctl_send_cw_char` of `rigctl.c` with the functions that queue the key events of a
dash, a dot and a space, and the treatment of a character in the loop of `rigctl_cw_thread`, while
the radio transmits in a CW mode and no key is hit.
-/

namespace Rigctl

-- the arguments of a call of `tx_queue_cw_event`
structure CwEvent where
  down : Bool
  wait : Nat
  deriving DecidableEq

inductive CwElement where
  | dot
  | dash
  deriving DecidableEq

-- the labels of a case of the switch in `rigctl_send_cw_char`, and the pattern it sets
structure CwCase where
  labels : List Char
  pattern : List CwElement

def cwCases : List CwCase := [
  ⟨['a', 'A'], [.dot, .dash]⟩,
  ⟨['b', 'B'], [.dash, .dot, .dot, .dot]⟩,
  ⟨['c', 'C'], [.dash, .dot, .dash, .dot]⟩,
  ⟨['d', 'D'], [.dash, .dot, .dot]⟩,
  ⟨['e', 'E'], [.dot]⟩,
  ⟨['f', 'F'], [.dot, .dot, .dash, .dot]⟩,
  ⟨['g', 'G'], [.dash, .dash, .dot]⟩,
  ⟨['h', 'H'], [.dot, .dot, .dot, .dot]⟩,
  ⟨['i', 'I'], [.dot, .dot]⟩,
  ⟨['j', 'J'], [.dot, .dash, .dash, .dash]⟩,
  ⟨['k', 'K'], [.dash, .dot, .dash]⟩,
  ⟨['l', 'L'], [.dot, .dash, .dot, .dot]⟩,
  ⟨['m', 'M'], [.dash, .dash]⟩,
  ⟨['n', 'N'], [.dash, .dot]⟩,
  ⟨['o', 'O'], [.dash, .dash, .dash]⟩,
  ⟨['p', 'P'], [.dot, .dash, .dash, .dot]⟩,
  ⟨['q', 'Q'], [.dash, .dash, .dot, .dash]⟩,
  ⟨['r', 'R'], [.dot, .dash, .dot]⟩,
  ⟨['s', 'S'], [.dot, .dot, .dot]⟩,
  ⟨['t', 'T'], [.dash]⟩,
  ⟨['u', 'U'], [.dot, .dot, .dash]⟩,
  ⟨['v', 'V'], [.dot, .dot, .dot, .dash]⟩,
  ⟨['w', 'W'], [.dot, .dash, .dash]⟩,
  ⟨['x', 'X'], [.dash, .dot, .dot, .dash]⟩,
  ⟨['y', 'Y'], [.dash, .dot, .dash, .dash]⟩,
  ⟨['z', 'Z'], [.dash, .dash, .dot, .dot]⟩,
  ⟨['0'], [.dash, .dash, .dash, .dash, .dash]⟩,
  ⟨['1'], [.dot, .dash, .dash, .dash, .dash]⟩,
  ⟨['2'], [.dot, .dot, .dash, .dash, .dash]⟩,
  ⟨['3'], [.dot, .dot, .dot, .dash, .dash]⟩,
  ⟨['4'], [.dot, .dot, .dot, .dot, .dash]⟩,
  ⟨['5'], [.dot, .dot, .dot, .dot, .dot]⟩,
  ⟨['6'], [.dash, .dot, .dot, .dot, .dot]⟩,
  ⟨['7'], [.dash, .dash, .dot, .dot, .dot]⟩,
  ⟨['8'], [.dash, .dash, .dash, .dot, .dot]⟩,
  ⟨['9'], [.dash, .dash, .dash, .dash, .dot]⟩,
  ⟨['.'], [.dot, .dash, .dot, .dash, .dot, .dash]⟩,
  ⟨[','], [.dash, .dash, .dot, .dot, .dash, .dash]⟩,
  ⟨[':'], [.dash, .dash, .dash, .dot, .dot]⟩,
  ⟨['?'], [.dot, .dot, .dash, .dash, .dot, .dot]⟩,
  ⟨['\''], [.dot, .dash, .dash, .dash, .dash, .dot]⟩,
  ⟨['-'], [.dash, .dot, .dot, .dot, .dot, .dash]⟩,
  ⟨['/'], [.dash, .dot, .dot, .dash, .dot]⟩,
  ⟨['('], [.dash, .dot, .dash, .dash, .dot]⟩,
  ⟨[')'], [.dash, .dot, .dash, .dash, .dot, .dash]⟩,
  ⟨['"'], [.dot, .dash, .dot, .dot, .dash, .dot]⟩,
  ⟨['='], [.dash, .dot, .dot, .dot, .dash]⟩,
  ⟨['+'], [.dot, .dash, .dot, .dash, .dot]⟩,
  ⟨['@'], [.dot, .dash, .dash, .dot, .dash, .dot]⟩,
  ⟨['&'], [.dot, .dash, .dot, .dot, .dot]⟩
]

def cwPattern (cwChar : Char) : List CwElement :=
  match cwCases.find? (fun c => cwChar ∈ c.labels) with
  | none => []
  | some c => c.pattern

/--
`cw_keyer_speed` and `cw_keyer_weight`, in the range that the menus and the commands allow.
-/
structure CwKeyer where
  speed : Nat
  weight : Nat
  speed_pos : 1 ≤ speed
  speed_le : speed ≤ 100
  weight_le : weight ≤ 100

-- what the thread keeps from one character to the next
structure CwThread where
  bufferedSpeed : Nat
  bracketCommand : Bool
  joinCwCharacters : Bool
  deriving DecidableEq

def CwThread.start : CwThread where
  bufferedSpeed := 0
  bracketCommand := false
  joinCwCharacters := false

structure CwSamples where
  dotsamples : Nat
  dashsamples : Nat

def CwThread.samples (t : CwThread) (keyer : CwKeyer) : CwSamples :=
  if t.bufferedSpeed > 0 then
    { dotsamples := 57600 / t.bufferedSpeed
      dashsamples := (3456 * keyer.weight) / t.bufferedSpeed }
  else
    { dotsamples := 57600 / keyer.speed, dashsamples := (3456 * keyer.weight) / keyer.speed }

def sendDash (n : CwSamples) : List CwEvent :=
  [⟨true, 0⟩, ⟨false, n.dashsamples⟩, ⟨false, n.dotsamples⟩]

def sendDot (n : CwSamples) : List CwEvent :=
  [⟨true, 0⟩, ⟨false, n.dotsamples⟩, ⟨false, n.dotsamples⟩]

def sendSpace (n : CwSamples) (len : Nat) : List CwEvent :=
  [⟨false, len * n.dotsamples⟩]

def sendElement (n : CwSamples) : CwElement → List CwEvent
  | .dash => sendDash n
  | .dot => sendDot n

def rigctlSendCwChar (n : CwSamples) (joinCwCharacters : Bool) (cwChar : Char) : List CwEvent :=
  (cwPattern cwChar).flatMap (sendElement n) ++
    if cwChar = ' ' then
      sendSpace n 6
    else if joinCwCharacters then
      []
    else
      sendSpace n 2

/--
The special characters: what is left to send of a character, if anything, and the new state.
-/
def CwThread.bracket (keyer : CwKeyer) (t : CwThread) (cwchar : Char) : Option Char × CwThread :=
  let (cwchar, t) : Option Char × CwThread :=
    if t.bracketCommand then
      let t := { t with bracketCommand := false }
      match cwchar with
      | '+' => (none, { t with bufferedSpeed := (5 * keyer.speed) / 4 })
      | '-' => (none, { t with bufferedSpeed := (3 * keyer.speed) / 4 })
      | '.' => (none, { t with joinCwCharacters := true })
      | _ => (some cwchar, t)
    else
      (some cwchar, t)
  if cwchar = some '[' then
    (none, { t with bracketCommand := true })
  else if cwchar = some ']' then
    (none, { t with bufferedSpeed := 0, joinCwCharacters := false })
  else
    (cwchar, t)

-- the key events that the loop of `rigctl_cw_thread` queues for the characters it takes out
def rigctlCwThread (keyer : CwKeyer) (t : CwThread) : List Char → List CwEvent
  | [] => []
  | c :: cs =>
    let (cwchar, t) := t.bracket keyer c
    let events :=
      match cwchar with
      | none => []
      | some cwchar => rigctlSendCwChar (t.samples keyer) t.joinCwCharacters cwchar
    events ++ rigctlCwThread keyer t cs

end Rigctl
