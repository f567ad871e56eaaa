import Mathlib.Data.Vector.Basic
import Mathlib.Logic.Function.Basic
import Mathlib.Data.List.Basic
import Pihpsdr.Lib.Indices

/-!
The two loops of `rigctl.c` that take CAT commands out of the bytes of a connection: `rigctl_client`
for TCP and `serial_server` for a serial line. A `char` is kept as its value, whether the type is
signed or not.
-/

namespace Rigctl

abbrev CChar :=
  Int

def maxDataSize : Nat :=
  2000

def semicolon : CChar :=
  59

abbrev CommandBuffer :=
  Vector CChar maxDataSize

/--
The state of such a loop: the buffer it fills, the position for the next character, how many buffers
it has allocated and the buffers that `g_idle_add` has queued for `parse_cmd`.
-/
structure Assembler where
  command : CommandBuffer
  commandIndex : Nat
  allocated : Nat
  queued : List CommandBuffer

-- a write to the buffer, which is undefined outside of it
def CommandBuffer.store (command : CommandBuffer) (i : Nat) (c : CChar) : Option CommandBuffer :=
  if h : i < maxDataSize then
    some (command.set i c h)
  else
    none

namespace Assembler

variable (fresh : Nat → CommandBuffer)

-- `fresh` is what the memory that `g_new` returns happens to contain
def start : Assembler :=
  { command := fresh 0, commandIndex := 0, allocated := 1, queued := [] }

def byteIn (s : Assembler) (c : CChar) : Option Assembler :=
  if c < 32 then
    some s
  else
    match s.command.store s.commandIndex c with
    | none => none
    | some command =>
      if c = semicolon then
        match command.store (s.commandIndex + 1) 0 with
        | none => none
        | some command =>
          some {
            command := fresh s.allocated
            commandIndex := 0
            allocated := s.allocated + 1
            queued := s.queued ++ [command]
          }
      else
        some { s with command := command, commandIndex := s.commandIndex + 1 }

def bytesIn (s : Assembler) : List CChar → Option Assembler
  | [] => some s
  | c :: cs =>
    match s.byteIn fresh c with
    | none => none
    | some s => s.bytesIn cs

end Assembler

-- how the condition of the loop in `rigctl_client` turns out
inductive TcpRecv where
  | stopped
  -- `recv` returns zero or an error
  | closed
  | bytes (cmdInput : List CChar)

def rigctlClient (fresh : Nat → CommandBuffer) (s : Assembler) : List TcpRecv → Option Assembler
  | [] => some s
  | .stopped :: _ => some s
  | .closed :: _ => some s
  | .bytes cmdInput :: recvs =>
    match s.bytesIn fresh cmdInput with
    | none => none
    | some s => rigctlClient fresh s recvs

-- how a pass through the loop in `serial_server` goes
inductive SerialRead where
  | stopped
  -- `select` reports no data
  | timeout
  -- `read` returns zero or an error
  | failed
  | bytes (cmdInput : List CChar)

def serialServer (fresh : Nat → CommandBuffer) (s : Assembler) : List SerialRead → Option Assembler
  | [] => some s
  | .stopped :: _ => some s
  | .timeout :: reads => serialServer fresh s reads
  | .failed :: reads => serialServer fresh s reads
  | .bytes cmdInput :: reads =>
    match s.bytesIn fresh cmdInput with
    | none => none
    | some s => serialServer fresh s reads

-- the string in a buffer
def CommandBuffer.text (command : CommandBuffer) : List CChar :=
  command.toList.takeWhile (· ≠ 0)

end Rigctl

/-!
The TCP clients of `rigctl.c`: `rigctl_server` gives a connection to a free slot of `tcp_client`,
`rigctl_client` queues commands together with a pointer to the slot, and `parse_cmd` runs them later
from the main loop. Every change that one of the threads makes to what they share is a step of its
own; what a command does to the radio and to the data of its client is a parameter.
-/

namespace Rigctl

abbrev maxTcpClients : Nat :=
  3

-- how far the server and the client thread are with a slot
inductive SlotPhase where
  -- `fd` is `-1`
  | spare
  -- `accept` has set `fd`
  | accepted
  -- the client thread runs its loop
  | serving
  -- the client thread has closed the socket
  | closed
  deriving DecidableEq

/--
A slot of `tcp_client`: the descriptor (`none` for `-1`), the data that commands read and write, and
the number of the connection that the slot was last used for.
-/
structure Slot (δ : Type) where
  phase : SlotPhase
  fd : Option Nat
  data : δ
  conn : Nat

-- a queued command, with the number of the connection it came from
structure QueuedCommand (τ : Type) where
  slot : Fin maxTcpClients
  conn : Nat
  text : τ

-- a reply that was written to connection `sentTo` for a command from connection `asker`
structure Written (ρ : Type) where
  sentTo : Nat
  asker : Nat
  reply : ρ

/--
The slots, the open descriptors with their connections, the queue of the main loop, the replies
written so far and the number of connections so far.
-/
structure CatServer (σ δ τ ρ : Type) where
  radio : σ
  slots : Fin maxTcpClients → Slot δ
  descriptors : Nat → Option Nat
  queue : List (QueuedCommand τ)
  written : List (Written ρ)
  conns : Nat

inductive CatEvent (τ : Type) where
  | accept (slot : Fin maxTcpClients) (fd : Nat)
  | init (slot : Fin maxTcpClients)
  | receive (slot : Fin maxTcpClients) (text : τ)
  | close (slot : Fin maxTcpClients)
  | vacate (slot : Fin maxTcpClients)
  | execute

namespace CatServer

variable {σ δ τ ρ : Type} (initial : δ) (parse : σ → δ → τ → σ × δ × List ρ)

def setSlot (s : CatServer σ δ τ ρ) (i : Fin maxTcpClients) (slot : Slot δ) : CatServer σ δ τ ρ :=
  { s with slots := Function.update s.slots i slot }

-- `accept` returns a descriptor that is not in use
def accept (s : CatServer σ δ τ ρ) (i : Fin maxTcpClients) (fd : Nat) : CatServer σ δ τ ρ :=
  if (s.slots i).phase = .spare ∧ s.descriptors fd = none then
    { s.setSlot i { s.slots i with phase := .accepted, fd := some fd, conn := s.conns + 1 } with
      descriptors := Function.update s.descriptors fd (some (s.conns + 1))
      conns := s.conns + 1
    }
  else
    s

def init (s : CatServer σ δ τ ρ) (i : Fin maxTcpClients) : CatServer σ δ τ ρ :=
  if (s.slots i).phase = .accepted then
    s.setSlot i { s.slots i with phase := .serving, data := initial }
  else
    s

def receive (s : CatServer σ δ τ ρ) (i : Fin maxTcpClients) (text : τ) : CatServer σ δ τ ρ :=
  if (s.slots i).phase = .serving then
    { s with queue := s.queue ++ [⟨i, (s.slots i).conn, text⟩] }
  else
    s

-- the end of the client thread, before it sets `fd` to `-1`
def close (s : CatServer σ δ τ ρ) (i : Fin maxTcpClients) : CatServer σ δ τ ρ :=
  match (s.slots i).phase, (s.slots i).fd with
  | .serving, some fd =>
    { s.setSlot i { s.slots i with phase := .closed } with
      descriptors := Function.update s.descriptors fd none
    }
  | _, _ => s

def vacate (s : CatServer σ δ τ ρ) (i : Fin maxTcpClients) : CatServer σ δ τ ρ :=
  if (s.slots i).phase = .closed then
    s.setSlot i { s.slots i with phase := .spare, fd := none }
  else
    s

-- the connection that a write to the descriptor of a slot goes to, if there is one
def receiver (s : CatServer σ δ τ ρ) (i : Fin maxTcpClients) : Option Nat :=
  match (s.slots i).fd with
  | none => none
  | some fd => s.descriptors fd

def sendResp (s : CatServer σ δ τ ρ) (i : Fin maxTcpClients) (asker : Nat) (reply : ρ)
    : CatServer σ δ τ ρ :=
  match s.receiver i with
  | none => s
  | some conn => { s with written := s.written ++ [⟨conn, asker, reply⟩] }

def parseCmd (s : CatServer σ δ τ ρ) : CatServer σ δ τ ρ :=
  match s.queue with
  | [] => s
  | c :: queue =>
    let (radio, data, replies) := parse s.radio (s.slots c.slot).data c.text
    let s := { s.setSlot c.slot { s.slots c.slot with data := data } with
      radio := radio
      queue := queue
    }
    replies.foldl (fun s reply => s.sendResp c.slot c.conn reply) s

def event (s : CatServer σ δ τ ρ) (e : CatEvent τ) : CatServer σ δ τ ρ :=
  match e with
  | .accept i fd => s.accept i fd
  | .init i => s.init initial i
  | .receive i text => s.receive i text
  | .close i => s.close i
  | .vacate i => s.vacate i
  | .execute => s.parseCmd parse

def listening (radio : σ) : CatServer σ δ τ ρ where
  radio := radio
  slots := fun _ => { phase := .spare, fd := none, data := initial, conn := 0 }
  descriptors := fun _ => none
  queue := []
  written := []
  conns := 0

end CatServer

-- the command `AI`, with the texts that `parse_cmd` tells apart
inductive AutoReportCommand where
  | read
  | set (digit : Char)

-- the state of auto-reporting is what the command keeps for a client
def parseAutoReport (_ : Unit) (autoReporting : Int) (c : AutoReportCommand)
    : Unit × Int × List String :=
  match c with
  | .read => ((), autoReporting, ["AI" ++ toString autoReporting ++ ";"])
  | .set digit => ((), max 0 (min 3 ((digit.toNat : Int) - 48)), [])

end Rigctl
