import Mathlib.Data.BitVec

/-!
The threads that receive the replies to discovery packets: `p1_discover_receive_thread` of `old_discovery.c` and
`p2_discover_receive_thread` of `new_discovery.c`.
-/

namespace Discovery

def maxDevices : Nat :=
  16

def originalProtocol : Nat :=
  0

def newProtocol : Nat :=
  1

def deviceMetis : Nat :=
  0

def deviceHermes : Nat :=
  1

def deviceHermes2 : Nat :=
  2

def deviceAngelia : Nat :=
  4

def deviceOrion : Nat :=
  5

def deviceHermesLite : Nat :=
  6

def deviceHermesLite2 : Nat :=
  506

def deviceOrion2 : Nat :=
  10

def deviceG2e : Nat :=
  20

def deviceStemlab : Nat :=
  100

def deviceStemlabZ20 : Nat :=
  101

def newDeviceAtlas : Nat :=
  1000

def newDeviceHermes : Nat :=
  1001

def newDeviceHermes2 : Nat :=
  1002

def newDeviceAngelia : Nat :=
  1003

def newDeviceOrion : Nat :=
  1004

def newDeviceOrion2 : Nat :=
  1005

def newDeviceHermesLite : Nat :=
  1006

def newDeviceSaturn : Nat :=
  1010

def newDeviceSaturn2 : Nat :=
  1011

def newDeviceG2e : Nat :=
  1020

def newDeviceHermesLite2 : Nat :=
  1506

structure SockAddr where
  sinAddr : BitVec 32
  sinPort : BitVec 16
  deriving DecidableEq

-- the fields of `DISCOVERED` that depend on the reply; frequencies in Hz
structure Discovered where
  protocol : Nat
  device : Nat
  name : String
  softwareVersion : Nat
  status : Nat
  frequencyMax : Nat
  macAddress : List (BitVec 8)
  address : SockAddr
  deriving DecidableEq

-- what `recvfrom` gets, into a buffer of 2048 bytes
structure Datagram where
  bytes : List (BitVec 8)
  le : bytes.length ≤ 2048
  addr : SockAddr
  deriving DecidableEq

abbrev Buffer :=
  Nat → BitVec 8

-- Only the bytes that are received are written.
def Buffer.receive (buffer : Buffer) (bytes : List (BitVec 8)) : Buffer :=
  fun i => bytes.getD i (buffer i)

inductive Protocol where
  | p1
  | p2
  deriving DecidableEq

-- name, device and highest frequency, from the device and the version in the reply
def p1Radio (device softwareVersion : Nat) : String × Nat × Nat :=
  if device = deviceMetis then ("Metis", device, 61440000)
  else if device = deviceHermes2 then ("Hermes2 (Anan-10E/100B)", device, 61440000)
  else if device = deviceHermes then ("Hermes", device, 61440000)
  else if device = deviceAngelia then ("Angelia", device, 61440000)
  else if device = deviceOrion then ("Orion", device, 61440000)
  else if device = deviceHermesLite then
    if softwareVersion < 400 then ("HermesLite V1", device, 38400000)
    else ("HermesLite V2", deviceHermesLite2, 38400000)
  else if device = deviceOrion2 then ("Orion2", device, 61440000)
  else if device = deviceG2e then ("Anan G2E", device, 61440000)
  else if device = deviceStemlab then ("STEMlab", device, 61440000)
  else if device = deviceStemlabZ20 then ("STEMlab-Zync7020", device, 61440000)
  else ("Unknown", device, 61440000)

def p2Radio (device softwareVersion : Nat) : String × Nat × Nat :=
  if device = newDeviceAtlas then ("Atlas", device, 61440000)
  else if device = newDeviceHermes2 then ("Hermes (Anan-10E/100B)", device, 61440000)
  else if device = newDeviceHermes then ("Hermes", device, 61440000)
  else if device = newDeviceAngelia then ("Angelia", device, 61440000)
  else if device = newDeviceOrion then ("Orion", device, 61440000)
  else if device = newDeviceOrion2 then ("Orion2", device, 61440000)
  else if device = newDeviceSaturn ∨ device = newDeviceSaturn2 then
    ("Saturn/G2", newDeviceSaturn, 61440000)
  else if device = newDeviceG2e then ("Anan G2E", newDeviceG2e, 61440000)
  else if device = newDeviceHermesLite then
    if softwareVersion < 40 then ("HermesLite V1", device, 30720000)
    else ("HermesLite V2", newDeviceHermesLite2, 30720000)
  else ("Unknown", device, 30720000)

-- The minor version of a HermesLite is in byte 21.
def p1SoftwareVersion (buffer : Buffer) : Nat :=
  if (buffer 10).toNat = deviceHermesLite then
    10 * (buffer 9).toNat + (buffer 21).toNat
  else
    (buffer 9).toNat

namespace Protocol

-- `bytes_read` for which the loop ends: an error is -1
def ends : Protocol → Int → Bool
  | .p1, bytesRead => bytesRead ≤ 0
  | .p2, bytesRead => bytesRead < 0

-- the heuristics for a valid reply
def accepts : Protocol → Nat → Buffer → Bool
  | .p1, bytesRead, buffer =>
    (bytesRead ≤ 128 ∨ bytesRead = 1032) ∧ buffer 0 = 0xEF ∧ buffer 1 = 0xFE
      ∧ (buffer 2 = 2 ∨ buffer 2 = 3)
  | .p2, bytesRead, buffer =>
    bytesRead ≤ 128 ∧ buffer 0 = 0 ∧ buffer 1 = 0 ∧ buffer 2 = 0 ∧ buffer 3 = 0
      ∧ (buffer 4 = 2 ∨ buffer 4 = 3)

def entry : Protocol → Buffer → SockAddr → Discovered
  | .p1, buffer, addr =>
    let softwareVersion := p1SoftwareVersion buffer
    let radio := p1Radio (buffer 10).toNat softwareVersion
    { protocol := originalProtocol
      device := radio.2.1
      name := radio.1
      softwareVersion := softwareVersion
      status := (buffer 2).toNat
      frequencyMax := radio.2.2
      macAddress := (List.range 6).map fun i => buffer (i + 3)
      address := addr }
  | .p2, buffer, addr =>
    let softwareVersion := (buffer 13).toNat
    let radio := p2Radio ((buffer 11).toNat + 1000) softwareVersion
    { protocol := newProtocol
      device := radio.2.1
      name := radio.1
      softwareVersion := softwareVersion
      status := (buffer 4).toNat
      frequencyMax := radio.2.2
      macAddress := (List.range 6).map fun i => buffer (i + 5)
      address := addr }

end Protocol

/--
The thread, with its argument and the entries `discovered[0]` to `discovered[devices - 1]`. The buffer is on the
stack and holds anything at first.
-/
structure ReceiveThread where
  flag : Int
  oldnumdev : Nat
  buffer : Buffer
  discovered : List Discovered
  count : Nat
  ended : Bool

def ReceiveThread.start (flag : Int) (buffer : Buffer) (discovered : List Discovered)
    : ReceiveThread where
  flag := flag
  oldnumdev := discovered.length
  buffer := buffer
  discovered := discovered
  count := 0
  ended := false

inductive Received where
  | datagram (d : Datagram)
  | error
  deriving DecidableEq

namespace ReceiveThread

variable (p : Protocol) (s : ReceiveThread)

-- The loop gets to `recvfrom`.
def receives : Bool :=
  s.ended = false ∧ s.discovered.length < maxDevices
    ∧ (s.flag = 1 ∨ s.discovered.length ≤ s.oldnumdev)

-- A datagram that does not end the loop.
def handles (d : Datagram) : Bool :=
  s.receives ∧ p.ends d.bytes.length = false ∧ s.count + 1 ≤ 16

def handle (d : Datagram) : ReceiveThread :=
  let buffer := s.buffer.receive d.bytes
  if p.accepts d.bytes.length buffer then
    { s with
      buffer := buffer
      count := 0
      discovered := s.discovered ++ [p.entry buffer d.addr] }
  else
    { s with buffer := buffer, count := s.count + 1 }

-- one iteration of the loop, for what `recvfrom` returns if the loop gets there
def step : Received → ReceiveThread
  | .error => { s with ended := true }
  | .datagram d => if s.handles p d then s.handle p d else { s with ended := true }

end ReceiveThread

end Discovery
