import Pihpsdr.Lib.Packet
import Pihpsdr.Lib.Rounding

/-!
The encodings of numbers in `client_server.h`, on a host with the least significant byte first.
A double is the rational number that it stands for, and its arithmetic rounds after each operation.
-/

namespace ClientServer

-- the end of the connection that receives a message
inductive Peer where
  | client
  | server

def htons (x : BitVec 16) : BitVec 16 :=
  Bytes.byteSwap 2 x

def htonl (x : BitVec 32) : BitVec 32 :=
  Bytes.byteSwap 4 x

def htobe64 (x : BitVec 64) : BitVec 64 :=
  Bytes.byteSwap 8 x

-- the assignment of an `int` to a field of one byte, which no function encodes
def to8 (x : Int) : BitVec 8 :=
  BitVec.ofInt 8 x

def to16 (x : Int) : BitVec 16 :=
  htons (BitVec.ofInt 16 x)

def to32 (x : Int) : BitVec 32 :=
  htonl (BitVec.ofInt 32 x)

def to64 (x : Int) : BitVec 64 :=
  htobe64 (BitVec.ofInt 64 x)

def from8 (y : BitVec 8) : Int :=
  y.toNat

def from16 (y : BitVec 16) : Int :=
  (htons y).toInt

-- the decoder for two bytes with a single byte as its argument
def from16Byte (y : BitVec 8) : Int :=
  from16 (y.setWidth 16)

def from32 (y : BitVec 32) : Int :=
  (htonl y).toInt

def from64 (y : BitVec 64) : Int :=
  (htobe64 y).toInt

def double (q : ℚ) : ℚ :=
  Rounding.round 53 q

-- the conversion to `uint64_t` is undefined outside of the range of that type
def toDouble (x : ℚ) : BitVec 64 :=
  htobe64 (BitVec.ofInt 64 ⌊double (double (x + 9 * 10 ^ 8) * 10 ^ 10)⌋)

def fromDouble (y : BitVec 64) : ℚ :=
  double (double (double (1 / 10 ^ 10) * double (htobe64 y).toNat) - 9 * 10 ^ 8)

-- the integer types of the fields of a message
inductive Wire where
  | u8
  | u16
  | u32
  | u64
  deriving DecidableEq

namespace Wire

def bits : Wire → Nat
  | u8 => 8
  | u16 => 16
  | u32 => 32
  | u64 => 64

def encode : (w : Wire) → Int → BitVec w.bits
  | u8, x => to8 x
  | u16, x => to16 x
  | u32, x => to32 x
  | u64, x => to64 x

def decode : (w : Wire) → BitVec w.bits → Int
  | u8, y => from8 y
  | u16, y => from16 y
  | u32, y => from32 y
  | u64, y => from64 y

-- a byte is read without a sign, the wider fields are signed
def InRange : Wire → Int → Prop
  | u8, x => 0 ≤ x ∧ x < 2 ^ 8
  | u16, x => -2 ^ 15 ≤ x ∧ x < 2 ^ 15
  | u32, x => -2 ^ 31 ≤ x ∧ x < 2 ^ 31
  | u64, x => -2 ^ 63 ≤ x ∧ x < 2 ^ 63

instance (w : Wire) (x : Int) : Decidable (w.InRange x) := by
  cases w <;> unfold InRange <;> infer_instance

end Wire

-- the range of doubles that `to_double` documents
def DoubleInRange (x : ℚ) : Prop :=
  |x| ≤ 9 * 10 ^ 8

/--
What the peer gets for the double `x`: its image under the two conversions, which is less than a
millionth away from it.
-/
def Reproduces (x y : ℚ) : Prop :=
  y = fromDouble (toDouble x) ∧ |y - x| ≤ 1 / 10 ^ 6

end ClientServer

/-!
Structures and messages with many fields. `F` names the fields of an integer type, `G` those of type
`double`, and a field of the message has the name of the field that it carries.
-/

namespace ClientServer

structure Record (F G : Type) where
  int : F → Int
  double : G → ℚ

-- a message whose integer fields have the types `wire`
structure Packet {F : Type} (wire : F → Wire) (G : Type) where
  int : (f : F) → BitVec (wire f).bits
  double : G → BitVec 64

variable {F G : Type} [DecidableEq F] [DecidableEq G] {wire : F → Wire}

-- the integer fields of a message on the stack, after all of them but `unset` have been filled
def fillInts (stack : (f : F) → BitVec (wire f).bits) (unset : List F) (int : F → Int) (f : F)
    : BitVec (wire f).bits :=
  if f ∈ unset then
    stack f
  else
    (wire f).encode (int f)

-- the integer fields of a structure, after all of them but `kept` have been read from a message
def storeInts (data : (f : F) → BitVec (wire f).bits) (kept : List F) (int : F → Int) (f : F)
    : Int :=
  if f ∈ kept then
    int f
  else
    (wire f).decode (data f)

namespace Packet

def fill (stack : Packet wire G) (unset : List F) (x : Record F G) : Packet wire G where
  int := fillInts stack.int unset x.int
  double g := toDouble (x.double g)

def store (data : Packet wire G) (kept : List F) (kept' : List G) (x : Record F G)
    : Record F G where
  int := storeInts data.int kept x.int
  double g := if g ∈ kept' then x.double g else fromDouble (data.double g)

end Packet

structure Record.InWireRange (wire : F → Wire) (x : Record F G) : Prop where
  int : ∀ f, (wire f).InRange (x.int f)
  double : ∀ g, DoubleInRange (x.double g)

-- the structure `x` has arrived as the structure `y`
structure Record.Transferred (x y : Record F G) : Prop where
  int : ∀ f, y.int f = x.int f
  double : ∀ g, Reproduces (x.double g) (y.double g)

end ClientServer
