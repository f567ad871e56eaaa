import Pihpsdr.Rigctl.Impl.Rig

/-!
How a command is taken apart: each case of the switches in `parse_cmd` and `parse_extended_cmd` looks
for the `;` at fixed places of the buffer, one after the other, and the first place where it stands
determines what is done. The arguments are read from the buffer as well.
-/

namespace Rigctl

-- a character of the buffer
def CommandBuffer.byte (command : CommandBuffer) (i : Nat) : CChar :=
  command.toList.getD i 0

-- the memory from an address in the buffer on
def CommandBuffer.behind (command : CommandBuffer) (i : Nat) : List CChar :=
  command.toList.drop i

-- an `int` of 32 bits
def wrapInt (x : Int) : Int :=
  (x + 2 ^ 31) % 2 ^ 32 - 2 ^ 31

-- `atoi` cuts off what `strtol` returns, a `long` of 64 bits
def atoi (cs : List CChar) : Int :=
  wrapInt (Decimal.clamp 64 (Decimal.parse cs))

def atoll (cs : List CChar) : Int :=
  Decimal.clamp 64 (Decimal.parse cs)

inductive CatArg where
  | char (off : Nat)
  | atoi (off : Nat)
  | atoll (off : Nat)
  -- `atoi` of a number that ends before `stop`, where a zero has been written
  | atoiTo (off stop : Nat)
  -- the characters up to the end of the command
  | text (off : Nat)
  deriving DecidableEq

def CatArg.read (command : CommandBuffer) : CatArg → List Int
  | .char off => [command.byte off]
  | .atoi off => [Rigctl.atoi (command.behind off)]
  | .atoll off => [Rigctl.atoll (command.behind off)]
  | .atoiTo off stop => [Rigctl.atoi ((command.behind off).take (stop - off))]
  | .text off => (command.behind off).takeWhile fun c => decide (c ≠ semicolon ∧ c ≠ 0)

-- a branch of a case: where the `;` has to be, if it matters, and what is done with the arguments
structure CatBranch where
  test : Option Nat
  args : List CatArg
  run : List Int → Rig → Outcome

def CatBranch.taken (branch : CatBranch) (command : CommandBuffer) : Bool :=
  match branch.test with
  | some i => command.byte i = semicolon
  | none => true

def CatBranch.exec (branch : CatBranch) (command : CommandBuffer) (s : Rig) : Outcome :=
  branch.run (branch.args.flatMap (CatArg.read command)) s

-- a case of the switches, with what is done if no branch is taken
structure CatCase where
  branches : List CatBranch
  otherwise : Rig → Outcome

def CatCase.exec (c : CatCase) (command : CommandBuffer) (s : Rig) : Outcome :=
  match c.branches.find? (·.taken command) with
  | some branch => branch.exec command s
  | none => c.otherwise s

namespace CatBranch

-- the branches without arguments, and those with one number
def plain (test : Nat) (run : Rig → Outcome) : CatBranch where
  test := some test
  args := []
  run := fun _ => run

def always (run : Rig → Outcome) : CatBranch where
  test := none
  args := []
  run := fun _ => run

def atoi (test off : Nat) (run : Int → Rig → Outcome) : CatBranch where
  test := some test
  args := [.atoi off]
  run := fun args => run (args.getD 0 0)

def atoll (test off : Nat) (run : Int → Rig → Outcome) : CatBranch where
  test := some test
  args := [.atoll off]
  run := fun args => run (args.getD 0 0)

def char (test off : Nat) (run : CChar → Rig → Outcome) : CatBranch where
  test := some test
  args := [.char off]
  run := fun args => run (args.getD 0 0)

def anyAtoi (off : Nat) (run : Int → Rig → Outcome) : CatBranch where
  test := none
  args := [.atoi off]
  run := fun args => run (args.getD 0 0)

end CatBranch

namespace CatCase

-- a command that is always carried out
def act (run : Rig → Outcome) : CatCase where
  branches := [.always run]
  otherwise := Rig.silent

-- a command that is carried out if the `;` stands at `i`
def actAt (i : Nat) (run : Rig → Outcome) : CatCase where
  branches := [.plain i run]
  otherwise := Rig.silent

-- a command that reads a value if the `;` stands at `off`, and sets it if it stands at `stop`
def readSet (off stop : Nat) (read : Rig → Outcome) (set : Int → Rig → Outcome) : CatCase where
  branches := [.plain off read, .atoi stop off set]
  otherwise := Rig.silent

-- a command that sets the value whenever it does not read it
def readElse (off : Nat) (read : Rig → Outcome) (set : Int → Rig → Outcome) : CatCase where
  branches := [.plain off read, .anyAtoi off set]
  otherwise := Rig.silent

-- a command that only takes a number
def setAt (off stop : Nat) (set : Int → Rig → Outcome) : CatCase where
  branches := [.atoi stop off set]
  otherwise := Rig.silent

-- a case inside of `if (transmitter != NULL)`, with what is done without a transmitter
def guarded (c : CatCase) (guard : Rig → Bool) (refused : Rig → Outcome) : CatCase where
  branches := c.branches.map fun branch =>
    { branch with run := fun args s => if guard s then branch.run args s else refused s }
  otherwise := fun s => if guard s then c.otherwise s else refused s

end CatCase

end Rigctl
