import Pihpsdr.Lib.Assoc
import Pihpsdr.Lib.Fixed
import Pihpsdr.Lib.Text

/-!
The properties of `property.c`: the list of names and values, the text of the file that they are kept in,
and the macros of `property.h` that store and read numbers.
-/

abbrev Properties :=
  List (List Int × List Int)

namespace Properties

open Text

def setProperty (props : Properties) (name value : List Int) : Properties :=
  Assoc.set props name value

def getProperty (props : Properties) (name : List Int) : Option (List Int) :=
  Assoc.get props name

def versionName : List Int :=
  codes "property_version"

-- `PROPERTY_VERSION`
def propertyVersion : ℚ :=
  3

def versionText : List Int :=
  Fixed.format 2 propertyVersion

def lineOf (p : List Int × List Int) : List Int :=
  p.1 ++ equals :: p.2

-- the text of the file; properties without a value are left out
def saveProperties (props : Properties) : List Int :=
  (setProperty props versionName versionText).flatMap fun p =>
    if p.2 = [] then [] else (lineOf p ++ [newline]).take 1023

def addLine (acc : Properties × ℚ) (line : List Int) : Properties × ℚ :=
  if line.head? = some hash then
    acc
  else
    match strtok equals line with
    | none => acc
    | some (name, rest) =>
      match strtok newline rest with
      | none => acc
      | some (value, _) =>
        ((name, value) :: acc.1, if name = versionName then Fixed.strtod value else acc.2)

def loadProperties (file : List Int) : Properties :=
  let (props, version) := (readLines 255 file.length file).foldl addLine ([], -1)
  if version ≥ 0 ∧ version ≠ propertyVersion then [] else props

-- `snprintf` into an array of 128 characters
def snprintf128 (text : List Int) : List Int :=
  text.take 127

def propName (parts : List (List Int)) : List Int :=
  snprintf128 (dotted parts)

-- the cast to `long long`
def longLong (x : Int) : Int :=
  (BitVec.ofInt 64 x).toInt

-- the text that `SetPropI1` stores
def intText (x : Int) : List Int :=
  snprintf128 (Decimal.format false 0 (longLong x))

-- the number that `GetPropI1` reads
def getInt (props : Properties) (name : List Int) : Option Int :=
  (getProperty props name).map Decimal.parse

-- the text that `SetPropF1` stores
def doubleText (x : ℚ) : List Int :=
  snprintf128 (Fixed.format 6 x)

-- a comma may stand for the point
def myatof (text : List Int) : ℚ :=
  Fixed.strtod (text.map fun c => if c = 44 then Fixed.point else c)

-- a sequence of properties that are set
def setAll (props : Properties) (ps : List (List Int × List Int)) : Properties :=
  ps.foldl (fun props p => setProperty props p.1 p.2) props

end Properties
