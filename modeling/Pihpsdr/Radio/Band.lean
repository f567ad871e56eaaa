import Mathlib.Data.Rat.Init
import Mathlib.Logic.Function.Basic
import Pihpsdr.Lib.Indices

/-!
The bands and band stacks of `band.h` and `bandstack.h`, as far as client and server exchange them.
-/

-- the text in an array of `n` characters, up to its terminator
structure CString (n : Nat) where
  chars : List (BitVec 8)
  length_lt : chars.length < n
  no_nul : 0 ∉ chars
  deriving DecidableEq

-- the empty string in the arrays for titles and names
theorem CString.length_nil_lt_16 : ([] : List (BitVec 8)).length < 16 := by
  decide

theorem CString.length_nil_lt_64 : ([] : List (BitVec 8)).length < 64 := by
  decide

theorem CString.no_nul_nil : 0 ∉ ([] : List (BitVec 8)) := by
  decide

-- `snprintf(s, sizeof(s), "%s", t)` into an array of `n` characters
def CString.snprintf {m : Nat} (n : Nat) (hn : 0 < n) (t : CString m) : CString n where
  chars := t.chars.take (n - 1)
  length_lt := by
    rw [List.length_take]
    omega
  no_nul := fun h => t.no_nul (List.mem_of_mem_take h)

structure BandstackEntry where
  frequency : Int
  ctun : Int
  ctunFrequency : Int
  mode : Int
  filter : Int
  deviation : Int
  ctcssEnabled : Int
  ctcss : Int
  deriving DecidableEq

-- a region may use fewer entries than its array has
structure Bandstack where
  entries : Nat
  currentEntry : Int
  entry : List BandstackEntry
  entries_le : entries ≤ entry.length

def Bandstack.setEntry (s : Bandstack) (i : Nat) (e : BandstackEntry) : Bandstack :=
  { s with
    entry := s.entry.set i e
    entries_le := by
      rw [List.length_set]
      exact s.entries_le }

structure Band where
  title : CString 16
  bandstack : Bandstack
  ocRx : Int
  ocTx : Int
  gaincalib : Int
  rxAntenna : Int
  txAntenna : Int
  paCalibration : ℚ
  frequencyMin : Int
  frequencyMax : Int
  frequencyLo : Int
  errorLo : Int
  disablePa : Int

abbrev numBands : Nat :=
  24

abbrev numXvtrs : Nat :=
  10

instance bands_neZero : NeZero (numBands + numXvtrs) where
  out := by decide

abbrev Bands :=
  Fin (numBands + numXvtrs) → Band

@[simp]
theorem CString.snprintf_self {n : Nat} (hn : 0 < n) (t : CString n)
    : t.snprintf n hn = t := by
  have hlen := t.length_lt
  have htake : t.chars.take (n - 1) = t.chars := List.take_of_length_le (by omega)
  cases t
  simp only [snprintf, mk.injEq]
  exact htake

theorem Bandstack.getElem?_setEntry {s : Bandstack} {i : Nat} (h : i < s.entry.length)
    (e : BandstackEntry)
    : (s.setEntry i e).entry[i]? = some e := by
  simp [setEntry, h]

/-!
The device types of `discovered.h`. Devices of the new protocol and of SoapySDR have numbers of
their own, so that a device determines its protocol.
-/

inductive Device where
  | metis
  | hermes
  | hermes2
  | angelia
  | orion
  | hermesLite
  | ozy
  | orion2
  | g2e
  | stemlab
  | stemlabZ20
  | hermesLite2
  | newAtlas
  | newHermes
  | newHermes2
  | newAngelia
  | newOrion
  | newOrion2
  | newHermesLite
  | newSaturn
  | newSaturn2
  | newG2e
  | newHermesLite2
  | soapysdrUsb
  deriving DecidableEq, Repr

/-!
The modes of `mode.h` and the part of the structure `_vfo` of `vfo.h` that determines the
frequencies sent to the radio.
-/

inductive Mode where
  | lsb
  | usb
  | dsb
  | cwl
  | cwu
  | fmn
  | am
  | digu
  | spec
  | digl
  | sam
  | drm
  deriving DecidableEq, Repr

structure Vfo where
  band : Nat
  mode : Mode
  frequency : Int
  ctun : Bool
  ctunFrequency : Int
  xitEnabled : Bool
  xit : Int
  lo : Int
  deriving DecidableEq

-- the frequency on which a transmission takes place, without the offset of a transverter
def Vfo.txFrequency (v : Vfo) : Int :=
  (if v.ctun then v.ctunFrequency else v.frequency) + if v.xitEnabled then v.xit else 0
