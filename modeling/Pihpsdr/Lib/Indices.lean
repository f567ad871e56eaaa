import Mathlib.Algebra.GroupWithZero.Nat

/-!
Types of indices of the sizes that radios have: VFOs and receivers, ADCs, DDCs, lists of buffers, the bands
of an equaliser, lines and registers of a bus, the places in a round of packets. That there is such an
index is found here, and not anew for each numeral.
-/

namespace Indices

instance two : NeZero 2 where
  out := by decide

instance three : NeZero 3 where
  out := by decide

instance four : NeZero 4 where
  out := by decide

instance five : NeZero 5 where
  out := by decide

instance eight : NeZero 8 where
  out := by decide

instance ten : NeZero 10 where
  out := by decide

instance eleven : NeZero 11 where
  out := by decide

instance sixteen : NeZero 16 where
  out := by decide

instance seventeen : NeZero 17 where
  out := by decide

end Indices
