/-!
# Integer readings as words and quantities

A device reports its items as signed integers.  Masks and indices keep the low
32 bits of a reading; counts and quantities are zero where the reading is out of
range.
-/

namespace Acquisition.Number

/-- The low 32 bits of a reading. -/
def word (reading : Int) : UInt32 :=
  (reading % 4294967296).toNat.toUInt32

/-- The count that a reading stands for, zero if it is negative. -/
def count (reading : Int) : Nat :=
  reading.toNat

/-- The 32-bit quantity that a reading stands for, zero if it does not fit. -/
def quantity (reading : Int) : Nat :=
  if 0 ≤ reading ∧ reading < 4294967296 then reading.toNat else 0

end Acquisition.Number
