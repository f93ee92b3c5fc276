import Acquisition.Profile

/-!
# Properties of a device

A property is an item that a device reports about itself together with how the
reading is understood.
-/

namespace Acquisition

/-- An item of a device and how its reading is understood. -/
inductive Property (α : Type) where
  | integer (place : ItemKey) (understand : Int → Except Error α)
  | real (place : ItemKey) (understand : Float → α)

namespace Property

variable {α : Type}

/-- A number of things; a negative reading counts as none. -/
def count (subject : Subject) (item : Int) (index : Nat) : Property Nat :=
  .integer ⟨subject, item, index⟩ fun reading => .ok (Number.count reading)

/-- A quantity of 32 bits; a reading that does not fit counts as zero. -/
def quantity (subject : Subject) (item : Int) (index : Nat) : Property Nat :=
  .integer ⟨subject, item, index⟩ fun reading => .ok (Number.quantity reading)

/-- A number of indices, of which an index can address the low 32 bits. -/
def indices (subject : Subject) (item : Int) : Property Nat :=
  .integer ⟨subject, item, 0⟩ fun reading => .ok (Number.word (Number.count reading)).toNat

/-- Whether something is there. -/
def present (subject : Subject) (item : Int) (index : Nat) : Property Bool :=
  .integer ⟨subject, item, index⟩ fun reading => .ok (reading ≠ 0)

/-- The named flags of a mask. -/
def flags (family : Family) (subject : Subject) (item : Int) (index : Nat) :
    Property (List (Flags family)) :=
  .integer ⟨subject, item, index⟩ fun reading => .ok (Flags.ofMask reading)

/-- A member of a closed set. -/
def coded (α : Type) [Coded α] (subject : Subject) (item : Int) (index : Nat) : Property α :=
  .integer ⟨subject, item, index⟩ Coded.ofCode

/-- A reading as it is. -/
def plain (subject : Subject) (item : Int) (index : Nat) : Property Int :=
  .integer ⟨subject, item, index⟩ .ok

/-- A rate. -/
def rate (subject : Subject) (item : Int) (index : Nat) : Property Float :=
  .real ⟨subject, item, index⟩ id

end Property

end Acquisition
