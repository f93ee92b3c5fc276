import Acquisition.Flags.Family
import Acquisition.Number.Hexadecimal
import Acquisition.Number.Word

/-!
# Sets of flags

A set of flags is a 32-bit word read in a family.  Bits without a name are kept.
A capability mask that a device reports expands into the named flags it meets,
in the order they are declared (`Flags.ofMask`).
-/

namespace Acquisition

/-- A set of flags of one family. -/
structure Flags (family : Family) where
  bits : UInt32
  deriving DecidableEq, Repr

namespace Flags

variable {family : Family}

instance : Inhabited (Flags family) :=
  ⟨⟨0⟩⟩

/-- The set without flags. -/
def empty : Flags family :=
  ⟨0⟩

/-- Whether no bit is set. -/
def isEmpty (flags : Flags family) : Bool :=
  flags.bits = 0

/-- Whether every flag of `part` is set. -/
def contains (flags part : Flags family) : Bool :=
  flags.bits &&& part.bits = part.bits

/-- Whether some flag is set in both. -/
def intersects (flags other : Flags family) : Bool :=
  flags.bits &&& other.bits ≠ 0

/-- The flags of either set. -/
def union (flags other : Flags family) : Flags family :=
  ⟨flags.bits ||| other.bits⟩

/-- The flags of the first set that are not in the second. -/
def remove (flags other : Flags family) : Flags family :=
  ⟨flags.bits &&& ~~~other.bits⟩

/-- The union of a list of sets. -/
def unionAll (sets : List (Flags family)) : Flags family :=
  sets.foldl union empty

/-- The named flags, in the order they are declared. -/
def declared (family : Family) : List (Flags family) :=
  family.members.map fun member => ⟨member.2⟩

/-- The set of all named flags. -/
def all : Flags family :=
  unionAll (declared family)

/-- The union of the flags with the given names. -/
def named (names : List String) : Flags family :=
  unionAll ((family.members.filter fun member => names.contains member.1).map fun member =>
    ⟨member.2⟩)

/-- Whether every bit has a name. -/
def isKnown (flags : Flags family) : Bool :=
  (all : Flags family).contains flags

/-- The bits that have a name. -/
def truncate (flags : Flags family) : Flags family :=
  ⟨flags.bits &&& (all : Flags family).bits⟩

/-- How many bits are set. -/
def count (flags : Flags family) : Nat :=
  (List.range 32).countP fun index => flags.bits.toNat.testBit index

/-- Whether exactly one bit is set. -/
def isSingle (flags : Flags family) : Bool :=
  flags.count = 1

/-- The members a set contains, in the order they are declared. -/
def membersIn (flags : Flags family) : List (String × UInt32) :=
  family.members.filter fun member => flags.contains ⟨member.2⟩

/-- The bits that no contained member has. -/
def unnamed (flags : Flags family) : Flags family :=
  flags.remove (unionAll (flags.membersIn.map fun member => ⟨member.2⟩))

/-- The contained members, and the bits they leave as one last item. -/
def toList (flags : Flags family) : List (Flags family) :=
  (flags.membersIn.map fun member => ⟨member.2⟩) ++
    if flags.unnamed.isEmpty then [] else [flags.unnamed]

/-- The text of a set: the names it contains and the bits they leave, or `0x0`. -/
def text (flags : Flags family) : String :=
  let rest := if flags.unnamed.isEmpty then []
    else [Number.markedHexadecimal flags.unnamed.bits.toNat]
  let parts := flags.membersIn.map Prod.fst ++ rest
  family.typeName ++ "(" ++ (if parts.isEmpty then "0x0" else " | ".intercalate parts) ++ ")"

/-- The low 32 bits of a mask that a device reports. -/
def ofInt (mask : Int) : Flags family :=
  ⟨Number.word mask⟩

/-- The named flags of a mask, in the order they are declared. -/
def ofMask (mask : Int) : List (Flags family) :=
  (declared family).filter fun flag => flag.intersects (ofInt mask)

/-- The named flag that a value stands for when it is exactly one. -/
def single? (value : Int) : Option (Flags family) :=
  if 0 ≤ value ∧ value < 4294967296 then
    let flag : Flags family := ofInt value
    if flag.isSingle && flag.isKnown then some flag else none
  else none

end Flags

/-! ## Flags with a meaning of their own -/

namespace ScanOption

/-- Start over at the first row after the last one. -/
def continuous : Flags .scanOption := ⟨0x8⟩

/-- Let an external clock pace the scan. -/
def externalClock : Flags .scanOption := ⟨0x10⟩

end ScanOption

namespace DataFlag

/-- Raw counts instead of volts in a single analog reading. -/
def unscaledRead : Flags .analogInRead := ⟨0x1⟩

/-- Raw counts instead of volts in a single analog write. -/
def unscaledWrite : Flags .analogOutWrite := ⟨0x1⟩

/-- Keep the counters as they are when a counter scan starts. -/
def keepCount : Flags .counterScan := ⟨0x8⟩

end DataFlag

namespace EventKind

/-- Enough new samples have arrived. -/
def dataAvailable : Flags .event := ⟨0x1⟩

/-- An input scan was aborted. -/
def inputScanError : Flags .event := ⟨0x2⟩

/-- A finite input scan is complete. -/
def endOfInputScan : Flags .event := ⟨0x4⟩

/-- An output scan was aborted. -/
def outputScanError : Flags .event := ⟨0x8⟩

/-- A finite output scan is complete. -/
def endOfOutputScan : Flags .event := ⟨0x10⟩

end EventKind

namespace CounterRegister

/-- The running count. -/
def count : Flags .register := ⟨0x1⟩

/-- The value a counter is preset with. -/
def load : Flags .register := ⟨0x2⟩

end CounterRegister

namespace SyncChannel

/-- A differential analog input. -/
def analogDifferential : Flags .syncInChannel := ⟨0x1⟩

/-- A single-ended analog input. -/
def analogSingleEnded : Flags .syncInChannel := ⟨0x2⟩

/-- A digital input port. -/
def digitalIn : Flags .syncInChannel := ⟨0x4⟩

/-- An analog output. -/
def analogOut : Flags .syncOutChannel := ⟨0x1⟩

end SyncChannel

namespace Measurement

/-- Count events. -/
def count : Flags .measurement := ⟨0x1⟩

end Measurement

namespace MemoryAccess

/-- The region may be read. -/
def read : Flags .memoryAccess := ⟨0x1⟩

/-- The region may be written. -/
def write : Flags .memoryAccess := ⟨0x2⟩

end MemoryAccess

end Acquisition
