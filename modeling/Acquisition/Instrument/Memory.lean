import Acquisition.Instrument

/-!
# Device memory

A region is an array of bytes at a base address.  An access has to lie within the
region and to be permitted.
-/

namespace Acquisition.Instrument

/-- The area of a region, and the offset in it of `length` bytes at an address. -/
def locate (instrument : Instrument) (region : Flags .memoryRegion) (address : UInt32)
    (length : Nat) : Except Error (MemoryArea × Nat) := do
  let area ← instrument.profile.area region
  if address < area.address then .error .badMemAddress
  else
    let offset := address.toNat - area.address.toNat
    if area.size.toNat < offset + length then .error .badMemAddress
    else return (area, offset)

/-- The bytes of a region. -/
def cells (instrument : Instrument) (region : Flags .memoryRegion) : Except Error MemoryCells :=
  match instrument.memory.get? region with
  | some cells => .ok cells
  | none => .error .badMemRegion

/-- Read bytes. -/
def readMemory (instrument : Instrument) (region : Flags .memoryRegion) (address : UInt32)
    (length : Nat) : Except Error (List UInt8) := do
  let (area, offset) ← instrument.locate region address length
  if area.access.contains MemoryAccess.read then
    let cells ← instrument.cells region
    return cells.read offset length
  else .error .memAccessDenied

/-- Write bytes. -/
def writeMemory (instrument : Instrument) (region : Flags .memoryRegion) (address : UInt32)
    (data : List UInt8) : Except Error Instrument := do
  let (area, offset) ← instrument.locate region address data.length
  if area.access.contains MemoryAccess.write then
    let cells ← instrument.cells region
    return { instrument with memory := instrument.memory.set region (cells.write offset data) }
  else .error .memAccessDenied

end Acquisition.Instrument
