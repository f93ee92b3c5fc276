import Acquisition.Flags

/-!
# Areas of device memory
-/

namespace Acquisition

/-- Where a region of device memory lies and what may be done with it. -/
structure MemoryArea where
  region : Flags .memoryRegion
  address : UInt32
  /-- Size in bytes. -/
  size : UInt32
  access : Flags .memoryAccess
  deriving DecidableEq, Repr

namespace MemoryArea

/-- The line an area is shown as. -/
def text (area : MemoryArea) : String :=
  area.region.text ++ ": address " ++ Number.markedHexadecimal area.address.toNat ++ ", " ++
    toString area.size.toNat ++ " bytes, " ++ area.access.text

end MemoryArea

end Acquisition
