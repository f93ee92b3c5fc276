import Acquisition.World

/-!
# Settings of the library

What a caller can set and ask beside all devices.
-/

namespace Acquisition.Library

/-- Set the priority of USB transfers, from 0 to 99. -/
def setTransferPriority (priority : UInt32) : Act Unit :=
  Act.send (.setLibrarySetting Item.Library.transferPriority 0 priority.toNat)

/-- The priority of USB transfers. -/
def transferPriority : Act UInt32 := do
  return Number.word (← Act.send (.librarySetting Item.Library.transferPriority 0))

/-- The version of the library. -/
def version : Act String :=
  Act.send (.libraryText Item.Library.version 0)

end Acquisition.Library
