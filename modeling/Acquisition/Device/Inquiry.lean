import Acquisition.Device.Capability
import Acquisition.PortInfo
import Acquisition.World

/-!
# Asking a device about itself

Properties are asked for over the link one by one.  Properties of a port are found
under the position of the port, which is searched for among those that the
device reports.
-/

namespace Acquisition

namespace Act

variable {α : Type}

/-- Ask for a property. -/
def ask (id : DeviceId) : Property α → Act α
  | .integer place understand => do
      let reading ← send (.integerItem (← live id) place.subject place.item place.index)
      resume (understand reading)
  | .real place understand => do
      return understand (← send (.realItem (← live id) place.subject place.item place.index))

/-- Ask for the properties at some positions that follow each other. -/
def askFrom (id : DeviceId) (property : Nat → Property α) (position : Nat) : Nat → Act (List α)
  | 0 => return []
  | remaining + 1 => do
      let value ← ask id (property position)
      return value :: (← askFrom id property (position + 1) remaining)

/-- Ask for the properties at all positions, of which another property tells the number. -/
def askEach (id : DeviceId) (count : Property Nat) (property : Nat → Property α) :
    Act (List α) := do
  askFrom id property 0 (← ask id count)

/-! ## Ports -/

/-- Search some positions that follow each other for a port. -/
def searchPort (id : DeviceId) (port : PortKind) (position : Nat) : Nat → Act Nat
  | 0 => throw .badPortType
  | remaining + 1 => do
      let code ← ask id (Digital.portCodeAt position)
      if code = Coded.code port then return position
      else searchPort id port (position + 1) remaining

/-- The position of a port. -/
def portPosition (id : DeviceId) (port : PortKind) : Act Nat := do
  searchPort id port 0 (← ask id Digital.positionCount)

/-- What a device reports about a port. -/
def portInfo (id : DeviceId) (port : PortKind) : Act PortInfo := do
  let position ← portPosition id port
  let access ← ask id (Digital.accessAt position)
  let bits ← ask id (Digital.bitCountAt position)
  return ⟨port, access, bits⟩

/-- The mask of the output bits of the port at a position. -/
def maskAt (id : DeviceId) (position : Nat) : Act UInt64 := do
  return UInt64.ofInt (← send (.portSetting (← live id) Item.DigitalSetting.directionMask position))

/-- The mask of the output bits of a port. -/
def directionMask (id : DeviceId) (port : PortKind) : Act UInt64 := do
  maskAt id (← portPosition id port)

/-- The most bits that a mask tells the direction of. -/
def maskWidth : Nat :=
  64

/-- The directions of the lowest bits of a mask. -/
def directionsOf (mask : UInt64) (bits : Nat) : List Direction :=
  (List.range (min bits maskWidth)).map fun bit =>
    if mask.toNat.testBit bit then .output else .input

/-- The direction of each bit of a port, the lowest bit first. -/
def bitDirections (id : DeviceId) (port : PortKind) : Act (List Direction) := do
  let bits ← ask id (Digital.bitCountAt (← portPosition id port))
  return directionsOf (← directionMask id port) bits

end Act

end Acquisition
