import Acquisition.Flags
import Acquisition.Text.Field
import Acquisition.Text.Quoted

/-!
# Device descriptors

A descriptor names a device.  It travels as a record whose three texts are
zero-terminated fields of 64 bytes (`DescriptorRecord`).
-/

namespace Acquisition

/-- The identity of a device. -/
structure Descriptor where
  productName : String
  productId : UInt32
  transport : Flags .transport
  deviceText : String
  uniqueId : String
  deriving DecidableEq, Repr

/-- A descriptor in its fixed layout. -/
structure DescriptorRecord where
  productName : List UInt8
  productId : UInt32
  transport : UInt32
  deviceText : List UInt8
  uniqueId : List UInt8
  deriving DecidableEq, Repr

namespace DescriptorRecord

/-- The width of each text field. -/
def fieldWidth : Nat :=
  64

end DescriptorRecord

namespace Descriptor

/-- A descriptor whose device text is its product name. -/
def ofIdentity (productName : String) (productId : UInt32) (transport : Flags .transport)
    (uniqueId : String) : Descriptor :=
  ⟨productName, productId, transport, productName, uniqueId⟩

/-- Read a record. -/
def ofRecord (record : DescriptorRecord) : Descriptor where
  productName := Text.Field.decode record.productName
  productId := record.productId
  transport := ⟨record.transport⟩
  deviceText := Text.Field.decode record.deviceText
  uniqueId := Text.Field.decode record.uniqueId

/-- Write a record. -/
def toRecord (descriptor : Descriptor) : DescriptorRecord where
  productName := Text.Field.encode DescriptorRecord.fieldWidth descriptor.productName
  productId := descriptor.productId
  transport := descriptor.transport.bits
  deviceText := Text.Field.encode DescriptorRecord.fieldWidth descriptor.deviceText
  uniqueId := Text.Field.encode DescriptorRecord.fieldWidth descriptor.uniqueId

/-- Whether both descriptors are of the same unit of the same product. -/
def sameUnit (descriptor other : Descriptor) : Bool :=
  descriptor.uniqueId = other.uniqueId && descriptor.productId = other.productId

/-- The line a descriptor is shown as. -/
def text (descriptor : Descriptor) : String :=
  descriptor.productName ++ " (" ++ Number.markedHexadecimal descriptor.productId.toNat ++ ") [" ++
    descriptor.uniqueId ++ "] " ++ descriptor.transport.text

/-- The text of a descriptor with all its fields. -/
def debugText (descriptor : Descriptor) : String :=
  "DaqDeviceDescriptor \x7b product_name: " ++ Text.Quoted.quote descriptor.productName ++
    ", product_id: " ++ toString descriptor.productId.toNat ++
    ", dev_interface: " ++ descriptor.transport.text ++
    ", dev_string: " ++ Text.Quoted.quote descriptor.deviceText ++
    ", unique_id: " ++ Text.Quoted.quote descriptor.uniqueId ++ " \x7d"

end Descriptor

end Acquisition
