import Acquisition.Driver

/-!
# Devices

A device is what a caller holds: a handle of the driver, the parts that the device
has, and the bookkeeping of its subsystems.  A slot keeps the buffer of a scan
alive (pinned) from an accepted start until the scan is seen to be idle.  Each
start opens a new generation, and an answer settles only the generation that was
current when the question was asked.
-/

namespace Acquisition

/-- The parts that a device can have. -/
inductive Part where
  | analogIn
  | analogOut
  | digital
  | counters
  | timers
  | syncIn
  | syncOut
  deriving DecidableEq, Repr

namespace Part

/-- Every part, in the order in which devices are asked for them. -/
def all : List Part :=
  [.analogIn, .analogOut, .digital, .counters, .timers, .syncIn, .syncOut]

/-- The item that tells whether a device has a part. -/
def item : Part → Int
  | .analogIn => Item.Device.hasAnalogIn
  | .analogOut => Item.Device.hasAnalogOut
  | .digital => Item.Device.hasDigital
  | .counters => Item.Device.hasCounters
  | .timers => Item.Device.hasTimers
  | .syncIn => Item.Device.hasSyncIn
  | .syncOut => Item.Device.hasSyncOut

/-- The scan targets of a part. -/
def targets : Part → List ScanTarget
  | .analogIn => [.analogIn]
  | .analogOut => [.analogOut]
  | .digital => [.digitalIn, .digitalOut]
  | .counters => [.counterIn]
  | .timers => []
  | .syncIn => [.syncIn]
  | .syncOut => [.syncOut]

end Part

/-- The buffer that is kept for the scan on one target. -/
structure Slot where
  /-- How many starts were accepted. -/
  generation : Nat
  pinned : Option ScanBuffer
  deriving DecidableEq, Repr

namespace Slot

/-- A slot before the first start. -/
def initial : Slot :=
  ⟨0, none⟩

instance : Inhabited Slot :=
  ⟨initial⟩

/-- Keep the buffer of a start that was accepted. -/
def pin (slot : Slot) (buffer : ScanBuffer) : Slot :=
  ⟨slot.generation + 1, some buffer⟩

/-- Let go of the buffer when the scan of the generation that was asked about is idle. -/
def settle (slot : Slot) (asked : Nat) (status : ScanStatus) : Slot :=
  if status = .idle ∧ slot.generation = asked then { slot with pinned := none } else slot

end Slot

/-- What a caller holds of an opened device. -/
structure Device where
  handle : Handle
  isReleased : Bool
  /-- The descriptor that the device was opened with. -/
  descriptor : Descriptor
  parts : List Part
  slots : Table ScanTarget Slot
  /-- How long the loaded channel-gain queue is. -/
  queueLength : Nat
  /-- The event kinds that have a handler, one flag each. -/
  subscriptions : List (Flags .event)

namespace Device

/-- A device that has just been opened. -/
def initial (handle : Handle) (descriptor : Descriptor) (parts : List Part) : Device where
  handle := handle
  isReleased := false
  descriptor := descriptor
  parts := parts
  slots := .empty
  queueLength := 0
  subscriptions := []

/-- The slot of a target. -/
def slot (device : Device) (target : ScanTarget) : Slot :=
  device.slots.getD target .initial

/-- Put the slot of a target. -/
def putSlot (device : Device) (target : ScanTarget) (slot : Slot) : Device :=
  { device with slots := device.slots.set target slot }

/-- The scan targets of a device, in the order in which scans are stopped. -/
def targets (device : Device) : List ScanTarget :=
  device.parts.flatMap Part.targets

/-- Whether one of some event kinds has a handler. -/
def isSubscribed (device : Device) (kinds : Flags .event) : Bool :=
  kinds.toList.any fun kind => device.subscriptions.contains kind

/-- The event kinds that have a handler. -/
def enabledEvents (device : Device) : Flags .event :=
  Flags.unionAll device.subscriptions

/-- Remember that event kinds have a handler. -/
def subscribe (device : Device) (kinds : Flags .event) : Device :=
  { device with subscriptions := device.subscriptions ++ kinds.toList }

/-- Forget the handlers of event kinds. -/
def unsubscribe (device : Device) (kinds : Flags .event) : Device :=
  { device with
    subscriptions := device.subscriptions.filter fun kind => !kinds.toList.contains kind }

/-- A device whose handle was given back. -/
def release (device : Device) : Device :=
  { device with isReleased := true, subscriptions := [] }

/-- The text of a device with all its fields. -/
def debugText (device : Device) : String :=
  "DaqDevice \x7b descriptor: " ++ device.descriptor.debugText ++ ", handle: " ++
    toString device.handle ++ ", released: " ++ (if device.isReleased then "true" else "false") ++
    " \x7d"

end Device

end Acquisition
