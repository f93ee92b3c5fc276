import Acquisition.Instrument

/-!
# The driver

The driver knows the attached devices and hands out a handle for each device it
opens.  Handles are never used twice.  A call of stop, disconnect or release is
kept in a log that outlives the handle.
-/

namespace Acquisition

/-- The number of an opened device. -/
abbrev Handle :=
  Int

/-- A call that ends an activity of a device. -/
inductive LifecycleCall where
  /-- A stop that found the scan running. -/
  | scanStop (target : ScanTarget)
  /-- A disconnect, with whether a scan was running. -/
  | disconnect (wasBusy : Bool)
  | release
  deriving DecidableEq, Repr

namespace LifecycleCall

/-- The text of a call. -/
def text : LifecycleCall → String
  | .scanStop target => "ScanStop(" ++ target.name ++ ")"
  | .disconnect wasBusy =>
      "Disconnect \x7b scans_running: " ++ (if wasBusy then "true" else "false") ++ " \x7d"
  | .release => "Release"

end LifecycleCall

/-- The state of the driver. -/
structure Driver where
  nextHandle : Handle
  /-- The attached devices, in the order they were attached. -/
  inventory : List (Descriptor × Profile)
  instruments : Table Handle Instrument
  lifecycle : List (Handle × LifecycleCall)
  transferPriority : Int
  version : String

namespace Driver

/-- A driver without devices. -/
def initial : Driver where
  nextHandle := 1
  inventory := []
  instruments := .empty
  lifecycle := []
  transferPriority := 0
  version := "1.2.1"

instance : Inhabited Driver :=
  ⟨initial⟩

/-! ## Handles -/

/-- The device behind a handle. -/
def instrument (driver : Driver) (handle : Handle) : Except Error Instrument :=
  match driver.instruments.get? handle with
  | some instrument => .ok instrument
  | none => .error .badDevHandle

/-- The device behind a handle, if it is connected. -/
def connected (driver : Driver) (handle : Handle) : Except Error Instrument := do
  let instrument ← driver.instrument handle
  if instrument.isConnected then return instrument else .error .devNotConnected

/-- Put a device behind a handle. -/
def put (driver : Driver) (handle : Handle) (instrument : Instrument) : Driver :=
  { driver with instruments := driver.instruments.set handle instrument }

/-- Log a call. -/
def record (driver : Driver) (handle : Handle) (call : LifecycleCall) : Driver :=
  { driver with lifecycle := driver.lifecycle ++ [(handle, call)] }

/-- The logged calls on a handle. -/
def callsOn (driver : Driver) (handle : Handle) : List LifecycleCall :=
  (driver.lifecycle.filter fun entry => entry.1 = handle).map Prod.snd

/-- Whether a handle was handed out and released since. -/
def isReleased (driver : Driver) (handle : Handle) : Bool :=
  0 < handle && handle < driver.nextHandle && !driver.instruments.contains handle

/-! ## Devices -/

/-- Attach a device. -/
def attach (driver : Driver) (descriptor : Descriptor) (profile : Profile) : Driver :=
  { driver with inventory := driver.inventory ++ [(descriptor, profile)] }

/-- The devices attached through one of the transports, up to a number of them. -/
def devicesOn (driver : Driver) (transport : Flags .transport) (most : Nat) : List Descriptor :=
  ((driver.inventory.filter fun entry => entry.1.transport.intersects transport).take most).map
    Prod.fst

/-- Open the first attached device of the unit that a descriptor names. -/
def create (driver : Driver) (descriptor : Descriptor) : Except Error (Handle × Driver) :=
  match driver.inventory.find? fun entry => entry.1.sameUnit descriptor with
  | some (known, profile) =>
      .ok (driver.nextHandle,
        { driver.put driver.nextHandle (Instrument.initial known profile) with
          nextHandle := driver.nextHandle + 1 })
  | none => .error .badDescriptor

/-- Give a handle back. -/
def release (driver : Driver) (handle : Handle) : Except Error Driver := do
  let _ ← driver.instrument handle
  return { driver with instruments := driver.instruments.erase handle }.record handle .release

/-- Disconnect a device. -/
def disconnect (driver : Driver) (handle : Handle) : Except Error Driver := do
  let instrument ← driver.instrument handle
  return (driver.put handle instrument.disconnect).record handle (.disconnect instrument.isBusy)

/-- Stop a scan.  The call is logged when it found the scan running. -/
def stopScan (driver : Driver) (handle : Handle) (target : ScanTarget) : Except Error Driver := do
  let instrument ← driver.instrument handle
  let halted := driver.put handle (instrument.haltScan target)
  return if instrument.isRunning target then halted.record handle (.scanStop target) else halted

/-! ## The library -/

/-- A text item of the library. -/
def libraryText (driver : Driver) (item : Int) : Except Error String :=
  if item = Item.Library.version then .ok driver.version else .error .badInfoItem

/-- A setting of the library. -/
def librarySetting (driver : Driver) (item : Int) : Except Error Int :=
  if item = Item.Library.transferPriority then .ok driver.transferPriority
  else .error .badConfigItem

/-- Make a setting of the library. -/
def setLibrarySetting (driver : Driver) (item value : Int) : Except Error Driver :=
  if item ≠ Item.Library.transferPriority then .error .badConfigItem
  else if 0 ≤ value ∧ value ≤ 99 then .ok { driver with transferPriority := value }
  else .error .badConfigVal

/-! ## Observing a device from outside -/

/-- The voltage last put out on an analog output. -/
def outputVoltage (driver : Driver) (handle : Handle) (channel : Int) :
    Except Error (Option Float) := do
  return (← driver.instrument handle).outputs.get? channel

/-- The latch of a port. -/
def portLatch (driver : Driver) (handle : Handle) (kind : PortKind) : Except Error UInt64 := do
  let instrument ← driver.instrument handle
  match instrument.ports.find? fun port => port.kind = kind with
  | some port => .ok port.latch
  | none => .error .badPortType

/-- The setup of a counter. -/
def counterSetup (driver : Driver) (handle : Handle) (counter : Int) :
    Except Error (Option CounterSetup) := do
  return (← driver.instrument handle).counterSetups.get? counter

/-- The loaded channel-gain queue. -/
def loadedQueue (driver : Driver) (handle : Handle) : Except Error (List QueueElement) := do
  return (← driver.instrument handle).queue

/-- The trigger accepted last. -/
def lastTrigger (driver : Driver) (handle : Handle) : Except Error (Option Trigger) := do
  return (← driver.instrument handle).trigger

/-- How often the light was flashed, modulo 2 ^ 32. -/
def ledFlashes (driver : Driver) (handle : Handle) : Except Error UInt32 := do
  return (← driver.instrument handle).ledFlashes

/-- The event kinds that have a handler. -/
def enabledEvents (driver : Driver) (handle : Handle) : Except Error (Flags .event) := do
  return Binding.boundKinds (← driver.instrument handle).bindings

end Driver

end Acquisition
