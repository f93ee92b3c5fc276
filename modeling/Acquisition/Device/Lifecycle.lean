import Acquisition.Device.Scan

/-!
# Opening devices and taking them down

A device is opened with the parts that it reports; when the driver cannot tell,
the handle is given back.  Taking a device down stops its scans, disconnects it
and gives the handle back.  Every step is taken even if an earlier one fails,
and the first failure is reported.
-/

namespace Acquisition

namespace Act

/-! ## Opening -/

/-- The parts of a device among some. -/
def findParts (handle : Handle) : List Part → Act (List Part)
  | [] => return []
  | part :: rest => do
      let isPresent ← send (.integerItem handle .device part.item 0)
      let others ← findParts handle rest
      return if isPresent ≠ 0 then part :: others else others

/-- Give back the handle of a device that could not be opened. -/
def abandon (handle : Handle) : Act Unit := do
  match ← attempt (send (.release handle)) with
  | .ok () => return ()
  | .error error => note [.releaseRefused handle error]

/-- Hold a device. -/
def adopt (device : Device) : Act DeviceId := do
  let id := (← get).nextDevice
  modify fun world => { world with nextDevice := id + 1 }
  putDevice id device
  return id

/-- Open the device that a descriptor names. -/
def openDevice (descriptor : Descriptor) : Act DeviceId := do
  let handle ← send (.create descriptor)
  note [.deviceOpened handle descriptor]
  match ← attempt (findParts handle Part.all) with
  | .ok parts => adopt (.initial handle descriptor parts)
  | .error error => do
      abandon handle
      throw error

/-! ## Connecting -/

/-- Connect a device. -/
def connect (id : DeviceId) : Act Unit := do
  send (.connect (← live id))
  note [.deviceConnected (← device id).descriptor.uniqueId]

/-- Whether a device is connected. -/
def isConnected (id : DeviceId) : Act Bool := do
  send (.isConnected (← live id))

/-- Disconnect a device. -/
def disconnect (id : DeviceId) : Act Unit := do
  send (.disconnect (← live id))
  note [.deviceDisconnected (← device id).descriptor.uniqueId]

/-! ## Events -/

/-- Bind a handler to event kinds that have none. -/
def enableEvents (id : DeviceId) (kinds : Flags .event) (period : Nat) (handler : Handler) :
    Act Unit := do
  let handle ← live id
  if (← device id).isSubscribed kinds then throw .eventAlreadyEnabled
  send (.enableEvents handle kinds period handler)
  updateDevice id fun device => device.subscribe kinds
  note [.eventsEnabled kinds]

/-- Unbind the handlers of event kinds. -/
def disableEvents (id : DeviceId) (kinds : Flags .event) : Act Unit := do
  send (.disableEvents (← live id) kinds)
  updateDevice id fun device => device.unsubscribe kinds
  note [.eventsDisabled kinds]

/-! ## Taking down -/

/-- Give the handle of a device back. -/
def release (id : DeviceId) : Act Unit := do
  let handle ← live id
  send (.release handle)
  updateDevice id Device.release
  note [.deviceReleased handle]

/-- Do a step of taking a device down. -/
def takeStep (id : DeviceId) : TeardownStep → Act Unit
  | .stopScans => stopAll id
  | .disconnect => disconnect id
  | .release => release id

/-- Take the steps, each whatever became of the others; the answer is what failed. -/
def takeSteps (id : DeviceId) : List TeardownStep → Act (List Error)
  | [] => return []
  | step :: rest => do
      match ← attempt (takeStep id step) with
      | .ok () => takeSteps id rest
      | .error error => do
          note [.teardownFailed (← device id).descriptor.uniqueId step error]
          return error :: (← takeSteps id rest)

/-- The steps for a device, which has scans to stop only while it is connected. -/
def teardownSteps (isConnected : Bool) : List TeardownStep :=
  if isConnected then [.stopScans, .disconnect, .release] else [.release]

/-- Take a device down.  Its handle is not used again even if the driver refuses it. -/
def teardown (id : DeviceId) : Act Unit := do
  if (← device id).isReleased then return ()
  let connected ← attempt (isConnected id)
  let failures ← takeSteps id (teardownSteps (connected.toOption.getD false))
  updateDevice id fun device => { device with isReleased := true }
  match failures with
  | [] => return ()
  | error :: _ => throw error

/-- Let go of a device: take it down, whatever comes of it. -/
def drop (id : DeviceId) : Act Unit := do
  let _ ← attempt (teardown id)

/-- Close a device: take it down, let go of it and tell what came of the first. -/
def close (id : DeviceId) : Act Unit := do
  let answer ← attempt (teardown id)
  drop id
  resume answer

end Act

end Acquisition
