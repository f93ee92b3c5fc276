import Acquisition.Driver.Request
import Acquisition.Instrument.InPlace

/-!
# Serving requests in place

The driver serves a request on the bench that it holds.  `Request.execute` is what runs:
it passes a request on to the procedure of the device behind the handle, and whatever that
procedure had changed when it was refused would stay changed.
-/

namespace Acquisition

namespace InPlace

variable {α : Type}

/-! ## The driver -/

/-- Work on the device behind a handle. -/
def onDevice (handle : Handle) (work : Procedure Instrument α) : Procedure Driver α :=
  Procedure.within (fun driver => driver.instrument handle)
    (fun driver instrument => driver.put handle instrument) work

/-- Work on the device behind a handle, if it is connected. -/
def onConnected (handle : Handle) (work : Procedure Instrument α) : Procedure Driver α :=
  Procedure.within (fun driver => driver.connected handle)
    (fun driver instrument => driver.put handle instrument) work

/-- Log a call. -/
def record (handle : Handle) (call : LifecycleCall) : Procedure Driver Unit :=
  modify fun driver => driver.record handle call

/-- Open the first attached device of the unit that a descriptor names. -/
def create (descriptor : Descriptor) : Procedure Driver Handle := do
  match (← get).inventory.find? fun entry => entry.1.sameUnit descriptor with
  | some (known, profile) =>
      let handle := (← get).nextHandle
      modify fun driver => { driver with nextHandle := driver.nextHandle + 1 }
      modify fun driver => driver.put handle (Instrument.initial known profile)
      return handle
  | none => throw .badDescriptor

/-- Give a handle back.  What is behind it is dropped before it is known whether there was
anything. -/
def release (handle : Handle) : Procedure Driver Unit := do
  let dropped := (← get).instruments.get? handle
  modify fun driver => { driver with instruments := driver.instruments.erase handle }
  match dropped with
  | some _ => record handle .release
  | none => throw .badDevHandle

/-- Disconnect a device: drop the connection, stop every scan, log the call. -/
def disconnect (handle : Handle) : Procedure Driver Unit := do
  let instrument ← Procedure.ask fun driver => driver.instrument handle
  onDevice handle do
    modify fun instrument => { instrument with isConnected := false }
    modify Instrument.haltAll
  record handle (.disconnect instrument.isBusy)

/-- Stop a scan.  The call is logged when it found the scan running. -/
def stopScan (handle : Handle) (target : ScanTarget) : Procedure Driver Unit := do
  let instrument ← Procedure.ask fun driver => driver.instrument handle
  onDevice handle (modify fun instrument => instrument.haltScan target)
  if instrument.isRunning target then record handle (.scanStop target)

/-- Make a setting of the library. -/
def setLibrarySetting (item value : Int) : Procedure Driver Unit := do
  Procedure.refuse (fun _ => item ≠ Item.Library.transferPriority) .badConfigItem
  Procedure.refuse (fun _ => ¬(0 ≤ value ∧ value ≤ 99)) .badConfigVal
  modify fun driver => { driver with transferPriority := value }

/-! ## The bench -/

/-- Answer from the bench, and change nothing. -/
def reply (question : Bench → Except Error α) : Procedure Bench (α × List Due) := do
  return (← Procedure.ask question, [])

/-- Work on the driver. -/
def onDriver (work : Procedure Driver α) : Procedure Bench (α × List Due) := do
  return (← Procedure.within (fun bench => .ok bench.driver) Bench.withDriver work, [])

/-- Start a scan on the device behind a handle, if it is connected. -/
def onPlan (handle : Handle) (start : Store → Procedure Instrument Float) :
    Procedure Bench (Float × List Due) := do
  let store := (← get).store
  onDriver (onConnected handle (start store))

/-- Run a running scan until it is complete; a continuous one is refused. -/
def finish (handle : Handle) (target : ScanTarget) (instrument : Instrument) (run : ScanRun) :
    Procedure Bench (Unit × List Due) := do
  Procedure.refuse (fun _ => run.isContinuous = true) .timedOut
  let (instrument, store, firings) :=
    Instrument.advance target run.remaining instrument (← get).store
  modify fun bench => { bench.put handle instrument with store := store }
  return ((), firings.map fun firing => ⟨handle, firing⟩)

/-- Run the scan on a target until it is complete, if it is running. -/
def waitScan (handle : Handle) (target : ScanTarget) : Procedure Bench (Unit × List Due) := do
  let instrument ← Procedure.ask fun bench => bench.driver.instrument handle
  match instrument.running? target with
  | none => return ((), [])
  | some run => finish handle target instrument run

end InPlace

/-- Serve a request on the bench in place, with the handlers that are due. -/
def Request.execute {α : Type} (request : Request α) : Procedure Bench (α × List Due) :=
  open InPlace in
  match request with
  | .create identity => onDriver (InPlace.create identity)
  | .connect handle => onDriver (onDevice handle InPlace.connect)
  | .disconnect handle => onDriver (InPlace.disconnect handle)
  | .release handle => onDriver (InPlace.release handle)
  | .flashLed handle count => onDriver (onConnected handle (InPlace.flashLed count))
  | .setLibrarySetting item _ value => onDriver (InPlace.setLibrarySetting item value)
  | .setSetting handle item index value =>
      onDriver (onConnected handle (InPlace.setSetting item index value))
  | .setRealSetting handle item index value =>
      onDriver (onConnected handle (InPlace.setRealSetting item index value))
  | .scanAnalogIn handle request mode range _ buffer =>
      onPlan handle fun store => InPlace.scanAnalogIn store request mode range buffer
  | .loadQueue handle queue => onDriver (onConnected handle (InPlace.loadQueue queue))
  | .writeAnalog handle channel range flags value =>
      onDriver (onConnected handle (InPlace.writeAnalog channel range flags value))
  | .scanAnalogOut handle request range _ buffer =>
      onPlan handle fun store => InPlace.scanAnalogOut store request range buffer
  | .configurePort handle port direction =>
      onDriver (onConnected handle (onPort port (InPlace.configurePort direction)))
  | .configureBit handle port bit direction =>
      onDriver (onConnected handle (onPort port (InPlace.configureBit bit direction)))
  | .writePort handle port value =>
      onDriver (onConnected handle (onPort port (InPlace.writePort value)))
  | .writeBit handle port bit value =>
      onDriver (onConnected handle (onPort port (InPlace.writeBit bit value)))
  | .scanDigitalIn handle request _ buffer =>
      onPlan handle fun store => InPlace.scanDigitalIn store request buffer
  | .scanDigitalOut handle request _ buffer =>
      onPlan handle fun store => InPlace.scanDigitalOut store request buffer
  | .loadRegister handle counter register value =>
      onDriver (onConnected handle (InPlace.loadRegister counter register value))
  | .clearCounter handle counter => onDriver (onConnected handle (InPlace.clearCounter counter))
  | .setupCounter handle counter setup =>
      onDriver (onConnected handle (InPlace.setupCounter counter setup))
  | .scanCounters handle request flags buffer =>
      onPlan handle fun store => InPlace.scanCounters store request flags buffer
  | .startTimer handle timer request =>
      onDriver (onConnected handle (InPlace.startTimer timer request))
  | .stopTimer handle timer => onDriver (onConnected handle (InPlace.stopTimer timer))
  | .scanSyncIn handle channels samples rate options _ buffer =>
      onPlan handle fun store => InPlace.scanSyncIn store channels samples rate options buffer
  | .scanSyncOut handle channels samples rate options _ buffer =>
      onPlan handle fun store => InPlace.scanSyncOut store channels samples rate options buffer
  | .stopScan handle target => onDriver (InPlace.stopScan handle target)
  | .waitScan handle target _ _ _ => InPlace.waitScan handle target
  | .setTrigger handle target channel trigger =>
      onDriver (onConnected handle (InPlace.setTrigger target channel trigger))
  | .setSyncInTrigger handle channel trigger =>
      onDriver (onConnected handle (setSyncTrigger .syncIn channel trigger))
  | .setSyncOutTrigger handle channel trigger =>
      onDriver (onConnected handle (setSyncTrigger .syncOut channel trigger))
  | .enableEvents handle kinds period handler =>
      onDriver (onDevice handle (InPlace.enableEvents kinds period handler))
  | .disableEvents handle kinds => onDriver (onDevice handle (InPlace.disableEvents kinds))
  | .writeMemory handle region address data =>
      onDriver (onConnected handle (InPlace.writeMemory region address data))
  -- The other requests change nothing.
  | request => reply fun bench => return (← request.serve bench).answer

end Acquisition
