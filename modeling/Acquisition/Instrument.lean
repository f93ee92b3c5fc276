import Acquisition.Channel
import Acquisition.CounterSetup
import Acquisition.Descriptor
import Acquisition.Event
import Acquisition.MemoryCells
import Acquisition.Port
import Acquisition.Profile
import Acquisition.Scan.Run
import Acquisition.Trigger

/-!
# Instruments

An instrument is one opened device as its driver sees it: what it reports about
itself, its connection, the state of its inputs, outputs, ports, counters,
timers and memory, its scans and its event bindings.
-/

namespace Acquisition

/-- The state of an opened device. -/
structure Instrument where
  descriptor : Descriptor
  profile : Profile
  /-- Whether the device is still attached. -/
  isPresent : Bool
  isConnected : Bool
  /-- Integer settings of the analog inputs, by item and channel. -/
  settings : Table (Int × Nat) Int
  /-- Real settings of the analog inputs, by item and channel. -/
  realSettings : Table (Int × Nat) Float
  /-- Voltages on the analog inputs. -/
  inputs : Table Int Float
  /-- Voltages of the analog outputs. -/
  outputs : Table Int Float
  ports : List Port
  /-- Counter registers, by counter and register. -/
  registers : Table (Int × Flags .register) UInt64
  counterSetups : Table Int CounterSetup
  timers : Table Int TimerStatus
  /-- The channel-gain queue of the analog inputs. -/
  queue : List QueueElement
  /-- The trigger accepted last. -/
  trigger : Option Trigger
  scans : Table ScanTarget ScanRun
  bindings : List Binding
  /-- The bytes of each region of memory. -/
  memory : Table (Flags .memoryRegion) MemoryCells
  /-- How often the light was flashed, modulo 2 ^ 32. -/
  ledFlashes : UInt32

namespace Instrument

/-- The port that a profile reports at a position, if it reports a valid one. -/
def portAt? (profile : Profile) (index : Nat) : Option Port := do
  let kind ← Coded.ofCode? (← (profile.integer .digital Item.Digital.portKind index).toOption)
  let access ← Coded.ofCode? (profile.integerD .digital Item.Digital.portAccess index
    (Coded.code PortAccess.bidirectional))
  let width := Number.word (profile.integerD .digital Item.Digital.bitCount index 8)
  return Port.initial kind access width.toNat

/-- The ports that a profile reports. -/
def portsOf (profile : Profile) : List Port :=
  (List.range (profile.indexCount .digital Item.Digital.portCount)).filterMap (portAt? profile)

/-- Memory filled with zeros. -/
def blankMemory (areas : List MemoryArea) : Table (Flags .memoryRegion) MemoryCells :=
  areas.foldl (fun memory area => memory.set area.region (.blank area.size.toNat)) .empty

/-- A device that has just been opened. -/
def initial (descriptor : Descriptor) (profile : Profile) : Instrument where
  descriptor := descriptor
  profile := profile
  isPresent := true
  isConnected := false
  settings := .empty
  realSettings := .empty
  inputs := .empty
  outputs := .empty
  ports := portsOf profile
  registers := .empty
  counterSetups := .empty
  timers := .empty
  queue := []
  trigger := none
  scans := .empty
  bindings := []
  memory := blankMemory profile.memory
  ledFlashes := 0

/-! ## Scans by target -/

/-- The scan on a target if it is running. -/
def running? (instrument : Instrument) (target : ScanTarget) : Option ScanRun :=
  (instrument.scans.get? target).filter ScanRun.isRunning

/-- Whether the scan on a target is running. -/
def isRunning (instrument : Instrument) (target : ScanTarget) : Bool :=
  (instrument.running? target).isSome

/-- Whether any scan is running. -/
def isBusy (instrument : Instrument) : Bool :=
  instrument.scans.values.any ScanRun.isRunning

/-- The status of the scan on a target; without a scan it is idle and has moved nothing. -/
def scanStatus (instrument : Instrument) (target : ScanTarget) : ScanStatus × Transfer :=
  match instrument.scans.get? target with
  | some run => (run.status, run.transfer)
  | none => (.idle, .initial)

/-- Stop the scan on a target. -/
def haltScan (instrument : Instrument) (target : ScanTarget) : Instrument :=
  match instrument.scans.get? target with
  | some run => { instrument with scans := instrument.scans.set target run.halt }
  | none => instrument

/-- Stop every scan. -/
def haltAll (instrument : Instrument) : Instrument :=
  { instrument with scans := instrument.scans.map ScanRun.halt }

/-! ## Connection -/

/-- Connect to a device that is attached. -/
def connect (instrument : Instrument) : Except Error Instrument :=
  if instrument.isPresent then .ok { instrument with isConnected := true }
  else .error .devNotFound

/-- Disconnect and stop every scan. -/
def disconnect (instrument : Instrument) : Instrument :=
  { instrument.haltAll with isConnected := false }

/-- Detach the device. -/
def unplug (instrument : Instrument) : Instrument :=
  { instrument.haltAll with isPresent := false, isConnected := false }

/-- Flash the light. -/
def flashLed (instrument : Instrument) (count : Int) : Except Error Instrument :=
  if count < 0 then .error .badArg
  else .ok { instrument with ledFlashes := instrument.ledFlashes + Number.word count }

/-- The version text of a component, given by its code. -/
def versionText (instrument : Instrument) (item : Int) (index : Nat) : Except Error String :=
  if item = Item.Device.versionText then
    match instrument.profile.versions.get? index with
    | some version => .ok version
    | none => .error .badConfigItem
  else .error .badConfigItem

end Instrument

end Acquisition
