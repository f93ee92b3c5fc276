import Acquisition.Instrument.Analog
import Acquisition.Instrument.Binding
import Acquisition.Instrument.Counter
import Acquisition.Instrument.Digital
import Acquisition.Instrument.Memory
import Acquisition.Instrument.Setting
import Acquisition.Instrument.Sync
import Acquisition.Instrument.Timer
import Acquisition.Instrument.Trigger
import Acquisition.Procedure

/-!
# Work on an instrument in place

These procedures are how the driver changes a device that it holds: each checks what it is
asked for and puts its changes one by one, in the order in which they are made.  Starting a
scan rearms the bindings before the scan is put, loading a register may put two of them, and
a counter scan clears its counters after it was started.
-/

namespace Acquisition.InPlace

/-! ## Ports -/

/-- Choose the direction of all bits. -/
def configurePort (direction : Direction) : Procedure Port Unit := do
  match (← get).access with
  | .bidirectional | .bitIo =>
      modify fun port => { port with
        outputs := match direction with
          | .output => port.widthMask
          | .input => 0 }
  | _ => throw .configNotSupported

/-- Choose the direction of one bit. -/
def configureBit (bit : Int) (direction : Direction) : Procedure Port Unit := do
  Procedure.refuse (fun port => port.access ≠ .bitIo) .configNotSupported
  let bit ← Procedure.ask fun port => port.checkBit bit
  match direction with
  | .output => modify fun port => { port with outputs := port.outputs ||| Port.bitMask bit }
  | .input => modify fun port => { port with outputs := port.outputs &&& ~~~Port.bitMask bit }

/-- Put a value into the latch. -/
def writePort (value : UInt64) : Procedure Port Unit := do
  Procedure.refuse (fun port => value &&& ~~~port.widthMask ≠ 0) .badPortVal
  Procedure.refuse (fun port => port.outputs = 0) .wrongDigConfig
  modify fun port => { port with latch := value }

/-- Put a level into one bit of the latch. -/
def writeBit (bit : Int) (value : Nat) : Procedure Port Unit := do
  let bit ← Procedure.ask fun port => port.checkBit bit
  Procedure.refuse (fun _ => 1 < value) .badPortVal
  Procedure.refuse (fun port => port.outputs &&& Port.bitMask bit = 0) .wrongDigConfig
  if value = 1 then modify fun port => { port with latch := port.latch ||| Port.bitMask bit }
  else modify fun port => { port with latch := port.latch &&& ~~~Port.bitMask bit }

/-- Put a port in the place of the first of its kind. -/
def putPort (kind : PortKind) (changed : Port) : List Port → List Port
  | [] => []
  | port :: rest => if port.kind = kind then changed :: rest else port :: putPort kind changed rest

/-- Work on the port of a kind. -/
def onPort {α : Type} (kind : PortKind) (work : Procedure Port α) : Procedure Instrument α :=
  Procedure.within (fun instrument => instrument.port kind)
    (fun instrument port => { instrument with ports := putPort kind port instrument.ports }) work

/-! ## Connection and settings -/

/-- Connect to the device. -/
def connect : Procedure Instrument Unit := do
  Procedure.refuse (fun instrument => instrument.isPresent = false) .devNotFound
  modify fun instrument => { instrument with isConnected := true }

/-- Flash the light. -/
def flashLed (count : Int) : Procedure Instrument Unit := do
  Procedure.refuse (fun _ => count < 0) .badArg
  modify fun instrument =>
    { instrument with ledFlashes := instrument.ledFlashes + Number.word count }

/-- Make an integer setting. -/
def setSetting (item : Int) (index : Nat) (value : Int) : Procedure Instrument Unit := do
  Procedure.ask fun instrument => instrument.checkSettingIndex item index
  Procedure.ask fun instrument => instrument.checkSetting item value
  modify fun instrument => { instrument with
    settings := instrument.settings.set (Instrument.settingKey item index) value }

/-- Make a real setting. -/
def setRealSetting (item : Int) (index : Nat) (value : Float) : Procedure Instrument Unit := do
  Procedure.refuse (fun _ => Instrument.realSettingDefault? item = none) .badConfigItem
  Procedure.ask fun instrument => instrument.checkSettingChannel index
  Procedure.ask fun _ => Instrument.checkRealSetting item value
  modify fun instrument => { instrument with
    realSettings := instrument.realSettings.set (item, index) value }

/-- Load the channel-gain queue. -/
def loadQueue (queue : List QueueElement) : Procedure Instrument Unit := do
  Procedure.ask fun instrument => instrument.checkQueue queue
  modify fun instrument => { instrument with queue := queue }

/-- Write an analog output. -/
def writeAnalog (channel : Int) (range : Range) (flags : Flags .analogOutWrite) (value : Float) :
    Procedure Instrument Unit := do
  Procedure.ask fun instrument => instrument.checkAnalogOut channel range
  let volts ← Procedure.ask fun instrument => instrument.outputVolts range flags value
  modify fun instrument => { instrument with outputs := instrument.outputs.set channel volts }

/-! ## Counters, timers, triggers, bindings and memory -/

/-- Put a value into a register. -/
def putRegister (counter : Int) (register : Flags .register) (value : UInt64) :
    Procedure Instrument Unit :=
  modify fun instrument => instrument.putRegister counter register value

/-- Load a register, and with the preset register the running count. -/
def loadRegister (counter : Int) (register : Flags .register) (value : UInt64) :
    Procedure Instrument Unit := do
  Procedure.ask fun instrument => instrument.checkLoad counter register value
  putRegister counter register value
  if register = CounterRegister.load then putRegister counter CounterRegister.count value

/-- Set the running count of a counter to zero. -/
def clearCounter (counter : Int) : Procedure Instrument Unit := do
  Procedure.ask fun instrument => instrument.checkCounter counter
  putRegister counter CounterRegister.count 0

/-- Set the running counts of counters from `low` on to zero. -/
def clearCounters (low : Int) : Nat → Procedure Instrument Unit
  | 0 => return ()
  | count + 1 => do
      putRegister low CounterRegister.count 0
      clearCounters (low + 1) count

/-- Set a counter up for counter scans. -/
def setupCounter (counter : Int) (setup : CounterSetup) : Procedure Instrument Unit := do
  Procedure.ask fun instrument => instrument.checkSetup counter setup
  modify fun instrument => { instrument with
    counterSetups := instrument.counterSetups.set counter setup }

/-- Start a pulse train on a timer. -/
def startTimer (timer : Int) (request : PulseRequest) : Procedure Instrument PulseTiming := do
  Procedure.ask fun instrument => instrument.checkTimer timer
  Procedure.refuse (fun instrument => instrument.timers.get? timer = some .running) .alreadyActive
  let low ← Procedure.ask fun instrument =>
    instrument.profile.real .timer Item.Timer.minFrequency timer.toNat
  let high ← Procedure.ask fun instrument =>
    instrument.profile.real .timer Item.Timer.maxFrequency timer.toNat
  Procedure.ask fun _ => Instrument.checkPulse request low high
  let timing ← Procedure.ask fun instrument =>
    return Instrument.pulseTiming instrument.profile request low high
  modify fun instrument => { instrument with timers := instrument.timers.set timer .running }
  return timing

/-- Stop a timer. -/
def stopTimer (timer : Int) : Procedure Instrument Unit := do
  Procedure.ask fun instrument => instrument.checkTimer timer
  modify fun instrument => { instrument with timers := instrument.timers.set timer .idle }

/-- Set the trigger of a target. -/
def setTrigger (target : TriggerTarget) (channel : Int) (trigger : Trigger) :
    Procedure Instrument Unit := do
  Procedure.ask fun instrument => instrument.checkTriggerFor target channel trigger
  modify fun instrument => { instrument with trigger := some trigger }

/-- Set the trigger of a synchronous scan. -/
def setSyncTrigger (target : ScanTarget) (channel : SyncChannel .syncInChannel)
    (trigger : Trigger) : Procedure Instrument Unit := do
  Procedure.ask fun instrument =>
    Instrument.checkTrigger (instrument.profile.triggerKinds target) trigger
  let _ ← Procedure.ask fun instrument => instrument.syncInColumn channel
  modify fun instrument => { instrument with trigger := some trigger }

/-- Bind event kinds to a handler. -/
def enableEvents (kinds : Flags .event) (period : Nat) (handler : Handler) :
    Procedure Instrument Unit := do
  Procedure.ask fun instrument => instrument.checkBinding kinds period
  modify fun instrument => { instrument with
    bindings := instrument.bindings ++ [⟨kinds, period, period, handler⟩] }

/-- Unbind event kinds: take them out of every binding, then drop the bindings left empty. -/
def disableEvents (kinds : Flags .event) : Procedure Instrument Unit := do
  modify fun instrument => { instrument with
    bindings := instrument.bindings.map fun binding => binding.without kinds }
  modify fun instrument => { instrument with
    bindings := instrument.bindings.filter fun binding => !binding.kinds.isEmpty }

/-- Write bytes. -/
def writeMemory (region : Flags .memoryRegion) (address : UInt32) (data : List UInt8) :
    Procedure Instrument Unit := do
  let (area, offset) ← Procedure.ask fun instrument =>
    instrument.locate region address data.length
  Procedure.refuse (fun _ => area.access.contains MemoryAccess.write = false) .memAccessDenied
  let cells ← Procedure.ask fun instrument => instrument.cells region
  modify fun instrument => { instrument with
    memory := instrument.memory.set region (cells.write offset data) }

/-! ## Starting scans -/

/-- Put an accepted plan: rearm the bindings for an input scan, then put the scan. -/
def launch (target : ScanTarget) (plan : ScanPlan) : Procedure Instrument Unit := do
  if target.isInput then
    modify fun instrument => { instrument with
      bindings := instrument.bindings.map Binding.rearm }
  modify fun instrument => { instrument with
    scans := instrument.scans.set target {
      status := .running
      options := plan.options
      columns := plan.columns
      samples := plan.samples.toNat
      buffer := plan.buffer
      transfer := .initial } }

/-- Start a scan. -/
def startScan (store : Store) (target : ScanTarget) (plan : ScanPlan) :
    Procedure Instrument Float := do
  let rate ← Procedure.ask fun instrument => instrument.checkPlan store target plan
  launch target plan
  return rate

/-- Start an analog input scan. -/
def scanAnalogIn (store : Store) (request : ScanRequest) (mode : InputMode) (range : Range)
    (buffer : Buffer Float) : Procedure Instrument Float := do
  let columns ← Procedure.ask fun instrument => instrument.analogInColumns request mode range
  startScan store .analogIn
    ⟨request.options, request.samples, request.rate, columns, .reals buffer⟩

/-- Start an analog output scan. -/
def scanAnalogOut (store : Store) (request : ScanRequest) (range : Range)
    (buffer : Buffer Float) : Procedure Instrument Float := do
  let columns ← Procedure.ask fun instrument =>
    Instrument.columnsBetween .badAoChan (fun channel => do
      instrument.checkAnalogOut channel range
      return .analog channel) request.low request.high
  startScan store .analogOut
    ⟨request.options, request.samples, request.rate, columns, .reals buffer⟩

/-- Start a digital input scan. -/
def scanDigitalIn (store : Store) (request : ScanRequest) (buffer : Buffer UInt64) :
    Procedure Instrument Float := do
  let columns ← Procedure.ask fun instrument => instrument.portColumns request.low request.high
  startScan store .digitalIn
    ⟨request.options, request.samples, request.rate, columns, .words buffer⟩

/-- Start a digital output scan. -/
def scanDigitalOut (store : Store) (request : ScanRequest) (buffer : Buffer UInt64) :
    Procedure Instrument Float := do
  let columns ← Procedure.ask fun instrument => instrument.portColumns request.low request.high
  Procedure.refuse (fun instrument => columns.any instrument.isUndriven = true) .wrongDigConfig
  startScan store .digitalOut
    ⟨request.options, request.samples, request.rate, columns, .words buffer⟩

/-- Start a counter scan.  The counters are cleared once it has started, unless they are to
be kept. -/
def scanCounters (store : Store) (request : ScanRequest) (flags : Flags .counterScan)
    (buffer : Buffer UInt64) : Procedure Instrument Float := do
  let columns ← Procedure.ask fun instrument =>
    Instrument.columnsBetween .badCtr (fun counter => do
      instrument.checkCounter counter
      return .counter counter) request.low request.high
  let rate ← startScan store .counterIn
    ⟨request.options, request.samples, request.rate, columns, .words buffer⟩
  if !flags.contains DataFlag.keepCount then clearCounters request.low request.span
  return rate

/-- Start a synchronous input scan. -/
def scanSyncIn (store : Store) (channels : List (SyncChannel .syncInChannel)) (samples : Int)
    (rate : Float) (options : Flags .scanOption) (buffer : Buffer Float) :
    Procedure Instrument Float := do
  let columns ← Procedure.ask fun instrument =>
    Instrument.columnsOf instrument.syncInColumn channels
  startScan store .syncIn ⟨options, samples, rate, columns, .reals buffer⟩

/-- Start a synchronous output scan. -/
def scanSyncOut (store : Store) (channels : List (SyncChannel .syncOutChannel)) (samples : Int)
    (rate : Float) (options : Flags .scanOption) (buffer : Buffer Float) :
    Procedure Instrument Float := do
  let columns ← Procedure.ask fun instrument =>
    Instrument.columnsOf instrument.syncOutColumn channels
  startScan store .syncOut ⟨options, samples, rate, columns, .reals buffer⟩

end Acquisition.InPlace
