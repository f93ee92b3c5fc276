import Acquisition.Device.Inquiry
import Acquisition.Device.Lifecycle
import Acquisition.Device.Setting

/-!
# Operations on a device

An operation is what a caller does with a device that it holds, as data, by the
type of its answer.  `Operation.perform` says what it comes to.  Every operation
asks for the handle of the device before it reaches the driver, so a released
device refuses all of them.  What an operation does before that can fail on its own: a
number of samples may not fit into a request, and there may be no room for an answer.
-/

namespace Acquisition

/-- The most bytes that can be set aside at once. -/
def maxAllocation : Nat :=
  9223372036854775807

/-- Set bytes aside for an answer. -/
def setAside (bytes : Nat) : Except Error Unit :=
  if bytes ≤ maxAllocation then .ok () else .error .capacityOverflow

/-- What a caller can do with a device. -/
inductive Operation : Type → Type 1 where
  /-- Tell the handle. -/
  | handle : Operation Handle
  /-- Tell the descriptor that the driver has. -/
  | descriptor : Operation Descriptor
  | connect : Operation Unit
  | disconnect : Operation Unit
  | isConnected : Operation Bool
  | flashLed (count : Int) : Operation Unit
  | stopAll : Operation Unit
  | release : Operation Unit
  | ask {α : Type} (property : Property α) : Operation α
  | askEach {α : Type} (count : Property Nat) (property : Nat → Property α) : Operation (List α)
  | version (component : Component) : Operation String
  | memoryArea (region : Flags .memoryRegion) : Operation MemoryArea
  | readMemory (region : Flags .memoryRegion) (address : UInt32) (length : Nat) :
      Operation (List UInt8)
  | writeMemory (region : Flags .memoryRegion) (address : UInt32) (data : List UInt8) :
      Operation Unit
  | enableEvents (kinds : Flags .event) (period : Nat) (handler : Handler) : Operation Unit
  | disableEvents (kinds : Flags .event) : Operation Unit
  | scanStatus (target : ScanTarget) : Operation (ScanStatus × Transfer)
  | stopScan (target : ScanTarget) : Operation Unit
  | waitScan (target : ScanTarget) (condition : WaitCondition) (parameter : Int)
      (timeout : Float) : Operation Unit
  | setTrigger (target : TriggerTarget) (channel : Int) (trigger : Trigger) : Operation Unit
  | setSyncInTrigger (channel : SyncChannel .syncInChannel) (trigger : Trigger) : Operation Unit
  | setSyncOutTrigger (channel : SyncChannel .syncInChannel) (trigger : Trigger) : Operation Unit
  | readAnalog (channel : Int) (mode : InputMode) (range : Range) (flags : Flags .analogInRead) :
      Operation Float
  | scanAnalogIn (low high : Int) (mode : InputMode) (range : Range) (samples : Nat)
      (rate : Float) (options : Flags .scanOption) (flags : Flags .analogInScan)
      (buffer : Buffer Float) : Operation Float
  | loadQueue (queue : List QueueElement) : Operation Unit
  | makeSetting {α : Type} (setting : AnalogSetting α) (value : α) : Operation Unit
  | currentSetting {α : Type} (setting : AnalogSetting α) : Operation α
  /-- Seconds from the epoch to the calibration. -/
  | calibrationDate : Operation Nat
  | calibrationText : Operation String
  | writeAnalog (channel : Int) (range : Range) (flags : Flags .analogOutWrite) (value : Float) :
      Operation Unit
  | scanAnalogOut (low high : Int) (range : Range) (samples : Nat) (rate : Float)
      (options : Flags .scanOption) (flags : Flags .analogOutScan) (buffer : Buffer Float) :
      Operation Float
  | configurePort (port : PortKind) (direction : Direction) : Operation Unit
  | configureBit (port : PortKind) (bit : Int) (direction : Direction) : Operation Unit
  | readPort (port : PortKind) : Operation UInt64
  | writePort (port : PortKind) (value : UInt64) : Operation Unit
  | readBit (port : PortKind) (bit : Int) : Operation Nat
  | writeBit (port : PortKind) (bit : Int) (value : Nat) : Operation Unit
  | scanDigitalIn (low high : PortKind) (samples : Nat) (rate : Float)
      (options : Flags .scanOption) (flags : Flags .digitalInScan) (buffer : Buffer UInt64) :
      Operation Float
  | scanDigitalOut (low high : PortKind) (samples : Nat) (rate : Float)
      (options : Flags .scanOption) (flags : Flags .digitalOutScan) (buffer : Buffer UInt64) :
      Operation Float
  | portInfo (port : PortKind) : Operation PortInfo
  | directionMask (port : PortKind) : Operation UInt64
  | bitDirections (port : PortKind) : Operation (List Direction)
  | readCounter (counter : Int) : Operation UInt64
  | readRegister (counter : Int) (register : Flags .register) : Operation UInt64
  | loadRegister (counter : Int) (register : Flags .register) (value : UInt64) : Operation Unit
  | clearCounter (counter : Int) : Operation Unit
  | setupCounter (counter : Int) (setup : CounterSetup) : Operation Unit
  | scanCounters (low high : Int) (samples : Nat) (rate : Float) (options : Flags .scanOption)
      (flags : Flags .counterScan) (buffer : Buffer UInt64) : Operation Float
  | startTimer (timer : Int) (request : PulseRequest) : Operation PulseTiming
  | stopTimer (timer : Int) : Operation Unit
  | timerStatus (timer : Int) : Operation TimerStatus
  | scanSyncIn (channels : List (SyncChannel .syncInChannel)) (samples : Nat) (rate : Float)
      (options : Flags .scanOption) (flags : Flags .syncInScan) (buffer : Buffer Float) :
      Operation Float
  | scanSyncOut (channels : List (SyncChannel .syncOutChannel)) (samples : Nat) (rate : Float)
      (options : Flags .scanOption) (flags : Flags .syncOutScan) (buffer : Buffer Float) :
      Operation Float

namespace Operation

variable {α : Type}

/-- Perform an operation on a device. -/
def perform (id : DeviceId) : Operation α → Act α
  | .handle => Act.live id
  | .descriptor => do Act.send (.descriptor (← Act.live id))
  | .connect => Act.connect id
  | .disconnect => Act.disconnect id
  | .isConnected => Act.isConnected id
  | .flashLed count => do Act.send (.flashLed (← Act.live id) count)
  | .stopAll => Act.stopAll id
  | .release => Act.release id
  | .ask property => Act.ask id property
  | .askEach count property => Act.askEach id count property
  | .version component => do
      Act.send (.versionText (← Act.live id) Item.Device.versionText (Coded.code component))
  | .memoryArea region => do Act.send (.memoryArea (← Act.live id) region)
  | .readMemory region address length => do
      Act.resume (setAside length)
      Act.send (.readMemory (← Act.live id) region address length)
  | .writeMemory region address data => do
      Act.send (.writeMemory (← Act.live id) region address data)
  | .enableEvents kinds period handler => Act.enableEvents id kinds period handler
  | .disableEvents kinds => Act.disableEvents id kinds
  | .scanStatus target => Act.scanStatus id target
  | .stopScan target => Act.stopScan id target
  | .waitScan target condition parameter timeout =>
      Act.waitScan id target condition parameter timeout
  | .setTrigger target channel trigger => do
      Act.send (.setTrigger (← Act.live id) target channel trigger)
  | .setSyncInTrigger channel trigger => do
      Act.send (.setSyncInTrigger (← Act.live id) channel trigger)
  | .setSyncOutTrigger channel trigger => do
      Act.send (.setSyncOutTrigger (← Act.live id) channel trigger)
  | .readAnalog channel mode range flags => do
      Act.send (.readAnalog (← Act.live id) channel mode range flags)
  | .scanAnalogIn low high mode range samples rate options flags buffer =>
      Act.startAnalogIn id low high mode range samples rate options flags buffer
  | .loadQueue queue => do
      Act.send (.loadQueue (← Act.live id) queue)
      Act.updateDevice id fun device => { device with queueLength := queue.length }
      Act.note [.queueLoaded queue.length]
  | .makeSetting setting value => do Act.send (setting.request (← Act.live id) value)
  | .currentSetting setting => do setting.current (← Act.live id)
  | .calibrationDate => do
      let seconds ← Act.send (.setting (← Act.live id) Item.AnalogInSetting.calibrationDate 0)
      return Number.count seconds
  | .calibrationText => do
      Act.send (.textSetting (← Act.live id) Item.AnalogInSetting.calibrationText 0)
  | .writeAnalog channel range flags value => do
      Act.send (.writeAnalog (← Act.live id) channel range flags value)
  | .scanAnalogOut low high range samples rate options flags buffer => do
      let samples ← Act.resume (sampleCount samples)
      Act.startScan id .analogOut (.reals buffer) fun handle =>
        .scanAnalogOut handle ⟨low, high, samples, rate, options⟩ range flags buffer
  | .configurePort port direction => do
      Act.send (.configurePort (← Act.live id) port direction)
  | .configureBit port bit direction => do
      Act.send (.configureBit (← Act.live id) port bit direction)
  | .readPort port => do Act.send (.readPort (← Act.live id) port)
  | .writePort port value => do Act.send (.writePort (← Act.live id) port value)
  | .readBit port bit => do Act.send (.readBit (← Act.live id) port bit)
  | .writeBit port bit value => do Act.send (.writeBit (← Act.live id) port bit value)
  | .scanDigitalIn low high samples rate options flags buffer => do
      let samples ← Act.resume (sampleCount samples)
      Act.startScan id .digitalIn (.words buffer) fun handle =>
        .scanDigitalIn handle ⟨Coded.code low, Coded.code high, samples, rate, options⟩ flags buffer
  | .scanDigitalOut low high samples rate options flags buffer => do
      let samples ← Act.resume (sampleCount samples)
      Act.startScan id .digitalOut (.words buffer) fun handle =>
        .scanDigitalOut handle ⟨Coded.code low, Coded.code high, samples, rate, options⟩ flags
          buffer
  | .portInfo port => Act.portInfo id port
  | .directionMask port => Act.directionMask id port
  | .bitDirections port => Act.bitDirections id port
  | .readCounter counter => do Act.send (.readCounter (← Act.live id) counter)
  | .readRegister counter register => do
      Act.send (.readRegister (← Act.live id) counter register)
  | .loadRegister counter register value => do
      Act.send (.loadRegister (← Act.live id) counter register value)
      Act.note [.registerLoaded counter register value]
  | .clearCounter counter => do Act.send (.clearCounter (← Act.live id) counter)
  | .setupCounter counter setup => do
      Act.send (.setupCounter (← Act.live id) counter setup)
  | .scanCounters low high samples rate options flags buffer => do
      let samples ← Act.resume (sampleCount samples)
      Act.startScan id .counterIn (.words buffer) fun handle =>
        .scanCounters handle ⟨low, high, samples, rate, options⟩ flags buffer
  | .startTimer timer request => do
      let timing ← Act.send (.startTimer (← Act.live id) timer request)
      Act.note [.timerStarted timer timing.frequency timing.dutyCycle]
      return timing
  | .stopTimer timer => do Act.send (.stopTimer (← Act.live id) timer)
  | .timerStatus timer => do Act.send (.timerStatus (← Act.live id) timer)
  | .scanSyncIn channels samples rate options flags buffer => do
      let samples ← Act.resume (sampleCount samples)
      Act.startScan id .syncIn (.reals buffer) fun handle =>
        .scanSyncIn handle channels samples rate options flags buffer
  | .scanSyncOut channels samples rate options flags buffer => do
      let samples ← Act.resume (sampleCount samples)
      Act.startScan id .syncOut (.reals buffer) fun handle =>
        .scanSyncOut handle channels samples rate options flags buffer

end Operation

end Acquisition
