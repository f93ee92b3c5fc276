import Acquisition.Driver.Bench
import Acquisition.Instrument.Analog
import Acquisition.Instrument.Binding
import Acquisition.Instrument.Counter
import Acquisition.Instrument.Digital
import Acquisition.Instrument.Memory
import Acquisition.Instrument.Setting
import Acquisition.Instrument.Sync
import Acquisition.Instrument.Timer
import Acquisition.Instrument.Trigger

/-!
# Requests to the driver

A request is a call of the driver as data, indexed by the type of its answer, and
`Request.serve` is what the driver does with it.  Requests that act on a device
name it by its handle; most of them need it to be connected.
-/

namespace Acquisition

/-- Calls of the driver, by the type of their answer. -/
inductive Request : Type → Type where
  | inventory (transport : Flags .transport) (most : Nat) : Request (List Descriptor)
  | create (descriptor : Descriptor) : Request Handle
  | descriptor (handle : Handle) : Request Descriptor
  | connect (handle : Handle) : Request Unit
  | disconnect (handle : Handle) : Request Unit
  | release (handle : Handle) : Request Unit
  | isConnected (handle : Handle) : Request Bool
  | flashLed (handle : Handle) (count : Int) : Request Unit
  | libraryText (item : Int) (index : Nat) : Request String
  | setLibrarySetting (item : Int) (index : Nat) (value : Int) : Request Unit
  | librarySetting (item : Int) (index : Nat) : Request Int
  | integerItem (handle : Handle) (subject : Subject) (item : Int) (index : Nat) : Request Int
  | realItem (handle : Handle) (subject : Subject) (item : Int) (index : Nat) : Request Float
  | versionText (handle : Handle) (item : Int) (index : Nat) : Request String
  | setSetting (handle : Handle) (item : Int) (index : Nat) (value : Int) : Request Unit
  | setting (handle : Handle) (item : Int) (index : Nat) : Request Int
  | setRealSetting (handle : Handle) (item : Int) (index : Nat) (value : Float) : Request Unit
  | realSetting (handle : Handle) (item : Int) (index : Nat) : Request Float
  | textSetting (handle : Handle) (item : Int) (index : Nat) : Request String
  | portSetting (handle : Handle) (item : Int) (index : Nat) : Request Int
  | readAnalog (handle : Handle) (channel : Int) (mode : InputMode) (range : Range)
      (flags : Flags .analogInRead) : Request Float
  | scanAnalogIn (handle : Handle) (request : ScanRequest) (mode : InputMode) (range : Range)
      (flags : Flags .analogInScan) (buffer : Buffer Float) : Request Float
  | loadQueue (handle : Handle) (queue : List QueueElement) : Request Unit
  | writeAnalog (handle : Handle) (channel : Int) (range : Range) (flags : Flags .analogOutWrite)
      (value : Float) : Request Unit
  | scanAnalogOut (handle : Handle) (request : ScanRequest) (range : Range)
      (flags : Flags .analogOutScan) (buffer : Buffer Float) : Request Float
  | configurePort (handle : Handle) (port : PortKind) (direction : Direction) : Request Unit
  | configureBit (handle : Handle) (port : PortKind) (bit : Int) (direction : Direction) :
      Request Unit
  | readPort (handle : Handle) (port : PortKind) : Request UInt64
  | writePort (handle : Handle) (port : PortKind) (value : UInt64) : Request Unit
  | readBit (handle : Handle) (port : PortKind) (bit : Int) : Request Nat
  | writeBit (handle : Handle) (port : PortKind) (bit : Int) (value : Nat) : Request Unit
  | scanDigitalIn (handle : Handle) (request : ScanRequest) (flags : Flags .digitalInScan)
      (buffer : Buffer UInt64) : Request Float
  | scanDigitalOut (handle : Handle) (request : ScanRequest) (flags : Flags .digitalOutScan)
      (buffer : Buffer UInt64) : Request Float
  | readCounter (handle : Handle) (counter : Int) : Request UInt64
  | readRegister (handle : Handle) (counter : Int) (register : Flags .register) : Request UInt64
  | loadRegister (handle : Handle) (counter : Int) (register : Flags .register)
      (value : UInt64) : Request Unit
  | clearCounter (handle : Handle) (counter : Int) : Request Unit
  | setupCounter (handle : Handle) (counter : Int) (setup : CounterSetup) : Request Unit
  | scanCounters (handle : Handle) (request : ScanRequest) (flags : Flags .counterScan)
      (buffer : Buffer UInt64) : Request Float
  | startTimer (handle : Handle) (timer : Int) (request : PulseRequest) : Request PulseTiming
  | stopTimer (handle : Handle) (timer : Int) : Request Unit
  | timerStatus (handle : Handle) (timer : Int) : Request TimerStatus
  | scanSyncIn (handle : Handle) (channels : List (SyncChannel .syncInChannel)) (samples : Int)
      (rate : Float) (options : Flags .scanOption) (flags : Flags .syncInScan)
      (buffer : Buffer Float) : Request Float
  | scanSyncOut (handle : Handle) (channels : List (SyncChannel .syncOutChannel)) (samples : Int)
      (rate : Float) (options : Flags .scanOption) (flags : Flags .syncOutScan)
      (buffer : Buffer Float) : Request Float
  | scanStatus (handle : Handle) (target : ScanTarget) : Request (ScanStatus × Transfer)
  | stopScan (handle : Handle) (target : ScanTarget) : Request Unit
  | waitScan (handle : Handle) (target : ScanTarget) (condition : WaitCondition)
      (parameter : Int) (timeout : Float) : Request Unit
  | setTrigger (handle : Handle) (target : TriggerTarget) (channel : Int) (trigger : Trigger) :
      Request Unit
  | setSyncInTrigger (handle : Handle) (channel : SyncChannel .syncInChannel)
      (trigger : Trigger) : Request Unit
  | setSyncOutTrigger (handle : Handle) (channel : SyncChannel .syncInChannel)
      (trigger : Trigger) : Request Unit
  | enableEvents (handle : Handle) (kinds : Flags .event) (period : Nat) (handler : Handler) :
      Request Unit
  | disableEvents (handle : Handle) (kinds : Flags .event) : Request Unit
  | memoryArea (handle : Handle) (region : Flags .memoryRegion) : Request MemoryArea
  | readMemory (handle : Handle) (region : Flags .memoryRegion) (address : UInt32)
      (length : Nat) : Request (List UInt8)
  | writeMemory (handle : Handle) (region : Flags .memoryRegion) (address : UInt32)
      (data : List UInt8) : Request Unit

namespace Request

/-- The name that a call is known under. -/
def name {α : Type} : Request α → String
  | .inventory .. => "inventory"
  | .create .. => "create_device"
  | .descriptor .. => "device_descriptor"
  | .connect .. => "connect"
  | .disconnect .. => "disconnect"
  | .release .. => "release"
  | .isConnected .. => "is_connected"
  | .flashLed .. => "flash_led"
  | .libraryText .. => "library_info_str"
  | .setLibrarySetting .. => "set_library_config"
  | .librarySetting .. => "library_config"
  | .integerItem .. => "get_info"
  | .realItem .. => "get_info_dbl"
  | .versionText .. => "dev_config_str"
  | .setSetting .. => "ai_set_config"
  | .setting .. => "ai_config"
  | .setRealSetting .. => "ai_set_config_dbl"
  | .realSetting .. => "ai_config_dbl"
  | .textSetting .. => "ai_config_str"
  | .portSetting .. => "dio_config"
  | .readAnalog .. => "a_in"
  | .scanAnalogIn .. => "a_in_scan"
  | .loadQueue .. => "a_in_load_queue"
  | .writeAnalog .. => "a_out"
  | .scanAnalogOut .. => "a_out_scan"
  | .configurePort .. => "d_config_port"
  | .configureBit .. => "d_config_bit"
  | .readPort .. => "d_in"
  | .writePort .. => "d_out"
  | .readBit .. => "d_bit_in"
  | .writeBit .. => "d_bit_out"
  | .scanDigitalIn .. => "d_in_scan"
  | .scanDigitalOut .. => "d_out_scan"
  | .readCounter .. => "c_in"
  | .readRegister .. => "c_read"
  | .loadRegister .. => "c_load"
  | .clearCounter .. => "c_clear"
  | .setupCounter .. => "c_config_scan"
  | .scanCounters .. => "c_in_scan"
  | .startTimer .. => "pulse_out_start"
  | .stopTimer .. => "pulse_out_stop"
  | .timerStatus .. => "pulse_out_status"
  | .scanSyncIn .. => "daq_in_scan"
  | .scanSyncOut .. => "daq_out_scan"
  | .scanStatus .. => "scan_status"
  | .stopScan .. => "scan_stop"
  | .waitScan .. => "scan_wait"
  | .setTrigger .. => "set_trigger"
  | .setSyncInTrigger .. => "daq_in_set_trigger"
  | .setSyncOutTrigger .. => "daq_out_set_trigger"
  | .enableEvents .. => "enable_event"
  | .disableEvents .. => "disable_event"
  | .memoryArea .. => "mem_get_info"
  | .readMemory .. => "mem_read"
  | .writeMemory .. => "mem_write"

/-- Serve a request. -/
def serve {α : Type} (request : Request α) (bench : Bench) : Except Error (Outcome α) :=
  match request with
  | .inventory transport most => .ok (bench.reply (bench.driver.devicesOn transport most))
  | .create identity => do
      let (handle, driver) ← bench.driver.create identity
      return ⟨handle, bench.withDriver driver, []⟩
  | .descriptor handle => bench.ask handle fun device => .ok device.descriptor
  | .connect handle => bench.adjust handle Instrument.connect
  | .disconnect handle => bench.change fun driver => driver.disconnect handle
  | .release handle => bench.change fun driver => driver.release handle
  | .isConnected handle => bench.ask handle fun device => .ok device.isConnected
  | .flashLed handle count => bench.adjustConnected handle fun device => device.flashLed count
  | .libraryText item _ => do return bench.reply (← bench.driver.libraryText item)
  | .setLibrarySetting item _ value =>
      bench.change fun driver => driver.setLibrarySetting item value
  | .librarySetting item _ => do return bench.reply (← bench.driver.librarySetting item)
  | .integerItem handle subject item index =>
      bench.ask handle fun device => device.profile.integer subject item index
  | .realItem handle subject item index =>
      bench.ask handle fun device => device.profile.real subject item index
  | .versionText handle item index =>
      bench.askConnected handle fun device => device.versionText item index
  | .setSetting handle item index value =>
      bench.adjustConnected handle fun device => device.setSetting item index value
  | .setting handle item index => bench.askConnected handle fun device => device.setting item index
  | .setRealSetting handle item index value =>
      bench.adjustConnected handle fun device => device.setRealSetting item index value
  | .realSetting handle item index =>
      bench.askConnected handle fun device => device.realSetting item index
  | .textSetting handle item _ => bench.askConnected handle fun device => device.textSetting item
  | .portSetting handle item index =>
      bench.askConnected handle fun device => device.portSetting item index
  | .readAnalog handle channel mode range flags =>
      bench.askConnected handle fun device => device.readAnalog channel mode range flags
  | .scanAnalogIn handle request mode range _ buffer =>
      bench.exchange handle fun device =>
        device.scanAnalogIn bench.store request mode range buffer
  | .loadQueue handle queue => bench.adjustConnected handle fun device => device.loadQueue queue
  | .writeAnalog handle channel range flags value =>
      bench.adjustConnected handle fun device => device.writeAnalog channel range flags value
  | .scanAnalogOut handle request range _ buffer =>
      bench.exchange handle fun device => device.scanAnalogOut bench.store request range buffer
  | .configurePort handle port direction =>
      bench.adjustConnected handle fun device =>
        device.updatePort port fun port => port.configure direction
  | .configureBit handle port bit direction =>
      bench.adjustConnected handle fun device =>
        device.updatePort port fun port => port.configureBit bit direction
  | .readPort handle port =>
      bench.askConnected handle fun device => return (← device.port port).read
  | .writePort handle port value =>
      bench.adjustConnected handle fun device =>
        device.updatePort port fun port => port.write value
  | .readBit handle port bit =>
      bench.askConnected handle fun device => do (← device.port port).readBit bit
  | .writeBit handle port bit value =>
      bench.adjustConnected handle fun device =>
        device.updatePort port fun port => port.writeBit bit value
  | .scanDigitalIn handle request _ buffer =>
      bench.exchange handle fun device => device.scanDigitalIn bench.store request buffer
  | .scanDigitalOut handle request _ buffer =>
      bench.exchange handle fun device => device.scanDigitalOut bench.store request buffer
  | .readCounter handle counter =>
      bench.askConnected handle fun device => device.readRegister counter CounterRegister.count
  | .readRegister handle counter register =>
      bench.askConnected handle fun device => device.readRegister counter register
  | .loadRegister handle counter register value =>
      bench.adjustConnected handle fun device => device.loadRegister counter register value
  | .clearCounter handle counter =>
      bench.adjustConnected handle fun device => device.clearCounter counter
  | .setupCounter handle counter setup =>
      bench.adjustConnected handle fun device => device.setupCounter counter setup
  | .scanCounters handle request flags buffer =>
      bench.exchange handle fun device => device.scanCounters bench.store request flags buffer
  | .startTimer handle timer request =>
      bench.exchange handle fun device => device.startTimer timer request
  | .stopTimer handle timer => bench.adjustConnected handle fun device => device.stopTimer timer
  | .timerStatus handle timer =>
      bench.askConnected handle fun device => device.timerStatus timer
  | .scanSyncIn handle channels samples rate options _ buffer =>
      bench.exchange handle fun device =>
        device.scanSyncIn bench.store channels samples rate options buffer
  | .scanSyncOut handle channels samples rate options _ buffer =>
      bench.exchange handle fun device =>
        device.scanSyncOut bench.store channels samples rate options buffer
  | .scanStatus handle target => bench.ask handle fun device => .ok (device.scanStatus target)
  | .stopScan handle target => bench.change fun driver => driver.stopScan handle target
  | .waitScan handle target _ _ _ => do
      let device ← bench.driver.instrument handle
      return bench.moved handle () (← device.finishScan bench.store target)
  | .setTrigger handle target channel trigger =>
      bench.adjustConnected handle fun device => device.setTrigger target channel trigger
  | .setSyncInTrigger handle channel trigger =>
      bench.adjustConnected handle fun device => device.setSyncInTrigger channel trigger
  | .setSyncOutTrigger handle channel trigger =>
      bench.adjustConnected handle fun device => device.setSyncOutTrigger channel trigger
  | .enableEvents handle kinds period handler =>
      bench.adjust handle fun device => device.enableEvents kinds period handler
  | .disableEvents handle kinds =>
      bench.adjust handle fun device => .ok (device.disableEvents kinds)
  | .memoryArea handle region => bench.ask handle fun device => device.profile.area region
  | .readMemory handle region address length =>
      bench.askConnected handle fun device => device.readMemory region address length
  | .writeMemory handle region address data =>
      bench.adjustConnected handle fun device => device.writeMemory region address data

end Request

end Acquisition
