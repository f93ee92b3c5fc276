import Acquisition.Descriptor
import Acquisition.Driver
import Acquisition.Number.Decimal

/-!
# Notices

A notice says that something happened which a log should show.  Its level and its
message are functions of the cause.
-/

namespace Acquisition

/-- How important a notice is. -/
inductive Level where
  | trace
  | debug
  | warn
  | error
  deriving DecidableEq, Repr

namespace Level

/-- The name of a level. -/
def name : Level → String
  | .trace => "TRACE"
  | .debug => "DEBUG"
  | .warn => "WARN"
  | .error => "ERROR"

end Level

/-- The steps of taking a device down. -/
inductive TeardownStep where
  | stopScans
  | disconnect
  | release
  deriving DecidableEq, Repr

namespace TeardownStep

/-- The name of a step. -/
def name : TeardownStep → String
  | .stopScans => "stop scans"
  | .disconnect => "disconnect"
  | .release => "release"

end TeardownStep

/-- What a log shows. -/
inductive Notice where
  /-- The driver opened a device. -/
  | handleCreated (handle : Handle) (uniqueId : String)
  /-- The driver took a handle back. -/
  | handleReleased (handle : Handle)
  /-- The driver started a scan. -/
  | columnsStarted (target : ScanTarget) (columns samples : Nat) (rate : Float)
  /-- A scan moved its last row. -/
  | scanComplete (target : ScanTarget)
  /-- The driver stopped a scan that was running. -/
  | scanHalted (target : ScanTarget)
  /-- A handler is about to run. -/
  | eventRaised (kind : Flags .event) (data : Nat)
  /-- Devices were listed. -/
  | devicesListed (transport : Flags .transport) (count : Nat)
  | deviceOpened (handle : Handle) (descriptor : Descriptor)
  | releaseRefused (handle : Handle) (error : Error)
  | deviceConnected (uniqueId : String)
  | deviceDisconnected (uniqueId : String)
  | deviceReleased (handle : Handle)
  | teardownFailed (uniqueId : String) (step : TeardownStep) (error : Error)
  | eventsEnabled (kinds : Flags .event)
  | eventsDisabled (kinds : Flags .event)
  | handlerBroke (kind : Flags .event)
  /-- A subsystem started a scan. -/
  | scanStarted (target : ScanTarget) (channels samples : Nat) (rate : Float)
  | stopRequested (target : ScanTarget)
  /-- A running scan was stopped together with all others. -/
  | scanStopped (target : ScanTarget)
  /-- A subsystem let go of the buffer of a scan. -/
  | bufferReleased (target : ScanTarget)
  /-- An answer about an older scan was not acted upon. -/
  | answerOutdated (target : ScanTarget)
  | queueLoaded (length : Nat)
  | registerLoaded (counter : Int) (register : Flags .register) (value : UInt64)
  | timerStarted (timer : Int) (frequency dutyCycle : Float)

namespace Notice

/-- How important a notice is. -/
def level : Notice → Level
  | .eventRaised .. | .bufferReleased .. | .answerOutdated .. | .registerLoaded .. => .trace
  | .releaseRefused .. | .teardownFailed .. => .warn
  | .handlerBroke .. => .error
  | _ => .debug

/-- The text that shapes and rates of a scan have in common. -/
def paced (samples : Nat) (rate : Float) : String :=
  " x " ++ toString samples ++ " samples at " ++ Number.decimalText rate ++ " Hz"

/-- The message of a notice. -/
def message : Notice → String
  | .handleCreated handle uniqueId =>
      "mock handle " ++ toString handle ++ " created for " ++ uniqueId
  | .handleReleased handle => "mock handle " ++ toString handle ++ " released"
  | .columnsStarted target columns samples rate =>
      "mock " ++ target.name ++ " scan started: " ++ toString columns ++ " columns" ++
        paced samples rate
  | .scanComplete target => "mock " ++ target.name ++ " scan complete"
  | .scanHalted target => "mock " ++ target.name ++ " scan stopped"
  | .eventRaised kind data => "mock event " ++ kind.text ++ " data " ++ toString data
  | .devicesListed transport count =>
      "Inventory on " ++ transport.text ++ " found " ++ toString count ++ " device(s)"
  | .deviceOpened handle descriptor =>
      "Created handle " ++ toString handle ++ " for " ++ descriptor.text
  | .releaseRefused handle error =>
      "Failed to release handle " ++ toString handle ++ ": " ++ error.message
  | .deviceConnected uniqueId => "Connected to " ++ uniqueId
  | .deviceDisconnected uniqueId => "Disconnected from " ++ uniqueId
  | .deviceReleased handle => "Released handle " ++ toString handle
  | .teardownFailed uniqueId step error =>
      "Teardown of " ++ uniqueId ++ ": " ++ step.name ++ " failed: " ++ error.message
  | .eventsEnabled kinds => "Enabled events " ++ kinds.text
  | .eventsDisabled kinds => "Disabled events " ++ kinds.text
  | .handlerBroke kind => "Callback for " ++ kind.text ++ " panicked"
  | .scanStarted target channels samples rate =>
      target.name ++ " scan started: " ++ toString channels ++ paced samples rate
  | .stopRequested target => target.name ++ " scan stop requested"
  | .scanStopped target => "Stopped " ++ target.name ++ " scan"
  | .bufferReleased target => target.name ++ " scan buffer released"
  | .answerOutdated target => target.name ++ " idle answer predates a newer scan"
  | .queueLoaded length => "Loaded AI queue with " ++ toString length ++ " element(s)"
  | .registerLoaded counter register value =>
      "Counter " ++ toString counter ++ " " ++ register.text ++ " loaded with " ++
        toString value.toNat
  | .timerStarted timer frequency dutyCycle =>
      "Timer " ++ toString timer ++ " started at " ++ Number.decimalText frequency ++
        " Hz, duty cycle " ++ Number.decimalText dutyCycle

end Notice

end Acquisition
