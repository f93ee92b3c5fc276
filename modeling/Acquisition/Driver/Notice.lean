import Acquisition.Driver.Request
import Acquisition.Driver.Stimulus
import Acquisition.Notice

/-!
# What the driver notes

The notices of a request or a stimulus, in order, read off the bench before it and
its outcome.
-/

namespace Acquisition

namespace Bench

/-- The scan on a target of a device. -/
def run? (bench : Bench) (handle : Handle) (target : ScanTarget) : Option ScanRun := do
  (← bench.driver.instruments.get? handle).scans.get? target

/-- Whether the scan on a target of a device is running. -/
def isRunning (bench : Bench) (handle : Handle) (target : ScanTarget) : Bool :=
  (bench.run? handle target).any ScanRun.isRunning

end Bench

namespace Notice

variable {α : Type}

/-- The notice of a started scan. -/
def ofStart (handle : Handle) (target : ScanTarget) (outcome : Outcome Float) : List Notice :=
  match outcome.bench.run? handle target with
  | some run => [.columnsStarted target run.width run.samples outcome.answer]
  | none => []

/-- The notice of a scan that was moved and is complete. -/
def ofMove (handle : Handle) (target : ScanTarget) (before after : Bench) : List Notice :=
  if before.isRunning handle target && !after.isRunning handle target then
    [.scanComplete target]
  else []

/-- The notices of a served request. -/
def ofRequest (request : Request α) (before : Bench) (outcome : Outcome α) : List Notice :=
  match request with
  | .create descriptor => [.handleCreated outcome.answer descriptor.uniqueId]
  | .release handle => [.handleReleased handle]
  | .scanAnalogIn handle .. => ofStart handle .analogIn outcome
  | .scanAnalogOut handle .. => ofStart handle .analogOut outcome
  | .scanDigitalIn handle .. => ofStart handle .digitalIn outcome
  | .scanDigitalOut handle .. => ofStart handle .digitalOut outcome
  | .scanCounters handle .. => ofStart handle .counterIn outcome
  | .scanSyncIn handle .. => ofStart handle .syncIn outcome
  | .scanSyncOut handle .. => ofStart handle .syncOut outcome
  | .stopScan handle target => if before.isRunning handle target then [.scanHalted target] else []
  | .waitScan handle target .. => ofMove handle target before outcome.bench
  | _ => []

/-- The notices of an applied stimulus. -/
def ofStimulus (stimulus : Stimulus α) (before : Bench) (outcome : Outcome α) : List Notice :=
  match stimulus with
  | .advance handle target _ => ofMove handle target before outcome.bench
  | _ => []

end Notice

end Acquisition
