import Acquisition.Flags
import Acquisition.Scan.Target
import Acquisition.Scan.Transfer

/-!
# Event bindings

A binding ties event kinds to a handler.  A binding for available data fires
each time the scan count of an input scan reaches its threshold, which then
moves on by its period.  Handlers are data: a handler says under which label it
records an event and what it does to the device first.
-/

namespace Acquisition

/-- What a handler does to the device whose event it handles. -/
inductive Reaction where
  /-- Nothing. -/
  | record
  /-- Stop the scan on a target. -/
  | stop (target : ScanTarget)
  /-- Ask for the status of the scan on a target. -/
  | status (target : ScanTarget)
  /-- Disable event kinds. -/
  | disable (kinds : Flags .event)
  /-- Break down after recording the event. -/
  | breakDown
  deriving DecidableEq, Repr

/-- What runs when an event occurs. -/
structure Handler where
  label : String
  reaction : Reaction
  deriving DecidableEq, Repr

/-- Event kinds with their handler. -/
structure Binding where
  kinds : Flags .event
  /-- New samples per channel between two firings for available data. -/
  period : Nat
  /-- The scan count of the next firing for available data. -/
  threshold : Nat
  handler : Handler
  deriving DecidableEq, Repr

/-- A handler that is due, with the kind and the data of its event. -/
structure Firing where
  handler : Handler
  kind : Flags .event
  data : Nat
  deriving DecidableEq, Repr

namespace Binding

/-- Wait for the first period of a new input scan. -/
def rearm (binding : Binding) : Binding :=
  { binding with threshold := binding.period }

/-- Whether a binding for available data is due. -/
def isDue (binding : Binding) (transfer : Transfer) : Bool :=
  binding.kinds.contains EventKind.dataAvailable && binding.threshold ≤ transfer.scanCount

/-- Move the threshold of a due binding on. -/
def pass (binding : Binding) (transfer : Transfer) : Binding :=
  if binding.isDue transfer then
    { binding with threshold := binding.threshold + binding.period }
  else binding

/-- The firing of a due binding. -/
def dataFiring? (binding : Binding) (transfer : Transfer) : Option Firing :=
  if binding.isDue transfer then
    some ⟨binding.handler, EventKind.dataAvailable, transfer.totalCount⟩
  else none

/-- Unbind event kinds. -/
def without (binding : Binding) (kinds : Flags .event) : Binding :=
  { binding with kinds := binding.kinds.remove kinds }

/-- The firing of the first binding for a kind. -/
def firing? (bindings : List Binding) (kind : Flags .event) (data : Nat) : Option Firing :=
  (bindings.find? fun binding => binding.kinds.contains kind).map fun binding =>
    ⟨binding.handler, kind, data⟩

/-- The event kinds that are bound. -/
def boundKinds (bindings : List Binding) : Flags .event :=
  Flags.unionAll (bindings.map Binding.kinds)

end Binding

namespace EventKind

/-- The event of a complete scan. -/
def completion (target : ScanTarget) : Flags .event :=
  if target.isInput then endOfInputScan else endOfOutputScan

/-- The event of an aborted scan. -/
def abortion (target : ScanTarget) : Flags .event :=
  if target.isInput then inputScanError else outputScanError

end EventKind

end Acquisition
