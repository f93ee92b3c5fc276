import Acquisition.Instrument.Check
import Acquisition.Profile.Limits

/-!
# Starting and running scans

A scan starts when its plan passes every check (`startScan`); until then nothing
changes.  A running scan moves one row at a time (`moveRow`), and `advance` is
the iteration of that step.
-/

namespace Acquisition.Instrument

/-! ## Starting -/

/-- The rate a scan will run at: as requested under an external clock, and else the
rate the pacer produces, if the request lies within the reported limits. -/
def acceptRate (instrument : Instrument) (target : ScanTarget) (options : Flags .scanOption)
    (rate : Float) : Except Error Float :=
  if options.contains ScanOption.externalClock then .ok rate
  else do
    let (low, high) ← instrument.profile.rateLimits target
    if low ≤ rate ∧ rate ≤ high then .ok (instrument.profile.snapRate rate low high)
    else .error .badRate

/-- Accept a plan and give the rate it will run at. -/
def checkPlan (instrument : Instrument) (store : Store) (target : ScanTarget) (plan : ScanPlan) :
    Except Error Float :=
  if instrument.isRunning target then .error .alreadyActive
  else if plan.samples ≤ 0 then .error .badSampleCount
  else if plan.columns.isEmpty then .error .badNumChans
  else if plan.buffer.size store < plan.columns.length * plan.samples.toNat then
    .error .badBufferSize
  else if !(instrument.profile.scanOptions target).contains plan.options then .error .badOption
  else instrument.acceptRate target plan.options plan.rate

/-- The instrument with an accepted plan running.  An input scan rearms every binding. -/
def launch (instrument : Instrument) (target : ScanTarget) (plan : ScanPlan) : Instrument :=
  { instrument with
    bindings := if target.isInput then instrument.bindings.map Binding.rearm
      else instrument.bindings
    scans := instrument.scans.set target {
      status := .running
      options := plan.options
      columns := plan.columns
      samples := plan.samples.toNat
      buffer := plan.buffer
      transfer := .initial } }

/-- Start a scan, with the rate it runs at. -/
def startScan (instrument : Instrument) (store : Store) (target : ScanTarget) (plan : ScanPlan) :
    Except Error (Float × Instrument) := do
  let rate ← instrument.checkPlan store target plan
  return (rate, instrument.launch target plan)

/-! ## One row -/

/-- The next value of a running count, which wraps to zero after the largest one. -/
def nextCount (instrument : Instrument) (counter : Int) : UInt64 :=
  let value := instrument.registers.getD (counter, CounterRegister.count) 0
  if instrument.counterMax ≤ value then 0 else value + 1

/-- Take one sample.  Sampling a counter counts one event. -/
def sample (instrument : Instrument) : Column → Float × Instrument
  | .analog channel => (instrument.inputs.getD channel 0, instrument)
  | .port kind =>
      match instrument.port kind with
      | .ok port => (port.read.toFloat, instrument)
      | .error _ => (0, instrument)
  | .counter counter =>
      let value := instrument.nextCount counter
      (value.toFloat, { instrument with
        registers := instrument.registers.set (counter, CounterRegister.count) value })

/-- Put out one sample.  A port takes the integer part of its value. -/
def drive (instrument : Instrument) (value : Float) : Column → Instrument
  | .analog channel => { instrument with outputs := instrument.outputs.set channel value }
  | .port kind =>
      match Port.updateFirst kind (fun port => .ok (port.drive value.toUInt64))
        instrument.ports with
      | .ok ports => { instrument with ports := ports }
      | .error _ => instrument
  | .counter _ => instrument

/-- Sample columns into consecutive cells of a buffer. -/
def acquire (buffer : ScanBuffer) :
    List Column → Nat → Instrument → Store → Instrument × Store
  | [], _, instrument, store => (instrument, store)
  | column :: rest, index, instrument, store =>
      let (value, instrument) := instrument.sample column
      acquire buffer rest (index + 1) instrument (buffer.put store index value)

/-- Put consecutive cells of a buffer out to columns. -/
def generate (buffer : ScanBuffer) (store : Store) :
    List Column → Nat → Instrument → Instrument
  | [], _, instrument => instrument
  | column :: rest, index, instrument =>
      generate buffer store rest (index + 1) <|
        match buffer.get? store index with
        | some value => instrument.drive value column
        | none => instrument

/-- Move the samples of a row between the instrument and the buffer. -/
def moveSamples (instrument : Instrument) (store : Store) (target : ScanTarget) (run : ScanRun) :
    Instrument × Store :=
  if target.isInput then acquire run.buffer run.columns run.position instrument store
  else (generate run.buffer store run.columns run.position instrument, store)

/-- The firings of a row: data is available before the scan is complete. -/
def rowFirings (bindings : List Binding) (target : ScanTarget) (run : ScanRun) : List Firing :=
  let data := if target.isInput then
    bindings.filterMap fun binding => binding.dataFiring? run.transfer
  else []
  let completion := if run.isRunning then none
  else Binding.firing? bindings (EventKind.completion target) run.transfer.totalCount
  data ++ completion.toList

/-- Move one row of a running scan. -/
def moveRow (instrument : Instrument) (store : Store) (target : ScanTarget) (run : ScanRun) :
    Instrument × Store × List Firing :=
  let (instrument, store) := instrument.moveSamples store target run
  let run := run.next
  let firings := rowFirings instrument.bindings target run
  ({ instrument with
      bindings := if target.isInput then
          instrument.bindings.map fun binding => binding.pass run.transfer
        else instrument.bindings
      scans := instrument.scans.set target run },
    store, firings)

/-! ## Many rows -/

/-- Move up to a number of rows of the scan on a target, until it is not running. -/
def advance (target : ScanTarget) : Nat → Instrument → Store → Instrument × Store × List Firing
  | 0, instrument, store => (instrument, store, [])
  | rows + 1, instrument, store =>
      match instrument.running? target with
      | none => (instrument, store, [])
      | some run =>
          let (instrument, store, first) := instrument.moveRow store target run
          let (instrument, store, rest) := advance target rows instrument store
          (instrument, store, first ++ rest)

/-- Run the scan on a target until it is complete.  A continuous scan never is. -/
def finishScan (instrument : Instrument) (store : Store) (target : ScanTarget) :
    Except Error (Instrument × Store × List Firing) :=
  match instrument.running? target with
  | none => .ok (instrument, store, [])
  | some run =>
      if run.isContinuous then .error .timedOut
      else .ok (advance target run.remaining instrument store)

/-- The code of an error as event data, in 64-bit two's complement. -/
def abortData (error : Error) : Nat :=
  ((error.code.getD 0) % 18446744073709551616).toNat

/-- Abort the scan on a target. -/
def abortScan (instrument : Instrument) (target : ScanTarget) (error : Error) :
    Instrument × List Firing :=
  if instrument.isRunning target then
    (instrument.haltScan target,
      (Binding.firing? instrument.bindings (EventKind.abortion target)
        (abortData error)).toList)
  else (instrument, [])

end Acquisition.Instrument
