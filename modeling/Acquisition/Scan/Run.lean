import Acquisition.Buffer.Store
import Acquisition.Coded.Activity
import Acquisition.Coded.Digital
import Acquisition.Flags

/-!
# Scans in progress

A run moves one row per pacer tick: one sample per column, at consecutive cells
of the buffer.  After `samples` rows a continuous run starts over at the first
cell, and any other run is complete.
-/

namespace Acquisition

/-- What one sample of a row is taken from or goes to. -/
inductive Column where
  | analog (channel : Int)
  | port (kind : PortKind)
  | counter (counter : Int)
  deriving DecidableEq, Repr

/-- What a scan is to be started with. -/
structure ScanPlan where
  options : Flags .scanOption
  /-- Samples per channel. -/
  samples : Int
  rate : Float
  columns : List Column
  buffer : ScanBuffer

/-- The scan on a target, running or not. -/
structure ScanRun where
  status : ScanStatus
  options : Flags .scanOption
  columns : List Column
  /-- Samples per channel. -/
  samples : Nat
  buffer : ScanBuffer
  transfer : Transfer
  deriving DecidableEq, Repr

namespace ScanRun

/-- Whether the scan is running. -/
def isRunning (run : ScanRun) : Bool :=
  run.status = .running

/-- Whether the scan goes on after its last row. -/
def isContinuous (run : ScanRun) : Bool :=
  run.options.contains ScanOption.continuous

/-- How many samples a row has. -/
def width (run : ScanRun) : Nat :=
  run.columns.length

/-- The cell that the next row starts at. -/
def position (run : ScanRun) : Nat :=
  run.transfer.scanCount % run.samples * run.width

/-- How many rows a scan that is not continuous still has to move. -/
def remaining (run : ScanRun) : Nat :=
  run.samples - run.transfer.scanCount

/-- The scan, not running. -/
def halt (run : ScanRun) : ScanRun :=
  { run with status := .idle }

/-- The scan after one more row. -/
def next (run : ScanRun) : ScanRun :=
  let transfer := run.transfer.next run.width run.position
  let isComplete := !run.isContinuous && run.samples ≤ transfer.scanCount
  { run with
    transfer := transfer
    status := if isComplete then .idle else run.status }

end ScanRun

end Acquisition
