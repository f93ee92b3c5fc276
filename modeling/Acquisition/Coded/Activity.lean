import Acquisition.Coded

/-!
# Activities of a device and their states
-/

namespace Acquisition

/-- Kinds of timer. -/
inductive TimerKind where
  | standard
  | advanced
  deriving DecidableEq, Repr

instance : Coded TimerKind where
  typeName := "TimerType"
  all :=
    [.standard, .advanced]
  label
    | .standard => (1, "Standard")
    | .advanced => (2, "Advanced")

/-- The output level of a timer that is idle. -/
inductive IdleLevel where
  | low
  | high
  deriving DecidableEq, Repr

instance : Coded IdleLevel where
  typeName := "TmrIdleState"
  all :=
    [.low, .high]
  label
    | .low => (1, "Low")
    | .high => (2, "High")

/-- Whether a timer is generating pulses. -/
inductive TimerStatus where
  | idle
  | running
  deriving DecidableEq, Repr

instance : Coded TimerStatus where
  typeName := "TmrStatus"
  all :=
    [.idle, .running]
  label
    | .idle => (0, "Idle")
    | .running => (1, "Running")

/-- Whether a scan is running. -/
inductive ScanStatus where
  | idle
  | running
  deriving DecidableEq, Repr

instance : Coded ScanStatus where
  typeName := "ScanStatus"
  all :=
    [.idle, .running]
  label
    | .idle => (0, "Idle")
    | .running => (1, "Running")

/-- What a wait for a scan waits for. -/
inductive WaitCondition where
  | waitUntilDone
  deriving DecidableEq, Repr

instance : Coded WaitCondition where
  typeName := "WaitType"
  all :=
    [.waitUntilDone]
  label
    | .waitUntilDone => (1, "WaitUntilDone")

/-- The parts of a device that have a version. -/
inductive Component where
  | fwMain
  | fpga
  | radio
  deriving DecidableEq, Repr

instance : Coded Component where
  typeName := "DevVersionType"
  all :=
    [.fwMain, .fpga, .radio]
  label
    | .fwMain => (0, "FwMain")
    | .fpga => (1, "Fpga")
    | .radio => (2, "Radio")

end Acquisition
