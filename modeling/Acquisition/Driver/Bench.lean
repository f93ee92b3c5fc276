import Acquisition.Driver

/-!
# The bench

The bench is the driver together with the memory that scans transfer to and from.
An operation on it either fails, and then changes nothing, or has an outcome: an
answer, the bench afterwards and the handlers that are due.
-/

namespace Acquisition

/-- A driver and the storages of all buffers. -/
structure Bench where
  driver : Driver
  store : Store

/-- A handler that is due on a device. -/
structure Due where
  handle : Handle
  firing : Firing
  deriving DecidableEq, Repr

/-- What an operation comes to. -/
structure Outcome (α : Type) where
  answer : α
  bench : Bench
  due : List Due

namespace Bench

variable {α : Type}

/-- A driver without devices, and no buffer. -/
def initial : Bench :=
  ⟨.initial, .empty⟩

instance : Inhabited Bench :=
  ⟨initial⟩

/-- The outcome that changes nothing. -/
def reply (bench : Bench) (answer : α) : Outcome α :=
  ⟨answer, bench, []⟩

/-- Put another driver. -/
def withDriver (bench : Bench) (driver : Driver) : Bench :=
  { bench with driver := driver }

/-- Put a device behind a handle. -/
def put (bench : Bench) (handle : Handle) (instrument : Instrument) : Bench :=
  bench.withDriver (bench.driver.put handle instrument)

/-- Change the driver. -/
def change (bench : Bench) (change : Driver → Except Error Driver) : Except Error (Outcome Unit) := do
  return ⟨(), bench.withDriver (← change bench.driver), []⟩

/-- Ask a device. -/
def ask (bench : Bench) (handle : Handle) (question : Instrument → Except Error α) :
    Except Error (Outcome α) := do
  return bench.reply (← question (← bench.driver.instrument handle))

/-- Ask a connected device. -/
def askConnected (bench : Bench) (handle : Handle) (question : Instrument → Except Error α) :
    Except Error (Outcome α) := do
  return bench.reply (← question (← bench.driver.connected handle))

/-- Change a device. -/
def adjust (bench : Bench) (handle : Handle) (change : Instrument → Except Error Instrument) :
    Except Error (Outcome Unit) := do
  let instrument ← change (← bench.driver.instrument handle)
  return ⟨(), bench.put handle instrument, []⟩

/-- Change a connected device. -/
def adjustConnected (bench : Bench) (handle : Handle)
    (change : Instrument → Except Error Instrument) : Except Error (Outcome Unit) := do
  let instrument ← change (← bench.driver.connected handle)
  return ⟨(), bench.put handle instrument, []⟩

/-- Change a connected device, with an answer. -/
def exchange (bench : Bench) (handle : Handle)
    (change : Instrument → Except Error (α × Instrument)) : Except Error (Outcome α) := do
  let (answer, instrument) ← change (← bench.driver.connected handle)
  return ⟨answer, bench.put handle instrument, []⟩

/-- The outcome of moving samples: the device and the storages change, and handlers are due. -/
def moved (bench : Bench) (handle : Handle) (answer : α)
    (result : Instrument × Store × List Firing) : Outcome α :=
  ⟨answer, ⟨bench.driver.put handle result.1, result.2.1⟩, result.2.2.map fun firing =>
    ⟨handle, firing⟩⟩

end Bench

end Acquisition
