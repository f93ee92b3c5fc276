import Acquisition.Instrument.Scan
import Acquisition.Scan.Request

/-!
# Counters

Each counter has registers; its running count is one of them.  Loading the preset
register also sets the count.
-/

namespace Acquisition.Instrument

/-- Put a value into a register. -/
def putRegister (instrument : Instrument) (counter : Int) (register : Flags .register)
    (value : UInt64) : Instrument :=
  { instrument with registers := instrument.registers.set (counter, register) value }

/-- Read a register. -/
def readRegister (instrument : Instrument) (counter : Int) (register : Flags .register) :
    Except Error UInt64 := do
  instrument.checkCounter counter
  instrument.checkRegister register
  return instrument.registers.getD (counter, register) 0

/-- Accept a value for a register.  The running count itself cannot be loaded. -/
def checkLoad (instrument : Instrument) (counter : Int) (register : Flags .register)
    (value : UInt64) : Except Error Unit := do
  instrument.checkCounter counter
  if register = CounterRegister.count then .error .badCtrReg
  else
    instrument.checkRegister register
    if instrument.counterMax < value then .error .badCtrVal else .ok ()

/-- Load a register. -/
def loadRegister (instrument : Instrument) (counter : Int) (register : Flags .register)
    (value : UInt64) : Except Error Instrument := do
  instrument.checkLoad counter register value
  let loaded := instrument.putRegister counter register value
  if register = CounterRegister.load then
    return loaded.putRegister counter CounterRegister.count value
  else return loaded

/-- Set the running count of a counter to zero. -/
def clearCounter (instrument : Instrument) (counter : Int) : Except Error Instrument := do
  instrument.checkCounter counter
  return instrument.putRegister counter CounterRegister.count 0

/-- Set the running counts of counters from `low` on to zero. -/
def clearCounters (low : Int) : Nat → Instrument → Instrument
  | 0, instrument => instrument
  | count + 1, instrument =>
      clearCounters (low + 1) count (instrument.putRegister low CounterRegister.count 0)

/-- Accept a setup: one supported measurement, in modes that it supports. -/
def checkSetup (instrument : Instrument) (counter : Int) (setup : CounterSetup) :
    Except Error Unit := do
  instrument.checkCounter counter
  let measurements : Flags .measurement :=
    instrument.profile.mask .counter Item.Counter.measurements counter.toNat
  if !(setup.measurement.isSingle && measurements.contains setup.measurement) then
    .error .badCtrMeasureType
  else
    let modes : Flags .measurementMode :=
      instrument.profile.mask .counter Item.Counter.measurementModes setup.measurement.bits.toNat
    if modes.contains setup.mode then .ok () else .error .badCtrMeasureMode

/-- Set a counter up for counter scans. -/
def setupCounter (instrument : Instrument) (counter : Int) (setup : CounterSetup) :
    Except Error Instrument := do
  instrument.checkSetup counter setup
  return { instrument with counterSetups := instrument.counterSetups.set counter setup }

/-- Start a counter scan.  The counters start at zero unless they are to be kept. -/
def scanCounters (instrument : Instrument) (store : Store) (request : ScanRequest)
    (flags : Flags .counterScan) (buffer : Buffer UInt64) :
    Except Error (Float × Instrument) := do
  let columns ← columnsBetween .badCtr (fun counter => do
    instrument.checkCounter counter
    return .counter counter) request.low request.high
  let (rate, started) ← instrument.startScan store .counterIn
    ⟨request.options, request.samples, request.rate, columns, .words buffer⟩
  if flags.contains DataFlag.keepCount then return (rate, started)
  else return (rate, clearCounters request.low request.span started)

/-- The running count of a counter, set from outside. -/
def presetCounter (instrument : Instrument) (counter : Int) (value : UInt64) :
    Except Error Instrument := do
  instrument.checkCounter counter
  return instrument.putRegister counter CounterRegister.count value

end Acquisition.Instrument
