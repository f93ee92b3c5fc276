import Acquisition.Instrument.Scan
import Acquisition.Scan.Request

/-!
# Digital scans

Digital scans take the ports whose codes lie in the requested range.  An output
scan needs an output bit on each of them.
-/

namespace Acquisition.Instrument

/-- Start a digital input scan. -/
def scanDigitalIn (instrument : Instrument) (store : Store) (request : ScanRequest)
    (buffer : Buffer UInt64) : Except Error (Float × Instrument) := do
  let columns ← instrument.portColumns request.low request.high
  instrument.startScan store .digitalIn
    ⟨request.options, request.samples, request.rate, columns, .words buffer⟩

/-- Whether a column is a port without an output bit. -/
def isUndriven (instrument : Instrument) : Column → Bool
  | .port kind =>
      match instrument.port kind with
      | .ok port => port.outputs = 0
      | .error _ => true
  | _ => false

/-- Start a digital output scan. -/
def scanDigitalOut (instrument : Instrument) (store : Store) (request : ScanRequest)
    (buffer : Buffer UInt64) : Except Error (Float × Instrument) := do
  let columns ← instrument.portColumns request.low request.high
  if columns.any instrument.isUndriven then .error .wrongDigConfig
  else
    instrument.startScan store .digitalOut
      ⟨request.options, request.samples, request.rate, columns, .words buffer⟩

end Acquisition.Instrument
