import Acquisition.Instrument.Scan
import Acquisition.Scan.Request

/-!
# Analog inputs and outputs

A single reading is bounded by its range.  Raw counts spread the range evenly
over the codes of the converter.
-/

namespace Acquisition.Instrument

/-- The greatest raw count of a converter, which has from 1 to 32 bits. -/
def fullCount (resolution : Int) : Float :=
  (Port.lowBits (min 32 (max 1 resolution)).toNat).toFloat

/-! ## Input -/

/-- The raw count of a voltage within limits. -/
def toCount (volts low high full : Float) : Float :=
  Number.round ((volts - low) / (high - low) * full)

/-- Read an analog input. -/
def readAnalog (instrument : Instrument) (channel : Int) (mode : InputMode) (range : Range)
    (flags : Flags .analogInRead) : Except Error Float := do
  instrument.checkAnalogIn channel mode range
  let (low, high) := range.limits
  let volts := Number.clamp (instrument.inputs.getD channel 0) low high
  if flags.contains DataFlag.unscaledRead then
    let full := fullCount
      (instrument.profile.integerD .analogIn Item.AnalogIn.resolution 0 16)
    return toCount volts low high full
  else return volts

/-- The columns of an analog input scan: the queue, or the requested channels if it is empty. -/
def analogInColumns (instrument : Instrument) (request : ScanRequest) (mode : InputMode)
    (range : Range) : Except Error (List Column) :=
  if instrument.queue.isEmpty then
    columnsBetween .badAiChan (fun channel => do
      instrument.checkAnalogIn channel mode range
      return .analog channel) request.low request.high
  else .ok (instrument.queue.map fun element => .analog element.channel)

/-- Start an analog input scan. -/
def scanAnalogIn (instrument : Instrument) (store : Store) (request : ScanRequest)
    (mode : InputMode) (range : Range) (buffer : Buffer Float) :
    Except Error (Float × Instrument) := do
  let columns ← instrument.analogInColumns request mode range
  instrument.startScan store .analogIn
    ⟨request.options, request.samples, request.rate, columns, .reals buffer⟩

/-- The longest queue in an input mode. -/
def maxQueueLength (instrument : Instrument) (mode : InputMode) : Int :=
  instrument.profile.integerD .analogIn Item.AnalogIn.maxQueueLength (Coded.code mode) 0

/-- Accept the elements of a queue. -/
def checkElements (instrument : Instrument) : List QueueElement → Except Error Unit
  | [] => .ok ()
  | element :: rest => do
      instrument.checkAnalogIn element.channel element.mode element.range
      instrument.checkElements rest

/-- Accept a queue.  The mode of its first element decides how long it may be. -/
def checkQueue (instrument : Instrument) (queue : List QueueElement) : Except Error Unit :=
  match queue with
  | [] => .ok ()
  | first :: _ =>
      if instrument.maxQueueLength first.mode < queue.length then .error .badQueueSize
      else instrument.checkElements queue

/-- Load the channel-gain queue; an empty one clears it. -/
def loadQueue (instrument : Instrument) (queue : List QueueElement) : Except Error Instrument := do
  instrument.checkQueue queue
  return { instrument with queue := queue }

/-! ## Output -/

/-- The voltage that a written value stands for. -/
def outputVolts (instrument : Instrument) (range : Range) (flags : Flags .analogOutWrite)
    (value : Float) : Except Error Float :=
  let (low, high) := range.limits
  if flags.contains DataFlag.unscaledWrite then
    let full := fullCount
      (instrument.profile.integerD .analogOut Item.AnalogOut.resolution 0 16)
    if 0 ≤ value ∧ value ≤ full then .ok (low + value / full * (high - low))
    else .error .badDaVal
  else if low ≤ value ∧ value ≤ high then .ok value
  else .error .badDaVal

/-- Write an analog output. -/
def writeAnalog (instrument : Instrument) (channel : Int) (range : Range)
    (flags : Flags .analogOutWrite) (value : Float) : Except Error Instrument := do
  instrument.checkAnalogOut channel range
  let volts ← instrument.outputVolts range flags value
  return { instrument with outputs := instrument.outputs.set channel volts }

/-- Start an analog output scan. -/
def scanAnalogOut (instrument : Instrument) (store : Store) (request : ScanRequest)
    (range : Range) (buffer : Buffer Float) : Except Error (Float × Instrument) := do
  let columns ← columnsBetween .badAoChan (fun channel => do
    instrument.checkAnalogOut channel range
    return .analog channel) request.low request.high
  instrument.startScan store .analogOut
    ⟨request.options, request.samples, request.rate, columns, .reals buffer⟩

end Acquisition.Instrument
