import Acquisition.Instrument

/-!
# What an instrument accepts

Channels, ranges, counters, registers, timers, ports and triggers are valid when
the profile reports them.
-/

namespace Acquisition.Instrument

/-! ## Analog channels -/

/-- How many channels there are in an input mode. -/
def channelCount (instrument : Instrument) (mode : InputMode) : Except Error Int :=
  match instrument.profile.integer .analogIn Item.AnalogIn.channelCountByMode (Coded.code mode) with
  | .ok count => .ok count
  | .error _ => .error .badInputMode

/-- The items of the number of ranges and of a range in an input mode. -/
def rangeItems : InputMode → Int × Int
  | .differential => (Item.AnalogIn.differentialRangeCount, Item.AnalogIn.differentialRange)
  | _ => (Item.AnalogIn.singleEndedRangeCount, Item.AnalogIn.singleEndedRange)

/-- The ranges that the profile reports for an input mode; invalid ones are left out. -/
def inputRanges (instrument : Instrument) (mode : InputMode) : List Range :=
  let (countItem, rangeItem) := rangeItems mode
  (List.range (instrument.profile.indexCount .analogIn countItem)).filterMap fun index =>
    (instrument.profile.integer .analogIn rangeItem index).toOption.bind Coded.ofCode?

/-- Accept an analog input with its mode and range. -/
def checkAnalogIn (instrument : Instrument) (channel : Int) (mode : InputMode) (range : Range) :
    Except Error Unit := do
  let count ← instrument.channelCount mode
  if channel < 0 ∨ count ≤ channel then .error .badAiChan
  else if (instrument.inputRanges mode).contains range then .ok ()
  else .error .badRange

/-- Accept the channel of an analog input setting. -/
def checkSettingChannel (instrument : Instrument) (channel : Nat) : Except Error Unit :=
  if (channel : Int) < instrument.profile.integerD .analogIn Item.AnalogIn.channelCount 0 0 then
    .ok ()
  else .error .badAiChan

/-- Whether the profile reports a range for the analog outputs. -/
def hasOutputRange (instrument : Instrument) (range : Range) : Bool :=
  (List.range (instrument.profile.indexCount .analogOut Item.AnalogOut.rangeCount)).any fun index =>
    instrument.profile.integers.get? ⟨.analogOut, Item.AnalogOut.range, index⟩ =
      some (Coded.code range : Int)

/-- Accept an analog output with its range. -/
def checkAnalogOut (instrument : Instrument) (channel : Int) (range : Range) :
    Except Error Unit :=
  let count := instrument.profile.integerD .analogOut Item.AnalogOut.channelCount 0 0
  if channel < 0 ∨ count ≤ channel then .error .badAoChan
  else if instrument.hasOutputRange range then .ok ()
  else .error .badRange

/-! ## Counters and timers -/

/-- Accept a counter. -/
def checkCounter (instrument : Instrument) (counter : Int) : Except Error Unit :=
  let count := instrument.profile.integerD .counter Item.Counter.count 0 0
  if counter < 0 ∨ count ≤ counter then .error .badCtr else .ok ()

/-- Accept a single register of a counter. -/
def checkRegister (instrument : Instrument) (register : Flags .register) : Except Error Unit :=
  let supported : Flags .register := instrument.profile.mask .counter Item.Counter.registers 0
  if register.isSingle && supported.contains register then .ok () else .error .badCtrReg

/-- The largest value of a register. -/
def counterMax (instrument : Instrument) : UInt64 :=
  Port.lowBits (instrument.profile.integerD .counter Item.Counter.resolution 0 32).toNat

/-- Accept a timer. -/
def checkTimer (instrument : Instrument) (timer : Int) : Except Error Unit :=
  let count := instrument.profile.integerD .timer Item.Timer.count 0 0
  if timer < 0 ∨ count ≤ timer then .error .badTmr else .ok ()

/-! ## Ports -/

/-- The port of a kind. -/
def port (instrument : Instrument) (kind : PortKind) : Except Error Port :=
  match instrument.ports.find? fun port => port.kind = kind with
  | some port => .ok port
  | none => .error .badPortType

/-- Change the port of a kind. -/
def updatePort (instrument : Instrument) (kind : PortKind) (change : Port → Except Error Port) :
    Except Error Instrument := do
  return { instrument with ports := ← Port.updateFirst kind change instrument.ports }

/-- The port with a code. -/
def portColumn (instrument : Instrument) (code : Int) : Except Error Column :=
  match (Coded.ofCode? code : Option PortKind) with
  | some kind => do
      let _ ← instrument.port kind
      return .port kind
  | none => .error .badPortType

/-- The ports whose codes lie between two codes, in the order of the device. -/
def portColumns (instrument : Instrument) (low high : Int) : Except Error (List Column) :=
  let inside := instrument.ports.filter fun port =>
    low ≤ (Coded.code port.kind : Int) && (Coded.code port.kind : Int) ≤ high
  if inside.isEmpty then .error .badPortType
  else .ok (inside.map fun port => .port port.kind)

/-! ## Runs of channel numbers -/

/-- The columns of `count` channel numbers from `low` on, up to the first refusal. -/
def columnsFrom (column : Int → Except Error Column) (low : Int) : Nat → Except Error (List Column)
  | 0 => .ok []
  | count + 1 => do
      let first ← column low
      return first :: (← columnsFrom column (low + 1) count)

/-- The columns of the channel numbers from `low` to `high`; an empty run is an error. -/
def columnsBetween (empty : Error) (column : Int → Except Error Column) (low high : Int) :
    Except Error (List Column) :=
  if high < low then .error empty
  else columnsFrom column low (high - low + 1).toNat

/-! ## Triggers -/

/-- Accept a trigger of exactly one supported kind. -/
def checkTrigger (supported : Flags .trigger) (trigger : Trigger) : Except Error Unit :=
  if trigger.kind.isSingle && supported.contains trigger.kind then .ok ()
  else .error .badTrigType

end Acquisition.Instrument
