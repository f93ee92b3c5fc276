import Acquisition.Coded.Analog
import Acquisition.Coded.Digital
import Acquisition.Coded.Range
import Acquisition.Profile

/-!
# A multifunction device

Eight 18-bit analog inputs (four differential), two analog outputs, an auxiliary
port configured by bit and one 8-bit port, four counters, two timers, synchronous
input and output, calibration memory and user memory.  It has no burst mode.
-/

namespace Acquisition.Profile.Multifunction

/-- The value of a mask that holds the flags with the given names. -/
def mask (family : Family) (names : List String) : Int :=
  (Flags.named names : Flags family).bits.toNat

/-- The scan options of every part that can scan. -/
def scanOptions : Int :=
  mask .scanOption
    ["SINGLEIO", "BLOCKIO", "CONTINUOUS", "EXTCLOCK", "EXTTRIGGER", "RETRIGGER", "PACEROUT"]

/-- The triggers of digital lines. -/
def digitalTriggers : Int :=
  mask .trigger ["POS_EDGE", "NEG_EDGE", "HIGH", "LOW"]

/-- The triggers of digital lines and analog levels. -/
def analogTriggers : Int :=
  mask .trigger
    ["POS_EDGE", "NEG_EDGE", "HIGH", "LOW", "RISING", "FALLING", "ABOVE", "BELOW"]

/-- The ranges of the analog inputs. -/
def inputRanges : List Range :=
  [.bip10Volts, .bip5Volts, .uni10Volts, .uni5Volts]

/-- Integer items of one subject, as number, index and value. -/
abbrev Items :=
  List (Int × Nat × Int)

/-- Real items of one subject, as number, index and value. -/
abbrev RealItems :=
  List (Int × Nat × Float)

/-- Items of the device as a whole. -/
def deviceItems : Items :=
  [(Item.Device.hasAnalogIn, 0, 1), (Item.Device.hasAnalogOut, 0, 1),
   (Item.Device.hasDigital, 0, 1), (Item.Device.hasCounters, 0, 1),
   (Item.Device.hasTimers, 0, 1), (Item.Device.hasSyncIn, 0, 1),
   (Item.Device.hasSyncOut, 0, 1),
   (Item.Device.eventKinds, 0, (Flags.all : Flags .event).bits.toNat)]

/-- Items of the analog inputs. -/
def analogInItems : Items :=
  let fixed : Items :=
   [(Item.AnalogIn.resolution, 0, 18), (Item.AnalogIn.channelCount, 0, 8),
   (Item.AnalogIn.channelCountByMode, Coded.code InputMode.differential, 4),
   (Item.AnalogIn.channelCountByMode, Coded.code InputMode.singleEnded, 8),
   (Item.AnalogIn.channelCountByKind, 1, 8),
   (Item.AnalogIn.channelKinds, 0, mask .analogChannel ["VOLTAGE"]),
   (Item.AnalogIn.scanOptions, 0, scanOptions), (Item.AnalogIn.hasPacer, 0, 1),
   (Item.AnalogIn.differentialRangeCount, 0, inputRanges.length),
   (Item.AnalogIn.singleEndedRangeCount, 0, inputRanges.length),
   (Item.AnalogIn.triggerKinds, 0, analogTriggers),
   (Item.AnalogIn.maxQueueLength, Coded.code InputMode.differential, 4),
   (Item.AnalogIn.maxQueueLength, Coded.code InputMode.singleEnded, 8),
   (Item.AnalogIn.queueKinds, 0, mask .queueKind ["CHAN_QUEUE", "GAIN_QUEUE", "MODE_QUEUE"]),
   (Item.AnalogIn.queueLimits, 0, mask .queueLimit ["UNIQUE_CHAN", "ASCENDING_CHAN"]),
   (Item.AnalogIn.fifoSize, 0, 4096)]
  fixed ++ inputRanges.zipIdx.flatMap fun (range, index) =>
    [(Item.AnalogIn.differentialRange, index, (Coded.code range : Int)),
     (Item.AnalogIn.singleEndedRange, index, (Coded.code range : Int))]

/-- Items of the analog outputs. -/
def analogOutItems : Items :=
  [(Item.AnalogOut.resolution, 0, 16), (Item.AnalogOut.channelCount, 0, 2),
   (Item.AnalogOut.scanOptions, 0, scanOptions), (Item.AnalogOut.hasPacer, 0, 1),
   (Item.AnalogOut.rangeCount, 0, 1), (Item.AnalogOut.range, 0, Coded.code Range.bip10Volts),
   (Item.AnalogOut.triggerKinds, 0, digitalTriggers), (Item.AnalogOut.fifoSize, 0, 2048)]

/-- Items of the digital ports. -/
def digitalItems : Items :=
  let fixed : Items :=
   [(Item.Digital.portCount, 0, 2),
   (Item.Digital.portKind, 0, Coded.code PortKind.auxPort),
   (Item.Digital.portKind, 1, Coded.code PortKind.firstPortA),
   (Item.Digital.portAccess, 0, Coded.code PortAccess.bitIo),
   (Item.Digital.portAccess, 1, Coded.code PortAccess.bidirectional),
   (Item.Digital.bitCount, 0, 4), (Item.Digital.bitCount, 1, 8)]
  fixed ++ (Coded.all : List Direction).flatMap fun direction =>
    [(Item.Digital.hasPacer, Coded.code direction, 1),
     (Item.Digital.scanOptions, Coded.code direction, scanOptions),
     (Item.Digital.triggerKinds, Coded.code direction, digitalTriggers),
     (Item.Digital.fifoSize, Coded.code direction, 2048)]

/-- Items of the counters: two for events and periods, two for encoders. -/
def counterItems : Items :=
  let general := mask .measurement ["COUNT", "PERIOD", "PULSE_WIDTH", "TIMING"]
  let encoder := mask .measurement ["ENCODER"]
  [(Item.Counter.count, 0, 4),
   (Item.Counter.measurements, 0, general), (Item.Counter.measurements, 1, general),
   (Item.Counter.measurements, 2, encoder), (Item.Counter.measurements, 3, encoder),
   (Item.Counter.measurementModes, 1, mask .measurementMode
      ["CLEAR_ON_READ", "COUNT_DOWN", "GATE_CONTROLS_DIR", "GATE_CLEARS_CTR", "GATE_TRIG_SRC",
       "OUTPUT_ON", "OUTPUT_INITIAL_STATE_HIGH", "NO_RECYCLE", "RANGE_LIMIT_ON"]),
   (Item.Counter.measurementModes, 2, mask .measurementMode
      ["PERIOD_X10", "PERIOD_X100", "PERIOD_X1000", "PERIOD_GATING_ON", "PERIOD_INVERT_GATE"]),
   (Item.Counter.measurementModes, 4, mask .measurementMode
      ["PULSE_WIDTH_GATING_ON", "PULSE_WIDTH_INVERT_GATE"]),
   (Item.Counter.measurementModes, 8, mask .measurementMode ["TIMING_MODE_INVERT_GATE"]),
   (Item.Counter.measurementModes, 16, mask .measurementMode
      ["ENCODER_X2", "ENCODER_X4", "ENCODER_LATCH_ON_Z", "ENCODER_CLEAR_ON_Z",
       "ENCODER_NO_RECYCLE", "ENCODER_RANGE_LIMIT_ON", "ENCODER_Z_ACTIVE_EDGE"]),
   (Item.Counter.registers, 0, (Flags.all : Flags .register).bits.toNat),
   (Item.Counter.resolution, 0, 32), (Item.Counter.hasPacer, 0, 1),
   (Item.Counter.scanOptions, 0, scanOptions),
   (Item.Counter.triggerKinds, 0, digitalTriggers), (Item.Counter.fifoSize, 0, 4096)]

/-- Items of the timers. -/
def timerItems : Items :=
  [(Item.Timer.count, 0, 2),
   (Item.Timer.kind, 0, Coded.code TimerKind.advanced),
   (Item.Timer.kind, 1, Coded.code TimerKind.advanced)]

/-- Items of synchronous input. -/
def syncInItems : Items :=
  [(Item.SyncIn.channelKinds, 0,
     mask .syncInChannel ["ANALOG_DIFF", "ANALOG_SE", "DIGITAL", "CTR32"]),
   (Item.SyncIn.scanOptions, 0, scanOptions), (Item.SyncIn.triggerKinds, 0, analogTriggers),
   (Item.SyncIn.fifoSize, 0, 4096)]

/-- Items of synchronous output. -/
def syncOutItems : Items :=
  [(Item.SyncOut.channelKinds, 0, mask .syncOutChannel ["ANALOG", "DIGITAL"]),
   (Item.SyncOut.scanOptions, 0, scanOptions), (Item.SyncOut.triggerKinds, 0, analogTriggers),
   (Item.SyncOut.fifoSize, 0, 2048)]

/-- Every integer item by its subject. -/
def items : List (Subject × Items) :=
  [(.device, deviceItems), (.analogIn, analogInItems), (.analogOut, analogOutItems),
   (.digital, digitalItems), (.counter, counterItems), (.timer, timerItems),
   (.syncIn, syncInItems), (.syncOut, syncOutItems)]

/-- The rates of a part that can scan, at an index. -/
def rates (index : Nat) (highest throughput : Float) : RealItems :=
  [(Item.Pacing.minRate, index, 0.0149), (Item.Pacing.maxRate, index, highest),
   (Item.Pacing.maxThroughput, index, throughput)]

/-- Every real item by its subject. -/
def realItems : List (Subject × RealItems) :=
  [(.analogIn, rates 0 200000 1600000), (.analogOut, rates 0 500000 1000000),
   (.digital, (Coded.all : List Direction).flatMap fun direction =>
     rates (Coded.code direction) 500000 8000000),
   (.counter, rates 0 200000 1600000),
   (.timer, (List.range 2).flatMap fun timer =>
     [(Item.Timer.minFrequency, timer, 0.0149), (Item.Timer.maxFrequency, timer, 32000000)]),
   (.syncIn, rates 0 200000 1600000), (.syncOut, rates 0 500000 1000000)]

/-- The profile with its items and nothing beside them. -/
def reported : Profile :=
  let integral := items.foldl (fun profile (subject, list) =>
    list.foldl (fun profile (item, index, value) =>
      profile.withInteger subject item index value) profile) Profile.empty
  realItems.foldl (fun profile (subject, list) =>
    list.foldl (fun profile (item, index, value) =>
      profile.withReal subject item index value) profile) integral

end Multifunction

/-- The multifunction device. -/
def multifunction : Profile :=
  Multifunction.reported
    |>.withVersion .fwMain "1.02"
    |>.withVersion .fpga "3.00"
    |>.withMemory ⟨.named ["CAL"], 0x7000, 0x1000, MemoryAccess.read⟩
    |>.withMemory ⟨.named ["USER"], 0, 256, MemoryAccess.read.union MemoryAccess.write⟩
    |>.withCalibration 1600000000 "2020-09-13 12:26:40"

end Acquisition.Profile
