/-!
# Families of flags

A family names single bits of a 32-bit word, in the order they are declared.
A member of a family stands for one condition or capability; sets of them are
the subject of `Acquisition.Flags`.
-/

namespace Acquisition

/-- Families of flags. -/
inductive Family where
  /-- Transports a device is attached through. -/
  | transport
  /-- What an analog input channel measures. -/
  | analogChannel
  /-- What may vary within a channel-gain queue. -/
  | queueKind
  /-- Restrictions on the channels of a channel-gain queue. -/
  | queueLimit
  /-- Conditions that start a scan. -/
  | trigger
  /-- How a scan is paced and transferred. -/
  | scanOption
  /-- Options of a single analog reading. -/
  | analogInRead
  /-- Options of an analog input scan. -/
  | analogInScan
  /-- Options of a single analog write. -/
  | analogOutWrite
  /-- Options of an analog output scan. -/
  | analogOutScan
  /-- Options of a counter scan. -/
  | counterScan
  /-- Options of a digital input scan. -/
  | digitalInScan
  /-- Options of a digital output scan. -/
  | digitalOutScan
  /-- Options of a counter setup. -/
  | counterSetup
  /-- Options of a synchronous input scan. -/
  | syncInScan
  /-- Options of a synchronous output scan. -/
  | syncOutScan
  /-- What a counter measures. -/
  | measurement
  /-- How a counter measures it. -/
  | measurementMode
  /-- Registers of a counter. -/
  | register
  /-- Kinds of channel in a synchronous input scan. -/
  | syncInChannel
  /-- Kinds of channel in a synchronous output scan. -/
  | syncOutChannel
  /-- How a pulse train is started. -/
  | pulseOption
  /-- Conditions that run an event handler. -/
  | event
  /-- Regions of device memory. -/
  | memoryRegion
  /-- What may be done with a region of device memory. -/
  | memoryAccess
  deriving DecidableEq, Repr

namespace Family

/-- Every family. -/
def all : List Family :=
  [.transport, .analogChannel, .queueKind, .queueLimit, .trigger, .scanOption, .analogInRead,
   .analogInScan, .analogOutWrite, .analogOutScan, .counterScan, .digitalInScan,
   .digitalOutScan, .counterSetup, .syncInScan, .syncOutScan, .measurement, .measurementMode,
   .register, .syncInChannel, .syncOutChannel, .pulseOption, .event, .memoryRegion,
   .memoryAccess]

/-- The name a family is shown under. -/
def typeName : Family → String
  | .transport => "InterfaceType"
  | .analogChannel => "AiChanType"
  | .queueKind => "AiQueueType"
  | .queueLimit => "AiChanQueueLimitation"
  | .trigger => "TriggerType"
  | .scanOption => "ScanOption"
  | .analogInRead => "AInFlag"
  | .analogInScan => "AInScanFlag"
  | .analogOutWrite => "AOutFlag"
  | .analogOutScan => "AOutScanFlag"
  | .counterScan => "CInScanFlag"
  | .digitalInScan => "DInScanFlag"
  | .digitalOutScan => "DOutScanFlag"
  | .counterSetup => "CConfigScanFlag"
  | .syncInScan => "DaqInScanFlag"
  | .syncOutScan => "DaqOutScanFlag"
  | .measurement => "CounterMeasurementType"
  | .measurementMode => "CounterMeasurementMode"
  | .register => "CounterRegisterType"
  | .syncInChannel => "DaqInChanType"
  | .syncOutChannel => "DaqOutChanType"
  | .pulseOption => "PulseOutOption"
  | .event => "DaqEventType"
  | .memoryRegion => "MemRegion"
  | .memoryAccess => "MemAccessType"

/-- The named bits of a family, in the order they are declared. -/
def members : Family → List (String × UInt32)
  | .transport => [("USB", 0x1), ("BLUETOOTH", 0x2), ("ETHERNET", 0x4)]
  | .analogChannel => [("VOLTAGE", 0x1), ("TC", 0x2), ("RTD", 0x4), ("THERMISTOR", 0x8),
      ("SEMICONDUCTOR", 0x10), ("DISABLED", 0x40000000)]
  | .queueKind => [("CHAN_QUEUE", 0x1), ("GAIN_QUEUE", 0x2), ("MODE_QUEUE", 0x4)]
  | .queueLimit => [("UNIQUE_CHAN", 0x1), ("ASCENDING_CHAN", 0x2), ("CONSECUTIVE_CHAN", 0x4)]
  | .trigger => [("POS_EDGE", 0x1), ("NEG_EDGE", 0x2), ("HIGH", 0x4), ("LOW", 0x8),
      ("GATE_HIGH", 0x10), ("GATE_LOW", 0x20), ("RISING", 0x40), ("FALLING", 0x80),
      ("ABOVE", 0x100), ("BELOW", 0x200), ("GATE_ABOVE", 0x400), ("GATE_BELOW", 0x800),
      ("GATE_IN_WINDOW", 0x1000), ("GATE_OUT_WINDOW", 0x2000), ("PATTERN_EQ", 0x4000),
      ("PATTERN_NE", 0x8000), ("PATTERN_ABOVE", 0x10000), ("PATTERN_BELOW", 0x20000)]
  | .scanOption => [("SINGLEIO", 0x1), ("BLOCKIO", 0x2), ("BURSTIO", 0x4), ("CONTINUOUS", 0x8),
      ("EXTCLOCK", 0x10), ("EXTTRIGGER", 0x20), ("RETRIGGER", 0x40), ("BURSTMODE", 0x80),
      ("PACEROUT", 0x100)]
  | .analogInRead => [("NOSCALEDATA", 0x1), ("NOCALIBRATEDATA", 0x2)]
  | .analogInScan => [("NOSCALEDATA", 0x1), ("NOCALIBRATEDATA", 0x2)]
  | .analogOutWrite => [("NOSCALEDATA", 0x1), ("NOCALIBRATEDATA", 0x2)]
  | .analogOutScan => [("NOSCALEDATA", 0x1), ("NOCALIBRATEDATA", 0x2)]
  | .counterScan => [("CTR16_BIT", 0x1), ("CTR32_BIT", 0x2), ("CTR64_BIT", 0x4),
      ("NOCLEAR", 0x8)]
  | .digitalInScan => []
  | .digitalOutScan => []
  | .counterSetup => []
  | .syncInScan => [("NOSCALEDATA", 0x1), ("NOCALIBRATEDATA", 0x2), ("NOCLEAR", 0x8)]
  | .syncOutScan => [("NOSCALEDATA", 0x1), ("NOCALIBRATEDATA", 0x2)]
  | .measurement => [("COUNT", 0x1), ("PERIOD", 0x2), ("PULSE_WIDTH", 0x4), ("TIMING", 0x8),
      ("ENCODER", 0x10)]
  | .measurementMode => [("CLEAR_ON_READ", 0x1), ("COUNT_DOWN", 0x2),
      ("GATE_CONTROLS_DIR", 0x4), ("GATE_CLEARS_CTR", 0x8), ("GATE_TRIG_SRC", 0x10),
      ("OUTPUT_ON", 0x20), ("OUTPUT_INITIAL_STATE_HIGH", 0x40), ("NO_RECYCLE", 0x80),
      ("RANGE_LIMIT_ON", 0x100), ("GATING_ON", 0x200), ("INVERT_GATE", 0x400),
      ("PERIOD_X10", 0x800), ("PERIOD_X100", 0x1000), ("PERIOD_X1000", 0x2000),
      ("PERIOD_GATING_ON", 0x4000), ("PERIOD_INVERT_GATE", 0x8000),
      ("PULSE_WIDTH_GATING_ON", 0x10000), ("PULSE_WIDTH_INVERT_GATE", 0x20000),
      ("TIMING_MODE_INVERT_GATE", 0x40000), ("ENCODER_X2", 0x80000), ("ENCODER_X4", 0x100000),
      ("ENCODER_LATCH_ON_Z", 0x200000), ("ENCODER_CLEAR_ON_Z", 0x400000),
      ("ENCODER_NO_RECYCLE", 0x800000), ("ENCODER_RANGE_LIMIT_ON", 0x1000000),
      ("ENCODER_Z_ACTIVE_EDGE", 0x2000000)]
  | .register => [("COUNT", 0x1), ("LOAD", 0x2), ("MIN_LIMIT", 0x4), ("MAX_LIMIT", 0x8),
      ("OUTPUT_VAL0", 0x10), ("OUTPUT_VAL1", 0x20)]
  | .syncInChannel => [("ANALOG_DIFF", 0x1), ("ANALOG_SE", 0x2), ("DIGITAL", 0x4),
      ("CTR16", 0x8), ("CTR32", 0x10), ("CTR48", 0x20)]
  | .syncOutChannel => [("ANALOG", 0x1), ("DIGITAL", 0x2)]
  | .pulseOption => [("EXTTRIGGER", 0x20), ("RETRIGGER", 0x40)]
  | .event => [("ON_DATA_AVAILABLE", 0x1), ("ON_INPUT_SCAN_ERROR", 0x2),
      ("ON_END_OF_INPUT_SCAN", 0x4), ("ON_OUTPUT_SCAN_ERROR", 0x8),
      ("ON_END_OF_OUTPUT_SCAN", 0x10)]
  | .memoryRegion => [("CAL", 0x1), ("USER", 0x2), ("SETTINGS", 0x4)]
  | .memoryAccess => [("READ", 0x1), ("WRITE", 0x2)]

/-- The family shown under a name. -/
def ofTypeName? (name : String) : Option Family :=
  all.find? fun family => family.typeName = name

/-- Every family is listed. -/
theorem mem_all (family : Family) : family ∈ all := by
  cases family <;> decide

end Family

end Acquisition
