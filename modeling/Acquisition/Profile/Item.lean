/-!
# Item numbers

A device reports and takes its properties under numbered items.  Each section
lists the items of one subject.
-/

namespace Acquisition.Item

/-! ## Items of the library itself -/

namespace Library

/-- The version text. -/
def version : Int := 2000

/-- The priority of USB transfers, from 0 to 99. -/
def transferPriority : Int := 1

end Library

/-! ## Items of a device as a whole -/

namespace Device

/-- Whether there are analog inputs. -/
def hasAnalogIn : Int := 1

/-- Whether there are analog outputs. -/
def hasAnalogOut : Int := 2

/-- Whether there are digital ports. -/
def hasDigital : Int := 3

/-- Whether there are counters. -/
def hasCounters : Int := 4

/-- Whether there are timers. -/
def hasTimers : Int := 5

/-- Whether there is synchronous input. -/
def hasSyncIn : Int := 6

/-- Whether there is synchronous output. -/
def hasSyncOut : Int := 7

/-- The mask of event kinds. -/
def eventKinds : Int := 8

/-- The mask of memory regions. -/
def memoryRegions : Int := 9

/-- A version text, by component. -/
def versionText : Int := 2000

end Device

/-! ## Items of the analog inputs -/

namespace AnalogIn

/-- Bits of a raw count. -/
def resolution : Int := 1

/-- Number of channels. -/
def channelCount : Int := 2

/-- Number of channels, by input mode. -/
def channelCountByMode : Int := 3

/-- Number of channels, by what they measure. -/
def channelCountByKind : Int := 4

/-- The mask of what channels measure. -/
def channelKinds : Int := 5

/-- The mask of scan options. -/
def scanOptions : Int := 6

/-- Whether scans are paced by the device. -/
def hasPacer : Int := 7

/-- Number of ranges of differential inputs. -/
def differentialRangeCount : Int := 8

/-- Number of ranges of single-ended inputs. -/
def singleEndedRangeCount : Int := 9

/-- A range of differential inputs, by position. -/
def differentialRange : Int := 10

/-- A range of single-ended inputs, by position. -/
def singleEndedRange : Int := 11

/-- The mask of triggers. -/
def triggerKinds : Int := 12

/-- The longest channel-gain queue, by input mode. -/
def maxQueueLength : Int := 13

/-- The mask of what may vary in the queue. -/
def queueKinds : Int := 14

/-- The mask of restrictions on the queue. -/
def queueLimits : Int := 15

/-- Samples that fit in the transfer memory. -/
def fifoSize : Int := 16

/-- The highest burst rate. -/
def maxBurstRate : Int := 1003

/-- The highest burst throughput. -/
def maxBurstThroughput : Int := 1004

end AnalogIn

/-! ## Settings of the analog inputs -/

namespace AnalogInSetting

/-- What a channel measures. -/
def channelKind : Int := 1

/-- The thermocouple on a channel. -/
def thermocouple : Int := 2

/-- The temperature unit of a channel. -/
def channelTemperatureUnit : Int := 3

/-- The temperature unit of the device. -/
def temperatureUnit : Int := 4

/-- The converter timing of the device. -/
def converterTiming : Int := 5

/-- The zero correction of the device. -/
def autoZero : Int := 6

/-- Seconds from the epoch to the calibration. -/
def calibrationDate : Int := 7

/-- The sensor supply of a channel. -/
def excitation : Int := 8

/-- The coupling of a channel. -/
def coupling : Int := 9

/-- The slope that scales a channel. -/
def slope : Int := 1000

/-- The offset that shifts a channel. -/
def offset : Int := 1001

/-- The sensor sensitivity of a channel. -/
def sensitivity : Int := 1002

/-- The text of the calibration date. -/
def calibrationText : Int := 2000

end AnalogInSetting

/-! ## Items of the analog outputs -/

namespace AnalogOut

/-- Bits of a raw count. -/
def resolution : Int := 1

/-- Number of channels. -/
def channelCount : Int := 2

/-- The mask of scan options. -/
def scanOptions : Int := 3

/-- Whether scans are paced by the device. -/
def hasPacer : Int := 4

/-- Number of ranges. -/
def rangeCount : Int := 5

/-- A range, by position. -/
def range : Int := 6

/-- The mask of triggers. -/
def triggerKinds : Int := 7

/-- Samples that fit in the transfer memory. -/
def fifoSize : Int := 8

end AnalogOut

/-! ## Items of the digital ports, by position of the port or by direction -/

namespace Digital

/-- Number of ports. -/
def portCount : Int := 1

/-- The port at a position. -/
def portKind : Int := 2

/-- How the direction of the port can be chosen. -/
def portAccess : Int := 3

/-- Bits of the port. -/
def bitCount : Int := 4

/-- Whether scans are paced by the device, by direction. -/
def hasPacer : Int := 5

/-- The mask of scan options, by direction. -/
def scanOptions : Int := 6

/-- The mask of triggers, by direction. -/
def triggerKinds : Int := 7

/-- Samples that fit in the transfer memory, by direction. -/
def fifoSize : Int := 8

end Digital

/-! ## Settings of the digital ports -/

namespace DigitalSetting

/-- The mask of output bits of the port at a position. -/
def directionMask : Int := 1

end DigitalSetting

/-! ## Items of the counters -/

namespace Counter

/-- Number of counters. -/
def count : Int := 1

/-- The mask of measurements of a counter. -/
def measurements : Int := 2

/-- The mask of modes of a measurement. -/
def measurementModes : Int := 3

/-- The mask of registers. -/
def registers : Int := 4

/-- Bits of a counter. -/
def resolution : Int := 5

/-- Whether scans are paced by the device. -/
def hasPacer : Int := 6

/-- The mask of scan options. -/
def scanOptions : Int := 7

/-- The mask of triggers. -/
def triggerKinds : Int := 8

/-- Samples that fit in the transfer memory. -/
def fifoSize : Int := 9

end Counter

/-! ## Items of the timers -/

namespace Timer

/-- Number of timers. -/
def count : Int := 1

/-- The kind of a timer. -/
def kind : Int := 2

/-- The lowest frequency of a timer. -/
def minFrequency : Int := 1000

/-- The highest frequency of a timer. -/
def maxFrequency : Int := 1001

end Timer

/-! ## Items of synchronous input -/

namespace SyncIn

/-- The mask of channel kinds. -/
def channelKinds : Int := 1

/-- The mask of scan options. -/
def scanOptions : Int := 2

/-- The mask of triggers. -/
def triggerKinds : Int := 3

/-- Samples that fit in the transfer memory. -/
def fifoSize : Int := 4

end SyncIn

/-! ## Items of synchronous output -/

namespace SyncOut

/-- The mask of channel kinds. -/
def channelKinds : Int := 1

/-- The mask of scan options. -/
def scanOptions : Int := 2

/-- The mask of triggers. -/
def triggerKinds : Int := 3

/-- Samples that fit in the transfer memory. -/
def fifoSize : Int := 4

end SyncOut

/-! ## Rates, numbered alike for every part that can scan -/

namespace Pacing

/-- The lowest rate. -/
def minRate : Int := 1000

/-- The highest rate. -/
def maxRate : Int := 1001

/-- The highest rate of all channels together. -/
def maxThroughput : Int := 1002

end Pacing

end Acquisition.Item
