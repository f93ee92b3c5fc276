import Acquisition.Coded.Analog
import Acquisition.Coded.Range
import Acquisition.Device.Property
import Acquisition.Profile.Facility

/-!
# What a device is able to do

The properties of a device as a whole, of its scans and of each of its
subsystems.  Properties that come in a row are asked for by position.
-/

namespace Acquisition

/-! ## What a device as a whole reports -/

namespace Property

/-- The event kinds that a device can raise. -/
def eventKinds : Property (List (Flags .event)) :=
  flags .event .device Item.Device.eventKinds 0

/-- The regions of memory that a device has. -/
def memoryRegions : Property (List (Flags .memoryRegion)) :=
  flags .memoryRegion .device Item.Device.memoryRegions 0

end Property

/-! ## What is reported about scanning -/

namespace Scanning

/-- The scan options of a target. -/
def options (target : ScanTarget) : Property (List (Flags .scanOption)) :=
  let facility := Facility.ofTarget target
  .flags .scanOption facility.subject facility.scanOptions facility.index

/-- The triggers of a target. -/
def triggerKinds (target : ScanTarget) : Property (List (Flags .trigger)) :=
  let facility := Facility.ofTarget target
  .flags .trigger facility.subject facility.triggerKinds facility.index

/-- How much fits in the transfer memory of a target. -/
def fifoSize (target : ScanTarget) : Property Nat :=
  let facility := Facility.ofTarget target
  .count facility.subject facility.fifoSize facility.index

/-- A rate that is reported for a target. -/
def rate (target : ScanTarget) (item : Facility → Int) : Property Float :=
  let facility := Facility.ofTarget target
  .rate facility.subject (item facility) facility.index

/-- The lowest rate of a target. -/
def minRate (target : ScanTarget) : Property Float :=
  rate target Facility.minRate

/-- The highest rate of a target. -/
def maxRate (target : ScanTarget) : Property Float :=
  rate target Facility.maxRate

/-- The highest rate of all channels of a target together. -/
def maxThroughput (target : ScanTarget) : Property Float :=
  rate target Facility.maxThroughput

end Scanning

/-! ## What the analog inputs report -/

namespace AnalogIn

/-- Bits of a raw count. -/
def resolution : Property Nat :=
  .quantity .analogIn Item.AnalogIn.resolution 0

/-- The number of channels. -/
def channelCount : Property Nat :=
  .count .analogIn Item.AnalogIn.channelCount 0

/-- The number of channels in an input mode. -/
def channelCountIn (mode : InputMode) : Property Nat :=
  .count .analogIn Item.AnalogIn.channelCountByMode (Coded.code mode)

/-- The number of channels that measure something. -/
def channelCountOf (kind : Flags .analogChannel) : Property Nat :=
  .count .analogIn Item.AnalogIn.channelCountByKind kind.bits.toNat

/-- What channels can measure. -/
def channelKinds : Property (List (Flags .analogChannel)) :=
  .flags .analogChannel .analogIn Item.AnalogIn.channelKinds 0

/-- Whether scans are paced by the device. -/
def hasPacer : Property Bool :=
  .present .analogIn Item.AnalogIn.hasPacer 0

/-- The number of ranges in an input mode. -/
def rangeCount (mode : InputMode) : Property Nat :=
  .indices .analogIn <| match mode with
    | .differential => Item.AnalogIn.differentialRangeCount
    | _ => Item.AnalogIn.singleEndedRangeCount

/-- The range at a position in an input mode. -/
def rangeAt (mode : InputMode) (position : Nat) : Property Range :=
  let item := match mode with
    | .differential => Item.AnalogIn.differentialRange
    | _ => Item.AnalogIn.singleEndedRange
  .coded Range .analogIn item position

/-- The longest channel-gain queue in an input mode. -/
def maxQueueLength (mode : InputMode) : Property Nat :=
  .count .analogIn Item.AnalogIn.maxQueueLength (Coded.code mode)

/-- What may vary within the queue. -/
def queueKinds : Property (List (Flags .queueKind)) :=
  .flags .queueKind .analogIn Item.AnalogIn.queueKinds 0

/-- The restrictions on the queue. -/
def queueLimits : Property (List (Flags .queueLimit)) :=
  .flags .queueLimit .analogIn Item.AnalogIn.queueLimits 0

/-- The highest burst rate. -/
def maxBurstRate : Property Float :=
  .rate .analogIn Item.AnalogIn.maxBurstRate 0

/-- The highest burst throughput. -/
def maxBurstThroughput : Property Float :=
  .rate .analogIn Item.AnalogIn.maxBurstThroughput 0

end AnalogIn

/-! ## What the analog outputs report -/

namespace AnalogOut

/-- Bits of a raw count. -/
def resolution : Property Nat :=
  .quantity .analogOut Item.AnalogOut.resolution 0

/-- The number of channels. -/
def channelCount : Property Nat :=
  .count .analogOut Item.AnalogOut.channelCount 0

/-- Whether scans are paced by the device. -/
def hasPacer : Property Bool :=
  .present .analogOut Item.AnalogOut.hasPacer 0

/-- The number of ranges. -/
def rangeCount : Property Nat :=
  .indices .analogOut Item.AnalogOut.rangeCount

/-- The range at a position. -/
def rangeAt (position : Nat) : Property Range :=
  .coded Range .analogOut Item.AnalogOut.range position

end AnalogOut

/-! ## What the digital ports report -/

namespace Digital

/-- The number of ports. -/
def portCount : Property Nat :=
  .count .digital Item.Digital.portCount 0

/-- The number of positions at which a port can be. -/
def positionCount : Property Nat :=
  .indices .digital Item.Digital.portCount

/-- The port at a position. -/
def portAt (position : Nat) : Property PortKind :=
  .coded PortKind .digital Item.Digital.portKind position

/-- The code of the port at a position, whether a port has it or not. -/
def portCodeAt (position : Nat) : Property Int :=
  .plain .digital Item.Digital.portKind position

/-- How the direction of the port at a position can be chosen. -/
def accessAt (position : Nat) : Property PortAccess :=
  .coded PortAccess .digital Item.Digital.portAccess position

/-- The bits of the port at a position. -/
def bitCountAt (position : Nat) : Property Nat :=
  .quantity .digital Item.Digital.bitCount position

/-- Whether scans in a direction are paced by the device. -/
def hasPacer (direction : Direction) : Property Bool :=
  .present .digital Item.Digital.hasPacer (Coded.code direction)

end Digital

/-! ## What the counters report -/

namespace Counter

/-- The number of counters. -/
def count : Property Nat :=
  .count .counter Item.Counter.count 0

/-- What a counter can measure. -/
def measurements (counter : Nat) : Property (List (Flags .measurement)) :=
  .flags .measurement .counter Item.Counter.measurements counter

/-- The modes of a measurement. -/
def measurementModes (measurement : Flags .measurement) :
    Property (List (Flags .measurementMode)) :=
  .flags .measurementMode .counter Item.Counter.measurementModes measurement.bits.toNat

/-- The registers of a counter. -/
def registers : Property (List (Flags .register)) :=
  .flags .register .counter Item.Counter.registers 0

/-- The width of a counter in bits. -/
def resolution : Property Nat :=
  .quantity .counter Item.Counter.resolution 0

/-- Whether scans are paced by the device. -/
def hasPacer : Property Bool :=
  .present .counter Item.Counter.hasPacer 0

end Counter

/-! ## What the timers report -/

namespace Timer

/-- The number of timers. -/
def count : Property Nat :=
  .count .timer Item.Timer.count 0

/-- The kind of a timer. -/
def kind (timer : Nat) : Property TimerKind :=
  .coded TimerKind .timer Item.Timer.kind timer

/-- The lowest frequency of a timer. -/
def minFrequency (timer : Nat) : Property Float :=
  .rate .timer Item.Timer.minFrequency timer

/-- The highest frequency of a timer. -/
def maxFrequency (timer : Nat) : Property Float :=
  .rate .timer Item.Timer.maxFrequency timer

end Timer

/-! ## What synchronous input and output report -/

namespace SyncIn

/-- The kinds of channel. -/
def channelKinds : Property (List (Flags .syncInChannel)) :=
  .flags .syncInChannel .syncIn Item.SyncIn.channelKinds 0

end SyncIn

namespace SyncOut

/-- The kinds of channel. -/
def channelKinds : Property (List (Flags .syncOutChannel)) :=
  .flags .syncOutChannel .syncOut Item.SyncOut.channelKinds 0

end SyncOut

end Acquisition
