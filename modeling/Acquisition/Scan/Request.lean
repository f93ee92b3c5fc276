import Acquisition.Error
import Acquisition.Flags

/-!
# Scan requests

What a caller asks for when starting a scan over a run of channel numbers.
-/

namespace Acquisition

/-- A request to scan the channels from `low` to `high`. -/
structure ScanRequest where
  low : Int
  high : Int
  /-- Samples per channel. -/
  samples : Int
  /-- Samples per channel and second. -/
  rate : Float
  options : Flags .scanOption

namespace ScanRequest

/-- How many channels the request names. -/
def span (request : ScanRequest) : Nat :=
  (request.high - request.low + 1).toNat

/-- How many channels are counted for the request.  The count is made in 32 bits, which it
wraps around in, and a negative one is zero. -/
def channelCount (request : ScanRequest) : Nat :=
  (Int32.ofInt request.high - Int32.ofInt request.low + 1).toInt.toNat

/-- How many samples a buffer has to hold, by the channels that are counted. -/
def requiredLength (request : ScanRequest) : Nat :=
  request.channelCount * request.samples.toNat

end ScanRequest

/-- The greatest sample count that a request can carry. -/
def maxSampleCount : Nat :=
  2147483647

/-- A sample count as a request carries it. -/
def sampleCount (samples : Nat) : Except Error Int :=
  if samples ≤ maxSampleCount then .ok samples else .error .badSampleCount

end Acquisition
