import Acquisition.Coded.Analog
import Acquisition.Coded.Digital
import Acquisition.Coded.Range
import Acquisition.Flags

/-!
# Channels of queues and synchronous scans

An element of the channel-gain queue is an analog channel with its input mode
and range.  A channel of a synchronous scan has a kind; its number is an analog
channel, the code of a port or a counter, depending on the kind.  On the wire
each is a list of integers.
-/

namespace Acquisition

/-- An element of the channel-gain queue. -/
structure QueueElement where
  channel : Int
  mode : InputMode
  range : Range
  deriving DecidableEq, Repr

namespace QueueElement

/-- The integers of an element. -/
def toCodes (element : QueueElement) : List Int :=
  [element.channel, Coded.code element.mode, Coded.code element.range]

end QueueElement

/-- A channel of a synchronous scan whose kinds belong to `family`. -/
structure SyncChannel (family : Family) where
  channel : Int
  kind : Flags family
  range : Range
  deriving DecidableEq, Repr

namespace SyncChannel

variable {family : Family}

/-- The integers of a channel. -/
def toCodes (channel : SyncChannel family) : List Int :=
  [channel.channel, channel.kind.bits.toNat, Coded.code channel.range]

/-- The channel given by its integers. -/
def ofCodes (channel : Int) (kind : UInt32) (range : Int) : Except Error (SyncChannel family) := do
  return ⟨channel, ⟨kind⟩, ← Coded.ofCode range⟩

/-- The channel of a whole input port. -/
def ofPort (port : PortKind) : SyncChannel .syncInChannel :=
  ⟨Coded.code port, digitalIn, .bip10Volts⟩

end SyncChannel

end Acquisition
