import Acquisition.Buffer.Samples
import Acquisition.Buffer.Store
import Acquisition.Channel
import Acquisition.Coded
import Acquisition.Coded.Activity
import Acquisition.Coded.Analog
import Acquisition.Coded.Catalogue
import Acquisition.Coded.Counting
import Acquisition.Coded.Digital
import Acquisition.Coded.Range
import Acquisition.CounterSetup
import Acquisition.Descriptor
import Acquisition.Device
import Acquisition.Device.Capability
import Acquisition.Device.Inquiry
import Acquisition.Device.Lifecycle
import Acquisition.Device.Operation
import Acquisition.Device.Property
import Acquisition.Device.Scan
import Acquisition.Device.Setting
import Acquisition.Driver
import Acquisition.Driver.Bench
import Acquisition.Driver.Notice
import Acquisition.Driver.Request
import Acquisition.Driver.Stimulus
import Acquisition.Error
import Acquisition.Event
import Acquisition.Flags
import Acquisition.Flags.Family
import Acquisition.Instrument
import Acquisition.Instrument.Analog
import Acquisition.Instrument.Binding
import Acquisition.Instrument.Check
import Acquisition.Instrument.Counter
import Acquisition.Instrument.Digital
import Acquisition.Instrument.Memory
import Acquisition.Instrument.Scan
import Acquisition.Instrument.Setting
import Acquisition.Instrument.Sync
import Acquisition.Instrument.Timer
import Acquisition.Instrument.Trigger
import Acquisition.Library
import Acquisition.MemoryArea
import Acquisition.MemoryCells
import Acquisition.Notice
import Acquisition.Number.Decimal
import Acquisition.Number.Hexadecimal
import Acquisition.Number.Rounding
import Acquisition.Number.Word
import Acquisition.Port
import Acquisition.PortInfo
import Acquisition.Profile
import Acquisition.Profile.Facility
import Acquisition.Profile.Item
import Acquisition.Profile.Limits
import Acquisition.Profile.Multifunction
import Acquisition.Proofs.Closing
import Acquisition.Proofs.Consistent
import Acquisition.Proofs.Contention
import Acquisition.Proofs.DataAvailable
import Acquisition.Proofs.Isolation
import Acquisition.Proofs.Pinning
import Acquisition.Proofs.ReadBack
import Acquisition.Pulse
import Acquisition.Scan.Request
import Acquisition.Scan.Run
import Acquisition.Scan.Target
import Acquisition.Scan.Transfer
import Acquisition.Table
import Acquisition.Text.Field
import Acquisition.Text.Quoted
import Acquisition.Text.Unassigned
import Acquisition.Text.Unprintable
import Acquisition.Text.Utf8
import Acquisition.Trigger
import Acquisition.World
import Acquisition.Procedure
import Acquisition.Driver.InPlace
import Acquisition.Proofs.Procedure
import Acquisition.Proofs.Atomic
import Acquisition.Proofs.ScanLaw
import Acquisition.Proofs.Batch
import Acquisition.Proofs.Interleaved
import Acquisition.Proofs.Connection
import Acquisition.Proofs.History
import Acquisition.Proofs.Released
import Acquisition.Proofs.Registry
import Acquisition.Proofs.Endings
import Acquisition.Proofs.Doubles
import Acquisition.Proofs.Integers
import Acquisition.Proofs.Latch
import Acquisition.Proofs.PortViews
import Acquisition.Proofs.Advertised
import Acquisition.Proofs.Alone
import Acquisition.Proofs.Playback
import Acquisition.Proofs.Queue
import Acquisition.Proofs.Window
import Acquisition.Proofs.Unleaked
import Acquisition.Proofs.Tuning
import Acquisition.Proofs.Tally
import Acquisition.Proofs.Settings
import Acquisition.Proofs.Configured
import Acquisition.Proofs.Bindings
import Acquisition.Proofs.Memory
import Acquisition.Proofs.PortBits
import Acquisition.Proofs.Spacing
import Acquisition.Proofs.Bitwise
import Acquisition.Proofs.Normalized
import Acquisition.Proofs.QueueLimits
import Acquisition.Proofs.SingleReads
import Acquisition.Proofs.Expansion
import Acquisition.Proofs.Shortened
import Acquisition.Proofs.Armed
