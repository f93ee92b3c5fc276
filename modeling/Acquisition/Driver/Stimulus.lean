import Acquisition.Driver.Bench
import Acquisition.Instrument.Counter

/-!
# What happens to devices from outside

A stimulus is not asked of the driver: time passes for a scan, hardware fails, a
signal is applied to an input, or a device is attached or detached.
-/

namespace Acquisition

/-- Influences from outside, by the type of their answer. -/
inductive Stimulus : Type → Type where
  | attach (descriptor : Descriptor) (profile : Profile) : Stimulus Unit
  /-- Pacer ticks for the scan on a target. -/
  | advance (handle : Handle) (target : ScanTarget) (rows : Nat) : Stimulus Transfer
  /-- A hardware error in the scan on a target. -/
  | abort (handle : Handle) (target : ScanTarget) (error : Error) : Stimulus Unit
  | setInput (handle : Handle) (channel : Int) (volts : Float) : Stimulus Unit
  | setLevels (handle : Handle) (port : PortKind) (levels : UInt64) : Stimulus Unit
  | presetCounter (handle : Handle) (counter : Int) (value : UInt64) : Stimulus Unit
  | unplug (handle : Handle) : Stimulus Unit

namespace Stimulus

/-- Apply a stimulus. -/
def apply {α : Type} (stimulus : Stimulus α) (bench : Bench) : Except Error (Outcome α) :=
  match stimulus with
  | .attach descriptor profile =>
      bench.change fun driver => .ok (driver.attach descriptor profile)
  | .advance handle target rows => do
      let device ← bench.driver.instrument handle
      let result := Instrument.advance target rows device bench.store
      return bench.moved handle (result.1.scanStatus target).2 result
  | .abort handle target error => do
      let device ← bench.driver.instrument handle
      let (device, firings) := device.abortScan target error
      return bench.moved handle () (device, bench.store, firings)
  | .setInput handle channel volts =>
      bench.adjust handle fun device =>
        .ok { device with inputs := device.inputs.set channel volts }
  | .setLevels handle port levels =>
      bench.adjust handle fun device =>
        device.updatePort port fun port => .ok { port with levels := levels }
  | .presetCounter handle counter value =>
      bench.adjust handle fun device => device.presetCounter counter value
  | .unplug handle => bench.adjust handle fun device => .ok device.unplug

end Stimulus

end Acquisition
