import Acquisition.Coded.Digital
import Acquisition.Profile
import Acquisition.Scan.Target

/-!
# What scans and triggers are held to

The checks of the driver look up the scan options, the rates and the triggers of a target
in a profile on their own.
-/

namespace Acquisition

/-- Where the scan options of a target are looked up.  Its rates have the same subject and
index. -/
def ScanTarget.optionsItem : ScanTarget → ItemKey
  | .analogIn => ⟨.analogIn, Item.AnalogIn.scanOptions, 0⟩
  | .analogOut => ⟨.analogOut, Item.AnalogOut.scanOptions, 0⟩
  | .digitalIn => ⟨.digital, Item.Digital.scanOptions, Coded.code Direction.input⟩
  | .digitalOut => ⟨.digital, Item.Digital.scanOptions, Coded.code Direction.output⟩
  | .counterIn => ⟨.counter, Item.Counter.scanOptions, 0⟩
  | .syncIn => ⟨.syncIn, Item.SyncIn.scanOptions, 0⟩
  | .syncOut => ⟨.syncOut, Item.SyncOut.scanOptions, 0⟩

/-- Where the triggers of a target are looked up. -/
def ScanTarget.triggersItem : ScanTarget → ItemKey
  | .analogIn => ⟨.analogIn, Item.AnalogIn.triggerKinds, 0⟩
  | .analogOut => ⟨.analogOut, Item.AnalogOut.triggerKinds, 0⟩
  | .digitalIn => ⟨.digital, Item.Digital.triggerKinds, Coded.code Direction.input⟩
  | .digitalOut => ⟨.digital, Item.Digital.triggerKinds, Coded.code Direction.output⟩
  | .counterIn => ⟨.counter, Item.Counter.triggerKinds, 0⟩
  | .syncIn => ⟨.syncIn, Item.SyncIn.triggerKinds, 0⟩
  | .syncOut => ⟨.syncOut, Item.SyncOut.triggerKinds, 0⟩

namespace Profile

/-- The scan options that a target supports. -/
def scanOptions (profile : Profile) (target : ScanTarget) : Flags .scanOption :=
  let place := target.optionsItem
  profile.mask place.subject place.item place.index

/-- The triggers that a scan target supports. -/
def triggerKinds (profile : Profile) (target : ScanTarget) : Flags .trigger :=
  let place := target.triggersItem
  profile.mask place.subject place.item place.index

/-- The lowest and the highest rate of a scan target. -/
def rateLimits (profile : Profile) (target : ScanTarget) : Except Error (Float × Float) := do
  let place := target.optionsItem
  let low ← profile.real place.subject Item.Pacing.minRate place.index
  let high ← profile.real place.subject Item.Pacing.maxRate place.index
  return (low, high)

end Profile

end Acquisition
