import Acquisition.Profile.Limits

/-!
# What is reported about scanning

Each scan target has its own items for scan options, triggers and transfer
memory; the digital targets share theirs and are told apart by their direction.
The rates are numbered alike for all of them.  The driver has a table of its own for
what it checks, and the two agree (`optionsItem_eq`, `triggersItem_eq`, `rates_eq`).
-/

namespace Acquisition

/-- Where a profile reports what a scan target can do. -/
structure Facility where
  subject : Subject
  index : Nat := 0
  scanOptions : Int
  triggerKinds : Int
  fifoSize : Int
  minRate : Int := Item.Pacing.minRate
  maxRate : Int := Item.Pacing.maxRate
  maxThroughput : Int := Item.Pacing.maxThroughput
  deriving DecidableEq, Repr

namespace Facility

/-- The items of the digital ports in a direction. -/
def digital (direction : Direction) : Facility where
  subject := .digital
  index := Coded.code direction
  scanOptions := Item.Digital.scanOptions
  triggerKinds := Item.Digital.triggerKinds
  fifoSize := Item.Digital.fifoSize

/-- The items of a scan target. -/
def ofTarget : ScanTarget → Facility
  | .analogIn => {
      subject := .analogIn
      scanOptions := Item.AnalogIn.scanOptions
      triggerKinds := Item.AnalogIn.triggerKinds
      fifoSize := Item.AnalogIn.fifoSize }
  | .analogOut => {
      subject := .analogOut
      scanOptions := Item.AnalogOut.scanOptions
      triggerKinds := Item.AnalogOut.triggerKinds
      fifoSize := Item.AnalogOut.fifoSize }
  | .digitalIn => digital .input
  | .digitalOut => digital .output
  | .counterIn => {
      subject := .counter
      scanOptions := Item.Counter.scanOptions
      triggerKinds := Item.Counter.triggerKinds
      fifoSize := Item.Counter.fifoSize }
  | .syncIn => {
      subject := .syncIn
      scanOptions := Item.SyncIn.scanOptions
      triggerKinds := Item.SyncIn.triggerKinds
      fifoSize := Item.SyncIn.fifoSize }
  | .syncOut => {
      subject := .syncOut
      scanOptions := Item.SyncOut.scanOptions
      triggerKinds := Item.SyncOut.triggerKinds
      fifoSize := Item.SyncOut.fifoSize }

/-! ## What is told and what is checked -/

/-- The scan options that are told are those that a start is checked against. -/
theorem optionsItem_eq (target : ScanTarget) : target.optionsItem =
    ⟨(ofTarget target).subject, (ofTarget target).scanOptions, (ofTarget target).index⟩ := by
  cases target <;> rfl

/-- The triggers that are told are those that a trigger is checked against. -/
theorem triggersItem_eq (target : ScanTarget) : target.triggersItem =
    ⟨(ofTarget target).subject, (ofTarget target).triggerKinds, (ofTarget target).index⟩ := by
  cases target <;> rfl

/-- The rates that are told are numbered as those that a start is checked against. -/
theorem rates_eq (target : ScanTarget) :
    (ofTarget target).minRate = Item.Pacing.minRate ∧
      (ofTarget target).maxRate = Item.Pacing.maxRate := by
  cases target <;> exact ⟨rfl, rfl⟩

end Facility

end Acquisition
