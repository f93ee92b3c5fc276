import Acquisition.Instrument.Digital
import Acquisition.Instrument.Sync
import Acquisition.Proofs.Row

/-!
# Starts of scans

The seven ways of starting a scan differ in the columns they ask for and in what
they do to counters once the scan runs.  `ScanStart.perform_eq` writes all of them
as one sequence: find the columns, accept the plan, launch it.
-/

namespace Acquisition

/-- A scan that is asked for. -/
inductive ScanStart where
  | analogIn (request : ScanRequest) (mode : InputMode) (range : Range) (buffer : Buffer Float)
  | analogOut (request : ScanRequest) (range : Range) (buffer : Buffer Float)
  | digitalIn (request : ScanRequest) (buffer : Buffer UInt64)
  | digitalOut (request : ScanRequest) (buffer : Buffer UInt64)
  | counters (request : ScanRequest) (flags : Flags .counterScan) (buffer : Buffer UInt64)
  | syncIn (channels : List (SyncChannel .syncInChannel)) (samples : Int) (rate : Float)
      (options : Flags .scanOption) (buffer : Buffer Float)
  | syncOut (channels : List (SyncChannel .syncOutChannel)) (samples : Int) (rate : Float)
      (options : Flags .scanOption) (buffer : Buffer Float)

namespace ScanStart

/-- The target that the scan is to run on. -/
def target : ScanStart → ScanTarget
  | analogIn .. => .analogIn
  | analogOut .. => .analogOut
  | digitalIn .. => .digitalIn
  | digitalOut .. => .digitalOut
  | counters .. => .counterIn
  | syncIn .. => .syncIn
  | syncOut .. => .syncOut

/-- The buffer that is handed over. -/
def buffer : ScanStart → ScanBuffer
  | analogIn _ _ _ buffer => .reals buffer
  | analogOut _ _ buffer => .reals buffer
  | digitalIn _ buffer => .words buffer
  | digitalOut _ buffer => .words buffer
  | counters _ _ buffer => .words buffer
  | syncIn _ _ _ _ buffer => .reals buffer
  | syncOut _ _ _ _ buffer => .reals buffer

/-- The samples per channel that are asked for. -/
def samples : ScanStart → Int
  | analogIn request _ _ _ | analogOut request _ _ | digitalIn request _ | digitalOut request _
  | counters request _ _ => request.samples
  | syncIn _ samples _ _ _ | syncOut _ samples _ _ _ => samples

/-- The options that are asked for. -/
def options : ScanStart → Flags .scanOption
  | analogIn request _ _ _ | analogOut request _ _ | digitalIn request _ | digitalOut request _
  | counters request _ _ => request.options
  | syncIn _ _ _ options _ | syncOut _ _ _ options _ => options

/-- The rate that is asked for. -/
def rate : ScanStart → Float
  | analogIn request _ _ _ | analogOut request _ _ | digitalIn request _ | digitalOut request _
  | counters request _ _ => request.rate
  | syncIn _ _ rate _ _ | syncOut _ _ rate _ _ => rate

/-- The columns that the device has for the scan. -/
def columns (instrument : Instrument) : ScanStart → Except Error (List Column)
  | analogIn request mode range _ => instrument.analogInColumns request mode range
  | analogOut request range _ =>
      Instrument.columnsBetween .badAoChan (fun channel => do
        instrument.checkAnalogOut channel range
        return .analog channel) request.low request.high
  | digitalIn request _ => instrument.portColumns request.low request.high
  | digitalOut request _ => do
      let columns ← instrument.portColumns request.low request.high
      if columns.any instrument.isUndriven then .error .wrongDigConfig else return columns
  | counters request _ _ =>
      Instrument.columnsBetween .badCtr (fun counter => do
        instrument.checkCounter counter
        return .counter counter) request.low request.high
  | syncIn channels _ _ _ _ => Instrument.columnsOf instrument.syncInColumn channels
  | syncOut channels _ _ _ _ => Instrument.columnsOf instrument.syncOutColumn channels

/-- The plan of the scan over some columns. -/
def plan (columns : List Column) (start : ScanStart) : ScanPlan :=
  match start with
  | analogIn request _ _ _ | analogOut request _ _ | digitalIn request _ | digitalOut request _
  | counters request _ _ =>
      ⟨request.options, request.samples, request.rate, columns, start.buffer⟩
  | syncIn _ samples rate options _ | syncOut _ samples rate options _ =>
      ⟨options, samples, rate, columns, start.buffer⟩

/-- What happens to the counters of a device on which the scan has been launched. -/
def settle (instrument : Instrument) : ScanStart → Instrument
  | counters request flags _ =>
      if flags.contains DataFlag.keepCount then instrument
      else Instrument.clearCounters request.low request.span instrument
  | _ => instrument

/-- Ask a device for the scan. -/
def perform (instrument : Instrument) (store : Store) :
    ScanStart → Except Error (Float × Instrument)
  | analogIn request mode range buffer => instrument.scanAnalogIn store request mode range buffer
  | analogOut request range buffer => instrument.scanAnalogOut store request range buffer
  | digitalIn request buffer => instrument.scanDigitalIn store request buffer
  | digitalOut request buffer => instrument.scanDigitalOut store request buffer
  | counters request flags buffer => instrument.scanCounters store request flags buffer
  | syncIn channels samples rate options buffer =>
      instrument.scanSyncIn store channels samples rate options buffer
  | syncOut channels samples rate options buffer =>
      instrument.scanSyncOut store channels samples rate options buffer

@[simp]
theorem plan_columns (columns : List Column) (start : ScanStart) :
    (start.plan columns).columns = columns := by
  cases start <;> rfl

@[simp]
theorem plan_buffer (columns : List Column) (start : ScanStart) :
    (start.plan columns).buffer = start.buffer := by
  cases start <;> rfl

@[simp]
theorem plan_samples (columns : List Column) (start : ScanStart) :
    (start.plan columns).samples = start.samples := by
  cases start <;> rfl

@[simp]
theorem plan_options (columns : List Column) (start : ScanStart) :
    (start.plan columns).options = start.options := by
  cases start <;> rfl

@[simp]
theorem plan_rate (columns : List Column) (start : ScanStart) :
    (start.plan columns).rate = start.rate := by
  cases start <;> rfl

/-- Every start finds its columns, accepts its plan and launches it. -/
theorem perform_eq (instrument : Instrument) (store : Store) (start : ScanStart) :
    start.perform instrument store = (do
      let columns ← start.columns instrument
      let rate ← instrument.checkPlan store start.target (start.plan columns)
      return (rate, start.settle (instrument.launch start.target (start.plan columns)))) := by
  cases start with
  | analogIn request mode range buffer => rfl
  | analogOut request range buffer => rfl
  | digitalIn request buffer => rfl
  | digitalOut request buffer =>
      simp only [perform, columns, Instrument.scanDigitalOut]
      cases instrument.portColumns request.low request.high with
      | error error => rfl
      | ok columns =>
          simp only [bind, Except.bind]
          split <;> rfl
  | counters request flags words =>
      simp only [perform, columns, Instrument.scanCounters]
      congr 1
      funext columns
      simp only [Instrument.startScan, settle, target, plan, buffer]
      cases instrument.checkPlan store .counterIn
        ⟨request.options, request.samples, request.rate, columns, .words words⟩ with
      | error error => rfl
      | ok rate =>
          simp only [bind, Except.bind, pure, Except.pure]
          split <;> rfl
  | syncIn channels samples rate options buffer => rfl
  | syncOut channels samples rate options buffer => rfl

theorem perform_eq_ok_iff {instrument after : Instrument} {store : Store} {start : ScanStart}
    {rate : Float} :
    start.perform instrument store = .ok (rate, after) ↔
      ∃ columns, start.columns instrument = .ok columns ∧
        instrument.checkPlan store start.target (start.plan columns) = .ok rate ∧
        after = start.settle (instrument.launch start.target (start.plan columns)) := by
  simp only [perform_eq, bind_eq_ok_iff, pure_eq_ok_iff, Prod.mk.injEq]
  constructor
  · rintro ⟨columns, found, _, accepted, rfl, rfl⟩
    exact ⟨columns, found, accepted, rfl⟩
  · rintro ⟨columns, found, accepted, rfl⟩
    exact ⟨columns, found, rate, accepted, rfl, rfl⟩

end ScanStart

namespace Instrument

theorem clearCounters_alike (low : Int) (count : Nat) (instrument : Instrument) :
    instrument.Alike (clearCounters low count instrument) := by
  induction count generalizing low instrument with
  | zero => exact .refl instrument
  | succ count ih =>
      have cleared : instrument.Alike (instrument.putRegister low CounterRegister.count 0) := {}
      exact cleared.trans (ih _ _)

theorem settle_alike (instrument : Instrument) (start : ScanStart) :
    instrument.Alike (start.settle instrument) := by
  cases start with
  | counters request flags buffer =>
      simp only [ScanStart.settle]
      split
      · exact .refl instrument
      · exact clearCounters_alike _ _ _
  | _ => exact .refl instrument

/-! ## Accepted plans -/

/-- What an accepted plan has passed. -/
structure Accepted (instrument : Instrument) (store : Store) (target : ScanTarget)
    (plan : ScanPlan) : Prop where
  isIdle : instrument.isRunning target = false
  samples_pos : 0 < plan.samples
  columns_ne_nil : plan.columns ≠ []
  fits : plan.columns.length * plan.samples.toNat ≤ plan.buffer.size store
  options : (instrument.profile.scanOptions target).contains plan.options = true

theorem accepted_of_checkPlan {instrument : Instrument} {store : Store} {target : ScanTarget}
    {plan : ScanPlan} {rate : Float}
    (checked : instrument.checkPlan store target plan = .ok rate) :
    instrument.Accepted store target plan := by
  unfold checkPlan at checked
  split at checked
  · contradiction
  next idle =>
    split at checked
    · contradiction
    next positive =>
      split at checked
      · contradiction
      next nonempty =>
        split at checked
        · contradiction
        next large =>
          split at checked
          · contradiction
          next supported =>
            exact {
              isIdle := by simpa using idle
              samples_pos := by omega
              columns_ne_nil := by simpa using nonempty
              fits := by omega
              options := by simpa using supported }

end Instrument

end Acquisition
