import Acquisition.Instrument.Scan
import Acquisition.Proofs.Adjustment
import Acquisition.Proofs.Storage

/-!
# What moving rows changes

Sampling and driving leave alone what scans and events depend on, and no transfer
changes the shape of the store.  The lemmas on `moveRow` say what one row changes;
`advance_induction` carries what a row keeps over to any number of rows.
-/

namespace Acquisition

/-! ## Records of one scan -/

namespace ScanRun

@[simp]
theorem next_buffer (run : ScanRun) : run.next.buffer = run.buffer :=
  rfl

@[simp]
theorem next_samples (run : ScanRun) : run.next.samples = run.samples :=
  rfl

@[simp]
theorem next_width (run : ScanRun) : run.next.width = run.width :=
  rfl

/-- A scan runs on after a row if it is continuous or has more rows. -/
theorem isRunning_next (run : ScanRun) :
    run.next.isRunning =
      (run.isRunning && (run.isContinuous || decide (run.transfer.scanCount + 1 < run.samples))) := by
  cases continuous : run.isContinuous with
  | true => simp [next, isRunning, continuous]
  | false =>
      by_cases more : run.transfer.scanCount + 1 < run.samples
      · simp [next, isRunning, Transfer.next, continuous, more, Nat.not_le.mpr more]
      · simp [next, isRunning, Transfer.next, continuous, more, Nat.le_of_not_lt more]

/-- A record of the same scan, which has been started with the same plan. -/
structure Continues (first later : ScanRun) : Prop where
  columns : later.columns = first.columns := by rfl
  samples : later.samples = first.samples := by rfl
  buffer : later.buffer = first.buffer := by rfl

theorem Continues.trans {first middle last : ScanRun} (left : first.Continues middle)
    (right : middle.Continues last) : first.Continues last where
  columns := right.columns.trans left.columns
  samples := right.samples.trans left.samples
  buffer := right.buffer.trans left.buffer

end ScanRun

namespace Instrument

/-! ## Samples -/

theorem sample_alike (instrument : Instrument) (column : Column) :
    instrument.Alike (instrument.sample column).2 := by
  cases column with
  | analog channel => exact {}
  | counter counter => exact {}
  | port kind =>
      simp only [sample]
      split <;> exact {}

theorem drive_alike (instrument : Instrument) (value : Float) (column : Column) :
    instrument.Alike (instrument.drive value column) := by
  cases column with
  | analog channel => exact {}
  | counter counter => exact {}
  | port kind =>
      simp only [drive]
      split
      · next ports updated =>
          refine { portKinds := Port.kinds_of_updateFirst ?_ updated }
          intro port changed accepted
          exact (Except.ok.inj accepted) ▸ rfl
      · exact {}

theorem acquire_alike (buffer : ScanBuffer) (columns : List Column) (index : Nat)
    (instrument : Instrument) (store : Store) :
    instrument.Alike (acquire buffer columns index instrument store).1 := by
  induction columns generalizing index instrument store with
  | nil => exact .refl instrument
  | cons column rest ih => exact (instrument.sample_alike column).trans (ih _ _ _)

theorem generate_alike (buffer : ScanBuffer) (store : Store) (columns : List Column)
    (index : Nat) (instrument : Instrument) :
    instrument.Alike (generate buffer store columns index instrument) := by
  induction columns generalizing index instrument with
  | nil => exact .refl instrument
  | cons column rest ih =>
      simp only [generate]
      split
      · exact (instrument.drive_alike _ column).trans (ih _ _)
      · exact ih _ _

theorem shape_acquire (buffer : ScanBuffer) (columns : List Column) (index : Nat)
    (instrument : Instrument) (store : Store) :
    (acquire buffer columns index instrument store).2.shape = store.shape := by
  induction columns generalizing index instrument store with
  | nil => rfl
  | cons column rest ih =>
      simp only [acquire]
      rw [ih, Store.shape_put]

section Row

variable (instrument : Instrument) (store : Store) (target : ScanTarget) (run : ScanRun)

theorem moveSamples_alike :
    instrument.Alike (instrument.moveSamples store target run).1 := by
  unfold moveSamples
  split
  · exact acquire_alike _ _ _ _ _
  · exact generate_alike _ _ _ _ _

theorem shape_moveSamples :
    (instrument.moveSamples store target run).2.shape = store.shape := by
  unfold moveSamples
  split
  · exact shape_acquire _ _ _ _ _
  · rfl

/-! ## One row -/

@[simp]
theorem moveRow_scans :
    (instrument.moveRow store target run).1.scans = instrument.scans.set target run.next := by
  simp [moveRow, (instrument.moveSamples_alike store target run).scans]

@[simp]
theorem moveRow_bindings :
    (instrument.moveRow store target run).1.bindings =
      if target.isInput then instrument.bindings.map fun binding => binding.pass run.next.transfer
      else instrument.bindings := by
  simp [moveRow, (instrument.moveSamples_alike store target run).bindings]

@[simp]
theorem moveRow_firings :
    (instrument.moveRow store target run).2.2 =
      rowFirings instrument.bindings target run.next := by
  simp [moveRow, (instrument.moveSamples_alike store target run).bindings]

theorem moveRow_store :
    (instrument.moveRow store target run).2.1 = (instrument.moveSamples store target run).2 :=
  rfl

@[simp]
theorem shape_moveRow : (instrument.moveRow store target run).2.1.shape = store.shape :=
  instrument.shape_moveSamples store target run

/-- But for its scans and bindings, a device is after a row as it was before. -/
theorem moveRow_alike :
    instrument.Alike { (instrument.moveRow store target run).1 with
      scans := instrument.scans, bindings := instrument.bindings } where
  profile := (instrument.moveSamples_alike store target run).profile
  isPresent := (instrument.moveSamples_alike store target run).isPresent
  isConnected := (instrument.moveSamples_alike store target run).isConnected
  queue := (instrument.moveSamples_alike store target run).queue
  portKinds := (instrument.moveSamples_alike store target run).portKinds

@[simp]
theorem running?_moveRow :
    (instrument.moveRow store target run).1.running? target =
      if run.next.isRunning then some run.next else none := by
  simp [running?, Option.filter]

theorem get?_moveRow_of_ne {other : ScanTarget} (ne : other ≠ target) :
    (instrument.moveRow store target run).1.scans.get? other = instrument.scans.get? other := by
  rw [moveRow_scans, Table.get?_set_of_ne _ ne]

end Row

/-! ## Many rows -/

theorem running?_eq_some_iff {instrument : Instrument} {target : ScanTarget} {run : ScanRun} :
    instrument.running? target = some run ↔
      instrument.scans.get? target = some run ∧ run.isRunning = true := by
  simp [running?, Option.filter_eq_some_iff]

@[simp]
theorem advance_zero (target : ScanTarget) (instrument : Instrument) (store : Store) :
    advance target 0 instrument store = (instrument, store, []) :=
  rfl

/-- A scan that is not running does not advance. -/
theorem advance_of_not_running {target : ScanTarget} {instrument : Instrument}
    (idle : instrument.running? target = none) (rows : Nat) (store : Store) :
    advance target rows instrument store = (instrument, store, []) := by
  cases rows with
  | zero => rfl
  | succ rows => simp [advance, idle]

/-- A running scan advances by one row and then by the others. -/
theorem advance_succ {target : ScanTarget} {instrument : Instrument} {run : ScanRun}
    (running : instrument.running? target = some run) (rows : Nat) (store : Store) :
    advance target (rows + 1) instrument store =
      let moved := instrument.moveRow store target run
      let rest := advance target rows moved.1 moved.2.1
      (rest.1, rest.2.1, moved.2.2 ++ rest.2.2) := by
  simp [advance, running]

/-- What every row of a running scan keeps holds after any number of rows. -/
theorem advance_induction {target : ScanTarget} {P : Instrument → Store → Prop}
    (row : ∀ instrument store run, P instrument store → instrument.running? target = some run →
      P (instrument.moveRow store target run).1 (instrument.moveRow store target run).2.1)
    (rows : Nat) {instrument : Instrument} {store : Store} (holds : P instrument store) :
    P (advance target rows instrument store).1 (advance target rows instrument store).2.1 := by
  induction rows generalizing instrument store with
  | zero => exact holds
  | succ rows ih =>
      cases running : instrument.running? target with
      | none => rw [advance_of_not_running running]; exact holds
      | some run =>
          rw [advance_succ running]
          exact ih (row instrument store run holds running)

theorem shape_advance (target : ScanTarget) (rows : Nat) (instrument : Instrument)
    (store : Store) : (advance target rows instrument store).2.1.shape = store.shape := by
  refine advance_induction (P := fun _ later => later.shape = store.shape) ?_ rows rfl
  intro instrument later run kept _
  rw [shape_moveRow, kept]

/-- A scan that advances leaves the scans on the other targets alone. -/
theorem get?_advance_of_ne {target other : ScanTarget} (ne : other ≠ target) (rows : Nat)
    (instrument : Instrument) (store : Store) :
    (advance target rows instrument store).1.scans.get? other = instrument.scans.get? other := by
  refine advance_induction
    (P := fun later _ => later.scans.get? other = instrument.scans.get? other) ?_ rows rfl
  intro later store run kept _
  rw [get?_moveRow_of_ne later store target run ne, kept]

/-- A scan that is advanced stays the scan that was started. -/
theorem continues_advance {target : ScanTarget} {instrument : Instrument} {run : ScanRun}
    (recorded : instrument.scans.get? target = some run) (rows : Nat) (store : Store) :
    ∃ later, (advance target rows instrument store).1.scans.get? target = some later ∧
      run.Continues later := by
  refine advance_induction
    (P := fun device _ => ∃ later, device.scans.get? target = some later ∧ run.Continues later)
    ?_ rows ⟨run, recorded, {}⟩
  rintro device store record ⟨later, found, continues⟩ moving
  obtain rfl := Option.some.inj (found.symm.trans (running?_eq_some_iff.mp moving).1)
  exact ⟨later.next, by rw [moveRow_scans, Table.get?_set_self], continues.trans {}⟩

/-- A scan without `continuous` that is told to finish advances; any other one is left. -/
theorem finishScan_eq_ok_iff {instrument : Instrument} {store : Store} {target : ScanTarget}
    {result : Instrument × Store × List Firing} :
    instrument.finishScan store target = .ok result ↔
      (instrument.running? target = none ∧ result = (instrument, store, [])) ∨
      ∃ run, instrument.running? target = some run ∧ run.isContinuous = false ∧
        result = advance target run.remaining instrument store := by
  unfold finishScan
  cases instrument.running? target with
  | none =>
      simp only [Except.ok.injEq, true_and, reduceCtorEq, false_and, exists_false, or_false]
      exact eq_comm
  | some run =>
      cases continuous : run.isContinuous with
      | true => simp [continuous]
      | false =>
          simp only [continuous, Bool.false_eq_true, if_false, Except.ok.injEq, reduceCtorEq,
            false_and, Option.some.injEq, false_or, exists_eq_left', true_and]
          exact eq_comm

/-- Finishing a scan is advancing it by some number of rows. -/
theorem advance_of_finishScan {instrument : Instrument} {store : Store} {target : ScanTarget}
    {result : Instrument × Store × List Firing}
    (done : instrument.finishScan store target = .ok result) :
    ∃ rows, result = advance target rows instrument store := by
  rcases finishScan_eq_ok_iff.mp done with ⟨_, rfl⟩ | ⟨run, _, _, rfl⟩
  · exact ⟨0, rfl⟩
  · exact ⟨run.remaining, rfl⟩

end Instrument

end Acquisition
