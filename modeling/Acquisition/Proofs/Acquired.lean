import Acquisition.Proofs.Shots
import Acquisition.Proofs.Window

/-!
# Acquired rows

The rows that a scan has acquired are what the device was sampled for, in that order,
whatever became of them in the buffer.  As long as nothing else writes to the buffer,
the last of them lie in the ring of the scan (`acquiring_run`).
-/

namespace Acquisition

/-! ## Rows of samples -/

namespace Instrument

/-- The samples that a device gives for a row. -/
def sampleRow (instrument : Instrument) : List Column → List Float
  | [] => []
  | column :: rest =>
      (instrument.sample column).1 :: (instrument.sample column).2.sampleRow rest

@[simp]
theorem length_sampleRow (instrument : Instrument) (columns : List Column) :
    (instrument.sampleRow columns).length = columns.length := by
  induction columns generalizing instrument with
  | nil => rfl
  | cons column rest ih => simp [sampleRow, ih]

/-- The rows that a scan acquires while it advances. -/
def acquiredRows (target : ScanTarget) : Nat → Instrument → Store → List (List Float)
  | 0, _, _ => []
  | rows + 1, instrument, store =>
      match instrument.running? target with
      | none => []
      | some run =>
          let (moved, written, _) := instrument.moveRow store target run
          instrument.sampleRow run.columns :: acquiredRows target rows moved written

section Acquire

variable {α : Type} [Sample α] {buffer : ScanBuffer} {cells : Buffer α} {encode : Float → α}

/-- What acquiring a row does to the store is putting its samples. -/
theorem store_acquire
    (puts : ∀ store index value,
      buffer.put store index value = cells.put index (encode value) store)
    (columns : List Column) (index : Nat) (instrument : Instrument) (store : Store) :
    (acquire buffer columns index instrument store).2 =
      cells.putRow index ((instrument.sampleRow columns).map encode) store := by
  induction columns generalizing index instrument store with
  | nil => rfl
  | cons column rest ih =>
      simp only [acquire, sampleRow, List.map_cons, Buffer.putRow]
      rw [ih, puts]

/-- Acquiring a row leaves the cells outside of it alone. -/
theorem cells_acquire_outside
    (puts : ∀ store index value,
      buffer.put store index value = cells.put index (encode value) store)
    (columns : List Column) (index : Nat) (instrument : Instrument) (store : Store) {cell : Nat}
    (outside : cell < index ∨ index + columns.length ≤ cell) :
    (cells.view (acquire buffer columns index instrument store).2).cells[cell]? =
      (cells.view store).cells[cell]? := by
  rw [store_acquire puts]
  exact cells.cells_putRow_outside store (by simpa using outside)

/-- Acquiring a row keeps the number of cells. -/
theorem size_acquire
    (puts : ∀ store index value,
      buffer.put store index value = cells.put index (encode value) store)
    (columns : List Column) (index : Nat) (instrument : Instrument) (store : Store) :
    (cells.view (acquire buffer columns index instrument store).2).size =
      (cells.view store).size := by
  rw [store_acquire puts]
  exact cells.size_putRow store index _

/-- Acquiring a row puts its samples into its cells. -/
theorem cells_acquire_inside
    (puts : ∀ store index value,
      buffer.put store index value = cells.put index (encode value) store)
    (columns : List Column) (index : Nat) (instrument : Instrument) (store : Store)
    (fits : index + columns.length ≤ (cells.view store).size) {j : Nat}
    (inside : j < columns.length) :
    (cells.view (acquire buffer columns index instrument store).2).cells[index + j]? =
      ((instrument.sampleRow columns).map encode)[j]? := by
  rw [store_acquire puts]
  exact cells.cells_putRow_inside store (by simpa using fits) (by simpa using inside)

end Acquire

end Instrument

/-! ## What a buffer keeps of acquired rows -/

namespace ScanBuffer

/-- The scan has written rows to the buffer, and its record says so. -/
def Written (buffer : ScanBuffer) (store : Store) (transfer : Transfer)
    (rows : List (List Float)) (width most : Nat) : Prop :=
  match buffer with
  | .reals buffer => (buffer.view store).Written transfer rows width most
  | .words buffer =>
      (buffer.view store).Written transfer (rows.map (List.map Float.toUInt64)) width most

/-- The buffer gives back the last rows, as words if it keeps words. -/
def ReadsBack (buffer : ScanBuffer) (store : Store) (transfer : Transfer)
    (rows : List (List Float)) (most : Nat) : Prop :=
  match buffer with
  | .reals buffer => (buffer.view store).Returns transfer rows most
  | .words buffer => (buffer.view store).Returns transfer (rows.map (List.map Float.toUInt64)) most

/-- The buffer is cut into whole rows. -/
def IsWhole (buffer : ScanBuffer) (store : Store) : Prop :=
  buffer.channels ∣ buffer.size store

section Written

variable {buffer : ScanBuffer} {store : Store} {transfer : Transfer}
  {rows : List (List Float)} {width most : Nat}

/-- Before its first row a scan has written nothing. -/
theorem Written.initial (width_pos : 0 < width) (most_pos : 0 < most)
    (fits : width * most ≤ buffer.size store) :
    buffer.Written store .initial [] width most := by
  cases buffer with
  | reals buffer => exact ⟨.nil _ _ _, width_pos, most_pos, fits, rfl, rfl⟩
  | words buffer => exact ⟨.nil _ _ _, width_pos, most_pos, fits, rfl, rfl⟩

theorem Written.congr (written : buffer.Written store transfer rows width most) {after : Store}
    (unchanged : buffer.Unchanged store after) :
    buffer.Written after transfer rows width most := by
  cases buffer with
  | reals buffer =>
      have same : buffer.view after = buffer.view store :=
        congrArg (Samples.mk · buffer.channels) unchanged
      simpa only [Written, same] using written
  | words buffer =>
      have same : buffer.view after = buffer.view store :=
        congrArg (Samples.mk · buffer.channels) unchanged
      simpa only [Written, same] using written

theorem Written.size_pos (written : buffer.Written store transfer rows width most) :
    0 < buffer.size store := by
  cases buffer with
  | reals buffer => exact Samples.Written.size_pos written
  | words buffer => exact Samples.Written.size_pos written

theorem Written.counted (written : buffer.Written store transfer rows width most) :
    transfer.scanCount = rows.length := by
  cases buffer with
  | reals buffer => exact Samples.Written.counted written
  | words buffer => simpa using Samples.Written.counted written

theorem Written.length (written : buffer.Written store transfer rows width most)
    {row : List Float} (member : row ∈ rows) : row.length = width := by
  cases buffer with
  | reals buffer => exact (Samples.Written.laid written).length row member
  | words buffer =>
      have whole := (Samples.Written.laid written).length _ (List.mem_map_of_mem member)
      simpa using whole

theorem Written.givesBack_iff (written : buffer.Written store transfer rows width most)
    (whole : buffer.IsWhole store) :
    buffer.ReadsBack store transfer rows most ↔
      rows = [] ∨
      buffer.channels = width ∧ (rows.length ≤ most ∨ buffer.size store = width * most) := by
  cases buffer with
  | reals buffer => exact Samples.Written.returns_iff written whole
  | words buffer =>
      have agree := Samples.Written.returns_iff written whole
      rw [List.map_eq_nil_iff, List.length_map] at agree
      exact agree

end Written

end ScanBuffer

namespace Instrument

variable {instrument : Instrument} {store : Store} {target : ScanTarget} {run : ScanRun}
  {rows : List (List Float)}

/-- A row comes after the rows that lie in the ring, for either kind of buffer. -/
theorem written_acquire {α : Type} [Sample α] (instrument : Instrument) (buffer : ScanBuffer)
    (cells : Buffer α) (encode : Float → α)
    (puts : ∀ store index value,
      buffer.put store index value = cells.put index (encode value) store)
    (written : (cells.view store).Written run.transfer (rows.map (List.map encode))
      run.width run.samples) :
    (cells.view (acquire buffer run.columns run.position instrument store).2).Written
      run.next.transfer ((rows ++ [instrument.sampleRow run.columns]).map (List.map encode))
      run.width run.samples := by
  have counted : run.transfer.scanCount = rows.length := by simpa using written.counted
  have size := size_acquire puts run.columns run.position instrument store
  have place := Nat.mod_lt rows.length written.most_pos
  have reach : (_ + 1) * run.width ≤ run.samples * run.width := Nat.mul_le_mul_right _ place
  have fits := written.fits
  have inside : run.position + run.columns.length ≤ (cells.view store).size := by
    rw [ScanRun.position, counted]
    change _ + run.width ≤ _
    rw [Nat.mul_comm] at fits
    rw [Nat.add_mul, Nat.one_mul] at reach
    omega
  rw [List.map_append, List.map_singleton]
  exact {
    laid := by
      refine written.laid.append (by rw [List.length_map, length_sampleRow]; rfl) ?_ ?_
      · intro j near
        rw [List.length_map, ← counted]
        exact cells_acquire_inside puts _ _ _ _ inside near
      · intro cell outside
        rw [List.length_map, ← counted] at outside
        exact cells_acquire_outside puts _ _ _ _ outside
    width_pos := written.width_pos
    most_pos := written.most_pos
    fits := size ▸ fits
    counted := by simp [ScanRun.next, Transfer.next, counted]
    index := rfl }

/-- A row of an input scan comes after the rows that its buffer keeps. -/
theorem written_moveRow (input : target.isInput = true)
    (written : run.buffer.Written store run.transfer rows run.width run.samples) :
    run.buffer.Written (instrument.moveRow store target run).2.1 run.next.transfer
      (rows ++ [instrument.sampleRow run.columns]) run.width run.samples := by
  rw [moveRow_store, moveSamples, if_pos input]
  cases kind : run.buffer with
  | reals cells =>
      rw [kind] at written
      have appended := written_acquire instrument (.reals cells) cells id (fun _ _ _ => rfl)
        (by simpa [ScanBuffer.Written] using written)
      simpa [ScanBuffer.Written] using appended
  | words cells =>
      rw [kind] at written
      exact written_acquire instrument (.words cells) cells _ (fun _ _ _ => rfl) written

end Instrument

/-! ## The scan goes on -/

namespace Instrument

/-- The record on a target is that of a scan whose buffer keeps the rows. -/
def Acquiring (instrument : Instrument) (store : Store) (target : ScanTarget) (first : ScanRun)
    (rows : List (List Float)) : Prop :=
  ∃ run, instrument.scans.get? target = some run ∧ first.Continues run ∧
    run.buffer.Written store run.transfer rows run.width run.samples

/-- The samples of the row that a device is about to move. -/
def rowOn (target : ScanTarget) (instrument : Instrument) : List Float :=
  match instrument.running? target with
  | some run => instrument.sampleRow run.columns
  | none => []

/-- The rows of a scan are sampled in its shots. -/
theorem acquiredRows_eq (target : ScanTarget) (count : Nat) (instrument : Instrument)
    (store : Store) :
    acquiredRows target count instrument store =
      (shots target count instrument store).map (rowOn target) := by
  induction count generalizing instrument store with
  | zero => rfl
  | succ count ih =>
      cases running : instrument.running? target with
      | none => simp [acquiredRows, shots, running]
      | some run => simp [acquiredRows, shots, running, rowOn, ih]

/-- The scan is the first one still, and its buffer keeps the rows that have been sampled in
the shots after some earlier rows. -/
def Keeping (target : ScanTarget) (first : ScanRun) (rows : List (List Float)) (run : ScanRun)
    (store : Store) (shots : List Instrument) : Prop :=
  first.Continues run ∧ run.buffer.Written store run.transfer
    (rows ++ shots.map (rowOn target)) run.width run.samples

theorem keeping_invariant {target : ScanTarget} (input : target.isInput = true)
    (first : ScanRun) (rows : List (List Float)) :
    ShotInvariant target first.buffer (Keeping target first rows) where
  moveRow device store run shots running kept := by
    obtain ⟨continues, written⟩ := kept
    have row : rowOn target device = device.sampleRow run.columns := by rw [rowOn, running]
    refine ⟨continues.trans {}, ?_⟩
    rw [List.map_append, List.map_singleton, row, ← List.append_assoc, run.next_buffer,
      run.next_samples, run.next_width]
    exact written_moveRow input written
  halt run store shots kept := ⟨kept.1.trans {}, kept.2⟩
  unchanged run store after shots unchanged kept :=
    ⟨kept.1, kept.2.congr (kept.1.buffer ▸ unchanged)⟩

end Instrument

namespace Action

/-- The rows that an action acquires for the scan on a target. -/
def acquired (instrument : Instrument) (store : Store) (target : ScanTarget) :
    Action → List (List Float)
  | advance other rows =>
      if other = target then Instrument.acquiredRows target rows instrument store else []
  | finish other =>
      if other = target then
        match instrument.running? target with
        | some run => Instrument.acquiredRows target run.remaining instrument store
        | none => []
      else []
  | _ => []

/-- An action acquires the rows by which it tells a scan to advance. -/
theorem acquired_eq (action : Action) (instrument : Instrument) (store : Store)
    (target : ScanTarget) :
    action.acquired instrument store target =
      Instrument.acquiredRows target (action.rowCount instrument target) instrument store := by
  cases action with
  | advance other rows =>
      simp only [acquired, rowCount]
      split <;> rfl
  | finish other =>
      simp only [acquired, rowCount]
      split
      · cases running : instrument.running? target with
        | none => simp [Instrument.acquiredRows]
        | some run => rfl
      · rfl
  | _ => rfl

end Action

namespace Bench

/-- The rows that a command makes a scan acquire. -/
def acquiredBy (bench : Bench) (handle : Handle) (target : ScanTarget) (command : Command) :
    List (List Float) :=
  match bench.driver.instruments.get? handle, bench.taken? handle command with
  | some device, some action => action.acquired device bench.store target
  | _, _ => []

/-- The rows that the scan on a target acquires along some commands. -/
def acquired (handle : Handle) (target : ScanTarget) : Bench → List Command → List (List Float)
  | _, [] => []
  | bench, command :: rest =>
      bench.acquiredBy handle target command ++ acquired handle target (bench.step command).1 rest

variable {bench : Bench} {handle : Handle} {target : ScanTarget} {device after : Instrument}
  {first : ScanRun} {rows : List (List Float)}

theorem acquiredBy_eq (bench : Bench) (handle : Handle) (target : ScanTarget)
    (command : Command) :
    bench.acquiredBy handle target command =
      (bench.shotsBy handle target command).map (Instrument.rowOn target) := by
  unfold acquiredBy shotsBy
  cases bench.driver.instruments.get? handle with
  | none => rfl
  | some device =>
      cases bench.taken? handle command with
      | none => rfl
      | some action => exact (action.acquired_eq _ _ _).trans (Instrument.acquiredRows_eq _ _ _ _)

theorem acquired_eq (handle : Handle) (target : ScanTarget) (bench : Bench)
    (commands : List Command) :
    acquired handle target bench commands =
      (shots handle target bench commands).map (Instrument.rowOn target) := by
  induction commands generalizing bench with
  | nil => rfl
  | cons command rest ih => rw [acquired, shots, ih, acquiredBy_eq, List.map_append]

/-- Along commands that leave a scan alone it acquires rows after those it has acquired. -/
theorem acquiring_run (input : target.isInput = true) {commands : List Command}
    (alone : LeftAlone handle target first.buffer bench commands)
    (issued : handle < bench.driver.nextHandle)
    (found : bench.driver.instruments.get? handle = some device)
    (still : (bench.run commands).1.driver.instruments.get? handle = some after)
    (acquiring : device.Acquiring bench.store target first rows) :
    after.Acquiring (bench.run commands).1.store target first
      (rows ++ acquired handle target bench commands) := by
  have recorded : device.Records target (Instrument.Keeping target first rows) bench.store [] := by
    simpa [Instrument.Records, Instrument.Keeping, Instrument.Acquiring] using acquiring
  have last := (Instrument.keeping_invariant input first rows).run alone issued found still
    recorded
  rw [List.nil_append] at last
  rw [acquired_eq]
  exact last

end Bench

end Acquisition
