import Acquisition.Proofs.Acquired

/-!
# Reading a scan back

What a buffer gives back after a scan are the rows that the scan has acquired last, if
the buffer is cut into rows as wide as those of the scan and, once the scan has come
round, has no other cells than its ring.  `Reachable.readsBack_iff` says that this
condition cannot be left out.  A buffer that has been made is always cut into whole rows
of its own (`Buffer.channels_dvd_create`, `Buffer.channels_dvd_ofSamples`).
-/

namespace Acquisition

/-! ## Whole buffers -/

namespace Buffer

variable {α : Type} [Sample α] {buffer : Buffer α} {store after : Store} {channels : Nat}

theorem size_view_allocate (cells : Array α) (store : Store) (channels : Nat) :
    (view (⟨(store.allocate cells).1, channels⟩ : Buffer α) (store.allocate cells).2).size =
      cells.size := by
  simp [view, Samples.size, Store.allocate, Store.cells, Sample.bank_withBank]

/-- A new buffer of zeros is cut into whole rows. -/
theorem channels_dvd_create {samples : Nat}
    (created : create channels samples store = .ok (buffer, after)) :
    buffer.channels ∣ (buffer.view after).size := by
  unfold create at created
  split at created
  · contradiction
  · split at created
    · contradiction
    · rcases Prod.mk.inj (Except.ok.inj created) with ⟨rfl, rfl⟩
      exact ⟨samples, (size_view_allocate _ store channels).trans Array.size_replicate⟩

/-- A buffer made of given samples is cut into whole rows. -/
theorem channels_dvd_ofSamples {samples : Array α}
    (made : ofSamples channels samples store = .ok (buffer, after)) :
    buffer.channels ∣ (buffer.view after).size := by
  unfold ofSamples at made
  split at made
  · contradiction
  · split at made
    · contradiction
    · next even =>
        rcases Prod.mk.inj (Except.ok.inj made) with ⟨rfl, rfl⟩
        rcases Nat.dvd_of_mod_eq_zero (Decidable.not_not.mp even) with ⟨count, counted⟩
        exact ⟨count, (size_view_allocate _ store channels).trans counted⟩

end Buffer

namespace Bench

section

variable {bench : Bench} {handle : Handle} {command : Command} {scan : ScanStart}

/-- A scan that has just been accepted has acquired nothing. -/
theorem acquiring_of_accepted (accepted : bench.taken? handle command = some (.start scan)) :
    ∃ opened started columns, bench.driver.instruments.get? handle = some opened ∧
      scan.columns opened = .ok columns ∧
      (bench.step command).1.driver.instruments.get? handle = some started ∧
      (bench.step command).1.store = bench.store ∧
      started.Acquiring bench.store scan.target (scan.plan columns).opening [] := by
  rcases step_of_taken? accepted with ⟨opened, result, found, done, acted, _⟩
  rcases Action.opening_of_start done with ⟨columns, asked, passed, kept, recorded⟩
  have store : (bench.step command).1.store = bench.store := by rw [acted.store, kept]
  refine ⟨opened, result.1, columns, found, asked, acted.get?_self, store, _, recorded, {}, ?_⟩
  exact .initial (List.length_pos_iff.mpr passed.columns_ne_nil)
    (Int.lt_toNat.mpr passed.samples_pos) passed.fits

/-- What a scan has acquired is counted, and it is read back exactly when no row has been
acquired, or the buffer is cut into the rows of the scan and either the scan has not come
round or its ring is the whole buffer. -/
theorem Reachable.readsBack_iff (reachable : bench.Reachable)
    (accepted : bench.taken? handle command = some (.start scan))
    (input : scan.target.isInput = true) (whole : scan.buffer.IsWhole bench.store)
    {commands : List Command}
    (alone : LeftAlone handle scan.target scan.buffer (bench.step command).1 commands)
    {device : Instrument}
    (found : ((bench.step command).1.run commands).1.driver.instruments.get? handle =
      some device) :
    ∃ opened columns, bench.driver.instruments.get? handle = some opened ∧
      scan.columns opened = .ok columns ∧
      let rows := acquired handle scan.target (bench.step command).1 commands
      let transfer := (device.scanStatus scan.target).2
      transfer.scanCount = rows.length ∧
      (∀ row ∈ rows, row.length = columns.length) ∧
      (scan.buffer.ReadsBack ((bench.step command).1.run commands).1.store transfer rows
          scan.samples.toNat ↔
        rows = [] ∨ scan.buffer.channels = columns.length ∧
          (rows.length ≤ scan.samples.toNat ∨
            scan.buffer.size bench.store = columns.length * scan.samples.toNat)) := by
  obtain ⟨opened, started, columns, before, asked, now, store, acquiring⟩ :=
    acquiring_of_accepted accepted
  refine ⟨opened, columns, before, asked, ?_⟩
  have issued := Int.lt_of_lt_of_le (reachable.issued before) (bench.nextHandle_le_step command)
  have buffer : (scan.plan columns).opening.buffer = scan.buffer := scan.plan_buffer columns
  have size : scan.buffer.size ((bench.step command).1.run commands).1.store =
      scan.buffer.size bench.store := by
    rcases acquiring with ⟨_, _, continues, written⟩
    have positive := written.size_pos
    rw [continues.buffer, buffer] at positive
    exact store ▸ extends_run (bench.step command).1 commands scan.buffer
      (store ▸ Nat.ne_of_gt positive)
  rw [← buffer] at alone
  rw [← store] at acquiring
  obtain ⟨run, record, continues, written⟩ :=
    acquiring_run input alone issued now found acquiring
  have width : run.width = columns.length := by
    rw [ScanRun.width, continues.columns]
    exact congrArg List.length (scan.plan_columns columns)
  have samples : run.samples = scan.samples.toNat := by
    rw [continues.samples]
    exact congrArg Int.toNat (scan.plan_samples columns)
  rw [List.nil_append, continues.buffer, buffer, width, samples] at written
  have status : (device.scanStatus scan.target).2 = run.transfer := by
    simp [Instrument.scanStatus, record]
  rw [← size, status]
  refine ⟨written.counted, fun row => written.length, written.givesBack_iff ?_⟩
  rw [ScanBuffer.IsWhole, size]
  exact whole

end

/-! ## A ring in its buffer -/

/-- A connected device, and a buffer of one channel with some cells. -/
def withCells (cells : Array Float) : Bench :=
  (Bench.initial.run (Command.opening ++ [.edit (.allocateReals cells)])).1

theorem withCells_reachable (cells : Array Float) : (withCells cells).Reachable :=
  .run .initial _

/-- A scan of one analog input over a ring of two samples. -/
def ringScan : ScanStart :=
  .analogIn ⟨0, 0, 2, 1000, ScanOption.continuous⟩ .singleEnded .bip10Volts ⟨0, 1⟩

/-- Start the scan over a ring of two samples. -/
def startRing : Command :=
  .request (.scanAnalogIn 1 ⟨0, 0, 2, 1000, ScanOption.continuous⟩ .singleEnded .bip10Volts
    .empty ⟨0, 1⟩)

/-- Acquire the samples 1, 2 and 3. -/
def threeTicks : List Command :=
  [.stimulus (.setInput 1 0 1), .stimulus (.advance 1 .analogIn 1),
   .stimulus (.setInput 1 0 2), .stimulus (.advance 1 .analogIn 1),
   .stimulus (.setInput 1 0 3), .stimulus (.advance 1 .analogIn 1)]

/-- A ring that is the whole buffer is read back after it has come round. -/
theorem readsBack_exact_ring :
    let started := ((withCells #[0, 0]).step startRing).1
    let last := (started.run threeTicks).1
    acquired 1 ringScan.target started threeTicks = [[1], [2], [3]] ∧
    ∃ device, last.driver.instruments.get? 1 = some device ∧
      ringScan.buffer.ReadsBack last.store (device.scanStatus ringScan.target).2
        [[1], [2], [3]] 2 := by
  intro started last
  have accepted : (withCells #[0, 0]).taken? 1 startRing = some (.start ringScan) :=
    taken?_of_isSome rfl (by decide +kernel)
  have alone : LeftAlone 1 ringScan.target ringScan.buffer started threeTicks := by
    decide +kernel
  have there : (last.driver.instruments.get? 1).isSome = true := by decide +kernel
  have rows : acquired 1 ringScan.target started threeTicks = [[1], [2], [3]] := by
    decide +kernel
  rcases Option.isSome_iff_exists.mp there with ⟨device, found⟩
  obtain ⟨_, columns, _, _, _, width, agree⟩ := Reachable.readsBack_iff
    (withCells_reachable #[0, 0]) accepted rfl (Nat.one_dvd _) alone found
  rw [rows] at width agree
  have one : 1 = columns.length := width [1] (.head _)
  refine ⟨rows, device, found, agree.mpr (.inr ⟨one, .inr ?_⟩)⟩
  rw [← one]
  decide +kernel

/-- A ring of two cells that has come round in a buffer of three cells is not read back:
the cell outside of the ring is taken for the row before the last one. -/
theorem not_readsBack_larger_buffer :
    let started := ((withCells #[0, 0, 0]).step startRing).1
    let last := (started.run threeTicks).1
    (withCells #[0, 0, 0]).taken? 1 startRing = some (.start ringScan) ∧
    LeftAlone 1 ringScan.target ringScan.buffer started threeTicks ∧
    acquired 1 ringScan.target started threeTicks = [[1], [2], [3]] ∧
    ∃ device, last.driver.instruments.get? 1 = some device ∧
      (Buffer.view (⟨0, 1⟩ : Buffer Float) last.store).recent
        (device.scanStatus ringScan.target).2 2 = [[0], [3]] ∧
      ¬ ringScan.buffer.ReadsBack last.store (device.scanStatus ringScan.target).2
        [[1], [2], [3]] 2 := by
  intro started last
  have accepted : (withCells #[0, 0, 0]).taken? 1 startRing = some (.start ringScan) :=
    taken?_of_isSome rfl (by decide +kernel)
  have alone : LeftAlone 1 ringScan.target ringScan.buffer started threeTicks := by
    decide +kernel
  have rows : acquired 1 ringScan.target started threeTicks = [[1], [2], [3]] := by
    decide +kernel
  have read : (last.driver.instruments.get? 1).map (fun device =>
      (Buffer.view (⟨0, 1⟩ : Buffer Float) last.store).recent
        (device.scanStatus ringScan.target).2 2) = some [[0], [3]] := by decide +kernel
  rcases Option.map_eq_some_iff.mp read with ⟨device, found, recent⟩
  refine ⟨accepted, alone, rows, device, found, recent, fun returns => ?_⟩
  have expected := recent.symm.trans (Samples.Returns.recent returns 2)
  revert expected
  decide +kernel

end Bench

end Acquisition
