import Acquisition.Buffer.Store
import Acquisition.Proofs.Ring

/-!
# The window on a ring

Rows that are put into a buffer one after the other, each at the place after the one
before it and from the first cell again when the ring is full, are read back as a window
on their history: its last rows, as many as were asked for and the ring still holds
(`recent_putRows`).  What is read is of the right shape under any transfer status, also
one that no scan has left behind (`recent_shape`).
-/

namespace Acquisition

universe u

namespace Buffer

variable {α : Type} [Sample α]

/-! ## Putting rows -/

/-- Put the samples of a row, from a cell on. -/
def putRow (buffer : Buffer α) (start : Nat) : List α → Store → Store
  | [], store => store
  | value :: rest, store => buffer.putRow (start + 1) rest (buffer.put start value store)

/-- Put rows in a ring of `samples` rows, the first one as the row with number `first`. -/
def putRows (buffer : Buffer α) (samples first : Nat) : List (List α) → Store → Store
  | [], store => store
  | row :: rest, store =>
      buffer.putRows samples (first + 1) rest
        (buffer.putRow (first % samples * buffer.channels) row store)

variable (buffer : Buffer α) (store : Store)

@[simp]
theorem channels_view : (buffer.view store).channels = buffer.channels :=
  rfl

theorem cells_put (index : Nat) (value : α) :
    (buffer.view (buffer.put index value store)).cells =
      (buffer.view store).cells.setIfInBounds index value :=
  store.cells_write_self buffer.storage index value

/-- Putting a row keeps the number of cells. -/
theorem size_putRow (start : Nat) (row : List α) :
    (buffer.view (buffer.putRow start row store)).size = (buffer.view store).size := by
  induction row generalizing start store with
  | nil => rfl
  | cons value rest ih =>
      rw [putRow, ih]
      exact store.size_cells_write buffer.storage start value buffer.storage

/-- Putting a row leaves the cells outside of it alone. -/
theorem cells_putRow_outside {start : Nat} {row : List α} {cell : Nat}
    (outside : cell < start ∨ start + row.length ≤ cell) :
    (buffer.view (buffer.putRow start row store)).cells[cell]? =
      (buffer.view store).cells[cell]? := by
  induction row generalizing start store with
  | nil => rfl
  | cons value rest ih =>
      rw [List.length_cons] at outside
      have ne : start ≠ cell := by omega
      rw [putRow, ih _ (by omega), cells_put, Array.getElem?_setIfInBounds_ne ne]

/-- Putting a row puts its samples into its cells. -/
theorem cells_putRow_inside {start : Nat} {row : List α}
    (fits : start + row.length ≤ (buffer.view store).size) {j : Nat} (inside : j < row.length) :
    (buffer.view (buffer.putRow start row store)).cells[start + j]? = row[j]? := by
  induction row generalizing start store j with
  | nil => simp at inside
  | cons value rest ih =>
      rw [List.length_cons] at fits inside
      rw [putRow]
      cases j with
      | zero =>
          have bound : start < (buffer.view store).cells.size :=
            Nat.lt_of_lt_of_le (Nat.lt_add_of_pos_right (Nat.succ_pos _)) fits
          rw [cells_putRow_outside _ _ (by omega), cells_put]
          exact Array.getElem?_setIfInBounds_self_of_lt bound
      | succ j =>
          have size := buffer.size_putRow store start [value]
          simp only [putRow] at size
          rw [Nat.add_comm j 1, ← Nat.add_assoc, Nat.add_comm 1 j, List.getElem?_cons_succ]
          exact ih _ (by omega) (by omega)

variable {samples : Nat}

/-- The place of a row lies within the buffer. -/
theorem place_fits (size : (buffer.view store).size = buffer.channels * samples)
    (samples_pos : 0 < samples) (number : Nat) :
    number % samples * buffer.channels + buffer.channels ≤ (buffer.view store).size := by
  have reach := Nat.mul_le_mul_right buffer.channels (Nat.mod_lt number samples_pos)
  rw [Nat.succ_mul] at reach
  rw [size, Nat.mul_comm buffer.channels samples]
  exact reach

/-- Rows that are put after those that lie in the ring lie there after them. -/
theorem laid_putRows (size : (buffer.view store).size = buffer.channels * samples)
    (samples_pos : 0 < samples) {earlier rows : List (List α)}
    (laid : Laid (buffer.view store).cells earlier buffer.channels samples)
    (whole : ∀ row ∈ rows, row.length = buffer.channels) :
    Laid (buffer.view (buffer.putRows samples earlier.length rows store)).cells
      (earlier ++ rows) buffer.channels samples ∧
    (buffer.view (buffer.putRows samples earlier.length rows store)).size =
      (buffer.view store).size := by
  induction rows generalizing store earlier with
  | nil =>
      rw [List.append_nil]
      exact ⟨laid, rfl⟩
  | cons row rest ih =>
      have length : row.length = buffer.channels := whole row List.mem_cons_self
      have fits := buffer.place_fits store size samples_pos earlier.length
      have kept := buffer.size_putRow store (earlier.length % samples * buffer.channels) row
      have next : Laid (buffer.view (buffer.putRow
          (earlier.length % samples * buffer.channels) row store)).cells
          (earlier ++ [row]) buffer.channels samples :=
        laid.append length
          (fun j inside => buffer.cells_putRow_inside store (length ▸ fits) (length ▸ inside))
          (fun cell outside => buffer.cells_putRow_outside store (length ▸ outside))
      have later := ih _ (kept.trans size) next
        (fun other member => whole other (List.mem_cons_of_mem row member))
      rw [List.length_append, List.length_singleton, List.append_assoc] at later
      exact ⟨later.1, later.2.trans kept⟩

/-- The status of a scan that has put so many rows into a ring of `samples` rows. -/
def ringStatus (samples count : Nat) : Transfer :=
  ⟨count, buffer.channels * count, ((count - 1) % samples * buffer.channels : Nat)⟩

/-- A history that has been put into a buffer is read back as a window on its last rows. -/
theorem returns_putRows (channels_pos : 0 < buffer.channels)
    (size : (buffer.view store).size = buffer.channels * samples) (samples_pos : 0 < samples)
    {rows : List (List α)} (nonempty : rows ≠ [])
    (whole : ∀ row ∈ rows, row.length = buffer.channels) :
    (buffer.view (buffer.putRows samples 0 rows store)).Returns
      (buffer.ringStatus samples rows.length) rows samples := by
  obtain ⟨laid, kept⟩ := buffer.laid_putRows store size samples_pos (.nil _ _ _) whole
  have counted : rows.length ≠ 0 := mt List.length_eq_zero_iff.mp nonempty
  have written : (buffer.view (buffer.putRows samples 0 rows store)).Written
      (buffer.ringStatus samples rows.length) rows buffer.channels samples :=
    { laid
      width_pos := channels_pos
      most_pos := samples_pos
      fits := Nat.le_of_eq (kept.trans size).symm
      counted := rfl
      index := by rw [ringStatus, if_neg counted] }
  exact written.returns rfl (.inr (kept.trans size))

end Buffer

/-! ## The shape of what is read -/

namespace Samples

variable {α : Type u} {samples : Samples α}

/-- Rows that are read lie in a buffer that has cells, and a row is there to read. -/
theorem mem_recent_iff {transfer : Transfer} {count : Nat} {row : List α} :
    row ∈ samples.recent transfer count ↔
      0 < samples.size ∧ 0 ≤ transfer.index ∧
      ∃ back < samples.availableRows transfer count,
        samples.row (samples.rowBefore transfer.index.toNat back) = row := by
  by_cases negative : 0 ≤ transfer.index
  · by_cases empty : samples.size = 0
    · simp [recent, Transfer.latestIndex?, negative, isEmpty, empty]
    · simp [recent, Transfer.latestIndex?, negative, isEmpty, empty, Nat.pos_iff_ne_zero]
  · simp [recent, Transfer.latestIndex?, negative]

theorem length_recent_le (samples : Samples α) (transfer : Transfer) (count : Nat) :
    (samples.recent transfer count).length ≤ samples.availableRows transfer count := by
  unfold recent
  split
  · exact Nat.zero_le _
  · split
    · exact Nat.zero_le _
    · simp

/-- Going back by no row leads to the same row. -/
theorem row_rowBefore_zero (samples : Samples α) (start : Nat) :
    samples.row (samples.rowBefore start 0) = samples.row start := by
  simp [row, rowBefore]

/-- The last complete row is the last of the rows read, if a row can be read at all. -/
theorem latest?_eq_getLast? {transfer : Transfer} (counted : 1 ≤ transfer.scanCount)
    (cut : 1 ≤ samples.perChannel) :
    samples.latest? transfer = (samples.recent transfer 1).getLast? := by
  have available : samples.availableRows transfer 1 = 1 := by
    rw [availableRows]
    omega
  unfold latest? recent
  split
  · rfl
  · split
    · rfl
    · rw [available]
      exact congrArg some (samples.row_rowBefore_zero _).symm

end Samples

namespace Buffer

variable {α : Type} [Sample α] (buffer : Buffer α) (store : Store) {samples : Nat}

/-- A ring of whole rows is read through a window.  A history of rows that was put into it
is read back as its last rows, as many as were asked for, have been put and fit.  Under any
status at all whole rows are read, never more than those, none without a row to start from,
and the latest row is the last of them. -/
theorem recent_window (channels_pos : 0 < buffer.channels)
    (size : (buffer.view store).size = buffer.channels * samples) :
    (∀ rows : List (List α), 0 < samples → rows ≠ [] →
      (∀ row ∈ rows, row.length = buffer.channels) → ∀ count,
      (buffer.view (buffer.putRows samples 0 rows store)).recent
          (buffer.ringStatus samples rows.length) count =
        rows.drop (rows.length - min count (min rows.length samples))) ∧
    ∀ (transfer : Transfer) (count : Nat),
      (∀ row ∈ (buffer.view store).recent transfer count, row.length = buffer.channels) ∧
      ((buffer.view store).recent transfer count).length ≤
        min count (min transfer.scanCount samples) ∧
      (transfer.index < 0 ∨ (buffer.view store).isEmpty →
        (buffer.view store).recent transfer count = []) ∧
      (1 ≤ transfer.scanCount → ¬ (buffer.view store).isEmpty →
        (buffer.view store).latest? transfer =
          ((buffer.view store).recent transfer 1).getLast?) := by
  have perChannel : (buffer.view store).perChannel = samples := by
    rw [Samples.perChannel, channels_view, size, Nat.mul_div_cancel_left _ channels_pos]
  refine ⟨fun rows samples_pos nonempty whole =>
    (buffer.returns_putRows store channels_pos size samples_pos nonempty whole).recent, ?_⟩
  intro transfer count
  refine ⟨?_, ?_, ?_, ?_⟩
  · intro row member
    obtain ⟨filled, _, back, _, rfl⟩ := Samples.mem_recent_iff.mp member
    exact Samples.length_row filled _
  · have bound := (buffer.view store).length_recent_le transfer count
    rwa [Samples.availableRows, perChannel] at bound
  · intro nothing
    rw [List.eq_nil_iff_forall_not_mem]
    intro row member
    obtain ⟨filled, index, _⟩ := Samples.mem_recent_iff.mp member
    simp only [Samples.isEmpty, decide_eq_true_eq] at nothing
    omega
  · intro counted filled
    refine Samples.latest?_eq_getLast? counted ?_
    rw [perChannel]
    -- A buffer of whole rows that has a cell has a row.
    refine Nat.pos_of_ne_zero fun empty => filled ?_
    simp [Samples.isEmpty, size, empty]

/-- Three rows of two samples in a ring of two rows: the first one has been overwritten. -/
theorem recent_window_turned :
    let buffer : Buffer UInt64 := ⟨0, 2⟩
    let store : Store := ⟨#[], #[#[0, 0, 0, 0]]⟩
    0 < buffer.channels ∧ (buffer.view store).size = buffer.channels * 2 ∧
    (buffer.view (buffer.putRows 2 0 [[1, 2], [3, 4], [5, 6]] store)).recent
      (buffer.ringStatus 2 3) 5 = [[3, 4], [5, 6]] :=
  ⟨by decide, by decide,
    (recent_window ⟨0, 2⟩ ⟨#[], #[#[0, 0, 0, 0]]⟩ (by decide) (by decide)).1
      [[1, 2], [3, 4], [5, 6]] (by decide) (by decide) (by decide) 5⟩

end Buffer

end Acquisition
