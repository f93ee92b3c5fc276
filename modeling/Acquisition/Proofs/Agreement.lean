import Acquisition.Proofs.Shots

/-!
# Stores that agree

Two stores agree beside some buffers when their storages have the same sizes, and the same
samples wherever none of those buffers is.  A scan whose buffer is apart from them moves alike in
both stores (`Agree.advance`), and a scan on one of them moves without disturbing the agreement
(`agree_advance`).
-/

namespace Acquisition

/-- The buffer shares its storage with none of some others. -/
def ScanBuffer.IsApart (buffer : ScanBuffer) (others : List ScanBuffer) : Prop :=
  ∀ other ∈ others, buffer.sharesStorage other = false

/-- Two stores that differ at most in the samples of some buffers. -/
structure Store.Agree (others : List ScanBuffer) (left right : Store) : Prop where
  shape : right.shape = left.shape
  unchanged : ∀ buffer : ScanBuffer, buffer.IsApart others → buffer.Unchanged left right

/-- Two outcomes of moving a scan that differ at most in the samples of some buffers. -/
structure Store.AgreeAfter (others : List ScanBuffer)
    (left right : Instrument × Store × List Firing) : Prop where
  device : right.1 = left.1
  stores : Store.Agree others left.2.1 right.2.1
  firings : right.2.2 = left.2.2

namespace ScanBuffer

variable {buffer other : ScanBuffer} {left right store : Store}

theorem Unchanged.refl (buffer : ScanBuffer) (store : Store) : buffer.Unchanged store store := by
  cases buffer <;> rfl

theorem Unchanged.symm (unchanged : buffer.Unchanged left right) :
    buffer.Unchanged right left := by
  cases buffer <;> exact Eq.symm unchanged

/-- A sample that is put into another storage leaves a buffer alone. -/
theorem unchanged_put (apart : buffer.sharesStorage other = false) (index : Nat) (value : Float) :
    buffer.Unchanged store (other.put store index value) := by
  cases buffer <;> cases other
  · exact store.cells_write_of_ne (Ne.symm (of_decide_eq_false apart)) index value
  · rfl
  · rfl
  · exact store.cells_write_of_ne (Ne.symm (of_decide_eq_false apart)) index value.toUInt64

/-- The same sample that is put into both of two stores leaves a buffer alike. -/
theorem Unchanged.put_real (unchanged : buffer.Unchanged left right) (real : Buffer Float)
    (index : Nat) (value : Float) :
    buffer.Unchanged (real.put index value left) (real.put index value right) := by
  cases buffer with
  | words buffer => exact unchanged
  | reals buffer =>
      change (right.write _ _ _).cells Float _ = (left.write _ _ _).cells Float _
      by_cases same : real.storage = buffer.storage
      · rw [same, Store.cells_write_self, Store.cells_write_self]
        exact congrArg (fun cells : Array Float => cells.setIfInBounds index value) unchanged
      · rw [Store.cells_write_of_ne _ same, Store.cells_write_of_ne _ same]
        exact unchanged

theorem Unchanged.put_word (unchanged : buffer.Unchanged left right) (word : Buffer UInt64)
    (index : Nat) (value : UInt64) :
    buffer.Unchanged (word.put index value left) (word.put index value right) := by
  cases buffer with
  | reals buffer => exact unchanged
  | words buffer =>
      change (right.write _ _ _).cells UInt64 _ = (left.write _ _ _).cells UInt64 _
      by_cases same : word.storage = buffer.storage
      · rw [same, Store.cells_write_self, Store.cells_write_self]
        exact congrArg (fun cells : Array UInt64 => cells.setIfInBounds index value) unchanged
      · rw [Store.cells_write_of_ne _ same, Store.cells_write_of_ne _ same]
        exact unchanged

end ScanBuffer

namespace Store

variable {others : List ScanBuffer} {buffer : ScanBuffer} {left middle right store : Store}

theorem Agree.refl (others : List ScanBuffer) (store : Store) : Agree others store store :=
  ⟨rfl, fun buffer _ => .refl buffer store⟩

theorem Agree.symm (agree : Agree others left right) : Agree others right left :=
  ⟨agree.shape.symm, fun buffer apart => (agree.unchanged buffer apart).symm⟩

theorem Agree.trans (first : Agree others left middle) (second : Agree others middle right) :
    Agree others left right :=
  ⟨second.shape.trans first.shape, fun buffer apart =>
    (first.unchanged buffer apart).trans (second.unchanged buffer apart)⟩

theorem Agree.get?_eq (agree : Agree others left right) (apart : buffer.IsApart others)
    (index : Nat) : buffer.get? right index = buffer.get? left index :=
  (agree.unchanged buffer apart).get?_eq index

theorem Agree.put (agree : Agree others left right) (buffer : ScanBuffer) (index : Nat)
    (value : Float) :
    Agree others (buffer.put left index value) (buffer.put right index value) where
  shape := by rw [shape_put, shape_put, agree.shape]
  unchanged other apart := by
    cases buffer with
    | reals real => exact (agree.unchanged other apart).put_real real index value
    | words word => exact (agree.unchanged other apart).put_word word index value.toUInt64

/-- A sample of one of the buffers is none of the samples that count. -/
theorem agree_put (among : buffer ∈ others) (index : Nat) (value : Float) :
    Agree others store (buffer.put store index value) where
  shape := store.shape_put buffer index value
  unchanged _ apart := ScanBuffer.unchanged_put (apart buffer among) index value

/-- A storage that is allocated next in both of two stores is alike in both. -/
theorem getD_push_congr {α : Type} {left right : Array (Array α)} (sizes : right.size = left.size)
    (cells : Array α) {storage : Nat}
    (same : right[storage]?.getD #[] = left[storage]?.getD #[]) :
    (right.push cells)[storage]?.getD #[] = (left.push cells)[storage]?.getD #[] := by
  rw [Array.getElem?_push, Array.getElem?_push, sizes]
  split
  · rfl
  · exact same

theorem Agree.edit (agree : Agree others left right) (edit : Edit) :
    Agree others (edit.apply left) (edit.apply right) where
  shape := shape_edit_congr agree.shape.symm edit |>.symm
  unchanged buffer apart := by
    have unchanged := agree.unchanged buffer apart
    cases edit with
    | putReal real index value => exact unchanged.put_real real index value
    | putWord word index value => exact unchanged.put_word word index value
    | allocateReals cells =>
        have sizes : right.reals.size = left.reals.size := by
          simpa only [Store.shape, Array.size_map] using
            congrArg (fun shape : Array Nat × Array Nat => shape.1.size) agree.shape
        cases buffer with
        | words buffer => exact unchanged
        | reals buffer =>
            exact getD_push_congr sizes cells unchanged
    | allocateWords cells =>
        have sizes : right.words.size = left.words.size := by
          simpa only [Store.shape, Array.size_map] using
            congrArg (fun shape : Array Nat × Array Nat => shape.2.size) agree.shape
        cases buffer with
        | reals buffer => exact unchanged
        | words buffer =>
            exact getD_push_congr sizes cells unchanged

/-! ## Rows -/

section Rows

variable {target : ScanTarget} {run : ScanRun} {instrument : Instrument}

theorem Agree.acquire (agree : Agree others left right) (buffer : ScanBuffer)
    (columns : List Column) (index : Nat) (instrument : Instrument) :
    (Instrument.acquire buffer columns index instrument right).1 =
      (Instrument.acquire buffer columns index instrument left).1 ∧
    Agree others (Instrument.acquire buffer columns index instrument left).2
      (Instrument.acquire buffer columns index instrument right).2 := by
  induction columns generalizing index instrument left right with
  | nil => exact ⟨rfl, agree⟩
  | cons column rest ih => exact ih (agree.put buffer index _) (index + 1) _

theorem Agree.generate (agree : Agree others left right) (apart : buffer.IsApart others)
    (columns : List Column) (index : Nat) (instrument : Instrument) :
    Instrument.generate buffer right columns index instrument =
      Instrument.generate buffer left columns index instrument := by
  induction columns generalizing index instrument with
  | nil => rfl
  | cons column rest ih =>
      simp only [Instrument.generate, agree.get?_eq apart index]
      exact ih _ _

/-- A row of a scan whose buffer is apart is the same in both stores. -/
theorem Agree.moveRow (agree : Agree others left right) (apart : run.buffer.IsApart others)
    (instrument : Instrument) (target : ScanTarget) :
    AgreeAfter others (instrument.moveRow left target run)
      (instrument.moveRow right target run) := by
  have samples : (instrument.moveSamples right target run).1 =
        (instrument.moveSamples left target run).1 ∧
      Agree others (instrument.moveSamples left target run).2
        (instrument.moveSamples right target run).2 := by
    unfold Instrument.moveSamples
    split
    · exact agree.acquire run.buffer run.columns run.position instrument
    · exact ⟨agree.generate apart run.columns run.position instrument, agree⟩
  refine ⟨?_, samples.2, ?_⟩
  · simp only [Instrument.moveRow, samples.1]
  · simp only [Instrument.moveRow, samples.1]

/-- A scan whose buffer is apart moves alike in both stores. -/
theorem Agree.advance (agree : Agree others left right)
    (apart : ∀ run, instrument.scans.get? target = some run → run.buffer.IsApart others)
    (rows : Nat) :
    AgreeAfter others (Instrument.advance target rows instrument left)
      (Instrument.advance target rows instrument right) := by
  induction rows generalizing instrument left right with
  | zero => exact ⟨rfl, agree, rfl⟩
  | succ rows ih =>
      cases running : instrument.running? target with
      | none =>
          rw [Instrument.advance_of_not_running running, Instrument.advance_of_not_running running]
          exact ⟨rfl, agree, rfl⟩
      | some run =>
          have own := apart run (Instrument.running?_eq_some_iff.mp running).1
          have row := agree.moveRow own instrument target
          rw [Instrument.advance_succ running, Instrument.advance_succ running]
          dsimp only
          rw [row.device, row.firings]
          have onward : ∀ later,
              (instrument.moveRow left target run).1.scans.get? target = some later →
                later.buffer.IsApart others := by
            intro later found
            rw [Instrument.moveRow_scans, Table.get?_set_self] at found
            obtain rfl := Option.some.inj found
            exact own
          have rest := ih row.stores onward
          exact ⟨rest.device, rest.stores, congrArg (_ ++ ·) rest.firings⟩

theorem agree_acquire (among : buffer ∈ others) (columns : List Column) (index : Nat)
    (instrument : Instrument) (store : Store) :
    Agree others store (Instrument.acquire buffer columns index instrument store).2 := by
  induction columns generalizing index instrument store with
  | nil => exact .refl others store
  | cons column rest ih => exact (agree_put among index _).trans (ih (index + 1) _ _)

/-- A scan on one of the buffers does not disturb the agreement. -/
theorem agree_advance
    (among : ∀ run, instrument.scans.get? target = some run → run.buffer ∈ others) (rows : Nat)
    (store : Store) :
    Agree others store (Instrument.advance target rows instrument store).2.1 := by
  refine (Instrument.advance_induction
    (P := fun device later => Agree others store later ∧
      ∀ run, device.scans.get? target = some run → run.buffer ∈ others)
    ?_ rows ⟨.refl others store, among⟩).1
  rintro device later run ⟨agree, among⟩ moving
  have own := among run (Instrument.running?_eq_some_iff.mp moving).1
  refine ⟨agree.trans ?_, ?_⟩
  · rw [Instrument.moveRow_store, Instrument.moveSamples]
    split
    · exact agree_acquire own run.columns run.position device later
    · exact .refl others later
  · intro next found
    rw [Instrument.moveRow_scans, Table.get?_set_self] at found
    obtain rfl := Option.some.inj found
    exact own

end Rows

end Store

end Acquisition
