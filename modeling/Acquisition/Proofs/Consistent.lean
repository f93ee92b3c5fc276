import Acquisition.Proofs.Effect
import Acquisition.Proofs.Reachable

/-!
# Consistent scan records

What a scan has counted, where it says that its last row lies and how large its
buffer is agree on every reachable bench.  So a transfer never leaves the buffer:
a transfer that refuses an index outside of it is never refused.
-/

namespace Acquisition

namespace ScanRun

variable {run : ScanRun} {store : Store}

/-- The record of a scan agrees with itself and with the size of its buffer. -/
structure Consistent (run : ScanRun) (store : Store) : Prop where
  samples_pos : 0 < run.samples
  columns_ne_nil : run.columns ≠ []
  fits : run.width * run.samples ≤ run.buffer.size store
  total : run.transfer.totalCount = run.transfer.scanCount * run.width
  index : run.transfer.index =
    if run.transfer.scanCount = 0 then -1
    else (((run.transfer.scanCount - 1) % run.samples * run.width : Nat) : Int)
  finite : run.isContinuous = false →
    run.transfer.scanCount ≤ run.samples ∧
    (run.isRunning = true → run.transfer.scanCount < run.samples)

/-- The record stays consistent while the store grows. -/
theorem Consistent.grow {before after : Store} (growth : before.Extends after)
    (consistent : run.Consistent before) : run.Consistent after :=
  { consistent with fits := growth.le_size consistent.fits }

/-- A halted scan counts what it has counted. -/
theorem Consistent.halt (consistent : run.Consistent store) : run.halt.Consistent store where
  samples_pos := consistent.samples_pos
  columns_ne_nil := consistent.columns_ne_nil
  fits := consistent.fits
  total := consistent.total
  index := consistent.index
  finite limited := by
    refine ⟨(consistent.finite limited).1, fun running => ?_⟩
    contradiction

/-- One more row of a running scan keeps its record consistent. -/
theorem Consistent.next (consistent : run.Consistent store) (running : run.isRunning = true) :
    run.next.Consistent store where
  samples_pos := consistent.samples_pos
  columns_ne_nil := consistent.columns_ne_nil
  fits := consistent.fits
  total := by
    change run.transfer.totalCount + run.width = (run.transfer.scanCount + 1) * run.width
    rw [consistent.total, Nat.add_mul, Nat.one_mul]
  index := rfl
  finite limited := by
    have before := (consistent.finite limited).2 running
    refine ⟨before, fun still => ?_⟩
    have limited : run.isContinuous = false := limited
    rw [isRunning_next, limited, Bool.false_or, Bool.and_eq_true, decide_eq_true_eq] at still
    exact still.2

/-- The next row lies inside the buffer. -/
theorem Consistent.row_le_size (consistent : run.Consistent store) :
    run.position + run.width ≤ run.buffer.size store := by
  have wrapped : run.transfer.scanCount % run.samples + 1 ≤ run.samples :=
    Nat.mod_lt _ consistent.samples_pos
  calc run.position + run.width
      = (run.transfer.scanCount % run.samples + 1) * run.width := by
        rw [position, Nat.add_mul, Nat.one_mul]
    _ ≤ run.samples * run.width := Nat.mul_le_mul_right _ wrapped
    _ = run.width * run.samples := Nat.mul_comm _ _
    _ ≤ run.buffer.size store := consistent.fits

end ScanRun

/-- An accepted plan starts a scan with a consistent record. -/
theorem Instrument.Accepted.consistent {instrument : Instrument} {store : Store}
    {target : ScanTarget} {plan : ScanPlan} (accepted : instrument.Accepted store target plan) :
    plan.opening.Consistent store := by
  have positive : 0 < plan.samples.toNat := Int.lt_toNat.mpr accepted.samples_pos
  exact {
    samples_pos := positive
    columns_ne_nil := accepted.columns_ne_nil
    fits := accepted.fits
    total := (Nat.zero_mul _).symm
    index := rfl
    finite := fun _ => ⟨Nat.zero_le _, fun _ => positive⟩ }

namespace Instrument

/-- All scan records of a device are consistent. -/
def Consistent (instrument : Instrument) (store : Store) : Prop :=
  ∀ target run, instrument.scans.get? target = some run → run.Consistent store

section

variable {instrument after : Instrument} {store : Store}

theorem Consistent.moveRow {target : ScanTarget} {run : ScanRun}
    (consistent : instrument.Consistent store)
    (running : instrument.running? target = some run) :
    (instrument.moveRow store target run).1.Consistent
      (instrument.moveRow store target run).2.1 := by
  rcases running?_eq_some_iff.mp running with ⟨found, active⟩
  have growth := Store.Extends.of_shape_eq (instrument.shape_moveRow store target run)
  intro other record lookup
  apply ScanRun.Consistent.grow growth
  by_cases same : other = target
  · rw [same, moveRow_scans, Table.get?_set_self, Option.some.injEq] at lookup
    exact lookup ▸ (consistent target run found).next active
  · rw [get?_moveRow_of_ne _ _ _ _ same] at lookup
    exact consistent other record lookup

theorem Consistent.advance {target : ScanTarget} (rows : Nat)
    (consistent : instrument.Consistent store) :
    (Instrument.advance target rows instrument store).1.Consistent
      (Instrument.advance target rows instrument store).2.1 :=
  advance_induction (P := Consistent) (fun _ _ _ => Consistent.moveRow) rows consistent

/-- Every action keeps all records consistent. -/
theorem Consistent.act {action : Action} {result : Instrument × Store × List Firing}
    (done : action.act instrument store = .ok result) (consistent : instrument.Consistent store) :
    result.1.Consistent result.2.1 := by
  have growth := Store.Extends.of_shape_eq (Action.shape_of_act done)
  intro target run found
  by_cases moved : action.moved? = some target
  · rcases Action.advance_of_act moved done with ⟨rows, rfl⟩
    exact consistent.advance rows target run found
  by_cases started : action.started? = some target
  · rcases Action.start_of_started? started with ⟨scan, rfl, rfl⟩
    rcases Action.opening_of_start done with ⟨columns, _, accepted, _, recorded⟩
    obtain rfl := Option.some.inj (recorded.symm.trans found)
    exact accepted.consistent.grow growth
  · apply ScanRun.Consistent.grow growth
    rcases Action.get?_scans_of_act done started moved with kept | halted
    · exact consistent target run (kept.symm.trans found)
    · rcases Option.map_eq_some_iff.mp (halted.symm.trans found) with ⟨record, lookup, rfl⟩
      exact (consistent target record lookup).halt

end

/-- Nothing on a bench makes a scan record inconsistent. -/
theorem consistent_invariant : Invariant Consistent where
  opened _ _ _ _ _ found := by simp [initial] at found
  adjusted adjustment consistent target run found :=
    consistent target run (adjustment.alike.scans ▸ found)
  acted done consistent := consistent.act done
  grown growth consistent target run found :=
    (consistent target run found).grow growth

/-! ## Checked transfers -/

/-- Like `acquire`, but an index outside the buffer is refused. -/
def acquireChecked? (buffer : ScanBuffer) :
    List Column → Nat → Instrument → Store → Option (Instrument × Store)
  | [], _, instrument, store => some (instrument, store)
  | column :: rest, index, instrument, store =>
      if index < buffer.size store then
        let (value, instrument) := instrument.sample column
        acquireChecked? buffer rest (index + 1) instrument (buffer.put store index value)
      else none

/-- Like `generate`, but an index outside the buffer is refused. -/
def generateChecked? (buffer : ScanBuffer) (store : Store) :
    List Column → Nat → Instrument → Option Instrument
  | [], _, instrument => some instrument
  | column :: rest, index, instrument => do
      let value ← buffer.get? store index
      generateChecked? buffer store rest (index + 1) (instrument.drive value column)

/-- Like `moveSamples`, but an index outside the buffer is refused. -/
def moveSamplesChecked? (instrument : Instrument) (store : Store) (target : ScanTarget)
    (run : ScanRun) : Option (Instrument × Store) :=
  if target.isInput then acquireChecked? run.buffer run.columns run.position instrument store
  else do
    let driven ← generateChecked? run.buffer store run.columns run.position instrument
    return (driven, store)

/-- Count a row whose samples have been moved. -/
def countRow (instrument : Instrument) (target : ScanTarget) (run : ScanRun) :
    Instrument × List Firing :=
  ({ instrument with
      bindings := if target.isInput then
          instrument.bindings.map fun binding => binding.pass run.transfer
        else instrument.bindings
      scans := instrument.scans.set target run },
    rowFirings instrument.bindings target run)

/-- Like `advance`, but an index outside the buffer is refused. -/
def advanceChecked? (target : ScanTarget) :
    Nat → Instrument → Store → Option (Instrument × Store × List Firing)
  | 0, instrument, store => some (instrument, store, [])
  | rows + 1, instrument, store =>
      match instrument.running? target with
      | none => some (instrument, store, [])
      | some run => do
          let (moved, written) ← instrument.moveSamplesChecked? store target run
          let (instrument, first) := moved.countRow target run.next
          let (instrument, store, rest) ← advanceChecked? target rows instrument written
          return (instrument, store, first ++ rest)

section

variable {buffer : ScanBuffer} {columns : List Column} {index : Nat}
  {instrument : Instrument} {store : Store}

theorem acquireChecked?_eq_some (inside : index + columns.length ≤ buffer.size store) :
    acquireChecked? buffer columns index instrument store =
      some (acquire buffer columns index instrument store) := by
  induction columns generalizing index instrument store with
  | nil => rfl
  | cons column rest ih =>
      simp only [List.length_cons] at inside
      have here : index < buffer.size store := by omega
      simp only [acquireChecked?, acquire, here, if_true]
      apply ih
      rw [Store.size_eq_of_shape_eq (store.shape_put buffer index _)]
      omega

/-- A cell inside a buffer has a sample. -/
theorem get?_of_lt_size (inside : index < buffer.size store) :
    ∃ value, buffer.get? store index = some value := by
  cases buffer with
  | reals buffer => exact ⟨_, Array.getElem?_eq_getElem inside⟩
  | words buffer =>
      exact ⟨_, congrArg (Option.map UInt64.toFloat) (Array.getElem?_eq_getElem inside)⟩

theorem generateChecked?_eq_some (inside : index + columns.length ≤ buffer.size store) :
    generateChecked? buffer store columns index instrument =
      some (generate buffer store columns index instrument) := by
  induction columns generalizing index instrument with
  | nil => rfl
  | cons column rest ih =>
      simp only [List.length_cons] at inside
      have here : index < buffer.size store := by omega
      rcases get?_of_lt_size here with ⟨value, sampled⟩
      simp only [generateChecked?, generate, sampled, Option.bind_eq_bind, Option.bind_some]
      exact ih (by omega)

/-- A consistent record lets no transfer leave the buffer. -/
theorem moveSamplesChecked?_eq_some {target : ScanTarget} {run : ScanRun}
    (consistent : run.Consistent store) :
    instrument.moveSamplesChecked? store target run =
      some (instrument.moveSamples store target run) := by
  have inside := consistent.row_le_size
  unfold moveSamplesChecked? moveSamples
  split
  · exact acquireChecked?_eq_some inside
  · rw [generateChecked?_eq_some inside]
    rfl

theorem advanceChecked?_eq_some (target : ScanTarget) (rows : Nat)
    (consistent : instrument.Consistent store) :
    advanceChecked? target rows instrument store =
      some (advance target rows instrument store) := by
  induction rows generalizing instrument store with
  | zero => rfl
  | succ rows ih =>
      cases running : instrument.running? target with
      | none => simp [advanceChecked?, advance, running]
      | some run =>
          have found := (running?_eq_some_iff.mp running).1
          have moved : instrument.moveSamplesChecked? store target run = some _ :=
            moveSamplesChecked?_eq_some (consistent target run found)
          have rest := ih (consistent.moveRow running)
          simp only [advanceChecked?, running, moved, advance_succ running, Option.bind_eq_bind,
            Option.bind_some]
          -- The row that has been moved and counted is the one that `moveRow` moves.
          change (do
            let later ← advanceChecked? target rows (instrument.moveRow store target run).1
              (instrument.moveRow store target run).2.1
            some (later.1, later.2.1, (instrument.moveRow store target run).2.2 ++ later.2.2)) = _
          rw [rest]
          rfl

end

end Instrument

namespace Bench

/-- On a reachable bench every scan record is consistent, and no row that any scan moves
touches a cell outside of its buffer. -/
theorem Reachable.scans_consistent {bench : Bench} (reachable : bench.Reachable)
    {handle : Handle} {device : Instrument}
    (found : bench.driver.instruments.get? handle = some device) :
    (∀ target run, device.scans.get? target = some run → run.Consistent bench.store) ∧
    ∀ target rows, Instrument.advanceChecked? target rows device bench.store =
      some (Instrument.advance target rows device bench.store) := by
  have consistent : device.Consistent bench.store :=
    Instrument.consistent_invariant.holds reachable found
  exact ⟨consistent, fun target rows => Instrument.advanceChecked?_eq_some target rows consistent⟩

/-- Three cells are scanned as a ring until the second round has begun. -/
def wrapped : Bench :=
  (Bench.initial.run (Command.opening ++
    [.edit (.allocateReals #[0, 0, 0]),
     .request (.scanAnalogIn 1 ⟨0, 0, 3, 1000, ScanOption.continuous⟩ .singleEnded .bip10Volts
       .empty ⟨0, 1⟩),
     .stimulus (.advance 1 .analogIn 4)])).1

theorem scans_consistent_wrapped :
    ∃ device run, wrapped.driver.instruments.get? 1 = some device ∧
      device.scans.get? .analogIn = some run ∧ run.transfer = ⟨4, 4, 0⟩ ∧
      run.Consistent wrapped.store ∧
      Instrument.advanceChecked? .analogIn 5 device wrapped.store =
        some (Instrument.advance .analogIn 5 device wrapped.store) := by
  have reached : (wrapped.scan? 1 .analogIn).map ScanRun.transfer = some ⟨4, 4, 0⟩ := by
    decide +kernel
  rcases Option.map_eq_some_iff.mp reached with ⟨run, recorded, transfer⟩
  rcases scan?_eq_some_iff.mp recorded with ⟨device, found, lookup⟩
  rcases Reachable.scans_consistent (.run .initial _) found with ⟨consistent, checked⟩
  exact ⟨device, run, found, lookup, transfer, consistent _ _ lookup, checked _ _⟩

end Bench

end Acquisition
