import Acquisition.Proofs.Consistent

/-!
# The device before each row

The rows of a scan are moved one after the other.  The shots of a scan are the states of its
device right before each of its rows, in order; a scan samples an input for a row as it is in
the shot of that row.  What every row keeps (`ShotInvariant`) holds of the scan after any
commands that neither start another one on the target nor write to its buffer
(`ShotInvariant.run`).
-/

namespace Acquisition

/-- The buffer has the same samples in two stores. -/
def ScanBuffer.Unchanged (buffer : ScanBuffer) (before after : Store) : Prop :=
  match buffer with
  | .reals buffer => (buffer.view after).cells = (buffer.view before).cells
  | .words buffer => (buffer.view after).cells = (buffer.view before).cells

instance (buffer : ScanBuffer) (before after : Store) :
    Decidable (buffer.Unchanged before after) :=
  match buffer with
  | .reals buffer => inferInstanceAs (Decidable ((buffer.view after).cells = _))
  | .words buffer => inferInstanceAs (Decidable ((buffer.view after).cells = _))

namespace ScanBuffer.Unchanged

variable {buffer : ScanBuffer} {first middle last : Store}

theorem trans (left : buffer.Unchanged first middle) (right : buffer.Unchanged middle last) :
    buffer.Unchanged first last := by
  cases buffer <;> exact Eq.trans right left

theorem get?_eq (unchanged : buffer.Unchanged first last) (index : Nat) :
    buffer.get? last index = buffer.get? first index := by
  cases buffer with
  | reals buffer => exact congrArg (fun cells : Array Float => cells[index]?) unchanged
  | words buffer =>
      exact congrArg (fun cells : Array UInt64 => cells[index]?.map UInt64.toFloat) unchanged

end ScanBuffer.Unchanged

/-! ## Shots -/

/-- The device right before each row that the scan on a target moves while it advances. -/
def Instrument.shots (target : ScanTarget) : Nat → Instrument → Store → List Instrument
  | 0, _, _ => []
  | rows + 1, instrument, store =>
      match instrument.running? target with
      | none => []
      | some run =>
          let (moved, written, _) := instrument.moveRow store target run
          instrument :: shots target rows moved written

namespace Action

/-- By how many rows an action tells the scan on a target to advance. -/
def rowCount (instrument : Instrument) (target : ScanTarget) : Action → Nat
  | advance other rows => if other = target then rows else 0
  | finish other =>
      if other = target then ((instrument.running? target).map ScanRun.remaining).getD 0 else 0
  | _ => 0

variable {action : Action} {instrument : Instrument} {store : Store} {target : ScanTarget}
  {result : Instrument × Store × List Firing}

/-- To move a scan is to advance it by the rows that are asked for. -/
theorem advance_rowCount (moved : action.moved? = some target)
    (done : action.act instrument store = .ok result) :
    result = Instrument.advance target (action.rowCount instrument target) instrument store := by
  cases action with
  | advance other rows =>
      obtain rfl := Option.some.inj moved
      rw [rowCount, if_pos rfl]
      exact (Except.ok.inj done).symm
  | finish other =>
      obtain rfl := Option.some.inj moved
      rw [rowCount, if_pos rfl]
      rcases Instrument.finishScan_eq_ok_iff.mp done with ⟨idle, rfl⟩ | ⟨run, running, _, rfl⟩
      · rw [idle]
        rfl
      · rw [running]
        rfl
  | _ => simp [moved?] at moved

theorem rowCount_of_unmoved (unmoved : action.moved? ≠ some target) :
    action.rowCount instrument target = 0 := by
  cases action with
  | advance other rows | finish other =>
      have ne : other ≠ target := fun same => unmoved (congrArg some same)
      exact if_neg ne
  | _ => rfl

end Action

namespace Bench

/-- The shots of the rows that a command makes a scan move. -/
def shotsBy (bench : Bench) (handle : Handle) (target : ScanTarget) (command : Command) :
    List Instrument :=
  match bench.driver.instruments.get? handle, bench.taken? handle command with
  | some device, some action =>
      Instrument.shots target (action.rowCount device target) device bench.store
  | _, _ => []

/-- The shots of the rows that the scan on a target moves along some commands. -/
def shots (handle : Handle) (target : ScanTarget) : Bench → List Command → List Instrument
  | _, [] => []
  | bench, command :: rest =>
      bench.shotsBy handle target command ++ shots handle target (bench.step command).1 rest

/-- Along some commands no scan is started on a target, and what does not move the scan there
does not write to its buffer. -/
def LeftAlone (handle : Handle) (target : ScanTarget) (buffer : ScanBuffer) :
    Bench → List Command → Prop
  | _, [] => True
  | bench, command :: rest =>
      (bench.taken? handle command).bind Action.started? ≠ some target ∧
      ((bench.taken? handle command).bind Action.moved? ≠ some target →
        buffer.Unchanged bench.store (bench.step command).1.store) ∧
      LeftAlone handle target buffer (bench.step command).1 rest

instance decidableLeftAlone (handle : Handle) (target : ScanTarget) (buffer : ScanBuffer) :
    (bench : Bench) → (commands : List Command) →
      Decidable (LeftAlone handle target buffer bench commands)
  | _, [] => inferInstanceAs (Decidable True)
  | bench, command :: rest =>
      have := decidableLeftAlone handle target buffer (bench.step command).1 rest
      inferInstanceAs (Decidable (_ ∧ (_ → _) ∧ _))

end Bench

/-- The command edits no buffer, asks for no start of the scan on a target, and moves no other
scan. -/
structure Command.Leaves (handle : Handle) (target : ScanTarget) (command : Command) : Prop where
  unedited : ∀ edit, command ≠ .edit edit
  unstarted : ∀ action, command.action? = some (handle, action) → action.started? ≠ some target
  unmoved : ∀ asked action, command.action? = some (asked, action) →
    action.moved? = none ∨ asked = handle ∧ action.moved? = some target

namespace Command

variable {handle : Handle} {target : ScanTarget}

/-- A command that asks for no action leaves a scan alone, unless it is an edit. -/
theorem leaves_of_action?_eq_none {command : Command} (asks : command.action? = none)
    (unedited : ∀ edit, command ≠ .edit edit) : command.Leaves handle target where
  unedited := unedited
  unstarted action asked := by
    rw [asks] at asked
    contradiction
  unmoved _ action asked := by
    rw [asks] at asked
    contradiction

/-- To advance a scan is to leave it alone. -/
theorem leaves_advance (rows : Nat) :
    (Command.stimulus (.advance handle target rows)).Leaves handle target where
  unedited := nofun
  unstarted action asked := by
    obtain rfl := congrArg Prod.snd (Option.some.inj asked)
    nofun
  unmoved other action asked := by
    obtain ⟨rfl, rfl⟩ := Prod.mk.inj (Option.some.inj asked)
    exact .inr ⟨rfl, rfl⟩

end Command

namespace Bench

variable {handle : Handle} {target : ScanTarget}

/-- A command that leaves a scan alone writes to a storage only if it moves that scan. -/
theorem store_step_of_leaves {bench : Bench} {command : Command}
    (leaves : command.Leaves handle target)
    (still : (bench.taken? handle command).bind Action.moved? ≠ some target) :
    (bench.step command).1.store = bench.store := by
  cases asks : command.action? with
  | none => exact (Command.plain_of_action?_eq_none asks).store_eq leaves.unedited bench
  | some asked =>
      obtain ⟨asked, action⟩ := asked
      rcases step_cases asks bench with ⟨device, result, found, done, acted, _⟩ | unchanged
      · rw [acted.store]
        rcases leaves.unmoved asked action asks with unmoved | ⟨rfl, moved⟩
        · exact Action.store_of_unmoved unmoved done
        · rw [taken?_eq_some_iff.mpr ⟨asks, device, result, found, done⟩] at still
          exact absurd moved still
      · rw [unchanged]

/-- Commands that each leave a scan alone do so one after the other. -/
theorem leftAlone_of_leaves (buffer : ScanBuffer) {bench : Bench} {commands : List Command}
    (leaves : ∀ command ∈ commands, command.Leaves handle target) :
    LeftAlone handle target buffer bench commands := by
  induction commands generalizing bench with
  | nil => trivial
  | cons command rest ih =>
      obtain ⟨first, others⟩ := List.forall_mem_cons.mp leaves
      refine ⟨?_, fun still => ?_, ih others⟩
      · intro started
        obtain ⟨action, taken, starts⟩ := Option.bind_eq_some_iff.mp started
        exact first.unstarted action (taken?_eq_some_iff.mp taken).1 starts
      · have same := store_step_of_leaves first still
        rw [same]
        cases buffer <;> rfl

end Bench

/-! ## What every row keeps -/

/-- What a row of the scan on a target keeps, with its shot added to the earlier ones, and
what holds on when the scan is halted and when its buffer is left alone. -/
structure ShotInvariant (target : ScanTarget) (buffer : ScanBuffer)
    (P : ScanRun → Store → List Instrument → Prop) : Prop where
  moveRow : ∀ (device : Instrument) (store : Store) (run : ScanRun) (shots : List Instrument),
    device.running? target = some run → P run store shots →
    P run.next (device.moveRow store target run).2.1 (shots ++ [device])
  halt : ∀ (run : ScanRun) (store : Store) (shots : List Instrument),
    P run store shots → P run.halt store shots
  unchanged : ∀ (run : ScanRun) (store after : Store) (shots : List Instrument),
    buffer.Unchanged store after → P run store shots → P run after shots

/-- The record of the scan on a target of a device satisfies what is said of it, the store
and the shots. -/
def Instrument.Records (device : Instrument) (target : ScanTarget)
    (P : ScanRun → Store → List Instrument → Prop) (store : Store) (shots : List Instrument) :
    Prop :=
  ∃ run, device.scans.get? target = some run ∧ P run store shots

namespace ShotInvariant

variable {target : ScanTarget} {buffer : ScanBuffer}
  {P : ScanRun → Store → List Instrument → Prop} (invariant : ShotInvariant target buffer P)

include invariant

/-- A scan that advances keeps what every row keeps. -/
theorem advance (count : Nat) {device : Instrument} {store : Store} {shots : List Instrument}
    (holds : device.Records target P store shots) :
    (Instrument.advance target count device store).1.Records target P
      (Instrument.advance target count device store).2.1
      (shots ++ Instrument.shots target count device store) := by
  induction count generalizing device store shots with
  | zero => simpa [Instrument.shots] using holds
  | succ count ih =>
      cases running : device.running? target with
      | none =>
          simpa [Instrument.shots, running, Instrument.advance_of_not_running running] using holds
      | some run =>
          obtain ⟨record, found, kept⟩ := holds
          obtain ⟨lookup, _⟩ := Instrument.running?_eq_some_iff.mp running
          obtain rfl := Option.some.inj (found.symm.trans lookup)
          have next : (device.moveRow store target record).1.Records target P
              (device.moveRow store target record).2.1 (shots ++ [device]) :=
            ⟨record.next, by rw [Instrument.moveRow_scans, Table.get?_set_self],
              invariant.moveRow device store record shots running kept⟩
          have rest := ih next
          rw [Instrument.advance_succ running]
          simpa only [Instrument.shots, running, List.append_assoc, List.singleton_append]
            using rest

variable {bench : Bench} {handle : Handle} {device after : Instrument}
  {shots : List Instrument}

/-- A command that leaves the scan alone keeps what every row keeps. -/
theorem step {command : Command}
    (unstarted : (bench.taken? handle command).bind Action.started? ≠ some target)
    (unwritten : (bench.taken? handle command).bind Action.moved? ≠ some target →
      buffer.Unchanged bench.store (bench.step command).1.store)
    (issued : handle < bench.driver.nextHandle)
    (found : bench.driver.instruments.get? handle = some device)
    (still : (bench.step command).1.driver.instruments.get? handle = some after)
    (holds : device.Records target P bench.store shots) :
    after.Records target P (bench.step command).1.store
      (shots ++ bench.shotsBy handle target command) := by
  cases taken : bench.taken? handle command with
  | none =>
      obtain ⟨run, record, kept⟩ := holds
      rw [taken] at unwritten
      have same := (Bench.alike_of_taken?_eq_none taken found still issued).scans
      refine ⟨run, same ▸ record, ?_⟩
      simp only [Bench.shotsBy, taken, found, List.append_nil]
      exact invariant.unchanged _ _ _ _ (unwritten (by simp)) kept
  | some action =>
      obtain ⟨before, result, lookup, done, acted, _⟩ := Bench.step_of_taken? taken
      obtain rfl := Option.some.inj (found.symm.trans lookup)
      obtain rfl := Option.some.inj (acted.get?_self.symm.trans still)
      rw [taken] at unstarted unwritten
      simp only [Option.bind_some] at unstarted unwritten
      simp only [Bench.shotsBy, taken, found]
      by_cases moved : action.moved? = some target
      · obtain rfl := Action.advance_rowCount moved done
        rw [acted.store]
        exact invariant.advance _ holds
      · obtain ⟨run, record, kept⟩ := holds
        rw [Action.rowCount_of_unmoved moved, Instrument.shots, List.append_nil]
        have unchanged := unwritten moved
        rcases Action.get?_scans_of_act done unstarted moved with same | halted
        · exact ⟨run, same.trans record, invariant.unchanged _ _ _ _ unchanged kept⟩
        · rw [record] at halted
          exact ⟨run.halt, halted,
            invariant.halt _ _ _ (invariant.unchanged _ _ _ _ unchanged kept)⟩

/-- What every row keeps holds after any commands that leave the scan alone. -/
theorem run {commands : List Command}
    (alone : Bench.LeftAlone handle target buffer bench commands)
    (issued : handle < bench.driver.nextHandle)
    (found : bench.driver.instruments.get? handle = some device)
    (still : (bench.run commands).1.driver.instruments.get? handle = some after)
    (holds : device.Records target P bench.store shots) :
    after.Records target P (bench.run commands).1.store
      (shots ++ Bench.shots handle target bench commands) := by
  induction commands generalizing bench device shots with
  | nil =>
      obtain rfl := Option.some.inj (found.symm.trans still)
      simpa [Bench.shots] using holds
  | cons command rest ih =>
      obtain ⟨unstarted, unwritten, alone⟩ := alone
      have later := Int.lt_of_lt_of_le issued (bench.nextHandle_le_step command)
      obtain ⟨middle, between⟩ := Bench.found_of_run later still
      have next := invariant.step unstarted unwritten issued found between holds
      have last := ih alone later between still next
      rw [List.append_assoc] at last
      exact last

end ShotInvariant

end Acquisition
