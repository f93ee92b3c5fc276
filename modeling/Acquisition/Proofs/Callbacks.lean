import Acquisition.Proofs.Alarm

/-!
# The callbacks of a scan

Along commands that leave the alarm of a device alone but for moving one input scan, the alarm
rings at rows that depend on nothing but the alarm and on how many rows there are
(`Alarm.calls`): how the rows are moved makes no difference (`Bench.ringing_run`).
-/

namespace Acquisition

namespace Alarm

variable {alarm : Alarm} {count rows : Nat}

/-! ## The calls of an alarm -/

/-- The rows at which an alarm rings, of some rows after others. -/
def calls (alarm : Alarm) (count : Nat) : Nat → List Nat
  | 0 => []
  | rows + 1 =>
      (if alarm.threshold ≤ count + 1 then [count + 1] else []) ++
        (alarm.pass (count + 1)).calls (count + 1) rows

/-- An alarm some rows after others. -/
def later (alarm : Alarm) (count : Nat) : Nat → Alarm
  | 0 => alarm
  | rows + 1 => (alarm.pass (count + 1)).later (count + 1) rows

theorem handler_pass (alarm : Alarm) (count : Nat) :
    (alarm.pass count).handler = alarm.handler := by
  unfold pass
  split <;> rfl

/-- A threshold moves on by a period at most. -/
theorem threshold_le_pass (alarm : Alarm) (count : Nat) :
    alarm.threshold ≤ (alarm.pass count).threshold := by
  unfold pass
  split
  · exact Nat.le_add_right _ _
  · exact Nat.le_refl _

theorem calls_succ_of_due (due : alarm.threshold ≤ count + 1) (rows : Nat) :
    alarm.calls count (rows + 1) =
      (count + 1) :: calls { alarm with threshold := alarm.threshold + alarm.period } (count + 1)
        rows := by
  rw [calls, if_pos due, pass, if_pos due]
  rfl

theorem calls_succ_of_not_due (early : ¬alarm.threshold ≤ count + 1) (rows : Nat) :
    alarm.calls count (rows + 1) = alarm.calls (count + 1) rows := by
  rw [calls, if_neg early, pass, if_neg early]
  rfl

theorem handler_later (alarm : Alarm) (count rows : Nat) :
    (alarm.later count rows).handler = alarm.handler := by
  induction rows generalizing alarm count with
  | zero => rfl
  | succ rows ih => exact (ih _ _).trans (alarm.handler_pass _)

/-- The calls in some rows and more are those in the first ones and those in the others. -/
theorem calls_add (alarm : Alarm) (count first more : Nat) :
    alarm.calls count (first + more) =
      alarm.calls count first ++ (alarm.later count first).calls (count + first) more := by
  induction first generalizing alarm count with
  | zero => rw [Nat.zero_add]; rfl
  | succ first ih =>
      rw [Nat.add_right_comm, calls, ih, calls, later, List.append_assoc, Nat.add_right_comm,
        Nat.add_assoc count]

theorem later_add (alarm : Alarm) (count first more : Nat) :
    alarm.later count (first + more) = (alarm.later count first).later (count + first) more := by
  induction first generalizing alarm count with
  | zero => rw [Nat.zero_add]; rfl
  | succ first ih =>
      rw [Nat.add_right_comm, later, ih, later, Nat.add_right_comm, Nat.add_assoc count]

/-- An alarm rings at one of the rows, and not before its threshold. -/
theorem bounds_of_mem_calls {call : Nat} (rings : call ∈ alarm.calls count rows) :
    count + 1 ≤ call ∧ call ≤ count + rows ∧ alarm.threshold ≤ call := by
  induction rows generalizing alarm count with
  | zero => contradiction
  | succ rows ih =>
      rcases List.mem_append.mp rings with now | after
      · split at now
        · next due =>
            obtain rfl := List.mem_singleton.mp now
            exact ⟨Nat.le_refl _, by omega, due⟩
        · contradiction
      · obtain ⟨beyond, within, reached⟩ := ih after
        have threshold := alarm.threshold_le_pass (count + 1)
        omega

/-- An alarm rings at the first row that reaches its threshold. -/
theorem mem_calls (alarm : Alarm) (reached : max (count + 1) alarm.threshold ≤ count + rows) :
    max (count + 1) alarm.threshold ∈ alarm.calls count rows := by
  induction rows generalizing count with
  | zero => omega
  | succ rows ih =>
      by_cases due : alarm.threshold ≤ count + 1
      · rw [calls_succ_of_due due, Nat.max_eq_left due]
        exact List.mem_cons_self
      · have next : max (count + 1) alarm.threshold = max (count + 1 + 1) alarm.threshold := by
          omega
        rw [calls_succ_of_not_due due, next]
        exact ih (by omega)

end Alarm

/-! ## Rows of a scan -/

namespace Instrument

variable {instrument : Instrument} {target : ScanTarget} {alarm : Alarm} {run : ScanRun}

/-- The scan on a target is recorded, and the device has one alarm. -/
structure Ringing (instrument : Instrument) (target : ScanTarget) (alarm : Alarm)
    (run : ScanRun) : Prop where
  record : instrument.scans.get? target = some run
  total : run.transfer.totalCount = run.transfer.scanCount * run.width
  alarms : instrument.alarms = [alarm]

/-- The firings of an alarm at some rows. -/
def callFirings (handler : Handler) (width : Nat) (calls : List Nat) : List Firing :=
  calls.map fun count => ⟨handler, EventKind.dataAvailable, count * width⟩

theorem Ringing.dataFirings_moveRow (ringing : instrument.Ringing target alarm run)
    (input : target.isInput = true) (store : Store) :
    dataFirings (instrument.moveRow store target run).2.2 =
      callFirings alarm.handler run.width (if alarm.threshold ≤ run.transfer.scanCount + 1 then
        [run.transfer.scanCount + 1] else []) := by
  have total : run.next.transfer.totalCount = (run.transfer.scanCount + 1) * run.width := by
    rw [Nat.add_mul, Nat.one_mul, ← ringing.total]
    rfl
  have counted : run.next.transfer.scanCount = run.transfer.scanCount + 1 := rfl
  rw [Instrument.dataFirings_moveRow, if_pos input, ringing.alarms]
  simp only [List.filterMap_cons, List.filterMap_nil, Alarm.firing?, total, counted, callFirings]
  by_cases due : alarm.threshold ≤ run.transfer.scanCount + 1
  · rw [if_pos due, if_pos due]
    rfl
  · rw [if_neg due, if_neg due]
    rfl

theorem Ringing.moveRow (ringing : instrument.Ringing target alarm run)
    (input : target.isInput = true) (store : Store) :
    (instrument.moveRow store target run).1.Ringing target
      (alarm.pass (run.transfer.scanCount + 1)) run.next where
  record := by rw [moveRow_scans, Table.get?_set_self]
  total := by
    change run.transfer.totalCount + run.width = (run.transfer.scanCount + 1) * run.width
    rw [ringing.total, Nat.add_mul, Nat.one_mul]
  alarms := by
    rw [alarms_moveRow, if_pos input, ringing.alarms]
    rfl

/-- While the scan advances, the alarm rings for the rows that are moved. -/
theorem Ringing.advance (ringing : instrument.Ringing target alarm run)
    (input : target.isInput = true) (rows : Nat) (store : Store) :
    ∃ last moved, (Instrument.advance target rows instrument store).1.Ringing target
        (alarm.later run.transfer.scanCount moved) last ∧ run.Continues last ∧
      last.transfer.scanCount = run.transfer.scanCount + moved ∧
      dataFirings (Instrument.advance target rows instrument store).2.2 =
        callFirings alarm.handler run.width (alarm.calls run.transfer.scanCount moved) := by
  induction rows generalizing instrument store alarm run with
  | zero => exact ⟨run, 0, ringing, {}, rfl, rfl⟩
  | succ rows ih =>
      cases running : instrument.running? target with
      | none =>
          rw [advance_of_not_running running]
          exact ⟨run, 0, ringing, {}, rfl, rfl⟩
      | some current =>
          have found := (running?_eq_some_iff.mp running).1
          obtain rfl := Option.some.inj (ringing.record.symm.trans found)
          obtain ⟨last, moved, later, continues, counted, fired⟩ :=
            ih (ringing.moveRow input store) (instrument.moveRow store target run).2.1
          have one : run.next.transfer.scanCount = run.transfer.scanCount + 1 := rfl
          rw [advance_succ running]
          refine ⟨last, moved + 1, later, .trans {} continues, ?_, ?_⟩
          · rw [counted, one, Nat.add_right_comm, Nat.add_assoc]
          · rw [dataFirings_append, ringing.dataFirings_moveRow input store, fired,
              alarm.handler_pass, ScanRun.next_width, one, callFirings, callFirings, callFirings,
              ← List.map_append]
            rfl

end Instrument

/-! ## Actions -/

namespace Action

/-- Whether an action takes part in the events for available data, apart from moving the scan
on a target: it starts an input scan, moves another one or unbinds the events. -/
def disturbs (target : ScanTarget) : Action → Bool
  | start scan => scan.target.isInput
  | advance other _ => other.isInput && other ≠ target
  | finish other => other.isInput && other ≠ target
  | disableEvents kinds => kinds.intersects EventKind.dataAvailable
  | _ => false

variable {action : Action} {instrument : Instrument} {store : Store} {target : ScanTarget}
  {result : Instrument × Store × List Firing}

theorem isInput_eq_false_of_moved? {other : ScanTarget} (quiet : action.disturbs target = false)
    (moved : action.moved? = some other) (ne : other ≠ target) : other.isInput = false := by
  cases action with
  | advance | finish =>
      obtain rfl := Option.some.inj moved
      simpa [disturbs, ne] using quiet
  | _ => simp [moved?] at moved

/-- An action that takes no part in the events leaves the alarm of a device alone. -/
theorem alarms_of_quiet (done : action.act instrument store = .ok result)
    (quiet : action.disturbs target = false) (unmoved : action.moved? ≠ some target)
    (armed : instrument.alarms ≠ []) :
    result.1.alarms = instrument.alarms ∧ dataFirings result.2.2 = [] := by
  cases moved : action.moved? with
  | some other =>
      have ne : other ≠ target := fun same => unmoved (same ▸ moved)
      rcases advance_of_act moved done with ⟨rows, rfl⟩
      have output := isInput_eq_false_of_moved? quiet moved ne
      exact (Instrument.advance_of_output output rows instrument store).symm
  | none =>
      refine ⟨?_, dataFirings_of_act done moved⟩
      rw [alarms_of_act done moved]
      cases action with
      | enableEvents kinds period handler =>
          simp only [act, bind_eq_ok_iff, Instrument.enableEvents] at done
          rcases done with ⟨_, ⟨_, checked, _⟩, _⟩
          cases waits : kinds.contains EventKind.dataAvailable with
          | false => simp [realarm, waits]
          | true => exact absurd (Instrument.alarms_eq_nil_of_checkBinding checked waits).1 armed
      | disableEvents kinds =>
          have apart : kinds.intersects EventKind.dataAvailable = false := quiet
          simp [realarm, apart]
      | start scan =>
          have output : scan.target.isInput = false := quiet
          simp [realarm, output]
      | _ => rfl

/-- And it halts the scan on the target at most. -/
theorem scans_of_quiet (done : action.act instrument store = .ok result)
    (input : target.isInput = true) (quiet : action.disturbs target = false)
    (unmoved : action.moved? ≠ some target) :
    result.1.scans.get? target = instrument.scans.get? target ∨
      result.1.scans.get? target = (instrument.scans.get? target).map ScanRun.halt := by
  have unstarted : action.started? ≠ some target := by
    cases action with
    | start scan =>
        have output : scan.target.isInput = false := quiet
        intro started
        rw [Option.some.inj started, input] at output
        contradiction
    | _ => simp [started?]
  exact get?_scans_of_act done unstarted unmoved

end Action

/-! ## Commands -/

namespace Bench

/-- The handlers due on a device for available data. -/
def dataDues (handle : Handle) (dues : List Due) : List Due :=
  dues.filter fun due => due.handle = handle ∧ due.firing.kind = EventKind.dataAvailable

theorem dataDues_append (handle : Handle) (left right : List Due) :
    dataDues handle (left ++ right) = dataDues handle left ++ dataDues handle right :=
  List.filter_append _ _

theorem dataDues_map (handle : Handle) (firings : List Firing) :
    dataDues handle (firings.map (Due.mk handle)) = (dataFirings firings).map (Due.mk handle) := by
  rw [dataDues, dataFirings, List.filter_map]
  congr 1
  apply List.filter_congr
  simp

/-- Along some commands a device takes part in the events for available data only by moving
the scan on a target. -/
def Undisturbed (handle : Handle) (target : ScanTarget) : Bench → List Command → Prop
  | _, [] => True
  | bench, command :: rest =>
      (bench.taken? handle command).all (fun action => !action.disturbs target) ∧
      Undisturbed handle target (bench.step command).1 rest

section

variable {bench : Bench} {handle : Handle} {target : ScanTarget} {device after : Instrument}
  {alarm : Alarm} {run : ScanRun}

/-- An undisturbed command moves the scan on the target, or it leaves the alarm of the device alone
and halts that scan at most. -/
theorem undisturbed_step (input : target.isInput = true) {command : Command}
    (quiet : (bench.taken? handle command).all (fun action => !action.disturbs target))
    (issued : handle < bench.driver.nextHandle)
    (found : bench.driver.instruments.get? handle = some device)
    (still : (bench.step command).1.driver.instruments.get? handle = some after)
    (waits : device.alarms ≠ []) :
    (∃ rows, after = (Instrument.advance target rows device bench.store).1 ∧
      dataDues handle (bench.step command).2 =
        (dataFirings (Instrument.advance target rows device bench.store).2.2).map
          (Due.mk handle)) ∨
    (after.alarms = device.alarms ∧ dataDues handle (bench.step command).2 = [] ∧
      (after.scans.get? target = device.scans.get? target ∨
        after.scans.get? target = (device.scans.get? target).map ScanRun.halt)) := by
  cases taken : bench.taken? handle command with
  | none =>
      have alike := alike_of_taken?_eq_none taken found still issued
      have silent : dataDues handle (bench.step command).2 = [] := by
        apply List.filter_eq_nil_iff.mpr
        intro due member holds
        rcases taken?_of_due member with ⟨action, takes⟩
        rw [(of_decide_eq_true holds).1, taken] at takes
        contradiction
      exact .inr ⟨congrArg (List.filterMap _) alike.bindings, silent, .inl (by rw [alike.scans])⟩
  | some action =>
      rcases step_of_taken? taken with ⟨before, result, lookup, done, acted, due⟩
      obtain rfl := Option.some.inj (found.symm.trans lookup)
      obtain rfl := Option.some.inj (acted.get?_self.symm.trans still)
      have undisturbed : action.disturbs target = false := by simpa [taken] using quiet
      rw [due, dataDues_map]
      by_cases moved : action.moved? = some target
      · rcases Action.advance_of_act moved done with ⟨rows, rfl⟩
        exact .inl ⟨rows, rfl, rfl⟩
      · obtain ⟨alarms, silent⟩ := Action.alarms_of_quiet done undisturbed moved waits
        refine .inr ⟨alarms, ?_, Action.scans_of_quiet done input undisturbed moved⟩
        rw [silent, List.map_nil]

/-- An undisturbed command makes the alarm ring for the rows that it moves. -/
theorem ringing_step (input : target.isInput = true) {command : Command}
    (quiet : (bench.taken? handle command).all (fun action => !action.disturbs target))
    (issued : handle < bench.driver.nextHandle)
    (found : bench.driver.instruments.get? handle = some device)
    (still : (bench.step command).1.driver.instruments.get? handle = some after)
    (ringing : device.Ringing target alarm run) :
    ∃ last moved, after.Ringing target (alarm.later run.transfer.scanCount moved) last ∧
      run.Continues last ∧ last.transfer.scanCount = run.transfer.scanCount + moved ∧
      dataDues handle (bench.step command).2 =
        (Instrument.callFirings alarm.handler run.width
          (alarm.calls run.transfer.scanCount moved)).map (Due.mk handle) := by
  have waits : device.alarms ≠ [] := by simp [ringing.alarms]
  rcases undisturbed_step input quiet issued found still waits with
    ⟨rows, rfl, dues⟩ | ⟨alarms, silent, kept | halted⟩
  · obtain ⟨last, moved, later, continues, counted, fired⟩ := ringing.advance input rows bench.store
    exact ⟨last, moved, later, continues, counted, by rw [dues, fired]⟩
  · exact ⟨run, 0, ⟨kept.trans ringing.record, ringing.total, alarms.trans ringing.alarms⟩, {}, rfl,
      silent⟩
  · rw [ringing.record] at halted
    exact ⟨run.halt, 0, ⟨halted, ringing.total, alarms.trans ringing.alarms⟩, {}, rfl, silent⟩

/-- So do any undisturbed commands. -/
theorem ringing_run (input : target.isInput = true) {commands : List Command}
    (quiet : Undisturbed handle target bench commands)
    (issued : handle < bench.driver.nextHandle)
    (found : bench.driver.instruments.get? handle = some device)
    (still : (bench.run commands).1.driver.instruments.get? handle = some after)
    (ringing : device.Ringing target alarm run) :
    ∃ last moved, after.Ringing target (alarm.later run.transfer.scanCount moved) last ∧
      run.Continues last ∧ last.transfer.scanCount = run.transfer.scanCount + moved ∧
      dataDues handle (bench.run commands).2 =
        (Instrument.callFirings alarm.handler run.width
          (alarm.calls run.transfer.scanCount moved)).map (Due.mk handle) := by
  induction commands generalizing bench device alarm run with
  | nil =>
      obtain rfl := Option.some.inj (found.symm.trans still)
      exact ⟨run, 0, ringing, {}, rfl, rfl⟩
  | cons command rest ih =>
      obtain ⟨undisturbed, quiet⟩ := quiet
      have later := Int.lt_of_lt_of_le issued (bench.nextHandle_le_step command)
      obtain ⟨middle, between⟩ := found_of_run later still
      obtain ⟨next, first, ringing, begins, counted, fired⟩ :=
        ringing_step input undisturbed issued found between ringing
      obtain ⟨last, more, ringing, continues, total, others⟩ := ih quiet later between still ringing
      have width : next.width = run.width := congrArg List.length begins.columns
      rw [counted] at ringing total others
      refine ⟨last, first + more, ?_, begins.trans continues, ?_, ?_⟩
      · rw [Alarm.later_add]
        exact ringing
      · rw [total, Nat.add_assoc]
      · rw [run_cons, dataDues_append, fired, others, width, alarm.handler_later, ← List.map_append,
          Instrument.callFirings, Instrument.callFirings, ← List.map_append, ← Alarm.calls_add]
        rfl

end

end Bench

end Acquisition
