import Acquisition.Proofs.Callbacks

/-!
# Events for available data

While an input scan is the only one of its device that starts or moves, the alarm of the
device waits for the next multiple of its period (`Armed`).  So it fires once for each
period of rows, however the rows are moved (`Reachable.dataAvailable_exact`).
-/

namespace Acquisition

/-- The firings that are due after some rows: one for each full period. -/
def periodFirings (handler : Handler) (period width count : Nat) : List Firing :=
  (List.range (count / period)).map fun j =>
    ⟨handler, EventKind.dataAvailable, (j + 1) * period * width⟩

/-- One more row adds a firing when it completes a period. -/
theorem periodFirings_succ (handler : Handler) {period : Nat} (positive : 0 < period)
    (width count : Nat) :
    periodFirings handler period width (count + 1) =
      periodFirings handler period width count ++
        if period ∣ count + 1 then
          [⟨handler, EventKind.dataAvailable, (count + 1) * width⟩]
        else [] := by
  unfold periodFirings
  rw [Nat.succ_div]
  split
  · next complete =>
      rcases complete with ⟨periods, full⟩
      have last : count / period + 1 = periods := by
        rw [← Nat.succ_div_of_dvd ⟨periods, full⟩, full, Nat.mul_div_cancel_left _ positive]
      rw [List.range_succ, List.map_append, List.map_singleton, last, full,
        Nat.mul_comm period periods]
  · rw [List.append_nil, Nat.add_zero]

/-- The next multiple of a period is reached by the row that completes the period. -/
theorem nextMultiple_le_iff {period : Nat} (positive : 0 < period) (count : Nat) :
    period * (count / period + 1) ≤ count + 1 ↔ period ∣ count + 1 := by
  have below : count < period * (count / period + 1) := by
    rw [Nat.mul_add, Nat.mul_one]
    exact Nat.lt_mul_div_succ count positive
  constructor
  · intro reached
    exact ⟨_, Nat.le_antisymm below reached⟩
  · intro complete
    exact Nat.le_of_eq (by rw [← Nat.succ_div_of_dvd complete, Nat.mul_div_cancel' complete])

namespace Alarm

variable {period count rows : Nat} {handler : Handler}

/-- The alarm that waits for the next multiple of its period. -/
def atMultiple (period : Nat) (handler : Handler) (count : Nat) : Alarm :=
  ⟨period, period * (count / period + 1), handler⟩

theorem pass_atMultiple (positive : 0 < period) :
    (atMultiple period handler count).pass (count + 1) = atMultiple period handler (count + 1) := by
  simp only [atMultiple, pass, nextMultiple_le_iff positive, Nat.succ_div]
  split
  · rw [Nat.mul_add period (_ + 1), Nat.mul_one]
  · rfl

/-- After some rows it waits for the next multiple again. -/
theorem later_atMultiple (positive : 0 < period) :
    (atMultiple period handler count).later count rows =
      atMultiple period handler (count + rows) := by
  induction rows generalizing count with
  | zero => rfl
  | succ rows ih => rw [later, pass_atMultiple positive, ih, Nat.add_right_comm, Nat.add_assoc]

/-- It rings for the periods that the rows complete. -/
theorem periodFirings_append_calls (positive : 0 < period) (width : Nat) :
    periodFirings handler period width count ++ Instrument.callFirings handler width
        ((atMultiple period handler count).calls count rows) =
      periodFirings handler period width (count + rows) := by
  induction rows generalizing count with
  | zero => exact List.append_nil _
  | succ rows ih =>
      have first : Instrument.callFirings handler width
          (if (atMultiple period handler count).threshold ≤ count + 1 then [count + 1] else []) =
          if period ∣ count + 1 then [⟨handler, EventKind.dataAvailable, (count + 1) * width⟩]
          else [] := by
        simp only [atMultiple, nextMultiple_le_iff positive]
        split <;> rfl
      rw [calls, Instrument.callFirings, List.map_append, ← List.append_assoc,
        ← Instrument.callFirings, first, ← periodFirings_succ handler positive,
        pass_atMultiple positive, ← Instrument.callFirings, ih, Nat.add_right_comm, Nat.add_assoc]

end Alarm

namespace Instrument

/-- The alarm of a device waits for the next multiple of its period in the scan on a target. -/
structure Armed (instrument : Instrument) (target : ScanTarget) (period : Nat)
    (handler : Handler) (run : ScanRun) : Prop where
  record : instrument.scans.get? target = some run
  total : run.transfer.totalCount = run.transfer.scanCount * run.width
  alarms : instrument.alarms =
    [⟨period, period * (run.transfer.scanCount / period + 1), handler⟩]

variable {instrument : Instrument} {target : ScanTarget} {run : ScanRun} {period : Nat}
  {handler : Handler}

theorem Armed.ringing (armed : instrument.Armed target period handler run) :
    instrument.Ringing target (.atMultiple period handler run.transfer.scanCount) run :=
  ⟨armed.record, armed.total, armed.alarms⟩

/-- A row fires the alarm exactly when it completes a period. -/
theorem Armed.dataFirings_moveRow (armed : instrument.Armed target period handler run)
    (input : target.isInput = true) (positive : 0 < period) (store : Store) :
    dataFirings (instrument.moveRow store target run).2.2 =
      if period ∣ run.transfer.scanCount + 1 then
        [⟨handler, EventKind.dataAvailable, (run.transfer.scanCount + 1) * run.width⟩]
      else [] := by
  rw [armed.ringing.dataFirings_moveRow input store]
  simp only [Alarm.atMultiple, nextMultiple_le_iff positive]
  split <;> rfl

end Instrument

namespace Bench

section

variable {bench : Bench} {handle : Handle} {target : ScanTarget} {device after : Instrument}
  {period : Nat} {eventHandler : Handler} {run : ScanRun}

/-- Along undisturbed commands the alarm is due for each period that the scan completes. -/
theorem armed_run (input : target.isInput = true) (positive : 0 < period)
    {commands : List Command} (quiet : Undisturbed handle target bench commands)
    (issued : handle < bench.driver.nextHandle)
    (found : bench.driver.instruments.get? handle = some device)
    (still : (bench.run commands).1.driver.instruments.get? handle = some after)
    (armed : device.Armed target period eventHandler run) :
    ∃ last, after.Armed target period eventHandler last ∧ run.Continues last ∧
      (periodFirings eventHandler period run.width run.transfer.scanCount).map (Due.mk handle) ++
          dataDues handle (bench.run commands).2 =
        (periodFirings eventHandler period run.width last.transfer.scanCount).map
          (Due.mk handle) := by
  obtain ⟨last, moved, ringing, continues, counted, dues⟩ :=
    ringing_run input quiet issued found still armed.ringing
  refine ⟨last, ⟨ringing.record, ringing.total, ?_⟩, continues, ?_⟩
  · rw [ringing.alarms, Alarm.later_atMultiple positive, counted]
    rfl
  · rw [dues, counted, ← List.map_append]
    exact congrArg (List.map _) (Alarm.periodFirings_append_calls positive run.width)

/-- A scan that has just been accepted arms the alarm of its device. -/
theorem armed_of_accepted {command : Command} {scan : ScanStart}
    (accepted : bench.taken? handle command = some (.start scan))
    (input : scan.target.isInput = true)
    (found : bench.driver.instruments.get? handle = some device) (singular : device.Singular)
    {alarm : Alarm} (waits : alarm ∈ device.alarms) :
    ∃ started first, (bench.step command).1.driver.instruments.get? handle = some started ∧
      (bench.step command).2 = [] ∧ first.transfer = .initial ∧
      scan.columns device = .ok first.columns ∧
      started.Armed scan.target alarm.period alarm.handler first := by
  rcases step_of_taken? accepted with ⟨before, result, lookup, done, acted, due⟩
  obtain rfl := Option.some.inj (found.symm.trans lookup)
  have alarms := Action.alarms_of_act done rfl
  rcases Action.opening_of_start done with ⟨columns, asked, _, silent, recorded⟩
  have only : device.alarms = [alarm] := by
    obtain ⟨single, same⟩ := List.length_eq_one_iff.mp
      (Nat.le_antisymm singular.one (List.length_pos_of_mem waits))
    rw [same, List.mem_singleton] at waits
    rw [same, waits]
  have armed : result.1.alarms = [⟨alarm.period, alarm.period * (0 / alarm.period + 1),
      alarm.handler⟩] := by
    simpa [Action.realarm, input, only, Alarm.rearm] using alarms
  refine ⟨_, _, acted.get?_self, ?_, rfl, ?_, recorded, (Nat.zero_mul _).symm, armed⟩
  · rw [due, silent, List.map_nil]
  · rw [asked]
    exact congrArg Except.ok (scan.plan_columns columns).symm

/-- After any commands among which only one input scan starts and moves, the handler for
available data has been due once for each full period of rows, with the count of the
samples up to then.  The next row makes it due again exactly when it completes a period,
and an output scan never does. -/
theorem Reachable.dataAvailable_exact (reachable : bench.Reachable) {command : Command}
    {scan : ScanStart} (accepted : bench.taken? handle command = some (.start scan))
    (input : scan.target.isInput = true)
    (found : bench.driver.instruments.get? handle = some device) {binding : Binding}
    (bound : binding ∈ device.bindings)
    (waits : binding.kinds.contains EventKind.dataAvailable = true) {commands : List Command}
    (quiet : Undisturbed handle scan.target (bench.step command).1 commands)
    (still : (bench.run (command :: commands)).1.driver.instruments.get? handle = some after) :
    ∃ run, after.scans.get? scan.target = some run ∧
      scan.columns device = .ok run.columns ∧
      dataDues handle (bench.run (command :: commands)).2 =
        (periodFirings binding.handler binding.period run.width run.transfer.scanCount).map
          (Due.mk handle) ∧
      (∀ store, dataFirings (after.moveRow store scan.target run).2.2 =
        if binding.period ∣ run.transfer.scanCount + 1 then
          [⟨binding.handler, EventKind.dataAvailable, (run.transfer.scanCount + 1) * run.width⟩]
        else []) ∧
      ∀ other rows store, other.isInput = false →
        dataFirings (Instrument.advance other rows after store).2.2 = [] := by
  have singular : device.Singular := Instrument.singular_invariant.holds reachable found
  have member : ⟨binding.period, binding.threshold, binding.handler⟩ ∈ device.alarms :=
    List.mem_filterMap.mpr ⟨binding, bound, if_pos waits⟩
  have positive := singular.period_pos _ member
  have issued := Int.lt_of_lt_of_le (reachable.issued found) (bench.nextHandle_le_step command)
  obtain ⟨started, first, now, silent, fresh, asked, armed⟩ :=
    armed_of_accepted accepted input found singular member
  obtain ⟨run, armed, continues, fired⟩ :=
    armed_run input positive quiet issued now still armed
  have width : run.width = first.width := congrArg List.length continues.columns
  refine ⟨run, armed.record, continues.columns ▸ asked, ?_,
    armed.dataFirings_moveRow input positive,
    fun other rows store output => (Instrument.advance_of_output output rows after store).1⟩
  rw [run_cons, dataDues_append, silent, width, ← fired, fresh]
  simp [dataDues, periodFirings, Transfer.initial]

end

/-- Five rows that are moved in two parts fire at the second and at the fourth one. -/
theorem dataAvailable_five_rows :
    let commands : List Command :=
      [.stimulus (.advance 1 .analogIn 3), .stimulus (.advance 1 .analogIn 2)]
    dataDues 1 (everySecondRow.run (startPairs :: commands)).2 =
      [⟨1, ⟨"data", .record⟩, EventKind.dataAvailable, 4⟩,
       ⟨1, ⟨"data", .record⟩, EventKind.dataAvailable, 8⟩] ∧
    Undisturbed 1 .analogIn (everySecondRow.step startPairs).1 commands := by
  intro commands
  have accepted : everySecondRow.taken? 1 startPairs = some (.start pairScan) :=
    taken?_of_isSome rfl (by decide +kernel)
  have quiet : Undisturbed 1 .analogIn (everySecondRow.step startPairs).1 commands := by
    refine ⟨?_, ?_, trivial⟩ <;> decide +kernel
  have bindings : (everySecondRow.driver.instruments.get? 1).map Instrument.bindings =
      some [⟨EventKind.dataAvailable, 2, 2, "data", .record⟩] := by decide +kernel
  have counted : ((everySecondRow.run (startPairs :: commands)).1.scan? 1 .analogIn).map
      (fun run => (run.width, run.transfer.scanCount)) = some (2, 5) := by decide +kernel
  rcases Option.map_eq_some_iff.mp bindings with ⟨device, found, bound⟩
  rcases Option.map_eq_some_iff.mp counted with ⟨run, recorded, counts⟩
  rcases scan?_eq_some_iff.mp recorded with ⟨after, still, lookup⟩
  obtain ⟨last, record, _, dues, _⟩ := Reachable.dataAvailable_exact everySecondRow_reachable
    accepted rfl found (bound ▸ List.mem_singleton_self _) (by decide) quiet still
  obtain rfl := Option.some.inj (lookup.symm.trans record)
  rcases Prod.mk.inj counts with ⟨width, count⟩
  refine ⟨?_, quiet⟩
  rw [dues, width, count]
  decide

end Bench

end Acquisition
