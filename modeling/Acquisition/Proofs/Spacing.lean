import Acquisition.Proofs.Callbacks
import Acquisition.Proofs.ReadBack

/-!
# How far apart the callbacks of a scan are

An alarm that waits for a row ahead moves on by its period whenever it rings, so its calls are a
period apart.  But the threshold of an alarm that is set while a scan is running starts from zero
and not from where the scan is.  If the scan is past the first period, the alarm rings at the next
row, and again at each one after it until the threshold has caught up (`Alarm.calls_spaced_iff`).

Main statement: `Bench.Reachable.callbacks_spaced_iff`.
-/

namespace Acquisition

namespace Alarm

variable {alarm : Alarm} {count rows : Nat}

/-! ## How far apart the calls of an alarm are -/

/-- The calls of an alarm that waits for a row ahead are a period apart. -/
theorem calls_spaced (alarm : Alarm) (ahead : count < alarm.threshold)
    (positive : 0 < alarm.period) :
    (alarm.calls count rows).Pairwise fun earlier later => earlier + alarm.period ≤ later := by
  induction rows generalizing alarm count with
  | zero => exact .nil
  | succ rows ih =>
      by_cases due : alarm.threshold ≤ count + 1
      · have reached : alarm.threshold = count + 1 := Nat.le_antisymm due ahead
        rw [calls_succ_of_due due]
        refine List.pairwise_cons.mpr ⟨fun call rings => ?_, ?_⟩
        · exact reached ▸ (bounds_of_mem_calls rings).2.2
        · refine ih { alarm with threshold := alarm.threshold + alarm.period } ?_ positive
          change count + 1 < alarm.threshold + alarm.period
          omega
      · rw [calls_succ_of_not_due due]
        exact ih alarm (Nat.lt_of_not_le due) positive

/-- The calls of an alarm are at different rows. -/
theorem calls_increasing (alarm : Alarm) (count rows : Nat) :
    (alarm.calls count rows).Pairwise fun earlier later => earlier + 1 ≤ later := by
  induction rows generalizing alarm count with
  | zero => exact .nil
  | succ rows ih =>
      refine List.pairwise_append.mpr ⟨?_, ih _ _, fun earlier now later after => ?_⟩
      · split
        · exact List.pairwise_singleton _ _
        · exact .nil
      · have beyond := (bounds_of_mem_calls after).1
        split at now
        · exact List.mem_singleton.mp now ▸ beyond
        · contradiction

/-- An alarm that is behind rings at the next row, and not again until its threshold is reached
once more. -/
theorem calls_of_behind (behind : alarm.threshold ≤ count)
    (short : count + rows < max (count + 2) (alarm.threshold + alarm.period)) :
    alarm.calls count rows = if rows = 0 then [] else [count + 1] := by
  cases rows with
  | zero => rfl
  | succ rows =>
      rw [calls_succ_of_due (by omega), if_neg (Nat.succ_ne_zero rows)]
      congr 1
      refine List.eq_nil_iff_forall_not_mem.mpr fun call rings => ?_
      obtain ⟨beyond, within, reached⟩ := bounds_of_mem_calls rings
      change alarm.threshold + alarm.period ≤ call at reached
      omega

/-- The calls are a period apart if the period is one row, or the alarm is set in time, or it has
not yet rung twice. -/
theorem calls_spaced_iff (alarm : Alarm) (count rows : Nat) (positive : 0 < alarm.period) :
    ((alarm.calls count rows).Pairwise fun earlier later => earlier + alarm.period ≤ later) ↔
      alarm.period = 1 ∨ count < alarm.threshold ∨
        count + rows < max (count + 2) (alarm.threshold + alarm.period) := by
  constructor
  · intro spaced
    rcases Nat.lt_or_ge count alarm.threshold with ahead | behind
    · exact .inr (.inl ahead)
    rcases Nat.lt_or_ge (count + rows) (max (count + 2) (alarm.threshold + alarm.period)) with
      short | far
    · exact .inr (.inr short)
    -- The second call is less than a period after the first one, unless every row is a period.
    obtain ⟨more, rfl⟩ : ∃ more, rows = more + 1 := ⟨rows - 1, by omega⟩
    rw [calls_succ_of_due (by omega)] at spaced
    have reached : max (count + 1 + 1) (alarm.threshold + alarm.period) ≤ count + 1 + more := by
      omega
    have second : count + 1 + alarm.period ≤
        max (count + 1 + 1) (alarm.threshold + alarm.period) :=
      (List.pairwise_cons.mp spaced).1 _
        (mem_calls { alarm with threshold := alarm.threshold + alarm.period } reached)
    exact .inl (by omega)
  · rintro (one | ahead | short)
    · rw [one]
      exact alarm.calls_increasing count rows
    · exact alarm.calls_spaced ahead positive
    · rcases Nat.lt_or_ge count alarm.threshold with ahead | behind
      · exact alarm.calls_spaced ahead positive
      · rw [calls_of_behind behind short]
        split
        · exact .nil
        · exact List.pairwise_singleton _ _

end Alarm

/-! ## Setting the alarm -/

/-- Whether an action sets the alarm for the scan on a target: it binds the events for available
data, or it starts the scan. -/
def Action.arms (target : ScanTarget) : Action → Bool
  | enableEvents kinds _ _ => kinds.contains EventKind.dataAvailable
  | start scan => scan.target = target
  | _ => false

/-- An alarm that has been set waits for as many rows as its period, wherever the scan is. -/
theorem Action.threshold_of_arms {action : Action} {instrument : Instrument} {store : Store}
    {result : Instrument × Store × List Firing} {target : ScanTarget}
    (done : action.act instrument store = .ok result) (arms : action.arms target = true)
    (input : target.isInput = true) :
    ∀ alarm ∈ result.1.alarms, alarm.threshold = alarm.period := by
  cases action with
  | enableEvents kinds period handler =>
      have waits : kinds.contains EventKind.dataAvailable = true := arms
      have alarms := alarms_of_act done rfl
      simp only [act, bind_eq_ok_iff, Instrument.enableEvents] at done
      obtain ⟨_, ⟨_, checked, _⟩, _⟩ := done
      rw [alarms, realarm, if_pos waits, (Instrument.alarms_eq_nil_of_checkBinding checked waits).1]
      intro alarm member
      obtain rfl := List.mem_singleton.mp member
      rfl
  | start scan =>
      have same : scan.target = target := of_decide_eq_true arms
      rw [alarms_of_act done rfl, realarm, if_pos (same ▸ input)]
      intro alarm member
      obtain ⟨earlier, _, rfl⟩ := List.mem_map.mp member
      rfl
  | _ => contradiction

namespace Bench

variable {bench : Bench} {handle : Handle} {target : ScanTarget} {device after : Instrument}
  {run : ScanRun}

/-- From the moment when the alarm of a device is set, at whatever row its only active input scan
is, the callbacks for available data are at least a period apart if the period is one row or the
scan has not yet moved a whole period.  Otherwise they are so only until the alarm rings for the
second time. -/
theorem Reachable.callbacks_spaced_iff (reachable : bench.Reachable) {command : Command}
    {action : Action} (taken : bench.taken? handle command = some action)
    (arms : action.arms target = true) (input : target.isInput = true)
    (found : (bench.step command).1.driver.instruments.get? handle = some device)
    (recorded : device.scans.get? target = some run) {binding : Binding}
    (bound : binding ∈ device.bindings)
    (waits : binding.kinds.contains EventKind.dataAvailable = true) {commands : List Command}
    (quiet : Undisturbed handle target (bench.step command).1 commands)
    (still : ((bench.step command).1.run commands).1.driver.instruments.get? handle =
      some after) :
    ∃ (last : ScanRun) (calls : List Nat), after.scans.get? target = some last ∧ 0 < run.width ∧
      dataDues handle ((bench.step command).1.run commands).2 = calls.map (fun count =>
        ⟨handle, binding.handler, EventKind.dataAvailable, count * run.width⟩) ∧
      ((calls.Pairwise fun earlier later => earlier + binding.period ≤ later) ↔
        binding.period = 1 ∨ run.transfer.scanCount < binding.period ∨
          last.transfer.scanCount < max (run.transfer.scanCount + 2) (2 * binding.period)) := by
  have next := reachable.step command
  have singular : device.Singular := Instrument.singular_invariant.holds next found
  have consistent := Instrument.consistent_invariant.holds next found target run recorded
  let alarm : Alarm := ⟨binding.period, binding.threshold, binding.handler⟩
  have member : alarm ∈ device.alarms :=
    List.mem_filterMap.mpr ⟨binding, bound, if_pos waits⟩
  have only : device.alarms = [alarm] := by
    obtain ⟨single, same⟩ := List.length_eq_one_iff.mp
      (Nat.le_antisymm singular.one (List.length_pos_of_mem member))
    rw [same, List.mem_singleton] at member
    rw [same, member]
  have threshold : alarm.threshold = binding.period := by
    obtain ⟨before, result, there, done, acted, _⟩ := step_of_taken? taken
    obtain rfl := Option.some.inj (acted.get?_self.symm.trans found)
    exact Action.threshold_of_arms done arms input alarm member
  have ringing : device.Ringing target alarm run := ⟨recorded, consistent.total, only⟩
  obtain ⟨last, moved, ringing, continues, counted, dues⟩ :=
    ringing_run input quiet (next.issued found) found still ringing
  refine ⟨last, alarm.calls run.transfer.scanCount moved, ringing.record,
    List.length_pos_iff.mpr consistent.columns_ne_nil, ?_, ?_⟩
  · rw [dues, Instrument.callFirings, List.map_map]
    rfl
  · have spaced := alarm.calls_spaced_iff run.transfer.scanCount moved
      (singular.period_pos alarm member)
    rw [threshold] at spaced
    rw [counted, Nat.two_mul]
    exact spaced

/-- A scan of one analog input that goes on for ever has moved some rows. -/
def ringAfter (rows : Nat) : Bench :=
  ((withCells #[0, 0]).run [startRing, .stimulus (.advance 1 .analogIn rows)]).1

theorem ringAfter_reachable (rows : Nat) : (ringAfter rows).Reachable :=
  (withCells_reachable #[0, 0]).run _

/-- Call a handler for every second row. -/
def enableSecond : Command :=
  .request (.enableEvents 1 EventKind.dataAvailable 2 ⟨"data", .record⟩)

/-- Move rows of the analog input. -/
def moveRows (rows : Nat) : Command :=
  .stimulus (.advance 1 .analogIn rows)

/-- A handler that is bound in time is called for every second row. -/
theorem callbacks_spaced_in_time :
    let set := ((ringAfter 1).step enableSecond).1
    let commands := [moveRows 3, moveRows 2]
    Undisturbed 1 .analogIn set commands ∧
    dataDues 1 (set.run commands).2 = [2, 4, 6].map (fun count =>
      ⟨1, ⟨"data", .record⟩, EventKind.dataAvailable, count⟩) ∧
    ∃ calls : List Nat,
      dataDues 1 (set.run commands).2 = calls.map (fun count =>
        ⟨1, ⟨"data", .record⟩, EventKind.dataAvailable, count * 1⟩) ∧
      calls.Pairwise fun earlier later => earlier + 2 ≤ later := by
  intro set commands
  have taken : (ringAfter 1).taken? 1 enableSecond =
      some (.enableEvents EventKind.dataAvailable 2 ⟨"data", .record⟩) :=
    taken?_of_isSome rfl (by decide +kernel)
  have quiet : Undisturbed 1 .analogIn set commands := by
    refine ⟨?_, ?_, trivial⟩ <;> decide +kernel
  have dues : dataDues 1 (set.run commands).2 = [2, 4, 6].map (fun count =>
      ⟨1, ⟨"data", .record⟩, EventKind.dataAvailable, count⟩) := by decide +kernel
  have bindings : (set.driver.instruments.get? 1).map Instrument.bindings =
      some [⟨EventKind.dataAvailable, 2, 2, "data", .record⟩] := by decide +kernel
  have counted : (set.scan? 1 .analogIn).map (fun run => (run.width, run.transfer.scanCount)) =
      some (1, 1) := by decide +kernel
  have stays : ((set.run commands).1.driver.instruments.get? 1).isSome = true := by
    decide +kernel
  obtain ⟨run, recorded, counts⟩ := Option.map_eq_some_iff.mp counted
  obtain ⟨width, count⟩ := Prod.mk.inj counts
  obtain ⟨device, found, lookup⟩ := scan?_eq_some_iff.mp recorded
  obtain ⟨after, still⟩ := Option.isSome_iff_exists.mp stays
  rw [found, Option.map_some, Option.some.injEq] at bindings
  obtain ⟨last, calls, _, _, called, spaced⟩ := (ringAfter_reachable 1).callbacks_spaced_iff taken
    (by decide) rfl found lookup (bindings ▸ List.mem_singleton_self _) (by decide) quiet still
  rw [width] at called
  rw [count] at spaced
  exact ⟨quiet, dues, calls, called, spaced.mpr (.inr (.inl (by decide)))⟩

/-- A handler that is bound for every second row after three rows is called for the fourth and the
fifth one. -/
theorem not_callbacks_spaced_late :
    ¬∀ (bench : Bench) (handle : Handle) (command : Command) (action : Action)
      (target : ScanTarget) (device : Instrument) (run : ScanRun) (binding : Binding)
      (commands : List Command), bench.Reachable → bench.taken? handle command = some action →
      action.arms target = true → target.isInput = true →
      (bench.step command).1.driver.instruments.get? handle = some device →
      device.scans.get? target = some run → binding ∈ device.bindings →
      binding.kinds.contains EventKind.dataAvailable = true →
      Undisturbed handle target (bench.step command).1 commands →
      ∃ calls : List Nat,
        dataDues handle ((bench.step command).1.run commands).2 = calls.map (fun count =>
          ⟨handle, binding.handler, EventKind.dataAvailable, count * run.width⟩) ∧
        calls.Pairwise fun earlier later => earlier + binding.period ≤ later := by
  intro claim
  let set := ((ringAfter 3).step enableSecond).1
  let commands := [moveRows 1, moveRows 1]
  have taken : (ringAfter 3).taken? 1 enableSecond =
      some (.enableEvents EventKind.dataAvailable 2 ⟨"data", .record⟩) :=
    taken?_of_isSome rfl (by decide +kernel)
  have quiet : Undisturbed 1 .analogIn set commands := by
    refine ⟨?_, ?_, trivial⟩ <;> decide +kernel
  have dues : (dataDues 1 (set.run commands).2).map (fun due => due.firing.data) = [4, 5] := by
    decide +kernel
  have bindings : (set.driver.instruments.get? 1).map Instrument.bindings =
      some [⟨EventKind.dataAvailable, 2, 2, "data", .record⟩] := by decide +kernel
  have counted : (set.scan? 1 .analogIn).map ScanRun.width = some 1 := by decide +kernel
  obtain ⟨run, recorded, width⟩ := Option.map_eq_some_iff.mp counted
  obtain ⟨device, found, lookup⟩ := scan?_eq_some_iff.mp recorded
  rw [found, Option.map_some, Option.some.injEq] at bindings
  obtain ⟨calls, called, spaced⟩ := claim (ringAfter 3) 1 enableSecond _ .analogIn device run
    ⟨EventKind.dataAvailable, 2, 2, "data", .record⟩ commands (ringAfter_reachable 3) taken
    (by decide) rfl found lookup (bindings ▸ List.mem_singleton_self _) (by decide) quiet
  have rows : calls = [4, 5] := by
    rw [called, List.map_map] at dues
    simpa [Function.comp_def, width] using dues
  rw [rows] at spaced
  revert spaced
  decide

end Bench

end Acquisition
