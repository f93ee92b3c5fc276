import Acquisition.Proofs.Alarm
import Acquisition.Proofs.Twin

/-!
# When an alarm rings next

The thresholds of two twins may differ.  They fire the same as long as the next row
reaches the alarm of both or of none (`Twin.dataFirings_advance_iff`).  What a running
scan sees of an alarm is its schedule: with a period of one, a threshold that has been
reached is reached at every row.  Twins with the same schedule fire the same
(`Twin.dataFirings_advance`), and for a continuous scan nothing less will do
(`schedule_eq_of_dataFirings`).
-/

namespace Acquisition

namespace Alarm

/-! ## What lies ahead -/

/-- The alarm as it is seen after some rows. -/
def ahead (count : Nat) (alarm : Alarm) : Alarm :=
  if alarm.period = 1 then { alarm with threshold := max alarm.threshold (count + 1) } else alarm

theorem firing?_ahead {count : Nat} {transfer : Transfer}
    (counted : transfer.scanCount = count + 1) (alarm : Alarm) :
    (alarm.ahead count).firing? transfer = alarm.firing? transfer := by
  unfold ahead
  split
  · have reach : max alarm.threshold (count + 1) ≤ count + 1 ↔ alarm.threshold ≤ count + 1 := by
      omega
    simp only [firing?, counted, reach]
  · rfl

theorem ahead_pass_ahead (count : Nat) (alarm : Alarm) :
    ((alarm.ahead count).pass (count + 1)).ahead (count + 1) =
      (alarm.pass (count + 1)).ahead (count + 1) := by
  rcases alarm with ⟨period, threshold, handler⟩
  by_cases one : period = 1
  · subst one
    by_cases reached : threshold ≤ count + 1
    · have first : max threshold (count + 1) = count + 1 := by omega
      have second : max (threshold + 1) (count + 2) = count + 2 := by omega
      simp only [ahead, pass, if_true, reached, first, second, Nat.le_refl, Nat.max_self]
    · have first : max threshold (count + 1) = threshold := by omega
      simp [ahead, pass, reached, first]
  · simp [ahead, one]

/-! ## How often an alarm rings -/

/-- How often an alarm rings in the rows after some others. -/
def rings (alarm : Alarm) (count : Nat) : Nat → Nat
  | 0 => 0
  | rows + 1 =>
      (if alarm.threshold ≤ count + 1 then 1 else 0) +
        (alarm.pass (count + 1)).rings (count + 1) rows

/-- An alarm does not ring before its threshold. -/
theorem rings_eq_zero {alarm : Alarm} {count rows : Nat}
    (early : count + rows < alarm.threshold) : alarm.rings count rows = 0 := by
  induction rows generalizing count with
  | zero => rfl
  | succ rows ih =>
      have waiting : ¬ alarm.threshold ≤ count + 1 := by omega
      rw [rings, if_neg waiting, pass, if_neg waiting, ih (by omega)]

/-- An alarm rings at its threshold. -/
theorem rings_pos {alarm : Alarm} {count rows : Nat} (some : 0 < rows)
    (late : alarm.threshold ≤ count + rows) : 0 < alarm.rings count rows := by
  induction rows generalizing count with
  | zero => contradiction
  | succ rows ih =>
      by_cases reached : alarm.threshold ≤ count + 1
      · rw [rings, if_pos reached]
        omega
      · rw [rings, if_neg reached, pass, if_neg reached, Nat.zero_add]
        exact ih (by omega) (by omega)

theorem threshold_le_of_rings_eq {left right : Alarm} {count : Nat}
    (waiting : count + 1 < left.threshold)
    (same : ∀ rows, left.rings count rows = right.rings count rows) :
    left.threshold ≤ right.threshold := by
  apply Nat.le_of_not_lt
  intro earlier
  have rows := same (left.threshold - 1 - count)
  rw [rings_eq_zero (by omega)] at rows
  have rung : 0 < right.rings count (left.threshold - 1 - count) :=
    rings_pos (by omega) (by omega)
  omega

/-- An alarm that does not ring at the next row rings as often as another one only if both
wait for the same row. -/
theorem threshold_eq_of_rings_eq {left right : Alarm} {count : Nat}
    (waiting : count + 1 < left.threshold)
    (same : ∀ rows, left.rings count rows = right.rings count rows) :
    left.threshold = right.threshold := by
  have le := threshold_le_of_rings_eq waiting same
  have ge := threshold_le_of_rings_eq (Nat.lt_of_lt_of_le waiting le) fun rows => (same rows).symm
  exact Nat.le_antisymm le ge

/-- Two alarms of one period that always ring equally often have the same threshold, or
both ring at every row. -/
theorem threshold_of_rings_eq {left right : Alarm} {count : Nat}
    (same : ∀ rows, left.rings count rows = right.rings count rows) (positive : 0 < left.period)
    (alike : right.rearm = left.rearm) :
    left.threshold = right.threshold ∨
      left.period = 1 ∧ left.threshold ≤ count + 1 ∧ right.threshold ≤ count + 1 := by
  -- Each row brings an alarm with a longer period closer to its threshold.
  obtain ⟨lag, near⟩ : ∃ lag, count + 2 ≤ left.threshold + lag := ⟨count + 2, by omega⟩
  induction lag generalizing count left right with
  | zero => exact .inl (threshold_eq_of_rings_eq near same)
  | succ lag ih =>
      by_cases reached : left.threshold ≤ count + 1
      · have both : right.threshold ≤ count + 1 := by
          apply Nat.le_of_not_lt
          intro waiting
          have equal := threshold_eq_of_rings_eq waiting fun rows => (same rows).symm
          omega
        by_cases one : left.period = 1
        · exact .inr ⟨one, reached, both⟩
        · have tails (rows : Nat) : (left.pass (count + 1)).rings (count + 1) rows =
              (right.pass (count + 1)).rings (count + 1) rows := by
            have next := same (rows + 1)
            rw [rings, rings, if_pos reached, if_pos both] at next
            omega
          rw [pass, pass, if_pos reached, if_pos both] at tails
          have periods : right.rearm.period = left.rearm.period := by rw [alike]
          change right.period = left.period at periods
          have closer : count + 1 + 2 ≤ left.threshold + left.period + lag := by omega
          rcases ih tails positive alike closer with equal | ⟨single, _⟩
          · change left.threshold + left.period = right.threshold + right.period at equal
            omega
          · exact absurd single one
      · exact .inl (threshold_eq_of_rings_eq (by omega) same)

end Alarm

namespace Instrument

/-! ## Twins -/

variable {target : ScanTarget} {left right : Instrument} {run : ScanRun}

/-- Twins have the same alarms but for the thresholds. -/
theorem Twin.alarms (twin : Twin target left right) :
    right.alarms.map Alarm.rearm = left.alarms.map Alarm.rearm := by
  have rearmed (instrument : Instrument) : instrument.alarms.map Alarm.rearm =
      (instrument.bindings.map Binding.rearm).filterMap Binding.alarm? := by
    rw [Instrument.alarms, List.map_filterMap, List.filterMap_map]
    exact congrArg (List.filterMap · _) (funext fun binding => binding.alarm?_rearm.symm)
  rw [rearmed, rearmed, twin.bindings]

/-- Twins have no alarm, or one each that differs in the threshold at most. -/
theorem Twin.alarms_cases (twin : Twin target left right) (singular : left.Singular) :
    (left.alarms = [] ∧ right.alarms = []) ∨
    ∃ period first second handler, 0 < period ∧ left.alarms = [⟨period, first, handler⟩] ∧
      right.alarms = [⟨period, second, handler⟩] := by
  have rearmed := twin.alarms
  cases alarms : left.alarms with
  | nil =>
      rw [alarms, List.map_nil, List.map_eq_nil_iff] at rearmed
      exact .inl ⟨rfl, rearmed⟩
  | cons alarm rest =>
      have one := singular.one
      rw [alarms, List.length_cons] at one
      obtain rfl : rest = [] := List.length_eq_zero_iff.mp (by omega)
      have positive := singular.period_pos alarm (by simp [alarms])
      rw [alarms, List.map_singleton] at rearmed
      rcases List.map_eq_singleton_iff.mp rearmed with ⟨other, others, alike⟩
      rcases alarm with ⟨period, threshold, handler⟩
      rcases other with ⟨otherPeriod, otherThreshold, otherHandler⟩
      simp only [Alarm.rearm, Alarm.mk.injEq] at alike
      rcases alike with ⟨rfl, _, rfl⟩
      exact .inr ⟨_, _, _, _, positive, rfl, others⟩

/-! ## Row by row -/

/-- Whether the next row of the scan on a target reaches an alarm. -/
def isDue (instrument : Instrument) (target : ScanTarget) : Bool :=
  (instrument.running? target).any fun run =>
    instrument.alarms.any fun alarm => alarm.threshold ≤ run.transfer.scanCount + 1

/-- Twins fire the same at a row exactly when both or none of them are due. -/
theorem Twin.dataFirings_moveRow_iff (twin : Twin target left right)
    (input : target.isInput = true) (singular : left.Singular)
    (running : left.running? target = some run) (before after : Store) :
    dataFirings (right.moveRow after target run).2.2 =
        dataFirings (left.moveRow before target run).2.2 ↔
      right.isDue target = left.isDue target := by
  have counted : run.next.transfer.scanCount = run.transfer.scanCount + 1 := rfl
  rw [dataFirings_moveRow, dataFirings_moveRow, if_pos input, if_pos input, isDue, isDue,
    twin.running?, running, Option.any_some, Option.any_some]
  rcases twin.alarms_cases singular with ⟨first, second⟩ |
    ⟨period, first, second, handler, _, one, other⟩
  · simp [first, second]
  · rw [one, other]
    by_cases early : first ≤ run.transfer.scanCount + 1 <;>
      by_cases late : second ≤ run.transfer.scanCount + 1 <;>
      simp [Alarm.firing?, counted, early, late]

/-- Twins fire the same however far the scan advances exactly when at each row both or none
of them are due. -/
theorem Twin.dataFirings_advance_iff (twin : Twin target left right)
    (input : target.isInput = true) (singular : left.Singular) (before after : Store) :
    (∀ rows, dataFirings (Instrument.advance target rows right after).2.2 =
      dataFirings (Instrument.advance target rows left before).2.2) ↔
    ∀ rows, (Instrument.advance target rows right after).1.isDue target =
      (Instrument.advance target rows left before).1.isDue target := by
  constructor
  · intro same rows
    induction rows generalizing left right before after with
    | zero =>
        cases running : left.running? target with
        | none => simp [isDue, running, twin.running?]
        | some run =>
            have first := same 1
            rw [advance_succ running, advance_succ (twin.running?.trans running)] at first
            simp only [advance_zero, List.append_nil] at first
            exact (twin.dataFirings_moveRow_iff input singular running before after).mp first
    | succ rows ih =>
        cases running : left.running? target with
        | none =>
            rw [advance_of_not_running running,
              advance_of_not_running (twin.running?.trans running)]
            simp [isDue, running, twin.running?]
        | some run =>
            have also := twin.running?.trans running
            rw [advance_succ running, advance_succ also]
            refine ih (twin.moveRow before after run) (singular.moveRow before target run) _ _ ?_
            intro more
            have first := same 1
            have all := same (more + 1)
            rw [advance_succ running, advance_succ also] at first all
            simp only [advance_zero, List.append_nil] at first
            rw [dataFirings_append, dataFirings_append, first] at all
            exact List.append_cancel_left all
  · intro due rows
    induction rows generalizing left right before after with
    | zero => rfl
    | succ rows ih =>
        cases running : left.running? target with
        | none =>
            rw [advance_of_not_running running,
              advance_of_not_running (twin.running?.trans running)]
        | some run =>
            have also := twin.running?.trans running
            have later (more : Nat) := due (more + 1)
            simp only [advance_succ running, advance_succ also] at later
            have first :=
              (twin.dataFirings_moveRow_iff input singular running before after).mpr (due 0)
            rw [advance_succ running, advance_succ also, dataFirings_append, dataFirings_append,
              first, ih (twin.moveRow before after run) (singular.moveRow before target run) _ _
                later]

/-! ## Schedules -/

/-- What a scan that is running on a target sees of the alarms. -/
def schedule (instrument : Instrument) (target : ScanTarget) : Option (List Alarm) :=
  (instrument.running? target).map fun run =>
    instrument.alarms.map (Alarm.ahead run.transfer.scanCount)

theorem schedule_of_running (running : left.running? target = some run) :
    left.schedule target = some (left.alarms.map (Alarm.ahead run.transfer.scanCount)) := by
  rw [schedule, running]
  rfl

/-- Twins with one schedule fire the same at a row. -/
theorem dataFirings_moveRow_congr (input : target.isInput = true) (before after : Store)
    (same : right.alarms.map (Alarm.ahead run.transfer.scanCount) =
      left.alarms.map (Alarm.ahead run.transfer.scanCount)) :
    dataFirings (right.moveRow after target run).2.2 =
      dataFirings (left.moveRow before target run).2.2 := by
  have seen (instrument : Instrument) :
      (instrument.alarms.filterMap fun alarm => alarm.firing? run.next.transfer) =
        (instrument.alarms.map (Alarm.ahead run.transfer.scanCount)).filterMap fun alarm =>
          alarm.firing? run.next.transfer := by
    rw [List.filterMap_map]
    exact congrArg (List.filterMap · _) (funext fun alarm => (Alarm.firing?_ahead rfl alarm).symm)
  rw [dataFirings_moveRow, dataFirings_moveRow, if_pos input, if_pos input, seen, seen, same]

/-- And they have one schedule after it. -/
theorem alarms_moveRow_congr (input : target.isInput = true) (before after : Store)
    (same : right.alarms.map (Alarm.ahead run.transfer.scanCount) =
      left.alarms.map (Alarm.ahead run.transfer.scanCount)) :
    (right.moveRow after target run).1.alarms.map (Alarm.ahead run.next.transfer.scanCount) =
      (left.moveRow before target run).1.alarms.map
        (Alarm.ahead run.next.transfer.scanCount) := by
  have seen (instrument : Instrument) (store : Store) :
      (instrument.moveRow store target run).1.alarms.map
          (Alarm.ahead run.next.transfer.scanCount) =
        (instrument.alarms.map (Alarm.ahead run.transfer.scanCount)).map fun alarm =>
          (alarm.pass run.next.transfer.scanCount).ahead run.next.transfer.scanCount := by
    rw [alarms_moveRow, if_pos input, List.map_map, List.map_map]
    exact congrArg (List.map · _)
      (funext fun alarm => (Alarm.ahead_pass_ahead run.transfer.scanCount alarm).symm)
  rw [seen, seen, same]

/-- Twins with one schedule fire the same while the scan advances. -/
theorem Twin.dataFirings_advance (twin : Twin target left right) (input : target.isInput = true)
    (same : right.schedule target = left.schedule target) (rows : Nat) (before after : Store) :
    dataFirings (Instrument.advance target rows right after).2.2 =
      dataFirings (Instrument.advance target rows left before).2.2 := by
  induction rows generalizing left right before after with
  | zero => rfl
  | succ rows ih =>
      cases running : left.running? target with
      | none =>
          rw [advance_of_not_running running,
            advance_of_not_running (twin.running?.trans running)]
      | some run =>
          have also := twin.running?.trans running
          rw [schedule_of_running running, schedule_of_running also, Option.some.injEq] at same
          have next := twin.moveRow before after run
          have later : (right.moveRow after target run).1.schedule target =
              (left.moveRow before target run).1.schedule target := by
            rw [schedule, schedule, running?_moveRow, running?_moveRow]
            split
            · exact congrArg some (alarms_moveRow_congr input before after same)
            · rfl
          rw [advance_succ running, advance_succ also, dataFirings_append, dataFirings_append,
            dataFirings_moveRow_congr input before after same, ih next later]

/-! ## Continuous scans -/

/-- A continuous scan stays running and fires as often as its alarm rings. -/
theorem length_dataFirings_advance (input : target.isInput = true)
    (running : left.running? target = some run) (endless : run.isContinuous = true)
    {alarm : Alarm} (only : left.alarms = [alarm]) (rows : Nat) (store : Store) :
    (dataFirings (advance target rows left store).2.2).length =
      alarm.rings run.transfer.scanCount rows := by
  induction rows generalizing left run alarm store with
  | zero => rfl
  | succ rows ih =>
      have active := (running?_eq_some_iff.mp running).2
      have continued : run.next.isRunning = true := by
        rw [ScanRun.isRunning_next, active, endless]
        rfl
      have later : (left.moveRow store target run).1.running? target = some run.next := by
        rw [running?_moveRow, if_pos continued]
      have passed : (left.moveRow store target run).1.alarms =
          [alarm.pass (run.transfer.scanCount + 1)] := by
        rw [alarms_moveRow, if_pos input, only]
        rfl
      have fired : (dataFirings (left.moveRow store target run).2.2).length =
          if alarm.threshold ≤ run.transfer.scanCount + 1 then 1 else 0 := by
        have counted : run.next.transfer.scanCount = run.transfer.scanCount + 1 := rfl
        rw [dataFirings_moveRow, if_pos input, only]
        by_cases reached : alarm.threshold ≤ run.transfer.scanCount + 1
        · simp [Alarm.firing?, counted, reached]
        · simp [Alarm.firing?, counted, reached]
      rw [advance_succ running, dataFirings_append, List.length_append, fired, Alarm.rings]
      exact congrArg _ (ih later endless passed _)

/-- Twins that fire as often as each other, however far a continuous scan advances, have one
schedule. -/
theorem schedule_eq_of_dataFirings (twin : Twin target left right)
    (input : target.isInput = true) (running : left.running? target = some run)
    (endless : run.isContinuous = true) (singular : left.Singular) (before after : Store)
    (same : ∀ rows, dataFirings (advance target rows right after).2.2 =
      dataFirings (advance target rows left before).2.2) :
    right.schedule target = left.schedule target := by
  have also := twin.running?.trans running
  rw [schedule_of_running running, schedule_of_running also, Option.some.injEq]
  rcases twin.alarms_cases singular with ⟨first, second⟩ |
    ⟨period, first, second, handler, positive, one, other⟩
  · rw [first, second]
  · rw [one, other, List.map_singleton, List.map_singleton]
    have rings (rows : Nat) : Alarm.rings ⟨period, first, handler⟩ run.transfer.scanCount rows =
        Alarm.rings ⟨period, second, handler⟩ run.transfer.scanCount rows := by
      rw [← length_dataFirings_advance input running endless one rows before,
        ← length_dataFirings_advance input also endless other rows after, same]
    rcases Alarm.threshold_of_rings_eq rings positive rfl with equal | ⟨single, left, right⟩
    · change first = second at equal
      rw [equal]
    · change period = 1 at single
      change first ≤ run.transfer.scanCount + 1 at left
      change second ≤ run.transfer.scanCount + 1 at right
      simp [Alarm.ahead, single, Nat.max_eq_right left, Nat.max_eq_right right]

end Instrument

end Acquisition
