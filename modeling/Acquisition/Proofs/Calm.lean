import Acquisition.Proofs.Conduct

/-!
# What commands do not do

A scan does not begin to run unless a command starts it, and a running scan keeps what it was
started with (`running?_of_run`).  A handle is given back at most once: the log has its
release exactly when the handle was handed out and nothing is behind it any more
(`Reachable.countReleases`).
-/

namespace Acquisition

namespace Table

variable {κ : Type} {α : Type} {table : Table κ α}

/-! ## Tables without double entries -/

/-- No key has two entries. -/
def IsSingle (table : Table κ α) : Prop :=
  (table.entries.map Prod.fst).Nodup

theorem IsSingle.map (single : table.IsSingle) (change : α → α) :
    (table.map change).IsSingle := by
  unfold IsSingle Table.map at *
  simpa [Function.comp_def] using single

variable [DecidableEq κ]

theorem map_fst_place (key : κ) (value : α) (entries : List (κ × α)) :
    (place key value entries).map Prod.fst =
      if key ∈ entries.map Prod.fst then entries.map Prod.fst
      else entries.map Prod.fst ++ [key] := by
  induction entries with
  | nil => simp [place]
  | cons entry rest ih =>
      by_cases same : entry.1 = key
      · simp [place, same]
      · simp only [place, same, if_false, List.map_cons, ih, List.mem_cons, Ne.symm same, false_or]
        split <;> rfl

theorem IsSingle.set (single : table.IsSingle) (key : κ) (value : α) :
    (table.set key value).IsSingle := by
  unfold IsSingle Table.set at *
  rw [map_fst_place]
  split
  · exact single
  · next absent => exact List.nodup_append.mpr ⟨single, by simp, by
      rintro other member _ last rfl
      exact absent (List.mem_singleton.mp last ▸ member)⟩

/-- In a table without double entries every entry is found. -/
theorem lookup_of_mem {entries : List (κ × α)} (single : (entries.map Prod.fst).Nodup) {key : κ}
    {value : α} (member : (key, value) ∈ entries) : lookup key entries = some value := by
  induction entries with
  | nil => contradiction
  | cons entry rest ih =>
      rw [List.map_cons, List.nodup_cons] at single
      rcases List.mem_cons.mp member with rfl | later
      · simp [lookup]
      · have other : entry.1 ≠ key := by
          rintro rfl
          exact single.1 (List.mem_map.mpr ⟨_, later, rfl⟩)
        simp only [lookup, other, if_false]
        exact ih single.2 later

end Table

namespace Instrument

/-! ## Scan tables -/

section Single

variable {instrument : Instrument} {target : ScanTarget}

theorem single_haltScan (single : instrument.scans.IsSingle) (target : ScanTarget) :
    (instrument.haltScan target).scans.IsSingle := by
  unfold haltScan
  split
  · exact single.set _ _
  · exact single

theorem single_advance {rows : Nat} {store : Store} (single : instrument.scans.IsSingle) :
    (advance target rows instrument store).1.scans.IsSingle := by
  refine advance_induction (P := fun later _ => later.scans.IsSingle) ?_ rows single
  intro later store run single _
  rw [moveRow_scans]
  exact single.set _ _

/-- Every action keeps the scans of a device apart. -/
theorem single_of_act {action : Action} {store : Store}
    {result : Instrument × Store × List Firing} (done : action.act instrument store = .ok result)
    (single : instrument.scans.IsSingle) : result.1.scans.IsSingle := by
  cases action with
  | connect =>
      simp only [Action.act, bind_eq_ok_iff, pure_eq_ok_iff, Instrument.connect] at done
      rcases done with ⟨after, connected, rfl⟩
      split at connected
      · exact (Except.ok.inj connected) ▸ single
      · contradiction
  | disconnect | unplug =>
      obtain rfl := Except.ok.inj done
      exact single.map _
  | loadQueue queue =>
      simp only [Action.act, bind_eq_ok_iff, pure_eq_ok_iff, Instrument.loadQueue] at done
      rcases done with ⟨_, _, after, ⟨_, _, rfl⟩, rfl⟩
      exact single
  | enableEvents kinds period handler =>
      simp only [Action.act, bind_eq_ok_iff, pure_eq_ok_iff, Instrument.enableEvents] at done
      rcases done with ⟨after, ⟨_, _, rfl⟩, rfl⟩
      exact single
  | disableEvents kinds =>
      obtain rfl := Except.ok.inj done
      exact single
  | start scan =>
      rcases Action.act_start_eq_ok_iff.mp done with ⟨_, columns, rate, _, _, rfl⟩
      change (scan.settle _).scans.IsSingle
      rw [(settle_alike _ scan).scans]
      exact single.set _ _
  | halt other =>
      obtain rfl := Except.ok.inj done
      exact single_haltScan single other
  | advance other rows =>
      obtain rfl := Except.ok.inj done
      exact single_advance single
  | finish other =>
      rcases advance_of_finishScan done with ⟨rows, rfl⟩
      exact single_advance single
  | abort other error =>
      obtain rfl := Except.ok.inj done
      change (instrument.abortScan other error).1.scans.IsSingle
      rw [abortScan_fst]
      split
      · exact single_haltScan single other
      · exact single

/-- No device of a bench has two records of the scan on a target. -/
theorem single_invariant : Invariant fun instrument _ => instrument.scans.IsSingle where
  opened _ _ _ := List.nodup_nil
  adjusted adjustment single := adjustment.alike.scans ▸ single
  acted done single := single_of_act done single
  grown _ single := single

/-- A device is busy only with a scan on some target. -/
theorem isBusy_eq_false (single : instrument.scans.IsSingle)
    (idle : ∀ target, instrument.isRunning target = false) : instrument.isBusy = false := by
  rw [isBusy, List.any_eq_false]
  intro run member running
  rcases List.mem_map.mp member with ⟨⟨target, record⟩, entry, rfl⟩
  have found : instrument.running? target = some record :=
    running?_eq_some_iff.mpr ⟨Table.lookup_of_mem single entry, running⟩
  simpa [isRunning, found] using idle target

end Single

/-- A scan that is running after some rows is the one that was running before them. -/
theorem running?_of_advance {target : ScanTarget} {run : ScanRun} {rows : Nat}
    {instrument : Instrument} {store : Store}
    (running : (advance target rows instrument store).1.running? target = some run) :
    ∃ earlier, instrument.running? target = some earlier ∧ earlier.Continues run := by
  cases before : instrument.running? target with
  | none =>
      rw [advance_of_not_running before, before] at running
      contradiction
  | some earlier =>
      obtain ⟨later, recorded, continues⟩ :=
        continues_advance (running?_eq_some_iff.mp before).1 rows store
      obtain rfl := Option.some.inj (recorded.symm.trans (running?_eq_some_iff.mp running).1)
      exact ⟨earlier, rfl, continues⟩

theorem running?_of_scans_eq {before after : Instrument} {target : ScanTarget}
    (same : after.scans.get? target = before.scans.get? target) :
    after.running? target = before.running? target := by
  rw [running?, running?, same]

/-- A scan that has been halted is not running. -/
theorem running?_of_scans_halt {before after : Instrument} {target : ScanTarget}
    (halted : after.scans.get? target = (before.scans.get? target).map ScanRun.halt) :
    after.running? target = none := by
  rw [running?, halted]
  cases before.scans.get? target <;> rfl

/-- An action that does not start the scan on a target does not make it run. -/
theorem running?_of_act {action : Action} {instrument : Instrument} {store : Store}
    {result : Instrument × Store × List Firing} {target : ScanTarget} {run : ScanRun}
    (done : action.act instrument store = .ok result)
    (unstarted : action.started? ≠ some target)
    (running : result.1.running? target = some run) :
    ∃ earlier, instrument.running? target = some earlier ∧ earlier.Continues run := by
  by_cases moved : action.moved? = some target
  · rcases Action.advance_of_act moved done with ⟨rows, rfl⟩
    exact running?_of_advance running
  · rcases Action.get?_scans_of_act done unstarted moved with kept | halted
    · exact ⟨run, (running?_of_scans_eq kept).symm.trans running, {}⟩
    · rw [running?_of_scans_halt halted] at running
      contradiction

end Instrument

namespace Bench

variable {bench : Bench} {handle : Handle} {target : ScanTarget} {run : ScanRun}

/-! ## Scans -/

/-- The scan on a target of the device behind a handle, if it is running. -/
def running? (bench : Bench) (handle : Handle) (target : ScanTarget) : Option ScanRun :=
  (bench.driver.instruments.get? handle).bind fun device => device.running? target

theorem running?_of_found {device : Instrument}
    (found : bench.driver.instruments.get? handle = some device) :
    bench.running? handle target = device.running? target := by
  rw [running?, found, Option.bind_some]

theorem running?_of_absent (absent : bench.driver.instruments.get? handle = none) :
    bench.running? handle target = none := by
  rw [running?, absent, Option.bind_none]

/-- A command that starts no scan on the target of a device makes none run. -/
theorem running?_of_step {command : Command}
    (unstarted : ∀ scan, bench.taken? handle command = some (.start scan) → scan.target ≠ target)
    (running : (bench.step command).1.running? handle target = some run) :
    ∃ earlier, bench.running? handle target = some earlier ∧ earlier.Continues run := by
  cases bench.change_of_step command handle with
  | kept unchanged =>
      rw [running?, unchanged] at running
      exact ⟨run, running, {}⟩
  | acted taken found done now =>
      rw [running?_of_found now] at running
      rw [running?_of_found found]
      apply Instrument.running?_of_act done _ running
      intro started
      obtain ⟨scan, rfl, aimed⟩ := Action.start_of_started? started
      exact unstarted scan taken aimed
  | tuned found now adjustment =>
      rw [running?_of_found now] at running
      rw [running?_of_found found]
      have same := congrArg (fun scans => scans.get? target) adjustment.alike.scans
      exact ⟨run, (Instrument.running?_of_scans_eq same).symm.trans running, {}⟩
  | opened descriptor profile next counted now =>
      rw [running?_of_found now] at running
      contradiction
  | closed asks now =>
      rw [running?_of_absent now] at running
      contradiction

theorem not_start_of_deed? {command : Command}
    (unstarted : command.deed? ≠ some (.start handle target)) (scan : ScanStart)
    (taken : bench.taken? handle command = some (.start scan)) : scan.target ≠ target := by
  intro aimed
  apply unstarted
  simp [Command.deed?_of_action? (taken?_eq_some_iff.mp taken).1, Action.started?, aimed]

theorem nextHandle_le_run (bench : Bench) (commands : List Command) :
    bench.driver.nextHandle ≤ (bench.run commands).1.driver.nextHandle := by
  induction commands generalizing bench with
  | nil => exact Int.le_refl _
  | cons command rest ih => exact Int.le_trans (bench.nextHandle_le_step command) (ih _)

/-- Nothing comes to be behind a handle that has been handed out. -/
theorem absent_of_run {commands : List Command} (issued : handle < bench.driver.nextHandle)
    (absent : bench.driver.instruments.get? handle = none) :
    (bench.run commands).1.driver.instruments.get? handle = none := by
  cases found : (bench.run commands).1.driver.instruments.get? handle with
  | none => rfl
  | some device =>
      rcases found_of_run issued found with ⟨earlier, there⟩
      rw [absent] at there
      contradiction

/-- A device stays behind its handle until the handle is given back. -/
theorem found_of_step {command : Command} {device : Instrument}
    (found : bench.driver.instruments.get? handle = some device)
    (kept : command.deed? ≠ some (.release handle)) :
    ∃ later, (bench.step command).1.driver.instruments.get? handle = some later := by
  cases bench.change_of_step command handle with
  | kept unchanged => exact ⟨device, unchanged.trans found⟩
  | acted _ _ _ now | tuned _ now | opened _ _ _ _ now => exact ⟨_, now⟩
  | closed asks =>
      subst asks
      exact absurd rfl kept

theorem found_of_run_of_kept {commands : List Command} {device : Instrument}
    (found : bench.driver.instruments.get? handle = some device)
    (kept : ∀ command ∈ commands, command.deed? ≠ some (.release handle)) :
    ∃ later, (bench.run commands).1.driver.instruments.get? handle = some later := by
  induction commands generalizing bench device with
  | nil => exact ⟨device, found⟩
  | cons command rest ih =>
      rw [List.forall_mem_cons] at kept
      rcases found_of_step found kept.1 with ⟨middle, there⟩
      exact ih there kept.2

/-- Commands that start no scan on the target of a device make none run. -/
theorem running?_of_run {commands : List Command}
    (unstarted : ∀ command ∈ commands, command.deed? ≠ some (.start handle target))
    (running : (bench.run commands).1.running? handle target = some run) :
    ∃ earlier, bench.running? handle target = some earlier ∧ earlier.Continues run := by
  induction commands generalizing bench with
  | nil => exact ⟨run, running, {}⟩
  | cons command rest ih =>
      rw [List.forall_mem_cons] at unstarted
      rcases ih unstarted.2 running with ⟨middle, ran, same⟩
      rcases running?_of_step (not_start_of_deed? unstarted.1) ran with ⟨earlier, before, kept⟩
      exact ⟨earlier, before, kept.trans same⟩

/-! ## Releases -/

/-- How often the release of a handle is in the log. -/
def countReleases (bench : Bench) (handle : Handle) : Nat :=
  (bench.driver.callsOn handle).count .release

theorem count_callsOn (calls : List (Handle × LifecycleCall)) (handle : Handle) :
    ((calls.filter fun entry => entry.1 = handle).map Prod.snd).count .release =
      calls.count (handle, .release) := by
  induction calls with
  | nil => rfl
  | cons call rest ih =>
      rcases call with ⟨other, call⟩
      by_cases same : other = handle
      · simp [same, ih, List.count_cons]
      · simp [same, ih]

theorem countReleases_of_lifecycle {after : Bench} {calls : List (Handle × LifecycleCall)}
    (logged : after.driver.lifecycle = bench.driver.lifecycle ++ calls) :
    after.countReleases handle = bench.countReleases handle + calls.count (handle, .release) := by
  simp only [countReleases, Driver.callsOn, count_callsOn, logged, List.count_append]

theorem countReleases_of_lifecycle_eq {after : Bench}
    (same : after.driver.lifecycle = bench.driver.lifecycle) :
    after.countReleases handle = bench.countReleases handle :=
  countReleases_of_lifecycle (same.trans (List.append_nil _).symm)

/-- Whether a handle is released depends on the next handle and on what is behind it. -/
theorem isReleased_congr (before after : Driver) (nextHandle : after.nextHandle = before.nextHandle)
    (contains : after.instruments.contains handle = before.instruments.contains handle) :
    after.isReleased handle = before.isReleased handle := by
  rw [Driver.isReleased, Driver.isReleased, nextHandle, contains]

/-- Handles are positive. -/
theorem Reachable.positive (reachable : bench.Reachable) :
    0 < bench.driver.nextHandle ∧ ∀ {handle device},
      bench.driver.instruments.get? handle = some device → 0 < handle := by
  induction reachable with
  | initial => simp [Bench.initial, Driver.initial]
  | @step bench reachable command ih =>
      refine ⟨Int.lt_of_lt_of_le ih.1 (bench.nextHandle_le_step command), ?_⟩
      intro handle device found
      cases before : bench.driver.instruments.get? handle with
      | some earlier => exact ih.2 before
      | none =>
          rcases eq_nextHandle_of_step before found with ⟨rfl, _⟩
          exact ih.1

/-- What the log has of the release of a handle agrees with what is behind the handle. -/
def ReleaseLogged (bench : Bench) (handle : Handle) : Prop :=
  bench.countReleases handle = if bench.driver.isReleased handle then 1 else 0

theorem ReleaseLogged.of_same {after : Bench} (logged : bench.ReleaseLogged handle)
    (count : after.countReleases handle = bench.countReleases handle)
    (released : after.driver.isReleased handle = bench.driver.isReleased handle) :
    after.ReleaseLogged handle := by
  rw [ReleaseLogged, count, released]
  exact logged

/-- An action on a device releases no handle. -/
theorem ReleaseLogged.acted {before after : Bench} {asked : Handle} {device changed : Instrument}
    {store : Store} (found : before.driver.instruments.get? asked = some device)
    (acted : before.Acted after asked changed store) (logged : before.ReleaseLogged handle) :
    after.ReleaseLogged handle := by
  rcases acted.lifecycle with ⟨calls, unreleased, lifecycle⟩
  apply logged.of_same
  · rw [countReleases_of_lifecycle lifecycle, List.count_eq_zero.mpr, Nat.add_zero]
    intro member
    rcases List.mem_map.mp member with ⟨call, there, same⟩
    exact unreleased ((Prod.mk.inj same).2 ▸ there)
  · apply isReleased_congr _ _ acted.nextHandle
    rw [acted.instruments, Table.contains, Table.contains]
    by_cases same : handle = asked
    · subst same
      rw [Table.get?_set_self, found]
      rfl
    · rw [Table.get?_set_of_ne _ same]

theorem ReleaseLogged.tuned {before after : Bench} (tuned : before.Tuned after)
    (logged : before.ReleaseLogged handle) : after.ReleaseLogged handle := by
  apply logged.of_same
  · exact countReleases_of_lifecycle_eq tuned.lifecycle
  · apply isReleased_congr _ _ tuned.nextHandle
    rw [Table.contains, Table.contains]
    rcases tuned.devices handle with unchanged | ⟨device, adjusted, found, now, _⟩
    · rw [unchanged]
    · rw [found, now]
      rfl

/-- Opening a device releases no handle. -/
theorem isReleased_create (driver : Driver) (known : Descriptor) (profile : Profile)
    (handle : Handle) :
    Driver.isReleased { driver.put driver.nextHandle (.initial known profile) with
        nextHandle := driver.nextHandle + 1 } handle = driver.isReleased handle := by
  simp only [Driver.isReleased, Driver.put, Table.contains]
  by_cases same : handle = driver.nextHandle
  · subst same
    simp
  · have before : handle < driver.nextHandle + 1 ↔ handle < driver.nextHandle := by
      rw [Int.lt_add_one_iff, Int.le_iff_lt_or_eq, or_iff_left same]
    simp only [Table.get?_set_of_ne _ same, before]

theorem ReleaseLogged.initial (handle : Handle) : Bench.initial.ReleaseLogged handle := by
  have unissued : Bench.initial.driver.isReleased handle = false := by
    simp only [Driver.isReleased, Bench.initial, Driver.initial]
    by_cases positive : 0 < handle
    · have first : ¬handle < 1 := Int.not_lt.mpr positive
      simp [first]
    · simp [positive]
  rw [ReleaseLogged, unissued]
  rfl

/-- The release of a handle that something is behind is logged. -/
theorem ReleaseLogged.released (logged : bench.ReleaseLogged handle) (reachable : bench.Reachable)
    {released : Handle} {device : Instrument}
    (found : bench.driver.instruments.get? released = some device) :
    (bench.withDriver (Driver.record
      { bench.driver with instruments := bench.driver.instruments.erase released }
      released .release)).ReleaseLogged handle := by
  by_cases same : handle = released
  · subst same
    have there : bench.driver.isReleased handle = false := by
      simp [Driver.isReleased, Table.contains, found]
    have handed := reachable.positive.2 found
    have issued := reachable.issued found
    rw [ReleaseLogged, countReleases_of_lifecycle rfl, logged, there]
    simp [Driver.isReleased, Driver.record, withDriver, Table.contains, handed, issued]
  · apply logged.of_same
    · rw [countReleases_of_lifecycle rfl]
      simp [Ne.symm same]
    · refine isReleased_congr bench.driver _ rfl ?_
      simp only [Table.contains, withDriver, Driver.record, Table.get?_erase_of_ne _ same]

/-- One release is logged of every handle that was handed out and that nothing is behind, and
none of any other. -/
theorem Reachable.releaseLogged (reachable : bench.Reachable) (handle : Handle) :
    bench.ReleaseLogged handle := by
  induction reachable with
  | initial => exact .initial handle
  | @step bench reachable command ih =>
      cases asks : command.action? with
      | some asked =>
          rcases step_cases asks bench with ⟨_, _, found, _, acted, _⟩ | unchanged
          · exact ih.acted found acted
          · rwa [unchanged]
      | none =>
          cases Command.plain_of_action?_eq_none asks with
          | create descriptor =>
              rcases bench.step_create descriptor with ⟨known, profile, _, opened⟩ | ⟨_, unchanged⟩
              · rw [opened]
                exact ih.of_same (countReleases_of_lifecycle_eq rfl) (isReleased_create ..)
              · rwa [unchanged]
          | release released =>
              rcases bench.step_release released with ⟨device, found, closed⟩ | ⟨_, unchanged⟩
              · rw [closed]
                exact ih.released reachable found
              · rwa [unchanged]
          | attach descriptor profile => exact ih
          | edit edit => exact ih
          | tune tunes => exact ih.tuned (tunes bench).1

end Bench

end Acquisition
