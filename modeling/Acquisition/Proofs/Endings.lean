import Acquisition.Proofs.Alarm
import Acquisition.Proofs.Calm
import Acquisition.Proofs.Consistent
import Acquisition.Proofs.ScanLaw

/-!
# How a scan ends

A handler is due on account of a scan when the scan moves rows or is aborted; nothing else
makes a handler due.  The rows make the handlers for available data due; the last row or the
abort makes at most one more due, and after it the scan is idle (`Action.firings_of_account`).
An idle scan has nothing due on its account (`account_of_idle`).  So along any commands up to
the next start at most one of the handlers for the end and for an error is due, and nothing
after it.

Main statement: `Bench.Reachable.ends_once`.
-/

namespace Acquisition

namespace Binding

/-- The first handler for a kind does not depend on thresholds. -/
theorem firing?_map_pass (bindings : List Binding) (transfer : Transfer) (kind : Flags .event)
    (data : Nat) :
    firing? (bindings.map fun binding => binding.pass transfer) kind data =
      firing? bindings kind data := by
  have same (binding : Binding) : (binding.pass transfer).kinds = binding.kinds ∧
      (binding.pass transfer).handler = binding.handler := by
    unfold pass
    split <;> exact ⟨rfl, rfl⟩
  simp only [firing?, List.find?_map, Function.comp_def, (same _).1, Option.map_map, (same _).2]

theorem firing?_eq_some_iff {bindings : List Binding} {kind : Flags .event} {data : Nat}
    {firing : Firing} :
    firing? bindings kind data = some firing ↔
      ∃ binding, bindings.find? (fun binding => binding.kinds.contains kind) = some binding ∧
        firing = ⟨binding.handler, kind, data⟩ := by
  rw [firing?, Option.map_eq_some_iff]
  simp only [eq_comm (b := firing)]

end Binding

namespace ScanRun

variable {run : ScanRun} {store : Store}

/-- A scan that has moved all its rows has counted all the samples it was started for. -/
theorem Consistent.totalCount_of_complete (consistent : run.Consistent store)
    (complete : run.transfer.scanCount = run.samples) :
    run.transfer.totalCount = run.samples * run.width := by
  rw [consistent.total, complete]

/-- A scan that still runs has rows to move. -/
theorem Consistent.not_complete (consistent : run.Consistent store)
    (running : run.isRunning = true) (finite : run.isContinuous = false) :
    run.transfer.scanCount ≠ run.samples :=
  Nat.ne_of_lt ((consistent.finite finite).2 running)

end ScanRun

namespace Instrument

section Row

variable (instrument : Instrument) (store : Store) (target : ScanTarget) (run : ScanRun)

theorem firing?_moveRow (kind : Flags .event) (data : Nat) :
    Binding.firing? (instrument.moveRow store target run).1.bindings kind data =
      Binding.firing? instrument.bindings kind data := by
  rw [moveRow_bindings]
  split
  · exact Binding.firing?_map_pass _ _ _ _
  · rfl

/-- A row fires for available data, and then for the end of the scan if it is the last one. -/
theorem firings_moveRow :
    ∃ data : List Firing, (∀ firing ∈ data, firing.kind = EventKind.dataAvailable) ∧
      (instrument.moveRow store target run).2.2 = data ++
        (if run.next.isRunning then none
          else Binding.firing? instrument.bindings (EventKind.completion target)
            run.next.transfer.totalCount).toList := by
  refine ⟨_, ?_, moveRow_firings instrument store target run⟩
  intro firing member
  split at member
  · obtain ⟨binding, _, fires⟩ := List.mem_filterMap.mp member
    exact binding.kind_of_dataFiring? fires
  · contradiction

end Row

variable {instrument : Instrument} {store : Store} {target : ScanTarget} {run : ScanRun}

/-- The rows of a running scan fire for available data, and then for its end if it is not
running any more. -/
theorem firings_advance (running : instrument.running? target = some run)
    (consistent : run.Consistent store) (rows : Nat) :
    ∃ data : List Firing, (∀ firing ∈ data, firing.kind = EventKind.dataAvailable) ∧
      (advance target rows instrument store).2.2 = data ++
        (if (advance target rows instrument store).1.isRunning target then none
          else Binding.firing? instrument.bindings (EventKind.completion target)
            (run.samples * run.width)).toList := by
  induction rows generalizing instrument store run with
  | zero =>
      have active : instrument.isRunning target = true := by rw [isRunning, running]; rfl
      exact ⟨[], List.forall_mem_nil _, by simp [active]⟩
  | succ rows ih =>
      have active := (running?_eq_some_iff.mp running).2
      obtain ⟨first, available, fired⟩ := instrument.firings_moveRow store target run
      have now := instrument.running?_moveRow store target run
      have next := (consistent.next active).grow
        (.of_shape_eq (instrument.shape_moveRow store target run))
      rw [advance_succ running]
      cases still : run.next.isRunning with
      | true =>
          rw [still, if_pos rfl] at now fired
          obtain ⟨later, others, rest⟩ := ih now next
          refine ⟨first ++ later, List.forall_mem_append.mpr ⟨available, others⟩, ?_⟩
          simp only [fired, rest, instrument.firing?_moveRow, Option.toList_none,
            List.append_nil, List.append_assoc]
          rfl
      | false =>
          -- The row was the last one, and the other rows find the scan idle.
          rw [still, if_neg Bool.false_ne_true] at now fired
          have last : run.isContinuous = false ∧ run.samples ≤ run.next.transfer.scanCount := by
            rw [ScanRun.isRunning_next, active, Bool.true_and, Bool.or_eq_false_iff,
              decide_eq_false_iff_not, Nat.not_lt] at still
            exact still
          have complete : run.next.transfer.scanCount = run.next.samples :=
            Nat.le_antisymm (next.finite last.1).1 last.2
          refine ⟨first, available, ?_⟩
          simp only [advance_of_not_running now, List.append_nil, fired,
            next.totalCount_of_complete complete, isRunning, now]
          rfl

/-- A running scan that is advanced ends exactly when it is without `continuous` and its last
row is moved. -/
theorem idle_iff_of_advance (running : instrument.running? target = some run) (rows : Nat)
    (consistent : (advance target rows instrument store).1.Consistent
      (advance target rows instrument store).2.1) :
    ∃ later, (advance target rows instrument store).1.scans.get? target = some later ∧
      ((advance target rows instrument store).1.isRunning target = false ↔
        run.isContinuous = false ∧ later.transfer.scanCount = run.samples) := by
  obtain ⟨later, recorded, progress⟩ := progress_advance running rows store
  obtain ⟨_, found, continues⟩ :=
    continues_advance (running?_eq_some_iff.mp running).1 rows store
  obtain rfl := Option.some.inj (recorded.symm.trans found)
  have sound := consistent target later recorded
  have active : (advance target rows instrument store).1.isRunning target = later.isRunning := by
    cases still : later.isRunning <;> simp [isRunning, running?, recorded, still]
  have options : later.isContinuous = run.isContinuous := by
    rw [ScanRun.isContinuous, progress.options]
    rfl
  refine ⟨later, recorded, ?_⟩
  rw [active, ← continues.samples, ← options]
  constructor
  · intro idle
    obtain ⟨finite, complete⟩ := progress.ended idle
    exact ⟨finite, Nat.le_antisymm (sound.finite finite).1 complete⟩
  · rintro ⟨finite, complete⟩
    cases still : later.isRunning with
    | false => rfl
    | true => exact absurd complete (sound.not_complete still finite)

end Instrument

namespace EventKind

theorem completion_ne_dataAvailable (target : ScanTarget) :
    completion target ≠ dataAvailable := by
  cases target <;> decide

theorem abortion_ne_dataAvailable (target : ScanTarget) : abortion target ≠ dataAvailable := by
  cases target <;> decide

theorem abortion_ne_completion (target : ScanTarget) : abortion target ≠ completion target := by
  cases target <;> decide

end EventKind

namespace Action

/-- The target of the scan on whose account an action makes handlers due. -/
def account? : Action → Option ScanTarget
  | advance target _ | finish target | abort target _ => some target
  | _ => none

/-- The handler that an action makes due for the end of the scan on a target or for an error
in it, by the device before and after. -/
def ending? (before after : Instrument) (target : ScanTarget) : Action → Option Firing
  | abort _ error =>
      if before.isRunning target then
        Binding.firing? before.bindings (EventKind.abortion target) (Instrument.abortData error)
      else none
  | _ =>
      (before.running? target).bind fun run =>
        if after.isRunning target then none
        else Binding.firing? before.bindings (EventKind.completion target)
          (run.samples * run.width)

variable {action : Action} {instrument : Instrument} {store : Store} {target : ScanTarget}
  {result : Instrument × Store × List Firing}

/-- An action that neither moves nor aborts a scan makes no handler due. -/
theorem firings_of_account?_eq_none (done : action.act instrument store = .ok result)
    (unaccounted : action.account? = none) : result.2.2 = [] := by
  cases action with
  | advance | finish | abort => simp [account?] at unaccounted
  | disconnect | unplug | disableEvents | halt =>
      obtain rfl := Except.ok.inj done
      rfl
  | connect | enableEvents =>
      simp only [act, bind_eq_ok_iff, pure_eq_ok_iff] at done
      rcases done with ⟨_, _, rfl⟩
      rfl
  | loadQueue | start =>
      simp only [act, bind_eq_ok_iff, pure_eq_ok_iff] at done
      rcases done with ⟨_, _, _, _, rfl⟩
      rfl

theorem account?_of_moved? (moved : action.moved? = some target) :
    action.account? = some target := by
  cases action with
  | advance | finish => exact moved
  | _ => simp [moved?] at moved

/-- What is due on account of a scan is for available data, up to the ending. -/
theorem firings_of_account (done : action.act instrument store = .ok result)
    (consistent : instrument.Consistent store) (mine : action.account? = some target) :
    ∃ data : List Firing, (∀ firing ∈ data, firing.kind = EventKind.dataAvailable) ∧
      result.2.2 = data ++ (action.ending? instrument result.1 target).toList := by
  have moving (moved : action.moved? = some target) :
      ∃ data : List Firing, (∀ firing ∈ data, firing.kind = EventKind.dataAvailable) ∧
        result.2.2 = data ++ ((instrument.running? target).bind fun run =>
          if result.1.isRunning target then none
          else Binding.firing? instrument.bindings (EventKind.completion target)
            (run.samples * run.width)).toList := by
    obtain ⟨rows, rfl⟩ := advance_of_act moved done
    cases running : instrument.running? target with
    | none =>
        rw [Instrument.advance_of_not_running running]
        exact ⟨[], nofun, rfl⟩
    | some run =>
        have found := (Instrument.running?_eq_some_iff.mp running).1
        exact Instrument.firings_advance running (consistent target run found) rows
  cases action with
  | advance | finish => exact moving mine
  | abort other error =>
      obtain rfl := Option.some.inj mine
      obtain rfl := Except.ok.inj done
      refine ⟨[], nofun, ?_⟩
      change (instrument.abortScan other error).2 = _
      unfold Instrument.abortScan ending?
      split <;> rfl
  | _ => simp [account?] at mine

/-- An idle scan has nothing due on its account. -/
theorem firings_of_idle (done : action.act instrument store = .ok result)
    (mine : action.account? = some target) (idle : instrument.running? target = none) :
    result.2.2 = [] := by
  cases action with
  | advance | finish =>
      obtain rfl := Option.some.inj mine
      obtain ⟨rows, rfl⟩ := advance_of_act rfl done
      rw [Instrument.advance_of_not_running idle]
  | abort other error =>
      obtain rfl := Option.some.inj mine
      obtain rfl := Except.ok.inj done
      change (instrument.abortScan other error).2 = []
      have still : instrument.isRunning other = false := by rw [Instrument.isRunning, idle]; rfl
      rw [Instrument.abortScan, still]
      rfl
  | _ => simp [account?] at mine

/-- An action that makes the handler for the end or for an error due leaves the scan idle. -/
theorem idle_of_ending? (done : action.act instrument store = .ok result)
    (mine : action.account? = some target) {firing : Firing}
    (ends : action.ending? instrument result.1 target = some firing) :
    result.1.isRunning target = false := by
  cases action with
  | advance | finish =>
      obtain ⟨run, _, fires⟩ := Option.bind_eq_some_iff.mp ends
      split at fires
      · contradiction
      · next idle => exact Bool.not_eq_true _ ▸ idle
  | abort other error =>
      obtain rfl := Option.some.inj mine
      obtain rfl := Except.ok.inj done
      change (instrument.abortScan other error).1.isRunning other = false
      rw [Instrument.abortScan_fst]
      split
      · have halted := (instrument.get?_haltScan other other).trans (if_pos rfl)
        rw [Instrument.isRunning, Instrument.running?_of_scans_halt halted]
        rfl
      · next idle => exact Bool.not_eq_true _ ▸ idle
  | _ => simp [account?] at mine

/-- A handler that is not for available data is due on account of a scan exactly when it is
due for its ending. -/
theorem mem_firings_iff (done : action.act instrument store = .ok result)
    (consistent : instrument.Consistent store) (mine : action.account? = some target)
    {firing : Firing} (other : firing.kind ≠ EventKind.dataAvailable) :
    firing ∈ result.2.2 ↔ action.ending? instrument result.1 target = some firing := by
  obtain ⟨data, available, fired⟩ := firings_of_account done consistent mine
  rw [fired, List.mem_append, Option.mem_toList]
  constructor
  · rintro (member | ending)
    · exact absurd (available firing member) other
    · exact ending
  · exact .inr

/-- The handler for the end of a scan is due exactly when the scan is without `continuous`, its
last row is moved and the kind is bound. -/
theorem completion_mem_iff (done : action.act instrument store = .ok result)
    (consistent : instrument.Consistent store) (mine : action.account? = some target)
    {firing : Firing} (ends : firing.kind = EventKind.completion target) :
    firing ∈ result.2.2 ↔ action.moved? = some target ∧ ∃ run later binding,
      instrument.running? target = some run ∧ run.isContinuous = false ∧
      result.1.scans.get? target = some later ∧ later.transfer.scanCount = run.samples ∧
      instrument.bindings.find? (fun binding =>
        binding.kinds.contains (EventKind.completion target)) = some binding ∧
      firing = ⟨binding.handler, EventKind.completion target, run.samples * run.width⟩ := by
  rw [mem_firings_iff done consistent mine (ends ▸ EventKind.completion_ne_dataAvailable target)]
  have after : result.1.Consistent result.2.1 := consistent.act done
  cases action with
  | advance | finish =>
      obtain rfl := Option.some.inj mine
      obtain ⟨rows, rfl⟩ := advance_of_act rfl done
      constructor
      · intro ending
        have idle := idle_of_ending? done mine ending
        obtain ⟨run, running, fires⟩ := Option.bind_eq_some_iff.mp ending
        rw [idle, if_neg Bool.false_ne_true] at fires
        obtain ⟨binding, first, same⟩ := Binding.firing?_eq_some_iff.mp fires
        obtain ⟨later, recorded, complete⟩ := Instrument.idle_iff_of_advance running rows after
        obtain ⟨finite, last⟩ := complete.mp idle
        exact ⟨rfl, run, later, binding, running, finite, recorded, last, first, same⟩
      · rintro ⟨_, run, later, binding, running, finite, recorded, last, first, same⟩
        obtain ⟨_, found, complete⟩ := Instrument.idle_iff_of_advance running rows after
        obtain rfl := Option.some.inj (recorded.symm.trans found)
        refine Option.bind_eq_some_iff.mpr ⟨run, running, ?_⟩
        rw [complete.mpr ⟨finite, last⟩, if_neg Bool.false_ne_true]
        exact Binding.firing?_eq_some_iff.mpr ⟨binding, first, same⟩
  | abort other error =>
      obtain rfl := Option.some.inj mine
      constructor
      · intro ending
        obtain ⟨_, fires⟩ := Option.ite_none_right_eq_some.mp ending
        obtain ⟨_, _, rfl⟩ := Binding.firing?_eq_some_iff.mp fires
        exact absurd ends (EventKind.abortion_ne_completion other)
      · rintro ⟨moved, _⟩
        contradiction
  | _ => simp [account?] at mine

/-- The handler for an error is due exactly when the scan is aborted while it is running and the
kind is bound. -/
theorem abortion_mem_iff (done : action.act instrument store = .ok result)
    (consistent : instrument.Consistent store) (mine : action.account? = some target)
    {firing : Firing} (errs : firing.kind = EventKind.abortion target) :
    firing ∈ result.2.2 ↔ ∃ error binding, action = .abort target error ∧
      instrument.isRunning target = true ∧
      instrument.bindings.find? (fun binding =>
        binding.kinds.contains (EventKind.abortion target)) = some binding ∧
      firing = ⟨binding.handler, EventKind.abortion target, Instrument.abortData error⟩ := by
  rw [mem_firings_iff done consistent mine (errs ▸ EventKind.abortion_ne_dataAvailable target)]
  cases action with
  | advance | finish =>
      constructor
      · intro ending
        obtain ⟨run, _, fires⟩ := Option.bind_eq_some_iff.mp ending
        obtain ⟨_, fires⟩ := Option.ite_none_left_eq_some.mp fires
        obtain ⟨_, _, rfl⟩ := Binding.firing?_eq_some_iff.mp fires
        exact absurd errs.symm (EventKind.abortion_ne_completion target)
      · rintro ⟨_, _, aborts, _⟩
        contradiction
  | abort other error =>
      obtain rfl := Option.some.inj mine
      simp only [ending?, Option.ite_none_right_eq_some, Binding.firing?_eq_some_iff]
      constructor
      · rintro ⟨running, binding, first, rfl⟩
        exact ⟨error, binding, rfl, running, first, rfl⟩
      · rintro ⟨_, binding, ⟨⟩, running, first, rfl⟩
        exact ⟨running, binding, first, rfl⟩
  | _ => simp [account?] at mine

/-- What ends a scan is an event of its direction. -/
theorem kind_of_ending? {before after : Instrument} {firing : Firing}
    (ends : action.ending? before after target = some firing) :
    (∃ run, before.running? target = some run ∧ firing.kind = EventKind.completion target ∧
        firing.data = run.samples * run.width) ∨
      firing.kind = EventKind.abortion target := by
  unfold ending? at ends
  split at ends
  · split at ends
    · obtain ⟨_, _, rfl⟩ := Binding.firing?_eq_some_iff.mp ends
      exact .inr rfl
    · contradiction
  · obtain ⟨run, running, fires⟩ := Option.bind_eq_some_iff.mp ends
    split at fires
    · contradiction
    · obtain ⟨_, _, rfl⟩ := Binding.firing?_eq_some_iff.mp fires
      exact .inl ⟨run, running, rfl, rfl⟩

end Action

namespace Command

/-- The command ends scans without a word to any handler. -/
inductive Silences : Command → Prop
  | stop (handle : Handle) (target : ScanTarget) : Silences (.request (.stopScan handle target))
  | disconnect (handle : Handle) : Silences (.request (.disconnect handle))
  | unplug (handle : Handle) : Silences (.stimulus (.unplug handle))
  | release (handle : Handle) : Silences (.request (.release handle))

/-- Only a hardware error aborts a scan. -/
theorem eq_abort_of_action? {command : Command} {handle : Handle} {target : ScanTarget}
    {error : Error} (asks : command.action? = some (handle, .abort target error)) :
    command = .stimulus (.abort handle target error) := by
  cases command with
  | edit edit => contradiction
  | stimulus stimulus =>
      cases stimulus with
      | abort =>
          rcases asks with ⟨rfl, rfl⟩
          rfl
      | _ => simp [action?, Stimulus.action?] at asks
  | request request =>
      cases request <;> simp [action?, Request.action?, Request.start?] at asks

end Command

namespace Bench

/-- The handlers that a command makes due on account of the scan on a target. -/
def accountOf (bench : Bench) (handle : Handle) (target : ScanTarget) (command : Command) :
    List Firing :=
  if (bench.taken? handle command).bind Action.account? = some target then
    (bench.step command).2.map Due.firing
  else []

/-- The handlers that are due on account of the scan on a target along some commands. -/
def account (handle : Handle) (target : ScanTarget) : Bench → List Command → List Firing
  | _, [] => []
  | bench, command :: rest =>
      bench.accountOf handle target command ++
        account handle target (bench.step command).1 rest

/-- Along some commands no start of the scan on a target is accepted. -/
def Unrestarted (handle : Handle) (target : ScanTarget) : Bench → List Command → Prop
  | _, [] => True
  | bench, command :: rest =>
      (bench.taken? handle command).bind Action.started? ≠ some target ∧
      Unrestarted handle target (bench.step command).1 rest

instance decidableUnrestarted (handle : Handle) (target : ScanTarget) :
    (bench : Bench) → (commands : List Command) →
      Decidable (Unrestarted handle target bench commands)
  | _, [] => inferInstanceAs (Decidable True)
  | bench, command :: rest =>
      have := decidableUnrestarted handle target (bench.step command).1 rest
      inferInstanceAs (Decidable (_ ∧ _))

section

variable {bench : Bench} {handle : Handle} {target : ScanTarget} {command : Command}
  {commands : List Command} {action : Action}

theorem accountOf_of_taken (taken : bench.taken? handle command = some action)
    (mine : action.account? = some target) :
    ∃ device result, bench.driver.instruments.get? handle = some device ∧
      action.act device bench.store = .ok result ∧
      (bench.step command).1.driver.instruments.get? handle = some result.1 ∧
      bench.accountOf handle target command = result.2.2 := by
  obtain ⟨device, result, found, done, acted, due⟩ := step_of_taken? taken
  refine ⟨device, result, found, done, acted.get?_self, ?_⟩
  rw [accountOf, taken, Option.bind_some, if_pos mine, due, List.map_map]
  exact List.map_id _

/-- A command has nothing due on account of a scan, unless it makes the device move it or abort
it. -/
theorem accountOf_cases (bench : Bench) (handle : Handle) (target : ScanTarget)
    (command : Command) :
    bench.accountOf handle target command = [] ∨
    ∃ action, bench.taken? handle command = some action ∧ action.account? = some target := by
  by_cases mine : (bench.taken? handle command).bind Action.account? = some target
  · exact .inr (Option.bind_eq_some_iff.mp mine)
  · exact .inl (if_neg mine)

/-- What a command has due on account of a scan is for available data, up to at most one
handler; the scan is idle when it ends so. -/
theorem Reachable.accountOf_eq (reachable : bench.Reachable) (handle : Handle)
    (target : ScanTarget) (command : Command) :
    ∃ (data : List Firing) (last : Option Firing),
      bench.accountOf handle target command = data ++ last.toList ∧
      (∀ firing ∈ data, firing.kind = EventKind.dataAvailable) ∧
      ∀ firing, last = some firing →
        (bench.step command).1.running? handle target = none ∧
        ((∃ run, bench.running? handle target = some run ∧
            firing.kind = EventKind.completion target ∧
            firing.data = run.samples * run.width) ∨
          firing.kind = EventKind.abortion target) := by
  rcases bench.accountOf_cases handle target command with nothing | ⟨action, taken, mine⟩
  · exact ⟨[], none, nothing, nofun, nofun⟩
  · obtain ⟨device, result, found, done, now, due⟩ := accountOf_of_taken taken mine
    have consistent : device.Consistent bench.store :=
      Instrument.consistent_invariant.holds reachable found
    obtain ⟨data, available, fired⟩ := Action.firings_of_account done consistent mine
    refine ⟨data, _, due.trans fired, available, fun firing ends => ⟨?_, ?_⟩⟩
    · rw [running?_of_found now]
      simpa [Instrument.isRunning] using Action.idle_of_ending? done mine ends
    · rw [running?_of_found found]
      exact Action.kind_of_ending? ends

/-- An idle scan has nothing due on its account. -/
theorem accountOf_of_idle (idle : bench.running? handle target = none) (command : Command) :
    bench.accountOf handle target command = [] := by
  rcases bench.accountOf_cases handle target command with nothing | ⟨action, taken, mine⟩
  · exact nothing
  · obtain ⟨device, result, found, done, _, due⟩ := accountOf_of_taken taken mine
    rw [running?_of_found found] at idle
    rw [due]
    exact Action.firings_of_idle done mine idle

/-- A command that starts no scan on a target leaves an idle one idle. -/
theorem running?_of_unstarted
    (unstarted : (bench.taken? handle command).bind Action.started? ≠ some target)
    {run : ScanRun} (running : (bench.step command).1.running? handle target = some run) :
    ∃ earlier, bench.running? handle target = some earlier ∧ earlier.Continues run := by
  apply running?_of_step _ running
  rintro scan taken rfl
  exact unstarted (by rw [taken]; rfl)

theorem account_of_idle (idle : bench.running? handle target = none)
    (unrestarted : Unrestarted handle target bench commands) :
    account handle target bench commands = [] := by
  induction commands generalizing bench with
  | nil => rfl
  | cons command rest ih =>
      obtain ⟨unstarted, unrestarted⟩ := unrestarted
      rw [account, accountOf_of_idle idle, List.nil_append]
      apply ih _ unrestarted
      cases ran : (bench.step command).1.running? handle target with
      | none => rfl
      | some run =>
          obtain ⟨earlier, running, _⟩ := running?_of_unstarted unstarted ran
          rw [idle] at running
          contradiction

/-- The account of a scan up to the next start: handlers for available data, and then at most
one for the end, with the count of all samples, or for an error. -/
theorem Reachable.account_eq (reachable : bench.Reachable) {samples width : Nat}
    (sized : ∀ run, bench.running? handle target = some run →
      run.samples = samples ∧ run.width = width)
    (unrestarted : Unrestarted handle target bench commands) :
    ∃ (data : List Firing) (last : Option Firing),
      account handle target bench commands = data ++ last.toList ∧
      (∀ firing ∈ data, firing.kind = EventKind.dataAvailable) ∧
      ∀ firing, last = some firing →
        (firing.kind = EventKind.completion target ∧ firing.data = samples * width) ∨
        firing.kind = EventKind.abortion target := by
  induction commands generalizing bench with
  | nil => exact ⟨[], none, rfl, nofun, nofun⟩
  | cons command rest ih =>
      obtain ⟨unstarted, unrestarted⟩ := unrestarted
      obtain ⟨first, last, due, available, ending⟩ :=
        reachable.accountOf_eq handle target command
      rw [account, due]
      cases last with
      | some firing =>
          -- The scan has ended, and nothing comes after.
          obtain ⟨idle, kind⟩ := ending firing rfl
          rw [account_of_idle idle unrestarted, List.append_nil]
          refine ⟨first, some firing, rfl, available, ?_⟩
          rintro _ ⟨⟩
          refine kind.imp_left ?_
          rintro ⟨run, running, completion, counted⟩
          obtain ⟨rfl, rfl⟩ := sized run running
          exact ⟨completion, counted⟩
      | none =>
          have resized : ∀ run, (bench.step command).1.running? handle target = some run →
              run.samples = samples ∧ run.width = width := by
            intro run running
            obtain ⟨earlier, before, continues⟩ := running?_of_unstarted unstarted running
            obtain ⟨rfl, rfl⟩ := sized earlier before
            exact ⟨continues.samples, congrArg List.length continues.columns⟩
          obtain ⟨later, last, rest, others, ending⟩ :=
            ih (reachable.step command) resized unrestarted
          refine ⟨first ++ later, last, ?_, List.forall_mem_append.mpr ⟨available, others⟩, ending⟩
          rw [Option.toList_none, List.append_nil, rest, List.append_assoc]

/-- Only a command that moves a running scan changes how far it has come. -/
theorem moved_of_transfer_ne {device : Instrument} {run later : ScanRun}
    (found : bench.driver.instruments.get? handle = some device)
    (running : device.running? target = some run)
    (recorded : (bench.step command).1.scan? handle target = some later)
    (changed : later.transfer ≠ run.transfer) :
    ∃ action, bench.taken? handle command = some action ∧ action.moved? = some target := by
  obtain ⟨before, active⟩ := Instrument.running?_eq_some_iff.mp running
  cases bench.change_of_step command handle with
  | kept unchanged =>
      rw [scan?, unchanged, ← scan?, scan?_of_found found, before] at recorded
      exact absurd ((Option.some.inj recorded) ▸ rfl) changed
  | @acted action _ result taken lookup done now =>
      obtain rfl := Option.some.inj (found.symm.trans lookup)
      rw [scan?_of_found now] at recorded
      refine ⟨action, taken, ?_⟩
      apply Decidable.byContradiction
      intro unmoved
      have unstarted : action.started? ≠ some target := by
        intro started
        obtain ⟨scan, rfl, rfl⟩ := Action.start_of_started? started
        obtain ⟨_, _, accepted, _⟩ := Action.opening_of_start done
        have idle := accepted.isIdle
        rw [Instrument.isRunning, running] at idle
        contradiction
      rcases Action.get?_scans_of_act done unstarted unmoved with same | halted
      · rw [same, before] at recorded
        exact changed ((Option.some.inj recorded) ▸ rfl)
      · rw [halted, before] at recorded
        exact changed ((Option.some.inj recorded) ▸ rfl)
  | tuned lookup now adjustment =>
      obtain rfl := Option.some.inj (found.symm.trans lookup)
      rw [scan?_of_found now, adjustment.alike.scans, before] at recorded
      exact absurd ((Option.some.inj recorded) ▸ rfl) changed
  | opened descriptor profile next counted now =>
      rw [scan?_of_found now] at recorded
      contradiction
  | closed asks now =>
      rw [scan?, now] at recorded
      contradiction

/-- A command that ends scans silently makes no handler due. -/
theorem due_of_silences (silences : command.Silences) : (bench.step command).2 = [] := by
  have silent {asked : Handle × Action} (asks : command.action? = some asked)
      (unaccounted : asked.2.account? = none) : (bench.step command).2 = [] := by
    rcases step_cases asks bench with ⟨_, result, _, done, _, due⟩ | unchanged
    · rw [due, Action.firings_of_account?_eq_none done unaccounted]
      rfl
    · rw [unchanged]
  cases silences with
  | stop | disconnect | unplug => exact silent rfl rfl
  | release handle => exact (Command.plain_of_action?_eq_none rfl).due_eq_nil bench

/-- Every handler that is due is due on account of the scan on some target. -/
theorem exists_account_of_due {due : Due} (member : due ∈ (bench.step command).2) :
    ∃ target, due.firing ∈ bench.accountOf due.handle target command := by
  obtain ⟨action, taken⟩ := taken?_of_due member
  obtain ⟨device, result, found, done, acted, fired⟩ := step_of_taken? taken
  cases mine : action.account? with
  | none =>
      rw [fired, Action.firings_of_account?_eq_none done mine] at member
      contradiction
  | some target =>
      obtain ⟨_, _, lookup, again, _, account⟩ := accountOf_of_taken taken mine
      obtain rfl := Option.some.inj (found.symm.trans lookup)
      obtain rfl := Except.ok.inj (done.symm.trans again)
      rw [fired] at member
      obtain ⟨firing, there, same⟩ := List.mem_map.mp member
      refine ⟨target, ?_⟩
      rw [account, ← same]
      exact there

/-- What a command has due for the end of the scan on a target, and for an error in it. -/
structure EndLaw (bench : Bench) (handle : Handle) (target : ScanTarget) (command : Command) :
    Prop where
  /-- The handler for the end is due exactly when a scan without `continuous` moves its last row
  and the kind is bound, and with the count of all its samples. -/
  completes : ∀ firing, firing.kind = EventKind.completion target →
    (firing ∈ bench.accountOf handle target command ↔ ∃ device run later binding,
      bench.driver.instruments.get? handle = some device ∧
      device.running? target = some run ∧ run.isContinuous = false ∧
      (bench.step command).1.scan? handle target = some later ∧
      later.transfer.scanCount = run.samples ∧
      device.bindings.find? (fun binding =>
        binding.kinds.contains (EventKind.completion target)) = some binding ∧
      firing = ⟨binding.handler, EventKind.completion target, run.samples * run.width⟩)
  /-- The handler for an error is due exactly when the scan is aborted while it is running and
  the kind is bound. -/
  aborts : ∀ firing, firing.kind = EventKind.abortion target →
    (firing ∈ bench.accountOf handle target command ↔ ∃ device error binding,
      command = .stimulus (.abort handle target error) ∧
      bench.driver.instruments.get? handle = some device ∧
      device.isRunning target = true ∧
      device.bindings.find? (fun binding =>
        binding.kinds.contains (EventKind.abortion target)) = some binding ∧
      firing = ⟨binding.handler, EventKind.abortion target, Instrument.abortData error⟩)
  /-- To stop a scan, to disconnect, to detach or to give a device back makes no handler due. -/
  silences : command.Silences → (bench.step command).2 = []
  /-- No handler is due but on account of a scan. -/
  accounts : ∀ due ∈ (bench.step command).2,
    ∃ target, due.firing ∈ bench.accountOf due.handle target command

theorem Reachable.endLaw (reachable : bench.Reachable) (handle : Handle) (target : ScanTarget)
    (command : Command) : bench.EndLaw handle target command where
  completes firing ends := by
    constructor
    · intro member
      rcases bench.accountOf_cases handle target command with nothing | ⟨action, taken, mine⟩
      · rw [nothing] at member
        contradiction
      · obtain ⟨device, result, found, done, now, due⟩ := accountOf_of_taken taken mine
        have consistent : device.Consistent bench.store :=
          Instrument.consistent_invariant.holds reachable found
        rw [due, Action.completion_mem_iff done consistent mine ends] at member
        obtain ⟨_, run, later, binding, running, finite, recorded, rest⟩ := member
        exact ⟨device, run, later, binding, found, running, finite,
          (scan?_of_found now).trans recorded, rest⟩
    · rintro ⟨device, run, later, binding, found, running, finite, recorded, last, rest⟩
      have consistent : device.Consistent bench.store :=
        Instrument.consistent_invariant.holds reachable found
      obtain ⟨before, active⟩ := Instrument.running?_eq_some_iff.mp running
      have moves : later.transfer ≠ run.transfer := by
        intro same
        rw [same] at last
        exact (consistent target run before).not_complete active finite last
      obtain ⟨action, taken, moved⟩ := moved_of_transfer_ne found running recorded moves
      have mine := Action.account?_of_moved? moved
      obtain ⟨_, result, lookup, done, now, due⟩ := accountOf_of_taken taken mine
      obtain rfl := Option.some.inj (found.symm.trans lookup)
      rw [scan?_of_found now] at recorded
      rw [due, Action.completion_mem_iff done consistent mine ends]
      exact ⟨moved, run, later, binding, running, finite, recorded, last, rest⟩
  aborts firing errs := by
    constructor
    · intro member
      rcases bench.accountOf_cases handle target command with nothing | ⟨action, taken, mine⟩
      · rw [nothing] at member
        contradiction
      · obtain ⟨device, result, found, done, now, due⟩ := accountOf_of_taken taken mine
        have consistent : device.Consistent bench.store :=
          Instrument.consistent_invariant.holds reachable found
        rw [due, Action.abortion_mem_iff done consistent mine errs] at member
        obtain ⟨error, binding, rfl, rest⟩ := member
        have asks := (taken?_eq_some_iff.mp taken).1
        exact ⟨device, error, binding, Command.eq_abort_of_action? asks, found, rest⟩
    · rintro ⟨device, error, binding, rfl, found, rest⟩
      have consistent : device.Consistent bench.store :=
        Instrument.consistent_invariant.holds reachable found
      have taken : bench.taken? handle (.stimulus (.abort handle target error)) =
          some (.abort target error) :=
        taken?_eq_some_iff.mpr ⟨rfl, device, _, found, rfl⟩
      obtain ⟨_, result, lookup, done, now, due⟩ := accountOf_of_taken taken rfl
      obtain rfl := Option.some.inj (found.symm.trans lookup)
      rw [due, Action.abortion_mem_iff done consistent rfl errs]
      exact ⟨error, binding, rfl, rest⟩
  silences := due_of_silences
  accounts _ := exists_account_of_due

/-- From its start up to the next one a scan has handlers for available data due, then at most
one for its end or for an error, and nothing after that; each of the two is due exactly when the
law of the end says so. -/
theorem Reachable.ends_once (reachable : bench.Reachable) {scan : ScanStart}
    (accepted : bench.taken? handle command = some (.start scan))
    (unrestarted : Unrestarted handle scan.target (bench.step command).1 commands) :
    (∃ opened columns, bench.driver.instruments.get? handle = some opened ∧
      scan.columns opened = .ok columns ∧
      ∃ (data : List Firing) (last : Option Firing),
        account handle scan.target bench (command :: commands) = data ++ last.toList ∧
        (∀ firing ∈ data, firing.kind = EventKind.dataAvailable) ∧
        ∀ firing, last = some firing →
          (firing.kind = EventKind.completion scan.target ∧
            firing.data = scan.samples.toNat * columns.length) ∨
          firing.kind = EventKind.abortion scan.target) ∧
    ∀ first next rest, commands = first ++ next :: rest →
      ((bench.step command).1.run first).1.EndLaw handle scan.target next := by
  constructor
  · obtain ⟨opened, result, found, done, acted, due⟩ := step_of_taken? accepted
    obtain ⟨columns, asked, _, _, recorded⟩ := Action.opening_of_start done
    refine ⟨opened, columns, found, asked, ?_⟩
    have nothing : bench.accountOf handle scan.target command = [] := by
      rw [accountOf, accepted]
      rfl
    rw [account, nothing, List.nil_append]
    apply (reachable.step command).account_eq _ unrestarted
    intro run running
    rw [running?_of_found acted.get?_self] at running
    obtain rfl := Option.some.inj
      (recorded.symm.trans (Instrument.running?_eq_some_iff.mp running).1)
    exact ⟨congrArg Int.toNat (scan.plan_samples columns),
      congrArg List.length (scan.plan_columns columns)⟩
  · rintro first next rest rfl
    exact ((reachable.step command).run first).endLaw handle scan.target next

end

/-- A connected device with one handler for every row and for the end of an input scan, and a
buffer of two cells. -/
def attended : Bench :=
  (withCells #[0, 0]).step (.request (.enableEvents 1
    (EventKind.dataAvailable.union EventKind.endOfInputScan) 1 ⟨"both", .record⟩)) |>.1

/-- A scan of two samples has its end due with its second row, and then nothing any more. -/
theorem ends_once_pair :
    let tick (rows : Nat) := Command.stimulus (.advance 1 .analogIn rows)
    let commands := [tick 1, tick 3, .stimulus (.abort 1 .analogIn .timedOut), tick 1]
    let due := account 1 .analogIn attended (startPair :: commands)
    due = [⟨⟨"both", .record⟩, EventKind.dataAvailable, 1⟩,
      ⟨⟨"both", .record⟩, EventKind.dataAvailable, 2⟩,
      ⟨⟨"both", .record⟩, EventKind.endOfInputScan, 2⟩] ∧
    (∃ (data : List Firing) (last : Option Firing), due = data ++ last.toList ∧
      ∀ firing ∈ data, firing.kind = EventKind.dataAvailable) ∧
    ((attended.step startPair).1.run [tick 1]).1.EndLaw 1 .analogIn (tick 3) := by
  intro tick commands due
  have accepted : attended.taken? 1 startPair = some (.start (.analogIn ⟨0, 0, 2, 1000, .empty⟩
      .singleEnded .bip10Volts ⟨0, 1⟩)) := taken?_of_isSome rfl (by decide +kernel)
  have reachable : attended.Reachable := (withCells_reachable #[0, 0]).step _
  have unrestarted : Unrestarted 1 .analogIn (attended.step startPair).1 commands := by
    decide +kernel
  obtain ⟨⟨_, _, _, _, data, last, split, available, _⟩, law⟩ :=
    reachable.ends_once accepted unrestarted
  exact ⟨by decide +kernel, ⟨data, last, split, available⟩, law [tick 1] (tick 3) _ rfl⟩

end Bench

end Acquisition
