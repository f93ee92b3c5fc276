import Acquisition.Driver.Notice
import Acquisition.Proofs.ReadBack

/-!
# The law of a scan

The scan on a target of an open device is idle or running, and one command takes it from one
to the other in a few ways only.  An accepted start makes it run, from the first row on; it
ends when it is stopped or aborted, when its device is disconnected or detached, or with its
own last row.  Only commands that move it change how far it has come, and an idle one is left
as it is by all that does not start it.

`RecordChange` lists what a command can make of the record of a scan, and `ScanLaw` is what
follows from it.  Main statement: `Bench.Reachable.scan_lawful`.
-/

namespace Acquisition

/-! ## Moving a scan -/

namespace ScanRun

variable {first run : ScanRun}

/-- A scan that is not running is halted already. -/
theorem halt_of_idle (idle : run.isRunning = false) : run.halt = run := by
  rcases run with ⟨status, options, columns, samples, buffer, transfer⟩
  cases status with
  | idle => rfl
  | running => contradiction

theorem status_of_idle (idle : run.isRunning = false) : run.status = .idle := by
  cases status : run.status with
  | idle => rfl
  | running => simp [isRunning, status] at idle

/-- What has become of a running scan that has only moved rows: it has not counted back, and
when it is not running any more it has moved its last row. -/
structure Progress (first later : ScanRun) : Prop where
  options : later.options = first.options
  scanCount : first.transfer.scanCount ≤ later.transfer.scanCount
  totalCount : first.transfer.totalCount ≤ later.transfer.totalCount
  ended : later.isRunning = false →
    later.isContinuous = false ∧ later.samples ≤ later.transfer.scanCount

theorem Progress.refl (running : run.isRunning = true) : run.Progress run where
  options := rfl
  scanCount := Nat.le_refl _
  totalCount := Nat.le_refl _
  ended idle := by simp [running] at idle

theorem Progress.next (progress : first.Progress run) (running : run.isRunning = true) :
    first.Progress run.next where
  options := progress.options
  scanCount := Nat.le_succ_of_le progress.scanCount
  totalCount := Nat.le_trans progress.totalCount (Nat.le_add_right _ _)
  ended idle := by
    -- The row was the last one, or else the scan would still be running.
    rw [isRunning_next, running, Bool.true_and, Bool.or_eq_false_iff, decide_eq_false_iff_not,
      Nat.not_lt] at idle
    exact idle

end ScanRun

namespace Instrument

/-- A running scan that is advanced makes progress. -/
theorem progress_advance {target : ScanTarget} {instrument : Instrument} {run : ScanRun}
    (running : instrument.running? target = some run) (rows : Nat) (store : Store) :
    ∃ later, (advance target rows instrument store).1.scans.get? target = some later ∧
      run.Progress later := by
  obtain ⟨found, active⟩ := running?_eq_some_iff.mp running
  refine advance_induction
    (P := fun device _ => ∃ later, device.scans.get? target = some later ∧ run.Progress later)
    ?_ rows ⟨run, found, .refl active⟩
  rintro device store record ⟨later, recorded, progress⟩ moving
  obtain ⟨lookup, active⟩ := running?_eq_some_iff.mp moving
  obtain rfl := Option.some.inj (recorded.symm.trans lookup)
  exact ⟨later.next, by rw [moveRow_scans, Table.get?_set_self], progress.next active⟩

end Instrument

/-! ## Commands for the scan on a target -/

namespace Command

/-- The command moves rows of the scan on a target. -/
inductive Moves (handle : Handle) (target : ScanTarget) : Command → Prop
  | advance (rows : Nat) : Moves handle target (.stimulus (.advance handle target rows))
  | wait (condition : WaitCondition) (parameter : Int) (timeout : Float) :
      Moves handle target (.request (.waitScan handle target condition parameter timeout))

/-- The command halts the scan on a target if it is running. -/
inductive Halts (handle : Handle) (target : ScanTarget) : Command → Prop
  | stop : Halts handle target (.request (.stopScan handle target))
  | abort (error : Error) : Halts handle target (.stimulus (.abort handle target error))
  | disconnect : Halts handle target (.request (.disconnect handle))
  | unplug : Halts handle target (.stimulus (.unplug handle))

variable {command : Command} {handle : Handle} {target : ScanTarget} {action : Action}

theorem moves_of_moved? (asks : command.action? = some (handle, action))
    (moved : action.moved? = some target) : command.Moves handle target := by
  cases command with
  | edit edit => contradiction
  | stimulus stimulus =>
      cases stimulus with
      | advance other aimed rows =>
          rcases asks with ⟨rfl, rfl⟩
          obtain rfl := Option.some.inj moved
          exact .advance rows
      | abort | unplug =>
          rcases asks with ⟨rfl, rfl⟩
          contradiction
      | _ => contradiction
  | request request =>
      cases request with
      | waitScan other aimed condition parameter timeout =>
          rcases asks with ⟨rfl, rfl⟩
          obtain rfl := Option.some.inj moved
          exact .wait condition parameter timeout
      | connect | disconnect | loadQueue | stopScan | enableEvents | disableEvents
      | scanAnalogIn | scanAnalogOut | scanDigitalIn | scanDigitalOut | scanCounters
      | scanSyncIn | scanSyncOut =>
          rcases asks with ⟨rfl, rfl⟩
          contradiction
      | _ => simp [action?, Request.action?, Request.start?] at asks

theorem halts_of_halts (asks : command.action? = some (handle, action))
    (halts : action.Halts target) : command.Halts handle target := by
  cases command with
  | edit edit => contradiction
  | stimulus stimulus =>
      cases stimulus with
      | abort other aimed error =>
          rcases asks with ⟨rfl, rfl⟩
          obtain rfl : aimed = target := halts
          exact .abort error
      | unplug other =>
          rcases asks with ⟨rfl, rfl⟩
          exact .unplug
      | advance =>
          rcases asks with ⟨rfl, rfl⟩
          contradiction
      | _ => contradiction
  | request request =>
      cases request with
      | stopScan other aimed =>
          rcases asks with ⟨rfl, rfl⟩
          obtain rfl : aimed = target := halts
          exact .stop
      | disconnect other =>
          rcases asks with ⟨rfl, rfl⟩
          exact .disconnect
      | connect | loadQueue | waitScan | enableEvents | disableEvents
      | scanAnalogIn | scanAnalogOut | scanDigitalIn | scanDigitalOut | scanCounters
      | scanSyncIn | scanSyncOut =>
          rcases asks with ⟨rfl, rfl⟩
          contradiction
      | _ => simp [action?, Request.action?, Request.start?] at asks

/-- A command that halts a scan moves none. -/
theorem Halts.moved?_eq_none (halts : command.Halts handle target) :
    ∃ action, command.action? = some (handle, action) ∧ action.moved? = none := by
  cases halts <;> exact ⟨_, rfl, rfl⟩

theorem action?_of_start? {α : Type} {request : Request α} {scan : ScanStart}
    (asks : request.start? = some (handle, scan)) :
    (Command.request request).action? = some (handle, .start scan) := by
  cases request with
  | scanAnalogIn | scanAnalogOut | scanDigitalIn | scanDigitalOut | scanCounters
  | scanSyncIn | scanSyncOut =>
      rcases asks with ⟨rfl, rfl⟩
      rfl
  | _ => contradiction

/-- Only a request starts a scan. -/
theorem start?_of_action? {scan : ScanStart}
    (asks : command.action? = some (handle, .start scan)) :
    ∃ (α : Type) (request : Request α), command = .request request ∧
      request.start? = some (handle, scan) := by
  cases command with
  | edit edit => contradiction
  | stimulus stimulus => cases stimulus <;> simp [action?, Stimulus.action?] at asks
  | request request =>
      refine ⟨_, request, rfl, ?_⟩
      cases request with
      | scanAnalogIn | scanAnalogOut | scanDigitalIn | scanDigitalOut | scanCounters
      | scanSyncIn | scanSyncOut =>
          rcases asks with ⟨rfl, rfl⟩
          rfl
      | _ => simp [action?, Request.action?, Request.start?] at asks

end Command

namespace Bench

variable {bench : Bench} {handle : Handle} {target : ScanTarget} {command : Command}
  {device : Instrument} {run : ScanRun}

/-- The command starts a scan on a target, and is accepted. -/
def Accepts (bench : Bench) (handle : Handle) (target : ScanTarget) (command : Command) : Prop :=
  ∃ (α : Type) (request : Request α) (scan : ScanStart) (outcome : Outcome α),
    command = .request request ∧ request.start? = some (handle, scan) ∧
    scan.target = target ∧ request.serve bench = .ok outcome

theorem accepts_iff :
    bench.Accepts handle target command ↔
      ∃ scan, bench.taken? handle command = some (.start scan) ∧ scan.target = target := by
  constructor
  · rintro ⟨α, request, scan, outcome, rfl, asks, aimed, served⟩
    have asks := Command.action?_of_start? asks
    obtain ⟨device, result, found, done, _⟩ := performs_of_serve asks served
    exact ⟨scan, taken?_eq_some_iff.mpr ⟨asks, device, result, found, done⟩, aimed⟩
  · rintro ⟨scan, taken, aimed⟩
    obtain ⟨asks, device, result, found, done⟩ := taken?_eq_some_iff.mp taken
    obtain ⟨α, request, rfl, starts⟩ := Command.start?_of_action? asks
    obtain ⟨outcome, served⟩ := serve_of_act asks found done
    exact ⟨α, request, scan, outcome, rfl, starts, aimed, served⟩

theorem scan?_of_found (found : bench.driver.instruments.get? handle = some device) :
    bench.scan? handle target = device.scans.get? target := by
  rw [scan?, found, Option.bind_some]

theorem isRunning_of_found (found : bench.driver.instruments.get? handle = some device) :
    bench.isRunning handle target = device.isRunning target := by
  show (bench.scan? handle target).any ScanRun.isRunning = _
  rw [scan?_of_found found, Instrument.isRunning, Instrument.running?]
  cases device.scans.get? target with
  | none => rfl
  | some run => cases active : run.isRunning <;> simp [Option.filter, active]

/-! ## What a command makes of a record -/

/-- What a command can make of the record of a scan on an open device. -/
inductive RecordChange (bench : Bench) (handle : Handle) (target : ScanTarget)
    (command : Command) : Prop
  | kept
      (same : (bench.step command).1.scan? handle target = bench.scan? handle target)
  | started {run : ScanRun}
      (accepts : bench.Accepts handle target command)
      (now : (bench.step command).1.scan? handle target = some run)
      (running : run.isRunning = true)
      (transfer : run.transfer = .initial)
  | moved {run later : ScanRun}
      (moves : command.Moves handle target)
      (before : bench.scan? handle target = some run)
      (running : run.isRunning = true)
      (now : (bench.step command).1.scan? handle target = some later)
      (progress : run.Progress later)
  | halted
      (halts : command.Halts handle target)
      (now : (bench.step command).1.scan? handle target =
        (bench.scan? handle target).map ScanRun.halt)

/-- An action of the device that is no start of the scan keeps, moves or halts it. -/
theorem recordChange_of_acted {action : Action} {result : Instrument × Store × List Firing}
    (taken : bench.taken? handle command = some action)
    (found : bench.driver.instruments.get? handle = some device)
    (done : action.act device bench.store = .ok result)
    (now : (bench.step command).1.driver.instruments.get? handle = some result.1) :
    bench.RecordChange handle target command := by
  have asks := (taken?_eq_some_iff.mp taken).1
  by_cases started : action.started? = some target
  · obtain ⟨scan, rfl, aimed⟩ := Action.start_of_started? started
    obtain ⟨columns, _, _, _, recorded⟩ := Action.opening_of_start done
    exact .started (accepts_iff.mpr ⟨scan, taken, aimed⟩)
      ((scan?_of_found now).trans (aimed ▸ recorded)) rfl rfl
  by_cases moved : action.moved? = some target
  · obtain ⟨rows, rfl⟩ := Action.advance_of_act moved done
    cases running : device.running? target with
    | none =>
        rw [Instrument.advance_of_not_running running] at now
        exact .kept (by rw [scan?_of_found now, scan?_of_found found])
    | some run =>
        obtain ⟨recorded, active⟩ := Instrument.running?_eq_some_iff.mp running
        obtain ⟨later, last, progress⟩ := Instrument.progress_advance running rows bench.store
        exact .moved (Command.moves_of_moved? asks moved) ((scan?_of_found found).trans recorded)
          active ((scan?_of_found now).trans last) progress
  · rcases Action.get?_scans_cases done started moved with same | ⟨halts, halted⟩
    · exact .kept (by rw [scan?_of_found now, scan?_of_found found, same])
    · exact .halted (Command.halts_of_halts asks halts)
        (by rw [scan?_of_found now, scan?_of_found found, halted])

/-- Nothing else becomes of the record of a scan while its handle is not given back. -/
theorem recordChange (issued : handle < bench.driver.nextHandle)
    (unreleased : command ≠ .request (.release handle)) :
    bench.RecordChange handle target command := by
  cases bench.change_of_step command handle with
  | kept unchanged => exact .kept (by rw [scan?, unchanged, scan?])
  | acted taken lookup done now => exact recordChange_of_acted taken lookup done now
  | tuned lookup now adjustment =>
      exact .kept (by rw [scan?_of_found now, scan?_of_found lookup, adjustment.alike.scans])
  | opened descriptor profile next => exact absurd next (Int.ne_of_lt issued)
  | closed asks => exact absurd asks unreleased

/-! ## The law -/

/-- A scan is running when its record says so. -/
theorem isRunning_iff :
    bench.isRunning handle target = true ↔
      ∃ run, bench.scan? handle target = some run ∧ run.isRunning = true :=
  Option.any_eq_true _ _

theorem isRunning_eq_false_of (idle : bench.isRunning handle target = false)
    (recorded : bench.scan? handle target = some run) : run.isRunning = false := by
  cases active : run.isRunning with
  | false => rfl
  | true =>
      rw [isRunning_iff.mpr ⟨run, recorded, active⟩] at idle
      contradiction

theorem isRunning_congr {before after : Bench}
    (same : after.scan? handle target = before.scan? handle target) :
    after.isRunning handle target = before.isRunning handle target :=
  congrArg (Option.any ScanRun.isRunning) same

/-- What one command can do to the scan on a target of an open device. -/
structure ScanLaw (bench : Bench) (handle : Handle) (target : ScanTarget) (command : Command) :
    Prop where
  /-- Nothing but an accepted start makes the scan run. -/
  starts : bench.isRunning handle target = false →
    (bench.step command).1.isRunning handle target = true → bench.Accepts handle target command
  /-- A scan that has been started runs and has moved nothing. -/
  opens : bench.Accepts handle target command → ∃ run,
    (bench.step command).1.scan? handle target = some run ∧ run.status = .running ∧
    run.transfer = ⟨0, 0, -1⟩
  /-- A running scan ends when it is halted, or else with its last row. -/
  ends : bench.isRunning handle target = true →
    (bench.step command).1.isRunning handle target = false →
    command.Halts handle target ∨
      command.Moves handle target ∧ ∃ run,
        (bench.step command).1.scan? handle target = some run ∧ run.isContinuous = false ∧
        run.transfer.scanCount = run.samples
  /-- No start on a running scan is accepted. -/
  excludes : bench.isRunning handle target = true → ¬ bench.Accepts handle target command
  /-- A running scan counts only when it is moved, and never back. -/
  counts : ∀ run, bench.scan? handle target = some run → run.isRunning = true →
    ∃ later, (bench.step command).1.scan? handle target = some later ∧
      (later.transfer = run.transfer ∨ command.Moves handle target) ∧
      run.transfer.scanCount ≤ later.transfer.scanCount ∧
      run.transfer.totalCount ≤ later.transfer.totalCount
  /-- An idle scan is left as it is by all but an accepted start. -/
  rests : bench.isRunning handle target = false → ¬ bench.Accepts handle target command →
    (bench.step command).1.scan? handle target = bench.scan? handle target
  /-- To advance an idle scan changes nothing at all, and no handler is due. -/
  idles : bench.isRunning handle target = false → ∀ rows,
    command = .stimulus (.advance handle target rows) → bench.step command = (bench, [])

/-- A scan that is started was not running, and has moved nothing. -/
theorem Accepts.opening (accepts : bench.Accepts handle target command) :
    bench.isRunning handle target = false ∧ ∃ run,
      (bench.step command).1.scan? handle target = some run ∧ run.status = .running ∧
      run.transfer = ⟨0, 0, -1⟩ := by
  obtain ⟨scan, taken, rfl⟩ := accepts_iff.mp accepts
  obtain ⟨device, result, found, done, acted, _⟩ := step_of_taken? taken
  obtain ⟨columns, _, accepted, _, recorded⟩ := Action.opening_of_start done
  exact ⟨(isRunning_of_found found).trans accepted.isIdle, (scan.plan columns).opening,
    (scan?_of_found acted.get?_self).trans recorded, rfl, rfl⟩

/-- Advancing a scan that is not running changes nothing. -/
theorem step_advance_of_idle (found : bench.driver.instruments.get? handle = some device)
    (idle : bench.isRunning handle target = false) (rows : Nat) :
    bench.step (.stimulus (.advance handle target rows)) = (bench, []) := by
  have still : device.running? target = none := by
    rw [isRunning_of_found found, Instrument.isRunning] at idle
    simpa using idle
  have there := Driver.instrument_eq_ok_iff.mpr found
  simp only [step, Stimulus.apply, there, bind, Except.bind, pure, Except.pure, settled, moved,
    Instrument.advance_of_not_running still, Driver.put_of_get? found, List.map_nil]

namespace RecordChange

variable (change : bench.RecordChange handle target command)

include change

theorem accepts_of_begun (idle : bench.isRunning handle target = false)
    (running : (bench.step command).1.isRunning handle target = true) :
    bench.Accepts handle target command := by
  cases change with
  | kept same =>
      rw [isRunning_congr same, idle] at running
      contradiction
  | started accepts => exact accepts
  | moved moves before active =>
      rw [isRunning_iff.mpr ⟨_, before, active⟩] at idle
      contradiction
  | halted halts now =>
      obtain ⟨run, recorded, active⟩ := isRunning_iff.mp running
      obtain ⟨_, _, rfl⟩ := Option.map_eq_some_iff.mp (now.symm.trans recorded)
      contradiction

theorem halts_or_completes (after : (bench.step command).1.Reachable)
    (running : bench.isRunning handle target = true)
    (idle : (bench.step command).1.isRunning handle target = false) :
    command.Halts handle target ∨
      command.Moves handle target ∧ ∃ run,
        (bench.step command).1.scan? handle target = some run ∧ run.isContinuous = false ∧
        run.transfer.scanCount = run.samples := by
  cases change with
  | kept same =>
      rw [isRunning_congr same, running] at idle
      contradiction
  | started accepts =>
      rw [accepts.opening.1] at running
      contradiction
  | halted halts => exact .inl halts
  | @moved run later moves before active now progress =>
      obtain ⟨finite, complete⟩ := progress.ended (isRunning_eq_false_of idle now)
      obtain ⟨device, there, recorded⟩ := scan?_eq_some_iff.mp now
      have consistent := Instrument.consistent_invariant.holds after there target later recorded
      exact .inr ⟨moves, later, now, finite,
        Nat.le_antisymm (consistent.finite finite).1 complete⟩

theorem counts (before : bench.scan? handle target = some run) (active : run.isRunning = true) :
    ∃ later, (bench.step command).1.scan? handle target = some later ∧
      (later.transfer = run.transfer ∨ command.Moves handle target) ∧
      run.transfer.scanCount ≤ later.transfer.scanCount ∧
      run.transfer.totalCount ≤ later.transfer.totalCount := by
  cases change with
  | kept same => exact ⟨run, same.trans before, .inl rfl, Nat.le_refl _, Nat.le_refl _⟩
  | started accepts =>
      have idle := accepts.opening.1
      rw [isRunning_iff.mpr ⟨run, before, active⟩] at idle
      contradiction
  | halted halts now =>
      rw [before] at now
      exact ⟨run.halt, now, .inl rfl, Nat.le_refl _, Nat.le_refl _⟩
  | @moved earlier later moves there _ now progress =>
      obtain rfl := Option.some.inj (there.symm.trans before)
      exact ⟨later, now, .inr moves, progress.scanCount, progress.totalCount⟩

theorem rests (idle : bench.isRunning handle target = false)
    (refused : ¬ bench.Accepts handle target command) :
    (bench.step command).1.scan? handle target = bench.scan? handle target := by
  cases change with
  | kept same => exact same
  | started accepts => exact absurd accepts refused
  | moved moves before active =>
      rw [isRunning_iff.mpr ⟨_, before, active⟩] at idle
      contradiction
  | halted halts now =>
      rw [now]
      cases before : bench.scan? handle target with
      | none => rfl
      | some run => exact congrArg some (ScanRun.halt_of_idle (isRunning_eq_false_of idle before))

end RecordChange

/-- On a reachable bench every command but the release of the handle keeps to the law of the
scan on each target of each open device. -/
theorem Reachable.scan_lawful (reachable : bench.Reachable)
    (found : bench.driver.instruments.get? handle = some device)
    (unreleased : command ≠ .request (.release handle)) (target : ScanTarget) :
    bench.ScanLaw handle target command := by
  have change : bench.RecordChange handle target command :=
    recordChange (reachable.issued found) unreleased
  exact {
    starts := change.accepts_of_begun
    opens := fun accepts => accepts.opening.2
    ends := change.halts_or_completes (reachable.step command)
    excludes := by
      intro running accepts
      rw [accepts.opening.1] at running
      contradiction
    counts := fun _ => change.counts
    rests := change.rests
    idles := by
      rintro idle rows rfl
      exact step_advance_of_idle found idle rows }

/-- Start a scan of one analog input over two samples. -/
def startPair : Command :=
  .request (.scanAnalogIn 1 ⟨0, 0, 2, 1000, .empty⟩ .singleEnded .bip10Volts .empty ⟨0, 1⟩)

theorem startPair_ne_release : startPair ≠ .request (.release 1) := fun same =>
  absurd (congrArg (fun command => command.action?.isSome) same) (by decide)

/-- A scan of two samples begins with its start, runs after one row and ends with the second. -/
theorem scan_lawful_pair :
    let ready := withCells #[0, 0]
    let tick := Command.stimulus (.advance 1 .analogIn 1)
    let begun := (ready.step startPair).1
    let halfway := (begun.step tick).1
    let last := (halfway.step tick).1
    ready.Accepts 1 .analogIn startPair ∧
    (∃ run, halfway.scan? 1 .analogIn = some run ∧ run.transfer.scanCount = 1) ∧
    ¬ halfway.Accepts 1 .analogIn startPair ∧
    (∃ run, last.scan? 1 .analogIn = some run ∧ run.transfer.scanCount = run.samples) ∧
    last.step tick = (last, []) := by
  intro ready tick begun halfway last
  have reachable := withCells_reachable #[0, 0]
  have law {bench : Bench} (reachable : bench.Reachable)
      (there : (bench.driver.instruments.get? 1).isSome = true) (command : Command)
      (unreleased : command ≠ .request (.release 1)) : bench.ScanLaw 1 .analogIn command := by
    obtain ⟨device, found⟩ := Option.isSome_iff_exists.mp there
    exact reachable.scan_lawful found unreleased .analogIn
  have running : halfway.isRunning 1 .analogIn = true := by decide +kernel
  have idle : last.isRunning 1 .analogIn = false := by decide +kernel
  have moved : (halfway.scan? 1 .analogIn).map (fun run => run.transfer.scanCount) = some 1 := by
    decide +kernel
  have midway := (reachable.step startPair).step tick
  refine ⟨accepts_iff.mpr ⟨_, taken?_of_isSome rfl (by decide +kernel), rfl⟩,
    Option.map_eq_some_iff.mp moved, ?_, ?_, ?_⟩
  · exact (law midway (by decide +kernel) startPair startPair_ne_release).excludes running
  · rcases (law midway (by decide +kernel) tick nofun).ends running idle with halts | ⟨_, complete⟩
    · obtain ⟨action, asked, unmoved⟩ := halts.moved?_eq_none
      obtain rfl : Action.advance .analogIn 1 = action :=
        congrArg Prod.snd (Option.some.inj asked)
      contradiction
    · obtain ⟨run, recorded, _, counted⟩ := complete
      exact ⟨run, recorded, counted⟩
  · exact (law (midway.step tick) (by decide +kernel) tick nofun).idles idle 1 rfl

end Bench

end Acquisition
