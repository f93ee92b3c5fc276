import Acquisition.Proofs.Atomic
import Acquisition.Proofs.Bound
import Acquisition.Proofs.ScanLaw

/-!
# Rows moved at once

It makes no difference to a device in how many calls the rows of a scan are moved: the
device, the buffers and the firings are those of one call with as many rows
(`Instrument.advance_add`), and rows beyond the last one of a scan that is not continuous
move nothing.  To a caller it makes no difference either, as long as the handlers leave the
driver alone; the notices alone may come in another order, for handlers run after each call.

Main statement: `World.advance_batched`.
-/

namespace Acquisition

/-! ## On the device -/

namespace Instrument

variable {instrument : Instrument} {store : Store} {target : ScanTarget} {run : ScanRun}

/-- Rows are moved in one call as they are in two. -/
theorem advance_add (target : ScanTarget) (first second : Nat) (instrument : Instrument)
    (store : Store) :
    advance target (first + second) instrument store =
      let earlier := advance target first instrument store
      let later := advance target second earlier.1 earlier.2.1
      (later.1, later.2.1, earlier.2.2 ++ later.2.2) := by
  induction first generalizing instrument store with
  | zero => simp
  | succ first ih =>
      cases running : instrument.running? target with
      | none => simp only [advance_of_not_running running, List.nil_append]
      | some run =>
          rw [Nat.succ_add]
          simp only [advance_succ running, ih, List.append_assoc]

/-- A scan that is not continuous is complete after the rows that it has left. -/
theorem completes_of_remaining (store : Store)
    (running : instrument.running? target = some run) (finite : run.isContinuous = false)
    (room : run.transfer.scanCount < run.samples) :
    ∃ last, (advance target run.remaining instrument store).1.scans.get? target = some last ∧
      last.status = .idle ∧ last.samples = run.samples ∧
      last.transfer.scanCount = run.samples := by
  have active := (running?_eq_some_iff.mp running).2
  induction left : run.remaining generalizing run instrument store with
  | zero => exact absurd left (Nat.ne_of_gt (Nat.sub_pos_of_lt room))
  | succ rows ih =>
      have goes : run.next.isRunning = decide (run.transfer.scanCount + 1 < run.samples) := by
        rw [ScanRun.isRunning_next, active, finite, Bool.true_and, Bool.false_or]
      have later : run.transfer.scanCount + 1 + rows = run.samples := by
        simp only [ScanRun.remaining] at left
        omega
      rw [advance_succ running]
      cases rows with
      | zero =>
          -- The row is the last one.
          have off := goes.trans (decide_eq_false (Nat.not_lt.mpr (Nat.le_of_eq later.symm)))
          exact ⟨run.next, by simp, ScanRun.status_of_idle off, rfl, later⟩
      | succ rows =>
          have more : run.next.transfer.scanCount < run.next.samples := by
            show run.transfer.scanCount + 1 < run.samples
            omega
          have on : run.next.isRunning = true := goes.trans (decide_eq_true more)
          have rest : run.next.remaining = rows + 1 := by
            show run.samples - (run.transfer.scanCount + 1) = rows + 1
            omega
          have moving : (instrument.moveRow store target run).1.running? target =
              some run.next := by
            rw [running?_moveRow, if_pos on]
          have completes := ih (instrument.moveRow store target run).2.1 moving finite more on rest
          exact completes

/-- Rows beyond the last one are not moved. -/
theorem advance_of_remaining_le (running : instrument.running? target = some run)
    (finite : run.isContinuous = false) (room : run.transfer.scanCount < run.samples)
    {rows : Nat} (enough : run.remaining ≤ rows) :
    advance target rows instrument store = advance target run.remaining instrument store := by
  obtain ⟨extra, rfl⟩ := Nat.exists_eq_add_of_le enough
  obtain ⟨last, recorded, idle, _⟩ := completes_of_remaining store running finite room
  have still : (advance target run.remaining instrument store).1.running? target = none := by
    simp [running?, recorded, ScanRun.isRunning, idle]
  simp only [advance_add, advance_of_not_running still, List.append_nil]

end Instrument

/-! ## Handlers that leave the driver alone -/

/-- The handler asks nothing of the driver. -/
def Reaction.isPassive : Reaction → Bool
  | .record | .breakDown => true
  | .stop _ | .status _ | .disable _ => false

/-- No handler of the device asks anything of the driver. -/
def Instrument.IsPassive (instrument : Instrument) : Prop :=
  ∀ binding ∈ instrument.bindings, binding.handler.reaction.isPassive = true

namespace Instrument

variable {instrument : Instrument} {store : Store} {target : ScanTarget}

theorem isPassive_iff :
    instrument.IsPassive ↔
      ∀ handler, instrument.Binds handler → handler.reaction.isPassive = true := by
  constructor
  · rintro passive handler ⟨binding, bound, rfl⟩
    exact passive binding bound
  · exact fun passive binding bound => passive _ ⟨binding, bound, rfl⟩

/-- Advancing makes passive handlers due, and leaves the device with no others. -/
theorem IsPassive.advance (passive : instrument.IsPassive) (rows : Nat) :
    (Instrument.advance target rows instrument store).1.IsPassive ∧
    ∀ firing ∈ (Instrument.advance target rows instrument store).2.2,
      firing.handler.reaction.isPassive = true := by
  rw [isPassive_iff] at passive ⊢
  constructor
  · exact fun handler binds => passive handler (binds.congr (bound_advance rows))
  · exact fun firing fires => passive _ (binds_of_advance fires)

end Instrument

namespace Due

/-- The notices of a handler that asks nothing of the driver. -/
def notices (due : Due) : List Notice :=
  .eventRaised due.firing.kind due.firing.data ::
    if due.firing.handler.reaction = .breakDown then [.handlerBroke due.firing.kind] else []

/-- The record of a handler that asks nothing of the driver. -/
def occurrence (due : Due) : Occurrence :=
  .handled due.firing.handler.label due.firing.kind due.firing.data .nothing

end Due

namespace World

/-- The world after passive handlers have run. -/
def handled (world : World) (dues : List Due) : World :=
  { world with
    notices := world.notices ++ dues.flatMap Due.notices
    occurrences := world.occurrences ++ dues.map Due.occurrence }

end World

namespace Act

variable {α : Type}

theorem on_handle_of_passive {due : Due}
    (passive : due.firing.handler.reaction.isPassive = true) (world : World) :
    (Act.handle due).on world = (.ok (), world.handled [due]) := by
  rcases due with ⟨handle, ⟨label, reaction⟩, kind, data⟩
  cases reaction with
  | record => rfl
  | breakDown =>
      have twice := List.append_assoc world.notices [.eventRaised kind data] [.handlerBroke kind]
      exact congrArg (fun notices => (Except.ok (), World.mk world.bench world.faults world.rival
        world.devices world.nextDevice notices _)) twice
  | stop | status | disable => contradiction

/-- Passive handlers are noted and recorded, in order, and nothing else comes of them. -/
theorem on_handleAll_of_passive {dues : List Due}
    (passive : ∀ due ∈ dues, due.firing.handler.reaction.isPassive = true) (world : World) :
    (handleAll dues).on world = (.ok (), world.handled dues) := by
  induction dues generalizing world with
  | nil => simp [handleAll, World.handled]
  | cons due rest ih =>
      obtain ⟨first, others⟩ := List.forall_mem_cons.mp passive
      unfold handleAll
      rw [on_bind_ok (on_handle_of_passive first world), ih others]
      simp [World.handled]

end Act

/-! ## Advancing -/

namespace Bench

variable {bench : Bench} {handle : Handle} {target : ScanTarget} {device : Instrument}

/-- What advancing a scan comes to. -/
def advanced (bench : Bench) (handle : Handle) (target : ScanTarget) (device : Instrument)
    (rows : Nat) : Outcome Transfer :=
  let result := Instrument.advance target rows device bench.store
  bench.moved handle (result.1.scanStatus target).2 result

theorem apply_advance (found : bench.driver.instruments.get? handle = some device) (rows : Nat) :
    (Stimulus.advance handle target rows).apply bench =
      .ok (bench.advanced handle target device rows) := by
  have there := Driver.instrument_eq_ok_iff.mpr found
  simp only [Stimulus.apply, there, bind, Except.bind]
  rfl

theorem get?_advanced (rows : Nat) :
    (bench.advanced handle target device rows).bench.driver.instruments.get? handle =
      some (Instrument.advance target rows device bench.store).1 :=
  Table.get?_set_self _ _ _

/-- Advancing in two calls comes to what advancing in one comes to. -/
theorem advanced_add (first second : Nat) :
    let earlier := bench.advanced handle target device first
    let later := earlier.bench.advanced handle target
      (Instrument.advance target first device bench.store).1 second
    bench.advanced handle target device (first + second) =
      ⟨later.answer, later.bench, earlier.due ++ later.due⟩ := by
  simp only [advanced, moved, Instrument.advance_add, Driver.put, Table.set_set, List.map_append]

/-- The device behind a handle advances without calling back. -/
theorem passive_of_advanced (passive : device.IsPassive) (rows : Nat) :
    ∀ due ∈ (bench.advanced handle target device rows).due,
      due.firing.handler.reaction.isPassive = true := by
  intro due member
  obtain ⟨firing, fires, rfl⟩ := List.mem_map.mp member
  exact (passive.advance rows).2 firing fires

/-- Advancing does not make a scan run. -/
theorem isRunning_advanced (found : bench.driver.instruments.get? handle = some device)
    (idle : bench.isRunning handle target = false) (rows : Nat) :
    (bench.advanced handle target device rows).bench.isRunning handle target = false := by
  rw [isRunning_of_found found, Instrument.isRunning, Option.isSome_eq_false_iff,
    Option.isNone_iff_eq_none] at idle
  rw [isRunning_of_found (get?_advanced rows), Instrument.advance_of_not_running idle,
    Instrument.isRunning, idle]
  rfl

end Bench

/-- A scan is complete in the first of two moves or in the second. -/
theorem Notice.ofMove_append {handle : Handle} {target : ScanTarget} {before middle after : Bench}
    (first : before.isRunning handle target = false → middle.isRunning handle target = false)
    (second : middle.isRunning handle target = false → after.isRunning handle target = false) :
    ofMove handle target before after =
      ofMove handle target before middle ++ ofMove handle target middle after := by
  unfold ofMove
  cases earlier : before.isRunning handle target <;>
    cases halfway : middle.isRunning handle target <;>
    cases later : after.isRunning handle target <;> simp_all

namespace World

variable {world : World} {handle : Handle} {target : ScanTarget}

/-- The world after a scan has moved rows and passive handlers have run. -/
def advanced (world : World) (handle : Handle) (target : ScanTarget)
    (outcome : Outcome Transfer) : World :=
  { world with
    bench := outcome.bench
    notices := world.notices ++ Notice.ofMove handle target world.bench outcome.bench ++
      outcome.due.flatMap Due.notices
    occurrences := world.occurrences ++ outcome.due.map Due.occurrence }

/-- After two moves the world is as after one move that comes to both, up to the order of the
notices. -/
theorem advanced_advanced {earlier later : Outcome Transfer}
    (notices : Notice.ofMove handle target world.bench later.bench =
      Notice.ofMove handle target world.bench earlier.bench ++
        Notice.ofMove handle target earlier.bench later.bench) :
    let last := (world.advanced handle target earlier).advanced handle target later
    let whole := world.advanced handle target
      ⟨later.answer, later.bench, earlier.due ++ later.due⟩
    last = { whole with notices := last.notices } ∧ last.notices.Perm whole.notices := by
  constructor
  · simp [advanced]
  · simp only [advanced, notices, List.append_assoc, List.flatMap_append]
    exact .append_left _ (.append_left _ (List.perm_append_comm_assoc _ _ _))

end World

namespace Act

variable {world : World} {handle : Handle} {target : ScanTarget} {device : Instrument}

/-- Advancing the scan of a device whose handlers are passive. -/
theorem on_advance_of_passive (found : world.bench.driver.instruments.get? handle = some device)
    (passive : device.IsPassive) (rows : Nat) :
    let outcome := world.bench.advanced handle target device rows
    (stimulate (.advance handle target rows)).on world =
      (.ok outcome.answer, world.advanced handle target outcome) := by
  intro outcome
  rw [on_stimulate (Bench.apply_advance found rows),
    on_bind_ok (on_handleAll_of_passive (Bench.passive_of_advanced passive rows) _), on_pure]
  rfl

/-- To advance in two calls leads where one call leads, up to the order of the notices. -/
theorem advance_in_two (found : world.bench.driver.instruments.get? handle = some device)
    (passive : device.IsPassive) (target : ScanTarget) (first second : Nat) :
    ∃ earlier answer middle last whole,
      (stimulate (.advance handle target first)).on world = (.ok earlier, middle) ∧
      (stimulate (.advance handle target second)).on middle = (.ok answer, last) ∧
      (stimulate (.advance handle target (first + second))).on world = (.ok answer, whole) ∧
      last = { whole with notices := last.notices } ∧ last.notices.Perm whole.notices := by
  let earlier := world.bench.advanced handle target device first
  let device' := (Instrument.advance target first device world.bench.store).1
  let later := earlier.bench.advanced handle target device' second
  have there : earlier.bench.driver.instruments.get? handle = some device' :=
    Bench.get?_advanced first
  have next : (stimulate (.advance handle target second)).on
      (world.advanced handle target earlier) =
        (.ok later.answer, (world.advanced handle target earlier).advanced handle target later) :=
    on_advance_of_passive there (passive.advance first).1 second
  have once : (stimulate (.advance handle target (first + second))).on world =
      (.ok later.answer, world.advanced handle target
        ⟨later.answer, later.bench, earlier.due ++ later.due⟩) := by
    rw [on_advance_of_passive found passive, Bench.advanced_add]
  have notices := Notice.ofMove_append (fun idle => Bench.isRunning_advanced found idle first)
    (fun idle => Bench.isRunning_advanced there idle second)
  exact ⟨_, _, _, _, _, on_advance_of_passive found passive first, next, once,
    World.advanced_advanced notices⟩

/-! ## Waiting -/

/-- Wherever it is carried out, the action does to the bench what some commands do that start
no scan and give no handle back. -/
def Spares {α : Type} (act : Act α) : Prop :=
  ∀ world : World, ∃ commands : List Command, (∀ command ∈ commands, command.deed? = none) ∧
    (act.on world).2.bench = (world.bench.run commands).1

section Spares

variable {α : Type}

/-- To run such commands is allowed to go on. -/
theorem spares_allows : Allows fun before after => ∃ commands : List Command,
    (∀ command ∈ commands, command.deed? = none) ∧ after.bench = (before.bench.run commands).1 where
  refl world := ⟨[], List.forall_mem_nil _, rfl⟩
  trans := by
    rintro before middle after ⟨commands, spared, reached⟩ ⟨others, sparing, ended⟩
    refine ⟨commands ++ others, List.forall_mem_append.mpr ⟨spared, sparing⟩, ?_⟩
    rw [ended, reached, Bench.run_append]
  note _ world := ⟨[], List.forall_mem_nil _, rfl⟩
  report _ world := ⟨[], List.forall_mem_nil _, rfl⟩

theorem Spares.serve {request : Request α} (quiet : (Command.request request).deed? = none) :
    (attempt (serve request)).Spares := by
  intro world
  refine ⟨[.request request], by simpa using quiet, ?_⟩
  rw [on_attempt]
  cases served : request.serve world.bench with
  | error error =>
      rw [on_serve_of_refused served]
      simp [Bench.run, Bench.step, Bench.settled, served]
  | ok outcome =>
      rw [on_serve served]
      simp [Bench.run, Bench.step, Bench.settled, served, World.served]

theorem spares_react (handle : Handle) (reaction : Reaction) : (react handle reaction).Spares := by
  cases reaction with
  | record | breakDown => exact spares_allows.looks (looks_pure _)
  | stop | status | disable =>
      exact spares_allows.bind (Spares.serve rfl) fun _ => spares_allows.looks (looks_pure _)

theorem spares_handleAll (dues : List Due) : (handleAll dues).Spares :=
  spares_allows.handleAll fun _ _ => spares_react _ _

end Spares

end Act

namespace Bench

variable {bench : Bench} {handle : Handle} {target : ScanTarget}

/-- A command that starts no scan accepts none. -/
theorem not_accepts_of_deed? {command : Command} (quiet : command.deed? = none) :
    ¬ bench.Accepts handle target command := by
  intro accepts
  obtain ⟨scan, taken, _⟩ := accepts_iff.mp accepts
  rw [Command.deed?_of_action? (taken?_eq_some_iff.mp taken).1] at quiet
  contradiction

/-- An idle scan is left as it is by commands that start none and give no handle back. -/
theorem scan?_run_of_idle {commands : List Command}
    (quiet : ∀ command ∈ commands, command.deed? = none)
    (issued : handle < bench.driver.nextHandle)
    (idle : bench.isRunning handle target = false) :
    (bench.run commands).1.scan? handle target = bench.scan? handle target := by
  induction commands generalizing bench with
  | nil => rfl
  | cons command rest ih =>
      obtain ⟨first, others⟩ := List.forall_mem_cons.mp quiet
      have unreleased : command ≠ .request (.release handle) := by
        rintro rfl
        contradiction
      have change : bench.RecordChange handle target command := recordChange issued unreleased
      have same := change.rests idle (not_accepts_of_deed? first)
      rw [run_cons]
      exact (ih others (Int.lt_of_lt_of_le issued (bench.nextHandle_le_step command))
        ((isRunning_congr same).trans idle)).trans same

/-- A scan without `continuous` that is waited for moves the rows that it has left. -/
theorem serve_waitScan {device : Instrument} {run : ScanRun}
    (found : bench.driver.instruments.get? handle = some device)
    (running : device.running? target = some run) (finite : run.isContinuous = false)
    (condition : WaitCondition) (parameter : Int) (timeout : Float) :
    (Request.waitScan handle target condition parameter timeout).serve bench =
      .ok (bench.moved handle () (Instrument.advance target run.remaining device bench.store)) := by
  have there := Driver.instrument_eq_ok_iff.mpr found
  have finished : device.finishScan bench.store target =
      .ok (Instrument.advance target run.remaining device bench.store) :=
    Instrument.finishScan_eq_ok_iff.mpr (.inr ⟨run, running, finite, rfl⟩)
  simp only [Request.serve, there, bind, Except.bind, finished]
  rfl

end Bench

namespace Act

variable {world : World} {handle : Handle} {target : ScanTarget} {device : Instrument}
  {run : ScanRun}

/-- Handlers leave a scan that they find idle as it is. -/
theorem scan?_handleAll_of_idle (issued : handle < world.bench.driver.nextHandle)
    (idle : world.bench.isRunning handle target = false) (dues : List Due) :
    ((handleAll dues).on world).2.bench.scan? handle target =
      world.bench.scan? handle target := by
  obtain ⟨commands, quiet, reached⟩ := spares_handleAll dues world
  rw [reached]
  exact Bench.scan?_run_of_idle quiet issued idle

/-- To wait for a scan that is not continuous completes it, and leads wherever to advance it
by all rows that it has left, or by more, leads. -/
theorem wait_completes (reachable : world.bench.Reachable)
    (found : world.bench.driver.instruments.get? handle = some device)
    (running : device.running? target = some run) (finite : run.isContinuous = false)
    (condition : WaitCondition) (parameter : Int) (timeout : Float) :
    ∃ after, (perform (.waitScan handle target condition parameter timeout)).on world =
        (.ok (), after) ∧
      (∃ last, after.bench.scan? handle target = some last ∧ last.status = .idle ∧
        last.samples = run.samples ∧ last.transfer.scanCount = run.samples) ∧
      ∀ rows, run.samples - run.transfer.scanCount ≤ rows →
        ∃ answer, (stimulate (.advance handle target rows)).on world = (.ok answer, after) := by
  obtain ⟨recorded, active⟩ := Instrument.running?_eq_some_iff.mp running
  have consistent := Instrument.consistent_invariant.holds reachable found target run recorded
  have room := (consistent.finite finite).2 active
  let request := Request.waitScan handle target condition parameter timeout
  let outcome : Outcome Unit := world.bench.moved handle ()
    (Instrument.advance target run.remaining device world.bench.store)
  have waited : request.serve world.bench = .ok outcome :=
    Bench.serve_waitScan found running finite condition parameter timeout
  obtain ⟨_, after, handled⟩ := answers_handleAll outcome.due (world.served request outcome)
  refine ⟨after, ?_, ?_, ?_⟩
  · unfold perform
    rw [on_bind_ok (on_serve waited), on_bind_ok handled]
    rfl
  · -- The handlers find the scan complete, and leave it so.
    obtain ⟨last, there, idle, counted⟩ :=
      Instrument.completes_of_remaining world.bench.store running finite room
    have now : outcome.bench.driver.instruments.get? handle = some _ :=
      Table.get?_set_self _ _ _
    have complete : outcome.bench.scan? handle target = some last :=
      (Bench.scan?_of_found now).trans there
    have still : outcome.bench.isRunning handle target = false := by
      show (outcome.bench.scan? handle target).any ScanRun.isRunning = false
      rw [complete]
      simp [ScanRun.isRunning, idle]
    have issued : handle < (world.served request outcome).bench.driver.nextHandle :=
      reachable.issued found
    have kept := scan?_handleAll_of_idle issued still outcome.due
    rw [handled] at kept
    exact ⟨last, kept.trans complete, idle, counted⟩
  · intro rows enough
    have moved : world.bench.advanced handle target device rows =
        ⟨(world.bench.advanced handle target device rows).answer, outcome.bench,
          outcome.due⟩ := by
      simp only [Bench.advanced, Instrument.advance_of_remaining_le running finite room enough]
      rfl
    rw [on_stimulate (Bench.apply_advance found rows), moved]
    exact ⟨_, on_bind_ok handled⟩

end Act

/-! ## Batches -/

namespace World

open Act (stimulate perform)

variable {world : World} {handle : Handle} {device : Instrument}

/-- On a reachable bench it makes no difference whether the rows of a scan are moved in two
calls or in one, and to wait for a scan that is not continuous is to advance it by at least
the rows that it has left. -/
theorem advance_batched (reachable : world.bench.Reachable)
    (found : world.bench.driver.instruments.get? handle = some device) (target : ScanTarget) :
    (device.IsPassive → ∀ first second, ∃ earlier answer middle last whole,
      (stimulate (.advance handle target first)).on world = (.ok earlier, middle) ∧
      (stimulate (.advance handle target second)).on middle = (.ok answer, last) ∧
      (stimulate (.advance handle target (first + second))).on world = (.ok answer, whole) ∧
      last = { whole with notices := last.notices } ∧ last.notices.Perm whole.notices) ∧
    (∀ run, device.running? target = some run → run.isContinuous = false →
      ∀ condition parameter timeout, ∃ after,
        (perform (.waitScan handle target condition parameter timeout)).on world =
          (.ok (), after) ∧
        (∃ last, after.bench.scan? handle target = some last ∧ last.status = .idle ∧
          last.samples = run.samples ∧ last.transfer.scanCount = run.samples) ∧
        ∀ rows, run.samples - run.transfer.scanCount ≤ rows →
          ∃ answer, (stimulate (.advance handle target rows)).on world = (.ok answer, after)) :=
  ⟨fun passive first second => Act.advance_in_two found passive target first second,
    fun _ running finite condition parameter timeout =>
      Act.wait_completes reachable found running finite condition parameter timeout⟩

/-- A scan of two samples that has moved the first of them, with a handler for each. -/
def halfway : World :=
  { World.initial with
    bench := ((Bench.withCells #[0, 0]).run
      [.request (.enableEvents 1 EventKind.dataAvailable 1 ⟨"scan", .record⟩),
       Bench.startPair, .stimulus (.advance 1 .analogIn 1)]).1 }

/-- The last row may be moved alone, with one that is not there, or by waiting. -/
theorem advance_batched_halfway :
    (∃ earlier answer middle last whole,
      (stimulate (.advance 1 .analogIn 1)).on halfway = (.ok earlier, middle) ∧
      (stimulate (.advance 1 .analogIn 1)).on middle = (.ok answer, last) ∧
      (stimulate (.advance 1 .analogIn 2)).on halfway = (.ok answer, whole) ∧
      last = { whole with notices := last.notices }) ∧
    ∃ after, (perform (.waitScan 1 .analogIn .waitUntilDone 0 (-1))).on halfway = (.ok (), after) ∧
      ∃ answer, (stimulate (.advance 1 .analogIn 1)).on halfway = (.ok answer, after) := by
  have reachable : halfway.bench.Reachable := .run (Bench.withCells_reachable _) _
  have there : ((halfway.bench.driver.instruments.get? 1).any fun device =>
      (device.running? .analogIn).any (fun run => !run.isContinuous && run.samples = 2 &&
        run.transfer.scanCount = 1) &&
      device.bindings.all fun binding => binding.handler.reaction.isPassive) = true := by
    decide +kernel
  obtain ⟨device, found, checks⟩ := (Option.any_eq_true _ _).mp there
  simp only [Bool.and_eq_true, List.all_eq_true] at checks
  obtain ⟨scanning, passive⟩ := checks
  obtain ⟨run, running, checks⟩ := (Option.any_eq_true _ _).mp scanning
  simp only [Bool.and_eq_true, Bool.not_eq_true', decide_eq_true_eq] at checks
  obtain ⟨⟨finite, samples⟩, moved⟩ := checks
  obtain ⟨splits, waits⟩ := advance_batched reachable found .analogIn
  obtain ⟨earlier, answer, middle, last, whole, first, second, once, same, _⟩ :=
    splits passive 1 1
  obtain ⟨after, waited, _, advances⟩ := waits run running finite .waitUntilDone 0 (-1)
  exact ⟨⟨earlier, answer, middle, last, whole, first, second, once, same⟩, after, waited,
    advances 1 (by omega)⟩

end World

end Acquisition
