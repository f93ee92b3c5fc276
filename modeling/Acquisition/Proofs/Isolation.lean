import Acquisition.Proofs.Reachable
import Acquisition.Proofs.Schedule

/-!
# Scans beside each other

The events for available data that one scan fires, in a run with scans on other targets
and in the run without them.  Both runs keep the device a twin for the target
(`Beside.run`), so the events are the same as long as the threshold of the binding is
reached at the same rows (`Reachable.callbacks_isolated`).  All targets share one
threshold, so it need not be.
-/

namespace Acquisition

namespace Command

/-- Whether a command asks a device to start, move or stop the scan on another target. -/
def isForeign (handle : Handle) (target : ScanTarget) (command : Command) : Bool :=
  match command.action? with
  | some (asked, action) => asked = handle && action.isForeign target
  | none => false

/-- Move the scan on a target on by some rows. -/
def onward (handle : Handle) (target : ScanTarget) (rows : Nat) : Command :=
  .stimulus (.advance handle target rows)

/-- The first of some commands, and then some rows more of the scan on a target. -/
def cut (handle : Handle) (target : ScanTarget) (commands : List Command) (count rows : Nat) :
    List Command :=
  commands.take count ++ [.onward handle target rows]

/-- The commands without the scans on other targets of a device. -/
def isolate (handle : Handle) (target : ScanTarget) (commands : List Command) : List Command :=
  commands.filter fun command => !command.isForeign handle target

theorem isForeign_eq_true_iff {handle : Handle} {target : ScanTarget} {command : Command} :
    command.isForeign handle target = true ↔
      ∃ action, command.action? = some (handle, action) ∧ action.isForeign target = true := by
  unfold isForeign
  cases command.action? with
  | none => simp
  | some asked =>
      simp only [Bool.and_eq_true, decide_eq_true_eq, Option.some.injEq, Prod.ext_iff]
      constructor
      · rintro ⟨same, foreign⟩
        exact ⟨asked.2, ⟨same, rfl⟩, foreign⟩
      · rintro ⟨action, ⟨same, rfl⟩, foreign⟩
        exact ⟨same, foreign⟩

theorem action?_onward (handle : Handle) (target : ScanTarget) (rows : Nat) :
    (onward handle target rows).action? = some (handle, .advance target rows) :=
  rfl

theorem isolate_cut (handle : Handle) (target : ScanTarget) (commands : List Command)
    (count rows : Nat) :
    isolate handle target (cut handle target commands count rows) =
      isolate handle target (commands.take count) ++ [.onward handle target rows] := by
  have native : (onward handle target rows).isForeign handle target = false := by
    simp [isForeign, action?_onward, Action.isForeign]
  simp [isolate, cut, native]

section Isolate

variable {handle : Handle} {target : ScanTarget} {command : Command} {rest : List Command}

theorem isolate_cons_of_foreign (foreign : command.isForeign handle target = true) :
    isolate handle target (command :: rest) = isolate handle target rest := by
  simp [isolate, foreign]

theorem isolate_cons_of_native (native : command.isForeign handle target = false) :
    isolate handle target (command :: rest) = command :: isolate handle target rest := by
  simp [isolate, native]

end Isolate

end Command

namespace Bench

/-! ## Benches that commands cannot tell apart -/

/-- Two benches that take the same handles and storages of the same sizes. -/
structure Level (left right : Bench) : Prop where
  nextHandle : right.driver.nextHandle = left.driver.nextHandle
  inventory : right.driver.inventory = left.driver.inventory
  shape : right.store.shape = left.store.shape

theorem Level.trans {first middle last : Bench} (left : first.Level middle)
    (right : middle.Level last) : first.Level last where
  nextHandle := right.nextHandle.trans left.nextHandle
  inventory := right.inventory.trans left.inventory
  shape := right.shape.trans left.shape

theorem Level.symm {left right : Bench} (level : left.Level right) : right.Level left where
  nextHandle := level.nextHandle.symm
  inventory := level.inventory.symm
  shape := level.shape.symm

/-- A command that asks for an action stays level. -/
theorem level_step_of_action? {command : Command} {asked : Handle × Action}
    (asks : command.action? = some asked) (bench : Bench) :
    bench.Level (bench.step command).1 := by
  rcases step_cases asks bench with ⟨_, _, _, done, acted, _⟩ | unchanged
  · exact ⟨acted.nextHandle, acted.inventory, acted.store ▸ Action.shape_of_act done⟩
  · rw [unchanged]
    exact ⟨rfl, rfl, rfl⟩

/-- The same command keeps benches level. -/
theorem Level.step {left right : Bench} (level : left.Level right) (command : Command) :
    (left.step command).1.Level (right.step command).1 := by
  cases asks : command.action? with
  | some asked =>
      exact (level_step_of_action? asks left).symm.trans
        (level.trans (level_step_of_action? asks right))
  | none =>
      cases Command.plain_of_action?_eq_none asks with
      | create descriptor =>
          have found := level.inventory ▸ right.step_create descriptor
          rcases left.step_create descriptor with ⟨known, profile, first, opened⟩ | ⟨first, kept⟩
          · rcases found with ⟨_, _, _, also⟩ | ⟨second, _⟩
            · rw [opened, also]
              exact ⟨congrArg (· + 1) level.nextHandle, level.inventory, level.shape⟩
            · rw [first] at second
              contradiction
          · rcases found with ⟨_, _, second, _⟩ | ⟨_, also⟩
            · rw [first] at second
              contradiction
            · rw [kept, also]
              exact level
      | release handle =>
          have closing (bench : Bench) :
              bench.Level (bench.step (.request (.release handle))).1 := by
            rcases bench.step_release handle with ⟨_, _, closed⟩ | ⟨_, kept⟩
            · rw [closed]
              exact ⟨rfl, rfl, rfl⟩
            · rw [kept]
              exact ⟨rfl, rfl, rfl⟩
          exact (closing left).symm.trans (level.trans (closing right))
      | attach descriptor profile =>
          exact ⟨level.nextHandle, congrArg (· ++ [(descriptor, profile)]) level.inventory,
            level.shape⟩
      | edit edit =>
          exact ⟨level.nextHandle, level.inventory, Store.shape_edit_congr level.shape edit⟩
      | tune tunes =>
          have tuning (bench : Bench) : bench.Level (bench.step command).1 :=
            ⟨(tunes bench).1.nextHandle, (tunes bench).1.inventory,
              congrArg Store.shape (tunes bench).1.store⟩
          exact (tuning left).symm.trans (level.trans (tuning right))

/-! ## A device in two runs -/

/-- What two runs that differ in the scans on other targets have behind a handle. -/
inductive Matched (target : ScanTarget) : Option Instrument → Option Instrument → Prop
  | absent : Matched target none none
  | present {left right : Instrument} (twin : Instrument.Twin target left right) :
      Matched target (some left) (some right)

section Matched

variable {target : ScanTarget} {left right last : Option Instrument}

theorem Matched.refl (target : ScanTarget) (found : Option Instrument) :
    Matched target found found := by
  cases found with
  | none => exact .absent
  | some device => exact .present (.refl target device)

theorem Matched.symm (matched : Matched target left right) : Matched target right left := by
  cases matched with
  | absent => exact .absent
  | present twin => exact .present twin.symm

theorem Matched.trans (first : Matched target left right) (second : Matched target right last) :
    Matched target left last := by
  cases first with
  | absent => exact second
  | present twin =>
      cases second with
      | present other => exact .present (twin.trans other)

end Matched

/-- Two runs that differ in the scans on other targets of the device behind a handle. -/
structure Beside (handle : Handle) (target : ScanTarget) (full alone : Bench) : Prop where
  level : full.Level alone
  matched : Matched target (full.driver.instruments.get? handle)
    (alone.driver.instruments.get? handle)

/-- The firings for available data when a command moves the scan on a target. -/
def callbacksOf (bench : Bench) (handle : Handle) (target : ScanTarget) (command : Command) :
    List Firing :=
  if (bench.taken? handle command).bind Action.moved? = some target then
    dataFirings ((bench.step command).2.map Due.firing)
  else []

/-- The firings for available data that the scan on a target fires along some commands. -/
def callbacks (handle : Handle) (target : ScanTarget) : Bench → List Command → List Firing
  | _, [] => []
  | bench, command :: rest =>
      bench.callbacksOf handle target command ++
        callbacks handle target (bench.step command).1 rest

theorem callbacks_append (handle : Handle) (target : ScanTarget) (bench : Bench)
    (first rest : List Command) :
    callbacks handle target bench (first ++ rest) =
      callbacks handle target bench first ++ callbacks handle target (bench.run first).1 rest := by
  induction first generalizing bench with
  | nil => rfl
  | cons command first ih =>
      rw [List.cons_append, callbacks, callbacks, ih, List.append_assoc, run_cons]

section

variable {bench full alone : Bench} {handle : Handle} {target : ScanTarget} {command : Command}
  {commands : List Command} {device : Instrument}

theorem Beside.refl (handle : Handle) (target : ScanTarget) (bench : Bench) :
    Beside handle target bench bench :=
  ⟨⟨rfl, rfl, rfl⟩, .refl target _⟩

theorem Beside.symm (beside : Beside handle target full alone) :
    Beside handle target alone full :=
  ⟨beside.level.symm, beside.matched.symm⟩

/-- The device is behind the handle in both runs or in none. -/
theorem Beside.lookups (beside : Beside handle target full alone) :
    (full.driver.instruments.get? handle = none ∧ alone.driver.instruments.get? handle = none) ∨
    ∃ device other, full.driver.instruments.get? handle = some device ∧
      alone.driver.instruments.get? handle = some other ∧
      Instrument.Twin target device other := by
  have matched := beside.matched
  generalize full.driver.instruments.get? handle = first at matched ⊢
  generalize alone.driver.instruments.get? handle = second at matched ⊢
  cases matched with
  | absent => exact .inl ⟨rfl, rfl⟩
  | present twin => exact .inr ⟨_, _, rfl, rfl, twin⟩

theorem Beside.twin (beside : Beside handle target full alone)
    (found : full.driver.instruments.get? handle = some device) :
    ∃ other, alone.driver.instruments.get? handle = some other ∧
      Instrument.Twin target device other := by
  rcases beside.lookups with ⟨absent, _⟩ | ⟨first, other, present, lookup, twin⟩
  · rw [found] at absent
    contradiction
  · obtain rfl := Option.some.inj (found.symm.trans present)
    exact ⟨other, lookup, twin⟩

/-- A command that asks for an action and finds the device unwilling leaves it alone. -/
theorem get?_step_of_idle {asked : Handle × Action} (asks : command.action? = some asked)
    (idle : bench.taken? handle command = none) :
    (bench.step command).1.driver.instruments.get? handle =
      bench.driver.instruments.get? handle := by
  rcases step_cases asks bench with ⟨device, result, found, done, acted, _⟩ | unchanged
  · have ne : handle ≠ asked.1 := by
      rintro rfl
      rw [taken?_eq_some_iff.mpr ⟨asks, device, result, found, done⟩] at idle
      contradiction
    rw [acted.instruments, Table.get?_set_of_ne _ ne]
  · rw [unchanged]

theorem callbacksOf_of_idle (idle : bench.taken? handle command = none) :
    bench.callbacksOf handle target command = [] := by
  simp [callbacksOf, idle]

/-- Scans on other targets change nothing for the run without them. -/
theorem Beside.foreign (beside : Beside handle target full alone)
    (foreign : command.isForeign handle target = true) :
    Beside handle target (full.step command).1 alone ∧
      full.callbacksOf handle target command = [] := by
  rcases Command.isForeign_eq_true_iff.mp foreign with ⟨action, asks, others⟩
  have level := (level_step_of_action? asks full).symm.trans beside.level
  cases taken : full.taken? handle command with
  | none =>
      exact ⟨⟨level, get?_step_of_idle asks taken ▸ beside.matched⟩, callbacksOf_of_idle taken⟩
  | some wanted =>
      have same := (taken?_eq_some_iff.mp taken).1.symm.trans asks
      obtain rfl : wanted = action := (Prod.mk.inj (Option.some.inj same)).2
      rcases step_of_taken? taken with ⟨before, result, found, done, acted, _⟩
      have twin := Matched.present (Action.twin_of_isForeign others done)
      have matched := beside.matched
      rw [found] at matched
      refine ⟨⟨level, acted.get?_self ▸ twin.symm.trans matched⟩, if_neg ?_⟩
      rw [taken, Option.bind_some]
      cases wanted with
      | advance elsewhere rows | finish elsewhere =>
          exact fun moved => of_decide_eq_true others (Option.some.inj moved)
      | _ => simp [Action.moved?]

/-- A command that asks for no action leaves the runs beside each other. -/
theorem Beside.plain (beside : Beside handle target full alone)
    (asks : command.action? = none) :
    Beside handle target (full.step command).1 (alone.step command).1 := by
  refine ⟨beside.level.step command, ?_⟩
  have matched := beside.matched
  cases Command.plain_of_action?_eq_none asks with
  | create descriptor =>
      have inventory := beside.level.inventory
      rcases full.step_create descriptor with ⟨known, profile, first, opened⟩ | ⟨first, kept⟩
      · rcases alone.step_create descriptor with ⟨_, _, second, also⟩ | ⟨second, _⟩
        · rw [inventory, first, Option.some.injEq, Prod.mk.injEq] at second
          rcases second with ⟨rfl, rfl⟩
          rw [opened, also]
          change Matched target
            ((full.driver.instruments.set full.driver.nextHandle _).get? handle)
            ((alone.driver.instruments.set alone.driver.nextHandle _).get? handle)
          rw [beside.level.nextHandle]
          by_cases same : handle = full.driver.nextHandle
          · rw [same, Table.get?_set_self, Table.get?_set_self]
            exact .refl target _
          · rw [Table.get?_set_of_ne _ same, Table.get?_set_of_ne _ same]
            exact matched
        · rw [inventory, first] at second
          contradiction
      · rcases alone.step_create descriptor with ⟨_, _, second, _⟩ | ⟨_, also⟩
        · rw [inventory, first] at second
          contradiction
        · rw [kept, also]
          exact matched
  | release released =>
      have closing (bench : Bench) :
          (bench.step (.request (.release released))).1.driver.instruments.get? handle =
            if handle = released then none else bench.driver.instruments.get? handle := by
        rcases bench.step_release released with ⟨_, _, closed⟩ | ⟨absent, kept⟩
        · rw [closed]
          split
          · next same => exact same ▸ Table.get?_erase_self _ _
          · next ne => exact Table.get?_erase_of_ne _ ne
        · rw [kept]
          split
          · next same => exact same ▸ absent
          · rfl
      rw [closing, closing]
      split
      · exact .absent
      · exact matched
  | attach descriptor profile => exact matched
  | edit edit => exact matched
  | tune tunes =>
      have tuning (bench : Bench) : Matched target (bench.driver.instruments.get? handle)
          ((bench.step command).1.driver.instruments.get? handle) := by
        rcases (tunes bench).1.devices handle with unchanged | ⟨_, _, found, now, adjustment⟩
        · exact unchanged ▸ .refl target _
        · rw [found, now]
          exact .present (adjustment.alike.twin target)
      exact (tuning full).symm.trans (matched.trans (tuning alone))

theorem isForeign_of_taken? {action : Action} (native : command.isForeign handle target = false)
    (taken : full.taken? handle command = some action) : action.isForeign target = false := by
  have asks := (taken?_eq_some_iff.mp taken).1
  simpa [Command.isForeign, asks] using native

theorem Beside.taken?_of_taken? (beside : Beside handle target full alone)
    (input : target.isInput = true) (native : command.isForeign handle target = false)
    {action : Action} (taken : full.taken? handle command = some action) :
    alone.taken? handle command = some action := by
  rcases taken?_eq_some_iff.mp taken with ⟨asks, before, result, found, done⟩
  rcases beside.twin found with ⟨other, lookup, twin⟩
  obtain ⟨later, also, _⟩ := Action.Twin.act input twin beside.level.shape
    (isForeign_of_taken? native taken) done
  exact taken?_eq_some_iff.mpr ⟨asks, other, later, lookup, also⟩

/-- Both devices take the same action from any other command. -/
theorem Beside.taken?_eq (beside : Beside handle target full alone)
    (input : target.isInput = true) (native : command.isForeign handle target = false) :
    alone.taken? handle command = full.taken? handle command := by
  apply Option.ext
  intro action
  exact ⟨beside.symm.taken?_of_taken? input native, beside.taken?_of_taken? input native⟩

/-! ## Moving on -/

theorem taken?_onward (found : bench.driver.instruments.get? handle = some device) (rows : Nat) :
    bench.taken? handle (.onward handle target rows) = some (.advance target rows) :=
  taken?_eq_some_iff.mpr ⟨Command.action?_onward _ _ _, device, _, found, rfl⟩

theorem callbacks_onward (found : bench.driver.instruments.get? handle = some device)
    (rows : Nat) :
    callbacks handle target bench [.onward handle target rows] =
      dataFirings (Instrument.advance target rows device bench.store).2.2 := by
  have due := (step_acted (Command.action?_onward handle target rows) found rfl).2
  rw [callbacks, callbacks, List.append_nil, callbacksOf, taken?_onward found, Option.bind_some,
    Action.moved?, if_pos rfl, due, List.map_map]
  exact congrArg dataFirings (List.map_id' _)

theorem taken?_onward_of_absent (absent : bench.driver.instruments.get? handle = none)
    (rows : Nat) : bench.taken? handle (.onward handle target rows) = none := by
  cases taken : bench.taken? handle (.onward handle target rows) with
  | none => rfl
  | some action =>
      rcases taken?_eq_some_iff.mp taken with ⟨_, device, _, found, _⟩
      rw [absent] at found
      contradiction

theorem callbacks_onward_of_absent (absent : bench.driver.instruments.get? handle = none)
    (rows : Nat) : callbacks handle target bench [.onward handle target rows] = [] := by
  rw [callbacks, callbacks, callbacksOf_of_idle (taken?_onward_of_absent absent rows),
    List.append_nil]

/-- Two runs that fire the same for the scan on a target however far it moves on. -/
def FiresLike (handle : Handle) (target : ScanTarget) (full alone : Bench) : Prop :=
  ∀ rows, callbacks handle target alone [.onward handle target rows] =
    callbacks handle target full [.onward handle target rows]

/-- Any other command keeps the runs beside each other, and moves the scan with the same
firings if the runs fire the same. -/
theorem Beside.native (beside : Beside handle target full alone)
    (input : target.isInput = true) (native : command.isForeign handle target = false) :
    Beside handle target (full.step command).1 (alone.step command).1 ∧
      (FiresLike handle target full alone →
        alone.callbacksOf handle target command = full.callbacksOf handle target command) := by
  have takes := beside.taken?_eq input native
  cases taken : full.taken? handle command with
  | none =>
      rw [taken] at takes
      refine ⟨?_, fun _ => by rw [callbacksOf_of_idle taken, callbacksOf_of_idle takes]⟩
      cases asks : command.action? with
      | none => exact beside.plain asks
      | some asked =>
          refine ⟨beside.level.step command, ?_⟩
          rw [get?_step_of_idle asks taken, get?_step_of_idle asks takes]
          exact beside.matched
  | some action =>
      rcases step_of_taken? taken with ⟨device, result, found, done, acted, due⟩
      rcases beside.twin found with ⟨other, lookup, twin⟩
      obtain ⟨later, also, twins⟩ := Action.Twin.act input twin beside.level.shape
        (isForeign_of_taken? native taken) done
      have asks := (taken?_eq_some_iff.mp taken).1
      rcases step_acted asks lookup also with ⟨actedAlone, dueAlone⟩
      refine ⟨⟨beside.level.step command, ?_⟩, fun alike => ?_⟩
      · rw [acted.get?_self, actedAlone.get?_self]
        exact .present twins
      · rw [taken] at takes
        simp only [callbacksOf, taken, takes, Option.bind_some, due, dueAlone, List.map_map,
          Function.comp_def, List.map_id']
        split
        · next moved =>
            rcases Action.Twin.advance_of_act twin moved done also with ⟨rows, rfl, rfl⟩
            rw [← callbacks_onward found, ← callbacks_onward lookup]
            exact alike rows
        · rfl

/-- Two runs of which one leaves out the scans on other targets stay beside each other. -/
theorem Beside.run (beside : Beside handle target full alone) (input : target.isInput = true)
    (commands : List Command) :
    Beside handle target (full.run commands).1
      (alone.run (Command.isolate handle target commands)).1 := by
  induction commands generalizing full alone with
  | nil => exact beside
  | cons command rest ih =>
      cases foreign : command.isForeign handle target with
      | true =>
          rw [Command.isolate_cons_of_foreign foreign]
          exact ih (beside.foreign foreign).1
      | false =>
          rw [Command.isolate_cons_of_native foreign]
          exact ih (beside.native input foreign).1

/-- Runs that would fire the same before each command do so along all of them. -/
theorem Beside.callbacks_eq (beside : Beside handle target full alone)
    (input : target.isInput = true)
    (alike : ∀ count, FiresLike handle target (full.run (commands.take count)).1
      (alone.run (Command.isolate handle target (commands.take count))).1) :
    callbacks handle target alone (Command.isolate handle target commands) =
      callbacks handle target full commands := by
  induction commands generalizing full alone with
  | nil => rfl
  | cons command rest ih =>
      have later (count : Nat) := alike (count + 1)
      simp only [List.take_succ_cons] at later
      cases foreign : command.isForeign handle target with
      | true =>
          rcases beside.foreign foreign with ⟨next, silent⟩
          simp only [Command.isolate_cons_of_foreign foreign] at later ⊢
          rw [callbacks, silent, List.nil_append]
          exact ih next later
      | false =>
          rcases beside.native input foreign with ⟨next, fired⟩
          simp only [Command.isolate_cons_of_native foreign] at later ⊢
          rw [callbacks, callbacks, fired (alike 0), ih next later]

/-! ## Thresholds -/

/-- Whether the next row of the scan on a target of the device behind a handle reaches the
threshold of its binding for available data. -/
def isDue (bench : Bench) (handle : Handle) (target : ScanTarget) : Bool :=
  (bench.driver.instruments.get? handle).any fun device => device.isDue target

/-- The schedule of the device behind a handle. -/
def schedule (bench : Bench) (handle : Handle) (target : ScanTarget) : Option (List Alarm) :=
  (bench.driver.instruments.get? handle).bind fun device => device.schedule target

theorem isDue_onward (found : bench.driver.instruments.get? handle = some device) (rows : Nat) :
    (bench.run [.onward handle target rows]).1.isDue handle target =
      (Instrument.advance target rows device bench.store).1.isDue target := by
  have acted := (step_acted (Command.action?_onward handle target rows) found rfl).1
  rw [run_cons, run_nil, isDue, acted.get?_self, Option.any_some]

theorem isDue_onward_of_absent (absent : bench.driver.instruments.get? handle = none)
    (rows : Nat) : (bench.run [.onward handle target rows]).1.isDue handle target = false := by
  have still := get?_step_of_idle (Command.action?_onward handle target rows)
    (taken?_onward_of_absent absent rows)
  rw [run_cons, run_nil, isDue, still, absent, Option.any_none]

/-- Runs beside each other fire the same exactly if the thresholds are always reached at the
same rows. -/
theorem Beside.firesLike_iff (beside : Beside handle target full alone)
    (input : target.isInput = true)
    (singular : ∀ device, full.driver.instruments.get? handle = some device → device.Singular) :
    FiresLike handle target full alone ↔
      ∀ rows, (alone.run [.onward handle target rows]).1.isDue handle target =
        (full.run [.onward handle target rows]).1.isDue handle target := by
  rcases beside.lookups with ⟨first, second⟩ | ⟨device, other, found, lookup, twin⟩
  · simp [FiresLike, callbacks_onward_of_absent, isDue_onward_of_absent, first, second]
  · simp only [FiresLike, callbacks_onward found, callbacks_onward lookup, isDue_onward found,
      isDue_onward lookup]
    exact twin.dataFirings_advance_iff input (singular device found) full.store alone.store

/-- Runs beside each other with one schedule fire the same. -/
theorem Beside.firesLike_of_schedule (beside : Beside handle target full alone)
    (input : target.isInput = true)
    (same : alone.schedule handle target = full.schedule handle target) :
    FiresLike handle target full alone := by
  rcases beside.lookups with ⟨first, second⟩ | ⟨device, other, found, lookup, twin⟩
  · simp [FiresLike, callbacks_onward_of_absent, first, second]
  · rw [schedule, schedule, found, lookup, Option.bind_some, Option.bind_some] at same
    intro rows
    rw [callbacks_onward found, callbacks_onward lookup]
    exact twin.dataFirings_advance input same rows full.store alone.store

/-- Runs beside each other that fire the same have one schedule if their scan is continuous. -/
theorem Beside.schedule_eq (beside : Beside handle target full alone)
    (input : target.isInput = true)
    (singular : ∀ device, full.driver.instruments.get? handle = some device → device.Singular)
    (endless : ∀ run, full.scan? handle target = some run → run.isRunning = true →
      run.isContinuous = true)
    (alike : FiresLike handle target full alone) :
    alone.schedule handle target = full.schedule handle target := by
  rcases beside.lookups with ⟨first, second⟩ | ⟨device, other, found, lookup, twin⟩
  · rw [schedule, schedule, first, second]
  · rw [schedule, schedule, found, lookup, Option.bind_some, Option.bind_some]
    cases running : device.running? target with
    | none => simp [Instrument.schedule, twin.running?, running]
    | some run =>
        rcases Instrument.running?_eq_some_iff.mp running with ⟨record, active⟩
        have continuous := endless run (scan?_eq_some_iff.mpr ⟨device, found, record⟩) active
        simp only [FiresLike, callbacks_onward found, callbacks_onward lookup] at alike
        exact Instrument.schedule_eq_of_dataFirings twin input running continuous
          (singular device found) full.store alone.store alike

end

/-! ## Isolation -/

section

variable (bench : Bench) (handle : Handle) (target : ScanTarget) (commands : List Command)

/-- With and without the scans on other targets the same is fired for the scan on a target,
wherever the commands are cut off and however far the scan moves on from there. -/
def Isolated : Prop :=
  ∀ count rows,
    callbacks handle target bench
        (Command.isolate handle target (Command.cut handle target commands count rows)) =
      callbacks handle target bench (Command.cut handle target commands count rows)

/-- With and without the scans on other targets the threshold is reached at the same rows. -/
def InTime : Prop :=
  ∀ count rows,
    (bench.run (Command.isolate handle target
        (Command.cut handle target commands count rows))).1.isDue handle target =
      (bench.run (Command.cut handle target commands count rows)).1.isDue handle target

/-- With and without the scans on other targets the scan on a target sees the same
thresholds before each command and after the last one. -/
def InStep : Prop :=
  ∀ count ≤ commands.length,
    (bench.run (Command.isolate handle target (commands.take count))).1.schedule handle target =
      (bench.run (commands.take count)).1.schedule handle target

/-- The scan on a target is continuous whenever it is running. -/
def Endless : Prop :=
  ∀ count run, (bench.run (commands.take count)).1.scan? handle target = some run →
    run.isRunning = true → run.isContinuous = true

variable {bench handle target commands}

theorem beside_take (input : target.isInput = true) (count : Nat) :
    Beside handle target (bench.run (commands.take count)).1
      (bench.run (Command.isolate handle target (commands.take count))).1 :=
  Beside.run (.refl handle target bench) input _

theorem isolated_iff_firesLike (input : target.isInput = true) :
    Isolated bench handle target commands ↔
      ∀ count, FiresLike handle target (bench.run (commands.take count)).1
        (bench.run (Command.isolate handle target (commands.take count))).1 := by
  simp only [Isolated, Command.isolate_cut]
  simp only [Command.cut, callbacks_append]
  constructor
  · intro same count rows
    have nothing (other : Bench) :
        callbacks handle target other [.onward handle target 0] = [] := by
      cases found : other.driver.instruments.get? handle with
      | none => exact callbacks_onward_of_absent found 0
      | some device => exact callbacks_onward found 0
    have before := same count 0
    rw [nothing, nothing, List.append_nil, List.append_nil] at before
    have all := same count rows
    rw [before] at all
    exact List.append_cancel_left all
  · intro alike count rows
    rw [alike count rows, Beside.callbacks_eq (.refl handle target bench) input]
    intro first
    rw [List.take_take]
    exact alike _

theorem inTime_iff_firesLike (reachable : bench.Reachable) (input : target.isInput = true) :
    InTime bench handle target commands ↔
      ∀ count, FiresLike handle target (bench.run (commands.take count)).1
        (bench.run (Command.isolate handle target (commands.take count))).1 := by
  simp only [InTime, Command.isolate_cut]
  simp only [Command.cut, run_append]
  apply forall_congr'
  intro count
  refine ((beside_take input count).firesLike_iff input ?_).symm
  intro device found
  exact Instrument.singular_invariant.holds (reachable.run _) found

theorem InStep.take (inStep : InStep bench handle target commands) (count : Nat) :
    (bench.run (Command.isolate handle target (commands.take count))).1.schedule handle target =
      (bench.run (commands.take count)).1.schedule handle target := by
  rcases Nat.le_total count commands.length with inside | beyond
  · exact inStep count inside
  · have whole := inStep commands.length (Nat.le_refl _)
    rwa [List.take_length, ← List.take_of_length_le beyond] at whole

end

/-- The events for available data of one input scan are isolated from the scans on other
targets exactly if these do not change at which rows the threshold is reached.  For that it
is enough that the thresholds are the same, or reached at every row, whenever the scan is
running, and for a continuous scan that is necessary as well. -/
theorem Reachable.callbacks_isolated {bench : Bench} (reachable : bench.Reachable)
    {target : ScanTarget} (input : target.isInput = true) (handle : Handle)
    (commands : List Command) :
    (InTime bench handle target commands →
      callbacks handle target bench (Command.isolate handle target commands) =
        callbacks handle target bench commands) ∧
    (Isolated bench handle target commands ↔ InTime bench handle target commands) ∧
    (InStep bench handle target commands → InTime bench handle target commands) ∧
    (Endless bench handle target commands →
      InTime bench handle target commands → InStep bench handle target commands) := by
  have timely : InTime bench handle target commands ↔ _ := inTime_iff_firesLike reachable input
  refine ⟨?_, (isolated_iff_firesLike input).trans timely.symm, ?_, ?_⟩
  · intro inTime
    exact Beside.callbacks_eq (.refl handle target bench) input (timely.mp inTime)
  · intro inStep
    apply timely.mpr
    intro count
    exact (beside_take input count).firesLike_of_schedule input (inStep.take count)
  · intro endless inTime count _
    apply (beside_take input count).schedule_eq input ?_ (endless count) (timely.mp inTime count)
    intro device found
    exact Instrument.singular_invariant.holds (reachable.run _) found

/-! ## An analog scan beside a digital one -/

/-- Start a continuous scan of a port beside the scan of two analog inputs. -/
def startPort : Command :=
  .request (.scanDigitalIn 1 ⟨1, 1, 4, 1000, ScanOption.continuous⟩ .empty ⟨0, 1⟩)

/-- A digital scan that starts before the analog one has reached the first threshold, and
does not reach it itself, leaves no trace. -/
theorem callbacks_isolated_early_start :
    let commands : List Command :=
      [startPairs, .onward 1 .analogIn 1, startPort, .onward 1 .digitalIn 1,
       .onward 1 .analogIn 1, .request (.stopScan 1 .digitalIn), .onward 1 .analogIn 2]
    let fired : List Firing :=
      [⟨⟨"data", .record⟩, EventKind.dataAvailable, 4⟩,
       ⟨⟨"data", .record⟩, EventKind.dataAvailable, 8⟩]
    InStep everySecondRow 1 .analogIn commands ∧
    callbacks 1 .analogIn everySecondRow commands = fired ∧
    callbacks 1 .analogIn everySecondRow (Command.isolate 1 .analogIn commands) = fired := by
  intro commands fired
  have inStep : InStep everySecondRow 1 .analogIn commands := by
    unfold InStep
    decide +kernel
  have both : callbacks 1 .analogIn everySecondRow commands = fired := by decide +kernel
  rcases Reachable.callbacks_isolated everySecondRow_reachable
    (rfl : ScanTarget.analogIn.isInput = true) 1 commands with ⟨same, _, timely, _⟩
  exact ⟨inStep, both, (same (timely inStep)).trans both⟩

/-- A digital scan that starts later sets the threshold back, and the analog scan fires for
its fifth row as well. -/
theorem not_isolated_late_start :
    let commands : List Command :=
      [startPairs, .onward 1 .analogIn 3, startPort, .onward 1 .analogIn 1,
       .onward 1 .analogIn 1]
    callbacks 1 .analogIn everySecondRow (Command.isolate 1 .analogIn commands) =
      [⟨⟨"data", .record⟩, EventKind.dataAvailable, 4⟩,
       ⟨⟨"data", .record⟩, EventKind.dataAvailable, 8⟩] ∧
    callbacks 1 .analogIn everySecondRow commands =
      [⟨⟨"data", .record⟩, EventKind.dataAvailable, 4⟩,
       ⟨⟨"data", .record⟩, EventKind.dataAvailable, 8⟩,
       ⟨⟨"data", .record⟩, EventKind.dataAvailable, 10⟩] := by
  intro commands
  constructor <;> decide +kernel

end Bench

end Acquisition
