import Acquisition.Proofs.Integers
import Acquisition.Proofs.Tuning
import Mathlib.Algebra.GroupWithZero.Nat

/-!
# Counting

The count of a counter is put by few commands and counts the columns of advancing scans that
sample it.  A tally keeps what was put last and how many events there were since, for one
register of one counter along some commands (`Bench.tallied`), and a register always holds what
its tally says, modulo the greatest count (`Reachable.registers_tallied`).
-/

namespace Acquisition

/-! ## What is put into a register -/

namespace Instrument

variable {instrument : Instrument} {counter : Int} {register : Flags .register}

/-- What a register holds. -/
def held (instrument : Instrument) (counter : Int) (register : Flags .register) : UInt64 :=
  instrument.registers.getD (counter, register) 0

/-- What a register holds after some more events on its counter, which only the count counts. -/
def heldAfter (instrument : Instrument) (counter : Int) (register : Flags .register)
    (events : Nat) : UInt64 :=
  if CounterRegister.count = register then instrument.countAfter counter events
  else instrument.held counter register

@[simp]
theorem heldAfter_zero (instrument : Instrument) (counter : Int) (register : Flags .register) :
    instrument.heldAfter counter register 0 = instrument.held counter register := by
  rw [heldAfter]
  split
  · next counts => exact counts ▸ rfl
  · rfl

theorem held_putRegister (instrument : Instrument) (other : Int) (into : Flags .register)
    (value : UInt64) :
    (instrument.putRegister other into value).held counter register =
      if other = counter ∧ into = register then value else instrument.held counter register := by
  by_cases same : other = counter ∧ into = register
  · obtain ⟨rfl, rfl⟩ := same
    simp [held, putRegister, Table.getD]
  · have ne : (counter, register) ≠ (other, into) := by
      simpa [and_imp, eq_comm] using same
    simp [held, putRegister, Table.getD, Table.get?_set_of_ne _ ne, same]

/-- Clearing counters puts zero into the counts of those, and nothing else. -/
theorem held_clearCounters (low : Int) (count : Nat) (instrument : Instrument) :
    (clearCounters low count instrument).held counter register =
      if (low ≤ counter ∧ counter < low + count) ∧ CounterRegister.count = register then 0
      else instrument.held counter register := by
  by_cases counts : CounterRegister.count = register
  · simp only [counts, and_true]
    induction count generalizing low instrument with
    | zero =>
        rw [if_neg (by omega)]
        rfl
    | succ count ih =>
        rw [clearCounters, ih, held_putRegister]
        simp only [counts, and_true]
        split <;> split <;> (try split) <;> first | rfl | omega
  · simp only [counts, and_false, if_false]
    induction count generalizing low instrument with
    | zero => rfl
    | succ count ih =>
        rw [clearCounters, ih, held_putRegister, if_neg fun same => counts same.2]

end Instrument

/-- What a tuning puts into a register of a counter. -/
def Tuning.puts? (counter : Int) (register : Flags .register) : Tuning → Option UInt64
  | presetCounter other value =>
      if other = counter ∧ CounterRegister.count = register then some value else none
  | clearCounter other =>
      if other = counter ∧ CounterRegister.count = register then some 0 else none
  | loadRegister other loaded value =>
      -- Loading the preset sets the count, too.
      if other = counter ∧
          (loaded = register ∨ loaded = CounterRegister.load ∧ CounterRegister.count = register)
      then some value else none
  | _ => none

/-- Whether a scan that starts sets the count of a counter to zero. -/
def ScanStart.clears (counter : Int) : ScanStart → Bool
  | counters request flags _ =>
      !flags.contains DataFlag.keepCount && request.low ≤ counter && counter ≤ request.high
  | _ => false

/-- What an action puts into a register of a counter. -/
def Action.puts? (counter : Int) (register : Flags .register) : Action → Option UInt64
  | start scan =>
      if scan.clears counter = true ∧ CounterRegister.count = register then some 0 else none
  | _ => none

section Puts

variable {device after : Instrument} {counter : Int} {register : Flags .register}

/-- A tuning puts into a register what it says, and leaves the others alone. -/
theorem Tuning.held_of_change {tuning : Tuning} (done : tuning.change device = .ok after) :
    after.held counter register =
      (tuning.puts? counter register).getD (device.held counter register) := by
  cases tuning with
  | loadRegister other loaded value =>
      simp only [change, Instrument.loadRegister, bind_eq_ok_iff] at done
      obtain ⟨_, _, done⟩ := done
      rw [puts?]
      split at done
      · next preset =>
          obtain rfl := pure_eq_ok_iff.mp done
          subst preset
          rw [Instrument.held_putRegister, Instrument.held_putRegister]
          by_cases here : other = counter
          · by_cases counts : CounterRegister.count = register
            · simp [here, counts]
            · simp only [here, counts, true_and, and_false, or_false, if_false]
              split <;> rfl
          · simp [here]
      · next other =>
          obtain rfl := pure_eq_ok_iff.mp done
          rw [Instrument.held_putRegister]
          split <;> split <;> simp_all
  | clearCounter other =>
      simp only [change, Instrument.clearCounter, bind_eq_ok_iff, pure_eq_ok_iff] at done
      obtain ⟨_, _, rfl⟩ := done
      rw [Instrument.held_putRegister, puts?]
      split <;> rfl
  | presetCounter other value =>
      simp only [change, Instrument.presetCounter, bind_eq_ok_iff, pure_eq_ok_iff] at done
      obtain ⟨_, _, rfl⟩ := done
      rw [Instrument.held_putRegister, puts?]
      split <;> rfl
  | _ =>
      have kept : after.registers = device.registers := (spares done).registers rfl
      simp only [puts?, Option.getD_none, Instrument.held, kept]

/-- What is put into a register is no more than the greatest count, unless it comes from
outside. -/
theorem Tuning.puts?_le {tuning : Tuning} (done : tuning.change device = .ok after)
    {value : UInt64} (puts : tuning.puts? counter register = some value)
    (modest : ∀ other value, tuning = .presetCounter other value → value ≤ device.counterMax) :
    value ≤ device.counterMax := by
  cases tuning with
  | presetCounter other preset =>
      simp only [puts?, Option.ite_none_right_eq_some, Option.some.injEq] at puts
      exact puts.2 ▸ modest other preset rfl
  | clearCounter other =>
      simp only [puts?, Option.ite_none_right_eq_some, Option.some.injEq] at puts
      rw [← puts.2]
      exact UInt64.zero_le
  | loadRegister other loaded preset =>
      simp only [puts?, Option.ite_none_right_eq_some, Option.some.injEq] at puts
      simp only [change, Instrument.loadRegister, Instrument.checkLoad, bind_eq_ok_iff] at done
      obtain ⟨_, ⟨_, _, checked⟩, _⟩ := done
      split at checked
      · contradiction
      · obtain ⟨_, _, bounded⟩ := bind_eq_ok_iff.mp checked
        split at bounded
        · contradiction
        · next below => exact puts.2 ▸ UInt64.not_lt.mp below
  | _ => simp [puts?] at puts

/-- Once a scan has been launched, it may clear counters. -/
theorem ScanStart.held_settle (scan : ScanStart) (device : Instrument) :
    (scan.settle device).held counter register =
      if scan.clears counter = true ∧ CounterRegister.count = register then 0
      else device.held counter register := by
  cases scan with
  | counters request flags buffer =>
      simp only [settle, clears, Bool.and_eq_true, Bool.not_eq_true', decide_eq_true_eq]
      cases kept : flags.contains DataFlag.keepCount with
      | true => simp
      | false =>
          rw [if_neg Bool.false_ne_true, Instrument.held_clearCounters,
            ScanRequest.span]
          have reach : (request.low ≤ counter ∧
              counter < request.low + ((request.high - request.low + 1).toNat : Int)) ↔
              request.low ≤ counter ∧ counter ≤ request.high := by omega
          simp only [reach, true_and, and_assoc]
  | _ => simp [settle, clears]

end Puts

/-! ## Events -/

namespace Instrument

/-- How often the row that the scan on a target moves next samples a counter. -/
def samples (instrument : Instrument) (target : ScanTarget) (counter : Int) : Nat :=
  ((instrument.running? target).map fun run => run.columns.count (.counter counter)).getD 0

variable {target : ScanTarget} {run : ScanRun} {counter : Int} {register : Flags .register}

theorem countAfter_congr {left right : Instrument} (registers : right.registers = left.registers)
    (profile : right.profile = left.profile) (counter : Int) (events : Nat) :
    right.countAfter counter events = left.countAfter counter events := by
  induction events with
  | zero => rw [countAfter, countAfter, registers]
  | succ events ih => rw [countAfter, countAfter, ih, counterMax, counterMax, profile]

/-- A row of an input scan counts an event on a counter for each of its columns. -/
theorem countAfter_moveRow_of_input (input : target.isInput = true) (instrument : Instrument)
    (store : Store) (run : ScanRun) (counter : Int) (events : Nat) :
    (instrument.moveRow store target run).1.countAfter counter events =
      instrument.countAfter counter (run.columns.count (.counter counter) + events) := by
  have counted : (acquire run.buffer run.columns run.position instrument store).1.countAfter
      counter events = instrument.countAfter counter
        (run.columns.count (.counter counter) + events) := countAfter_acquire _ _ _ _ _ _
  refine Eq.trans (countAfter_congr ?_ ?_ counter events) counted
  · simp only [moveRow, moveSamples, if_pos input]
  · simp only [moveRow, moveSamples, if_pos input]

/-- An input scan counts an event for each time that a row samples the counter. -/
theorem countAfter_advance (input : target.isInput = true) (rows : Nat) (instrument : Instrument)
    (store : Store) :
    (advance target rows instrument store).1.countAfter counter 0 =
      instrument.countAfter counter
        ((shots target rows instrument store).map fun shot => shot.samples target counter).sum := by
  induction rows generalizing instrument store with
  | zero => rfl
  | succ rows ih =>
      cases running : instrument.running? target with
      | none =>
          rw [advance_of_not_running running, shots, running]
          rfl
      | some run =>
          have here : instrument.samples target counter =
              run.columns.count (.counter counter) := by
            rw [samples, running]
            rfl
          rw [advance_succ running, shots, running]
          simp only [List.map_cons, List.sum_cons, here]
          rw [ih, countAfter_moveRow_of_input input]

/-- No row of a scan without columns of a counter samples it. -/
theorem samples_shots_eq_zero {instrument : Instrument}
    (absent : ∀ run, instrument.scans.get? target = some run → .counter counter ∉ run.columns)
    (rows : Nat) (store : Store) :
    ((shots target rows instrument store).map fun shot => shot.samples target counter).sum = 0 := by
  induction rows generalizing instrument store with
  | zero => rfl
  | succ rows ih =>
      cases running : instrument.running? target with
      | none => simp [shots, running]
      | some run =>
          have without := absent run (running?_eq_some_iff.mp running).1
          have rest : ((shots target rows (instrument.moveRow store target run).1
              (instrument.moveRow store target run).2.1).map
                fun shot => shot.samples target counter).sum = 0 := by
            refine ih ?_ _
            intro later recorded
            rw [moveRow_scans, Table.get?_set_self] at recorded
            exact Option.some.inj recorded ▸ without
          have here : instrument.samples target counter = 0 := by
            simp [samples, running, List.count_eq_zero_of_not_mem without]
          simp only [shots, running, List.map_cons, List.sum_cons, here, rest]

/-- Rows of an input scan put nothing into a register other than the count. -/
theorem held_acquire (ne : CounterRegister.count ≠ register) {buffer : ScanBuffer}
    (columns : List Column) (index : Nat) (instrument : Instrument) (store : Store) :
    (acquire buffer columns index instrument store).1.held counter register =
      instrument.held counter register := by
  induction columns generalizing index instrument store with
  | nil => rfl
  | cons column rest ih =>
      rw [acquire, ih]
      cases column with
      | analog channel => rfl
      | port kind =>
          rw [sample]
          split <;> rfl
      | counter other =>
          refine (held_putRegister instrument other CounterRegister.count _).trans ?_
          exact if_neg fun same => ne same.2

theorem registers_generate {buffer : ScanBuffer} (store : Store) (columns : List Column)
    (index : Nat) (instrument : Instrument) :
    (generate buffer store columns index instrument).registers = instrument.registers := by
  induction columns generalizing index instrument with
  | nil => rfl
  | cons column rest ih =>
      rw [generate, ih]
      split
      · cases column with
        | analog | counter => rfl
        | port kind =>
            rw [drive]
            split <;> rfl
      · rfl

theorem held_advance_of_ne (ne : CounterRegister.count ≠ register) (rows : Nat)
    (instrument : Instrument) (store : Store) :
    (advance target rows instrument store).1.held counter register =
      instrument.held counter register := by
  refine advance_induction
    (P := fun later _ => later.held counter register = instrument.held counter register) ?_ rows rfl
  intro later store run kept _
  rw [← kept]
  by_cases input : target.isInput = true
  · simp only [moveRow, moveSamples, if_pos input]
    exact held_acquire ne run.columns run.position later store
  · simp only [moveRow, moveSamples, if_neg input, held]
    rw [registers_generate]

theorem held_advance_of_output (output : target.isInput = false) (rows : Nat)
    (instrument : Instrument) (store : Store) :
    (advance target rows instrument store).1.held counter register =
      instrument.held counter register := by
  refine advance_induction
    (P := fun later _ => later.held counter register = instrument.held counter register) ?_ rows rfl
  intro later store run kept _
  rw [← kept]
  simp only [moveRow, moveSamples, output, Bool.false_eq_true, if_false, held]
  rw [registers_generate]

end Instrument

/-- Neither an analog nor a digital scan has columns of counters. -/
theorem ScanRun.Stems.uncounted {run : ScanRun} {target : ScanTarget} {profile : Profile}
    (stems : run.Stems target profile) (plain : target = .analogIn ∨ target = .digitalIn)
    (counter : Int) : .counter counter ∉ run.columns := by
  intro member
  rcases plain with rfl | rfl
  · obtain ⟨scan, asked, aimed, _, _, columns, _⟩ := stems
    cases scan with
    | analogIn request mode range buffer =>
        simp only [ScanStart.columns, Instrument.analogInColumns] at columns
        split at columns
        · unfold Instrument.columnsBetween at columns
          split at columns
          · contradiction
          · obtain ⟨channel, _, placed⟩ := Instrument.mem_columnsFrom columns member
            exact Column.noConfusion (Instrument.eq_analog_of_checked channel placed)
        · obtain ⟨element, _, same⟩ := List.mem_map.mp (Except.ok.inj columns ▸ member)
          contradiction
    | _ => cases aimed
  · obtain ⟨_, _, ports⟩ := stems.ports (.inl rfl)
    obtain ⟨kind, _, same⟩ := ports _ member
    contradiction

namespace Action

/-- How often the rows that an action makes a device move sample a counter, as columns of
counter scans and of synchronous ones. -/
def samples (instrument : Instrument) (store : Store) (counter : Int) (action : Action) : Nat :=
  ([.counterIn, .syncIn].map fun target =>
    ((Instrument.shots target (action.rowCount instrument target) instrument store).map
      fun shot => shot.samples target counter).sum).sum

variable {action : Action} {device : Instrument} {store : Store}
  {result : Instrument × Store × List Firing} {counter : Int} {register : Flags .register}

/-- Only scans of counters are told of in the samples of an action. -/
theorem samples_of_moved {target : ScanTarget} (moved : action.moved? = some target) :
    action.samples device store counter =
      if target = .counterIn ∨ target = .syncIn then
        ((Instrument.shots target (action.rowCount device target) device store).map
          fun shot => shot.samples target counter).sum
      else 0 := by
  have idle : ∀ other, other ≠ target → action.rowCount device other = 0 := by
    intro other ne
    refine rowCount_of_unmoved ?_
    rw [moved]
    exact fun same => ne (Option.some.inj same).symm
  unfold samples
  cases target with
  | counterIn => simp [idle .syncIn (by decide), Instrument.shots]
  | syncIn => simp [idle .counterIn (by decide), Instrument.shots]
  | _ => simp [idle .counterIn (by decide), idle .syncIn (by decide), Instrument.shots]

theorem samples_of_unmoved (unmoved : action.moved? = none) :
    action.samples device store counter = 0 := by
  have idle : ∀ target, action.rowCount device target = 0 := fun target =>
    rowCount_of_unmoved (by simp [unmoved])
  simp [samples, idle, Instrument.shots]

/-- An action that moves a scan counts events and puts nothing. -/
theorem held_of_moved {target : ScanTarget} (moved : action.moved? = some target)
    (done : action.act device store = .ok result) (stems : device.Stems) :
    result.1.held counter register =
      device.heldAfter counter register (action.samples device store counter) := by
  obtain rfl := advance_rowCount moved done
  rw [Instrument.heldAfter]
  by_cases counts : CounterRegister.count = register
  · subst counts
    rw [if_pos rfl, samples_of_moved moved]
    by_cases input : target.isInput = true
    · refine (Instrument.countAfter_advance input _ device store).trans ?_
      split
      · rfl
      · next other =>
          have plain : target = .analogIn ∨ target = .digitalIn := by
            cases target <;> simp_all [ScanTarget.isInput]
          rw [Instrument.samples_shots_eq_zero fun run recorded =>
            (stems.records target run recorded).uncounted plain counter]
    · have other : ¬(target = .counterIn ∨ target = .syncIn) := by
        rintro (rfl | rfl) <;> simp [ScanTarget.isInput] at input
      rw [if_neg other, Instrument.held_advance_of_output (by simpa using input)]
      rfl
  · rw [if_neg counts, Instrument.held_advance_of_ne counts]

/-- What an action makes of a register: what it puts into it, or else what it counts. -/
theorem held_of_act (done : action.act device store = .ok result) (stems : device.Stems) :
    result.1.held counter register =
      (action.puts? counter register).getD
        (device.heldAfter counter register (action.samples device store counter)) := by
  cases moved : action.moved? with
  | some target =>
      have puts : action.puts? counter register = none := by
        cases action <;> first | rfl | simp [moved?] at moved
      rw [puts, Option.getD_none, held_of_moved moved done stems]
  | none =>
      rw [samples_of_unmoved moved, Instrument.heldAfter_zero]
      cases started : action.started? with
      | some target =>
          obtain ⟨scan, rfl, _⟩ := start_of_started? started
          obtain ⟨_, columns, rate, _, _, rfl⟩ := act_start_eq_ok_iff.mp done
          rw [ScanStart.held_settle, puts?]
          split <;> rfl
      | none =>
          have puts : action.puts? counter register = none := by
            cases action <;> first | rfl | simp [started?] at started
          obtain ⟨_, _, _, _, _, rest⟩ := eq_of_still done started moved
          rw [puts, rest]
          rfl

end Action

/-! ## Counting modulo the greatest count -/

namespace Instrument

/-- A count that is not too great goes on modulo the greatest count. -/
theorem toNat_countAfter {device : Instrument} {counter : Int}
    (bounded : device.held counter CounterRegister.count ≤ device.counterMax) (events : Nat) :
    (device.countAfter counter events).toNat =
      ((device.held counter CounterRegister.count).toNat + events) %
        (device.counterMax.toNat + 1) := by
  have most := UInt64.toNat_lt device.counterMax
  induction events with
  | zero => exact (Nat.mod_eq_of_lt (Nat.lt_succ_of_le bounded)).symm
  | succ events ih =>
      rw [← Nat.add_assoc, ← Nat.mod_add_mod, ← ih, countAfter]
      have below : (device.countAfter counter events).toNat < device.counterMax.toNat + 1 := by
        rw [ih]
        exact Nat.mod_lt _ (Nat.succ_pos _)
      split
      · next full =>
          have full : device.counterMax.toNat ≤ (device.countAfter counter events).toNat := full
          rw [Nat.le_antisymm (Nat.le_of_lt_succ below) full, Nat.mod_self]
          rfl
      · next more =>
          have more : ¬device.counterMax.toNat ≤ (device.countAfter counter events).toNat := more
          rw [UInt64.toNat_add, UInt64.toNat_one, Nat.mod_eq_of_lt (by omega),
            Nat.mod_eq_of_lt (by omega)]

end Instrument

/-- What was put into a register last, and how many events there were since. -/
structure Tally where
  base : UInt64
  events : Nat
  deriving DecidableEq, Repr

namespace Tally

/-- The tally of a register that nothing was put into. -/
def zero : Tally :=
  ⟨0, 0⟩

/-- The tally after something may have been put, or else some events were counted. -/
def next (tally : Tally) (put? : Option UInt64) (events : Nat) : Tally :=
  match put? with
  | some value => ⟨value, 0⟩
  | none => ⟨tally.base, tally.events + events⟩

end Tally

namespace Bench

/-- What a command puts into a register of the device behind a handle.  A device that is not
there before the command has zeros in all of its registers. -/
def puts? (bench : Bench) (handle : Handle) (counter : Int) (register : Flags .register)
    (command : Command) : Option UInt64 :=
  if bench.driver.instruments.contains handle then
    ((bench.tuned? handle command).bind (Tuning.puts? counter register)).or
      ((bench.taken? handle command).bind (Action.puts? counter register))
  else some 0

/-- How many events a command makes a register count. -/
def events (bench : Bench) (handle : Handle) (counter : Int) (register : Flags .register)
    (command : Command) : Nat :=
  match bench.driver.instruments.get? handle, bench.taken? handle command with
  | some device, some action =>
      if CounterRegister.count = register then action.samples device bench.store counter else 0
  | _, _ => 0

/-- The tally of a register after some commands. -/
def tallied (handle : Handle) (counter : Int) (register : Flags .register) :
    Bench → Tally → List Command → Tally
  | _, tally, [] => tally
  | bench, tally, command :: rest =>
      tallied handle counter register (bench.step command).1
        (tally.next (bench.puts? handle counter register command)
          (bench.events handle counter register command)) rest

end Bench

/-- A register holds what its tally says, and only the count counts events. -/
structure Instrument.Tallies (device : Instrument) (counter : Int) (register : Flags .register)
    (tally : Tally) : Prop where
  bounded : tally.base ≤ device.counterMax
  plain : CounterRegister.count ≠ register → tally.events = 0
  held : (device.held counter register).toNat =
    (tally.base.toNat + tally.events) % (device.counterMax.toNat + 1)

namespace Instrument.Tallies

variable {device after : Instrument} {counter : Int} {register : Flags .register}
  {tally : Tally}

theorem held_le (tallies : device.Tallies counter register tally) :
    device.held counter register ≤ device.counterMax := by
  have below := Nat.mod_lt (tally.base.toNat + tally.events)
    (Nat.succ_pos device.counterMax.toNat)
  rw [← tallies.held] at below
  exact Nat.le_of_lt_succ below

/-- A register that does not count holds what was put into it last. -/
theorem held_eq_base (tallies : device.Tallies counter register tally)
    (ne : CounterRegister.count ≠ register) : device.held counter register = tally.base := by
  apply UInt64.toNat.inj
  rw [tallies.held, tallies.plain ne]
  exact Nat.mod_eq_of_lt (Nat.lt_succ_of_le tallies.bounded)

/-- A register whose value is put has a new tally. -/
theorem of_put {value : UInt64} (bounded : value ≤ after.counterMax)
    (held : after.held counter register = value) (events : Nat) :
    after.Tallies counter register (tally.next (some value) events) where
  bounded := bounded
  plain _ := rfl
  held := by
    rw [held]
    exact (Nat.mod_eq_of_lt (Nat.lt_succ_of_le bounded)).symm

/-- A register that counts events adds them to its tally. -/
theorem of_events (tallies : device.Tallies counter register tally)
    (most : after.counterMax = device.counterMax) {events : Nat}
    (plain : CounterRegister.count ≠ register → events = 0)
    (held : after.held counter register = device.heldAfter counter register events) :
    after.Tallies counter register (tally.next none events) where
  bounded := most ▸ tallies.bounded
  plain ne := by rw [Tally.next, tallies.plain ne, plain ne]
  held := by
    rw [held, most, heldAfter]
    split
    · next counts =>
        subst counts
        rw [toNat_countAfter tallies.held_le, tallies.held, Nat.mod_add_mod, Nat.add_assoc]
        rfl
    · next ne =>
        rw [tallies.held, plain ne]
        rfl

/-- A device that has just been opened has zeros in its registers. -/
theorem initial (descriptor : Descriptor) (profile : Profile) (events : Nat) :
    (Instrument.initial descriptor profile).Tallies counter register
      (tally.next (some 0) events) :=
  of_put UInt64.zero_le rfl events

end Instrument.Tallies

namespace Bench

variable {bench : Bench} {handle : Handle} {device after : Instrument} {command : Command}
  {counter : Int} {register : Flags .register} {tally : Tally}

theorem preset_of_tuning? {other : Int} {value : UInt64}
    (asks : command.tuning? = some (handle, .presetCounter other value)) :
    command = .stimulus (.presetCounter handle other value) := by
  cases command with
  | request request => cases request <;> simp [Command.tuning?, Request.tuning?] at asks
  | stimulus stimulus =>
      cases stimulus with
      | presetCounter =>
          obtain ⟨rfl, rfl, rfl⟩ := by simpa [Command.tuning?, Stimulus.tuning?] using asks
          rfl
      | _ => simp [Command.tuning?, Stimulus.tuning?] at asks
  | edit edit => simp [Command.tuning?] at asks

section Step

variable (found : bench.driver.instruments.get? handle = some device)

include found

theorem puts?_of_found (counter : Int) (register : Flags .register) (command : Command) :
    bench.puts? handle counter register command =
      ((bench.tuned? handle command).bind (Tuning.puts? counter register)).or
        ((bench.taken? handle command).bind (Action.puts? counter register)) := by
  rw [puts?, Table.contains, found]
  rfl

/-- What a command makes of a register: what it puts into it, or else what it counts. -/
theorem held_of_step
    (still : (bench.step command).1.driver.instruments.get? handle = some after)
    (issued : handle < bench.driver.nextHandle) (stems : device.Stems) :
    after.held counter register =
      (bench.puts? handle counter register command).getD
        (device.heldAfter counter register (bench.events handle counter register command)) := by
  rw [puts?_of_found found, events, found]
  cases taken : bench.taken? handle command with
  | some action =>
      obtain ⟨before, result, there, done, acted, _⟩ := step_of_taken? taken
      obtain rfl := Option.some.inj (found.symm.trans there)
      obtain rfl := Option.some.inj (acted.get?_self.symm.trans still)
      rw [tuned?_of_action? (taken?_eq_some_iff.mp taken).1, Action.held_of_act done stems]
      by_cases counts : CounterRegister.count = register <;>
        simp [counts, Instrument.heldAfter]
  | none =>
      simp only [Option.bind_none, Option.or_none, Instrument.heldAfter_zero]
      rcases tuned_or_same found still taken issued with ⟨untuned, rfl⟩ | ⟨tuning, tuned, done⟩
      · rw [untuned]
        rfl
      · rw [tuned]
        exact Tuning.held_of_change (Tuning.act_eq_ok_iff.mp done).2

/-- What a command puts into a register is no more than the greatest count, unless it comes
from outside. -/
theorem puts?_le {value : UInt64}
    (puts : bench.puts? handle counter register command = some value)
    (modest : ∀ other value, command = .stimulus (.presetCounter handle other value) →
      value ≤ device.counterMax) : value ≤ device.counterMax := by
  rw [puts?_of_found found, Option.or_eq_some_iff] at puts
  rcases puts with tuned | ⟨_, taken⟩
  · obtain ⟨tuning, tuned, puts⟩ := Option.bind_eq_some_iff.mp tuned
    obtain ⟨asks, before, after, there, done⟩ := tuned?_eq_some_iff.mp tuned
    obtain rfl := Option.some.inj (found.symm.trans there)
    refine Tuning.puts?_le (Tuning.act_eq_ok_iff.mp done).2 puts ?_
    rintro other value rfl
    exact modest other value (preset_of_tuning? asks)
  · obtain ⟨action, _, puts⟩ := Option.bind_eq_some_iff.mp taken
    cases action with
    | start scan =>
        simp only [Action.puts?, Option.ite_none_right_eq_some, Option.some.injEq] at puts
        exact puts.2 ▸ UInt64.zero_le
    | _ => simp [Action.puts?] at puts

omit found in
theorem events_of_ne (ne : CounterRegister.count ≠ register) :
    bench.events handle counter register command = 0 := by
  unfold events
  split
  · exact if_neg ne
  · rfl

/-- A command keeps a register with its tally. -/
theorem tallies_step
    (still : (bench.step command).1.driver.instruments.get? handle = some after)
    (issued : handle < bench.driver.nextHandle) (stems : device.Stems)
    (modest : ∀ other value, command = .stimulus (.presetCounter handle other value) →
      value ≤ device.counterMax)
    (tallies : device.Tallies counter register tally) :
    after.Tallies counter register (tally.next (bench.puts? handle counter register command)
      (bench.events handle counter register command)) := by
  have most : after.counterMax = device.counterMax := by
    rw [Instrument.counterMax, Instrument.counterMax, profile_of_step found still issued]
  have held : after.held counter register = _ := held_of_step found still issued stems
  cases puts : bench.puts? handle counter register command with
  | some value =>
      rw [puts] at held
      exact .of_put (most ▸ puts?_le found puts modest) held _
  | none =>
      rw [puts] at held
      exact tallies.of_events most (fun ne => events_of_ne ne) held

end Step

/-- Commands keep a register with its tally, also when the device is opened on the way. -/
theorem tallies_run {commands : List Command} (reachable : bench.Reachable)
    (before : ∀ device, bench.driver.instruments.get? handle = some device →
      device.Tallies counter register tally)
    (found : (bench.run commands).1.driver.instruments.get? handle = some after)
    (modest : ∀ other value, Command.stimulus (.presetCounter handle other value) ∈ commands →
      value ≤ after.counterMax) :
    after.Tallies counter register (tallied handle counter register bench tally commands) := by
  induction commands generalizing bench tally with
  | nil => exact before after found
  | cons command rest ih =>
      refine ih (reachable.step command) ?_ found
        (fun other value member => modest other value (List.mem_cons_of_mem _ member))
      intro middle between
      cases there : bench.driver.instruments.get? handle with
      | none =>
          obtain ⟨descriptor, profile, rfl⟩ := initial_of_step there between
          have absent : bench.driver.instruments.contains handle = false := by
            rw [Table.contains, there]
            rfl
          rw [puts?, absent, if_neg Bool.false_ne_true]
          exact .initial descriptor profile _
      | some device =>
          have issued := reachable.issued there
          have most : after.counterMax = device.counterMax := by
            rw [Instrument.counterMax, Instrument.counterMax, profile_of_run there found issued]
          refine tallies_step there between issued
            (Instrument.stems_invariant.holds reachable there) ?_ (before device there)
          rintro other value rfl
          exact most ▸ modest other value List.mem_cons_self

/-- A counter that a connected device has is read when its count can be. -/
theorem serve_readCounter (found : bench.driver.instruments.get? handle = some device)
    (connected : device.isConnected = true) (counts : device.checkCounter counter = .ok ())
    (readable : device.checkRegister CounterRegister.count = .ok ()) :
    (Request.readCounter handle counter).serve bench =
      .ok (bench.reply (device.held counter CounterRegister.count)) := by
  refine askConnected_eq_ok_iff.mpr ⟨device, _, found, connected, ?_, rfl⟩
  rw [Instrument.readRegister, counts, readable]
  rfl

/-- The registers of a device along any commands.  If no count greater than the greatest one
is set from outside, reading a counter answers what was put last and the events since, modulo
the greatest count and one.  No register exceeds the greatest count, one that does not count
holds what was loaded last, and a command that neither puts anything into a register nor makes
it count leaves it as it is. -/
theorem registers_tallied {commands : List Command}
    (found : (Bench.initial.run commands).1.driver.instruments.get? handle = some device)
    (modest : ∀ other value, Command.stimulus (.presetCounter handle other value) ∈ commands →
      value ≤ device.counterMax) (counter : Int) :
    (device.isConnected = true → device.checkCounter counter = .ok () →
      device.checkRegister CounterRegister.count = .ok () →
      ∃ outcome, (Request.readCounter handle counter).serve (Bench.initial.run commands).1 =
          .ok outcome ∧
        let tally := tallied handle counter CounterRegister.count .initial .zero commands
        outcome.answer.toNat =
          (tally.base.toNat + tally.events) % (device.counterMax.toNat + 1)) ∧
    ∀ register, device.held counter register ≤ device.counterMax ∧
      (register ≠ CounterRegister.count → device.held counter register =
        (tallied handle counter register .initial .zero commands).base) ∧
      ∀ command after,
        ((Bench.initial.run commands).1.step command).1.driver.instruments.get? handle =
          some after →
        (Bench.initial.run commands).1.puts? handle counter register command = none →
        (Bench.initial.run commands).1.events handle counter register command = 0 →
        after.held counter register = device.held counter register := by
  have tallies (register : Flags .register) :
      device.Tallies counter register (tallied handle counter register .initial .zero commands) :=
    tallies_run .initial nofun found modest
  refine ⟨?_, fun register => ⟨(tallies register).held_le, ?_, ?_⟩⟩
  · intro connected counts readable
    exact ⟨_, serve_readCounter found connected counts readable, (tallies _).held⟩
  · exact fun ne => (tallies register).held_eq_base ne.symm
  · intro command after still puts events
    have reachable : (Bench.initial.run commands).1.Reachable := .run .initial commands
    have held : after.held counter register = _ := held_of_step found still
      (reachable.issued found) (Instrument.stems_invariant.holds reachable found)
    rw [held, puts, events, Option.getD_none, Instrument.heldAfter_zero]

/-- A counter is set to two below the greatest count and is scanned for three rows. -/
def wrapping : List Command :=
  Command.opening ++
    [.edit (.allocateWords #[0, 0, 0]), .stimulus (.presetCounter 1 0 4294967293),
     .request (.scanCounters 1 ⟨0, 0, 3, 1000, .empty⟩ DataFlag.keepCount ⟨0, 1⟩),
     .stimulus (.advance 1 .counterIn 3)]

/-- The third event takes the count from the greatest one to zero. -/
theorem registers_tallied_wrapped :
    ∃ device, (Bench.initial.run wrapping).1.driver.instruments.get? 1 = some device ∧
      (∀ other value, Command.stimulus (.presetCounter 1 other value) ∈ wrapping →
        value ≤ device.counterMax) ∧
      ∃ outcome, (Request.readCounter 1 0).serve (Bench.initial.run wrapping).1 = .ok outcome ∧
        outcome.answer.toNat = 0 := by
  have there : ((Bench.initial.run wrapping).1.driver.instruments.get? 1).any (fun device =>
      device.isConnected && device.checkCounter 0 = .ok () &&
        device.checkRegister CounterRegister.count = .ok () &&
        device.counterMax = 4294967295) = true := by
    decide +kernel
  obtain ⟨device, found, checked⟩ := (Option.any_eq_true _ _).mp there
  simp only [Bool.and_eq_true, decide_eq_true_eq] at checked
  obtain ⟨⟨⟨connected, counts⟩, readable⟩, most⟩ := checked
  have modest : ∀ other value, Command.stimulus (.presetCounter 1 other value) ∈ wrapping →
      value ≤ device.counterMax := by
    intro other value member
    have tunings : wrapping.map Command.tuning? =
        [none, none, none, none, some (1, .presetCounter 0 4294967293), none, none] := rfl
    have listed : some (1, .presetCounter other value) ∈ wrapping.map Command.tuning? :=
      List.mem_map_of_mem member
    simp only [tunings, List.mem_cons, List.not_mem_nil, reduceCtorEq, Option.some.injEq,
      Prod.mk.injEq, Tuning.presetCounter.injEq, true_and, false_or, or_false] at listed
    rw [most, listed.2]
    decide
  have tally : tallied 1 0 CounterRegister.count .initial .zero wrapping =
      ⟨4294967293, 3⟩ := by decide +kernel
  obtain ⟨outcome, served, reads⟩ :=
    (registers_tallied found modest 0).1 connected counts readable
  refine ⟨device, found, modest, outcome, served, ?_⟩
  rw [reads, tally, most]
  rfl

end Bench

end Acquisition
