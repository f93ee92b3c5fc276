import Acquisition.Proofs.Batch
import Acquisition.Proofs.Integers

/-!
# Buffers that are played back

An output scan puts the rows of its buffer out in order, and starts over at the first one after
the last.  Of several columns of a row that go to one output it is the last one that the output
is left with, and an output that no column goes to is left alone (`Plays`).  A scan that is not
continuous puts every row out once.

Main statement: `Bench.Reachable.plays_back`.
-/

namespace Acquisition

/-! ## What is put out -/

/-- What a device puts out: a voltage, or the latch of a port. -/
inductive Output where
  | volts (value : Float)
  | latch (value : UInt64)
  deriving DecidableEq

namespace Instrument

/-- What a device puts out at a column. -/
def output? (instrument : Instrument) : Column → Option Output
  | .analog channel => (instrument.outputs.get? channel).map .volts
  | .port kind => (instrument.port kind).toOption.map fun port => .latch port.latch
  | .counter _ => none

/-- The device puts a value out at a column: an analog output has it as its voltage, and a port
has its integer part in the latch, as far as it has bits. -/
def PutsOut (instrument : Instrument) (value : Float) : Column → Prop
  | .analog channel => instrument.outputs.get? channel = some value
  | .port kind => ∃ port, instrument.port kind = .ok port ∧
      port.latch = value.toUInt64 &&& port.widthMask
  | .counter _ => False

/-- The device can put values out at a column. -/
def HasOutput (instrument : Instrument) : Column → Prop
  | .analog _ => True
  | .port kind => kind ∈ instrument.ports.map Port.kind
  | .counter _ => False

variable {instrument after : Instrument} {column other : Column} {value : Float}

/-- A port keeps its form as long as the ports of the device do. -/
theorem form_of_forms (forms : after.ports.map Port.form = instrument.ports.map Port.form)
    {kind : PortKind} {port later : Port} (first : instrument.port kind = .ok port)
    (now : after.port kind = .ok later) : later.form = port.form := by
  have found (device : Instrument) {port : Port} (first : device.port kind = .ok port) :
      (device.ports.map Port.form).find? (fun form => form.1 = kind) = some port.form := by
    rw [List.find?_map]
    exact congrArg (Option.map Port.form) (port_eq_ok_iff.mp first)
  exact Option.some.inj (((found after now).symm.trans (forms ▸ rfl)).trans (found _ first))

/-- What is put out at a column is put out still while the device has the same output there. -/
theorem PutsOut.congr (shown : instrument.PutsOut value column)
    (forms : after.ports.map Port.form = instrument.ports.map Port.form)
    (same : after.output? column = instrument.output? column) : after.PutsOut value column := by
  cases column with
  | analog channel =>
      have held : instrument.outputs.get? channel = some value := shown
      simp only [output?, held, Option.map_some] at same
      obtain ⟨_, now, volts⟩ := Option.map_eq_some_iff.mp same
      obtain rfl := Output.volts.inj volts
      exact now
  | port kind =>
      obtain ⟨port, first, latch⟩ := shown
      simp only [output?, first, Except.toOption, Option.map_some] at same
      obtain ⟨later, now, latched⟩ := Option.map_eq_some_iff.mp same
      cases lookup : after.port kind with
      | error error => simp [lookup] at now
      | ok found =>
          simp only [lookup, Option.some.injEq] at now
          obtain rfl := now
          have width := congrArg (fun form => form.2.2) (form_of_forms forms first lookup)
          refine ⟨found, lookup, ?_⟩
          rw [Output.latch.inj latched, latch, Port.widthMask, Port.widthMask]
          exact congrArg (_ &&& Port.lowBits ·) width.symm
  | counter counter => exact shown

/-! ## One sample -/

theorem output?_drive_of_ne (ne : other ≠ column) (value : Float) :
    (instrument.drive value other).output? column = instrument.output? column := by
  cases column with
  | analog channel =>
      cases other with
      | analog driven =>
          have differs : channel ≠ driven := fun same => ne (congrArg Column.analog same.symm)
          exact congrArg (Option.map Output.volts) (Table.get?_set_of_ne _ differs _)
      | port kind =>
          simp only [drive]
          split <;> rfl
      | counter counter => rfl
  | port kind => simp only [output?, port_drive_of_ne ne]
  | counter counter => rfl

theorem putsOut_drive (there : instrument.HasOutput column) (value : Float) :
    (instrument.drive value column).PutsOut value column := by
  cases column with
  | analog channel => exact Table.get?_set_self _ _ _
  | port kind =>
      obtain ⟨port, first⟩ := exists_port_iff.mpr there
      exact ⟨_, port_drive first value, rfl⟩
  | counter counter => exact there

theorem hasOutput_congr (forms : after.ports.map Port.form = instrument.ports.map Port.form) :
    after.HasOutput column ↔ instrument.HasOutput column := by
  cases column with
  | analog channel => exact Iff.rfl
  | port kind =>
      have kinds : after.ports.map Port.kind = instrument.ports.map Port.kind := by
        have firsts := congrArg (List.map Prod.fst) forms
        rwa [List.map_map, List.map_map] at firsts
      simp only [HasOutput, kinds]
  | counter counter => exact Iff.rfl

/-! ## One row -/

section Generate

variable {buffer : ScanBuffer} {store : Store} {columns : List Column}

theorem forms_generate (columns : List Column) (index : Nat) (instrument : Instrument) :
    (generate buffer store columns index instrument).ports.map Port.form =
      instrument.ports.map Port.form :=
  Port.forms_of_forall₂ ((ports_generate buffer store columns index instrument).imp
    fun _ _ driven => driven.form)

theorem output?_generate_of_not_mem (outside : column ∉ columns) (index : Nat)
    (instrument : Instrument) :
    (generate buffer store columns index instrument).output? column = instrument.output? column := by
  induction columns generalizing index instrument with
  | nil => rfl
  | cons first rest ih =>
      obtain ⟨ne, outside⟩ := List.ne_and_not_mem_of_not_mem_cons outside
      rw [generate, ih outside]
      split
      · exact output?_drive_of_ne ne.symm _
      · rfl

/-- The last of the cells that go to an output is what it puts out. -/
theorem putsOut_generate {place : Nat} (listed : columns[place]? = some column)
    (last : column ∉ columns.drop (place + 1)) (index : Nat)
    (there : instrument.HasOutput column)
    (held : buffer.get? store (index + place) = some value) :
    (generate buffer store columns index instrument).PutsOut value column := by
  induction columns generalizing index instrument place with
  | nil => contradiction
  | cons first rest ih =>
      rw [generate]
      cases place with
      | zero =>
          obtain rfl := Option.some.inj listed
          rw [Nat.add_zero] at held
          rw [held]
          exact (putsOut_drive there value).congr (forms_generate _ _ _)
            (output?_generate_of_not_mem last _ _)
      | succ place =>
          refine ih listed last (index + 1) ?_ (by rw [Nat.add_right_comm, Nat.add_assoc]; exact held)
          split
          · exact (hasOutput_congr (Port.forms_of_forall₂ ((ports_drive _ first instrument).imp
              fun _ _ driven => driven.form))).mpr there
          · exact there

end Generate

end Instrument

/-! ## Scans that play back -/

/-- What the outputs of a device have come to since a scan was started on it, as far as nothing
but the scan changes them.  An output that is no column is as it was, and one that is has the
value of its last column in the row that was put out last. -/
structure Plays (outputs : Column → Prop) (opened : Instrument) (first : ScanRun) (source : Store)
    (device : Instrument) (run : ScanRun) (store : Store) : Prop where
  continues : first.Continues run
  options : run.options = first.options
  forms : device.ports.map Port.form = opened.ports.map Port.form
  unchanged : first.buffer.Unchanged source store
  apart : ∀ column, outputs column → column ∉ first.columns →
    device.output? column = opened.output? column
  driven : ∀ column, outputs column → ∀ place, first.columns[place]? = some column →
    column ∉ first.columns.drop (place + 1) → 0 < run.transfer.scanCount →
    ∃ value, first.buffer.get? source
        ((run.transfer.scanCount - 1) % first.samples * first.width + place) = some value ∧
      device.PutsOut value column

namespace Plays

variable {outputs : Column → Prop} {opened device after : Instrument} {first run later : ScanRun}
  {source store written : Store} {target : ScanTarget}

/-- What does not move the scan and leaves its buffer and the outputs alone changes nothing. -/
theorem congr (plays : Plays outputs opened first source device run store)
    (continues : run.Continues later) (options : later.options = run.options)
    (transfer : later.transfer = run.transfer)
    (forms : after.ports.map Port.form = device.ports.map Port.form)
    (unchanged : first.buffer.Unchanged store written)
    (same : ∀ column, outputs column → after.output? column = device.output? column) :
    Plays outputs opened first source after later written where
  continues := plays.continues.trans continues
  options := options.trans plays.options
  forms := forms.trans plays.forms
  unchanged := plays.unchanged.trans unchanged
  apart column listens outside := (same column listens).trans (plays.apart column listens outside)
  driven column listens place listed last moved := by
    rw [transfer] at moved ⊢
    obtain ⟨value, held, shown⟩ := plays.driven column listens place listed last moved
    exact ⟨value, held, shown.congr forms (same column listens)⟩

/-- One row puts the next row of the buffer out. -/
theorem moveRow (plays : Plays outputs opened first source device run store)
    (output : target.isInput = false) (consistent : run.Consistent store)
    (outlets : ∀ column ∈ first.columns, opened.HasOutput column) :
    Plays outputs opened first source (device.moveRow store target run).1 run.next
      (device.moveRow store target run).2.1 := by
  have columns := plays.continues.columns
  let generated := Instrument.generate run.buffer store run.columns run.position device
  have samples : device.moveSamples store target run = (generated, store) := by
    rw [Instrument.moveSamples, output]
    rfl
  have kept : (device.moveRow store target run).2.1 = store := by
    rw [Instrument.moveRow_store, samples]
  have ports : (device.moveRow store target run).1.ports = generated.ports := by
    show (device.moveSamples store target run).1.ports = generated.ports
    rw [samples]
  have forms : generated.ports.map Port.form = device.ports.map Port.form :=
    Instrument.forms_generate _ _ _
  have same (column : Column) :
      (device.moveRow store target run).1.output? column = generated.output? column := by
    have bare : (device.moveRow store target run).1.output? column =
        (device.moveSamples store target run).1.output? column := by cases column <;> rfl
    rw [bare, samples]
  exact {
    continues := plays.continues.trans {}
    options := plays.options
    forms := by rw [ports, forms, plays.forms]
    unchanged := by rw [kept]; exact plays.unchanged
    apart := by
      intro column listens outside
      rw [same, Instrument.output?_generate_of_not_mem (columns ▸ outside)]
      exact plays.apart column listens outside
    driven := by
      intro column listens place listed last _
      have short : place < run.width :=
        (List.getElem?_eq_some_iff.mp (columns ▸ listed)).1
      have fits := consistent.row_le_size
      obtain ⟨value, held⟩ := Instrument.get?_of_lt_size
        (show run.position + place < run.buffer.size store by omega)
      have there : device.HasOutput column := (Instrument.hasOutput_congr plays.forms).mpr
        (outlets column (List.mem_of_getElem? listed))
      have shown := Instrument.putsOut_generate (columns ▸ listed) (columns ▸ last) _ there held
      refine ⟨value, ?_, shown.congr (by rw [ports]) (same column)⟩
      rw [← plays.unchanged.get?_eq, ← plays.continues.buffer, ← plays.continues.samples,
        ← show run.width = first.width from congrArg List.length columns]
      exact held }

/-- A scan that advances plays its buffer back. -/
theorem advance (output : target.isInput = false) (consistent : device.Consistent store)
    (outlets : ∀ column ∈ first.columns, opened.HasOutput column)
    (recorded : device.scans.get? target = some run)
    (plays : Plays outputs opened first source device run store) (rows : Nat) :
    ∃ run, (Instrument.advance target rows device store).1.scans.get? target = some run ∧
      Plays outputs opened first source (Instrument.advance target rows device store).1 run
        (Instrument.advance target rows device store).2.1 := by
  refine (Instrument.advance_induction
    (P := fun device store => device.Consistent store ∧ ∃ run,
      device.scans.get? target = some run ∧ Plays outputs opened first source device run store)
    ?_ rows ⟨consistent, run, recorded, plays⟩).2
  rintro device store record ⟨consistent, run, recorded, plays⟩ running
  obtain rfl := Option.some.inj
    (recorded.symm.trans (Instrument.running?_eq_some_iff.mp running).1)
  exact ⟨consistent.moveRow running, run.next,
    by rw [Instrument.moveRow_scans, Table.get?_set_self],
    plays.moveRow output (consistent target run recorded) outlets⟩

end Plays

/-! ## The last row -/

/-- A scan that is not continuous moves the rows that it is told to, up to its last one. -/
theorem Instrument.scanCount_advance {instrument : Instrument} {target : ScanTarget}
    {run : ScanRun} (running : instrument.running? target = some run)
    (finite : run.isContinuous = false) (room : run.transfer.scanCount < run.samples) (rows : Nat)
    (store : Store) :
    ∃ last, (advance target rows instrument store).1.scans.get? target = some last ∧
      last.transfer.scanCount = min (run.transfer.scanCount + rows) run.samples ∧
      last.isRunning = decide (run.transfer.scanCount + rows < run.samples) := by
  induction rows generalizing instrument run store with
  | zero =>
      obtain ⟨recorded, active⟩ := running?_eq_some_iff.mp running
      refine ⟨run, recorded, (Nat.min_eq_left (Nat.le_of_lt room)).symm, ?_⟩
      rw [active, Nat.add_zero, decide_eq_true room]
  | succ rows ih =>
      have goes : run.next.isRunning = decide (run.transfer.scanCount + 1 < run.samples) := by
        rw [ScanRun.isRunning_next, (running?_eq_some_iff.mp running).2, finite, Bool.true_and,
          Bool.false_or]
      have count : run.next.transfer.scanCount = run.transfer.scanCount + 1 := rfl
      rw [advance_succ running]
      by_cases more : run.transfer.scanCount + 1 < run.samples
      · have moving : (instrument.moveRow store target run).1.running? target = some run.next := by
          rw [running?_moveRow, if_pos (goes.trans (decide_eq_true more))]
        obtain ⟨last, recorded, counted, running⟩ := ih moving finite more
          (instrument.moveRow store target run).2.1
        rw [count, run.next_samples, Nat.add_right_comm, Nat.add_assoc] at counted running
        exact ⟨last, recorded, counted, running⟩
      · -- The row is the last one, and the others are not moved.
        have off : run.next.isRunning = false := goes.trans (decide_eq_false more)
        have still : (instrument.moveRow store target run).1.running? target = none := by
          rw [running?_moveRow, off]
          rfl
        simp only [advance_of_not_running still]
        refine ⟨run.next, by rw [moveRow_scans, Table.get?_set_self], ?_, ?_⟩
        · rw [count]
          omega
        · rw [off, eq_comm, decide_eq_false_iff_not]
          omega

/-! ## Starts -/

/-- What a channel of a synchronous output scan drives. -/
def SyncChannel.outlet? (channel : SyncChannel .syncOutChannel) : Option Column :=
  if channel.kind = analogOut then some (.analog channel.channel)
  else (Coded.ofCode? channel.channel).map .port

namespace Instrument

variable {instrument : Instrument} {column : Column}

theorem outlet?_of_syncOutColumn {channel : SyncChannel .syncOutChannel}
    (done : instrument.syncOutColumn channel = .ok column) : channel.outlet? = some column := by
  simp only [syncOutColumn] at done
  unfold SyncChannel.outlet?
  split at done
  · contradiction
  split at done
  · next analog =>
      simp only [bind_eq_ok_iff, pure_eq_ok_iff] at done
      obtain ⟨_, _, rfl⟩ := done
      rw [if_pos analog]
  · next digital =>
      rw [if_neg digital]
      exact eq_port_of_portColumn done

theorem hasOutput_of_portColumn {code : Int} (done : instrument.portColumn code = .ok column) :
    instrument.HasOutput column := by
  unfold portColumn at done
  split at done
  · simp only [bind_eq_ok_iff, pure_eq_ok_iff] at done
    obtain ⟨port, first, rfl⟩ := done
    exact exists_port_iff.mp ⟨port, first⟩
  · contradiction

theorem hasOutput_of_syncOutColumn {channel : SyncChannel .syncOutChannel}
    (done : instrument.syncOutColumn channel = .ok column) : instrument.HasOutput column := by
  simp only [syncOutColumn] at done
  split at done
  · contradiction
  split at done
  · simp only [bind_eq_ok_iff, pure_eq_ok_iff] at done
    obtain ⟨_, _, rfl⟩ := done
    trivial
  · exact hasOutput_of_portColumn done

theorem mem_columnsOf {family : Family} {place : SyncChannel family → Except Error Column}
    {channels : List (SyncChannel family)} {columns : List Column}
    (asked : columnsOf place channels = .ok columns) (member : column ∈ columns) :
    ∃ channel, place channel = .ok column := by
  induction channels generalizing columns with
  | nil =>
      obtain rfl := Except.ok.inj asked
      contradiction
  | cons channel rest ih =>
      simp only [columnsOf, bind_eq_ok_iff, pure_eq_ok_iff] at asked
      obtain ⟨first, head, others, tail, rfl⟩ := asked
      rcases List.mem_cons.mp member with rfl | later
      · exact ⟨channel, head⟩
      · exact ih tail later

end Instrument

namespace ScanStart

variable {scan : ScanStart} {instrument : Instrument} {columns : List Column}

/-- Where a column of an analog or a synchronous output scan goes: to the channels of the request
from the lowest one on, or to an entry of the list of channels. -/
def destination? (index : Nat) : ScanStart → Option Column
  | analogOut request _ _ =>
      if index < request.span then some (.analog (request.low + index)) else none
  | syncOut channels _ _ _ _ => channels[index]?.bind SyncChannel.outlet?
  | _ => none

theorem eq_analog_of_output {range : Range} (channel : Int) {column : Column}
    (done : (do instrument.checkAnalogOut channel range
                return Column.analog channel) = Except.ok column) :
    column = .analog channel := by
  simp only [bind_eq_ok_iff, pure_eq_ok_iff] at done
  obtain ⟨_, _, rfl⟩ := done
  rfl

/-- The columns of an analog or a synchronous output scan are the outputs it is asked to drive. -/
theorem getElem?_destinations (mixed : scan.target = .analogOut ∨ scan.target = .syncOut)
    (asked : scan.columns instrument = .ok columns) (index : Nat) :
    columns[index]? = scan.destination? index := by
  cases scan with
  | analogOut request range buffer =>
      simp only [ScanStart.columns, Instrument.columnsBetween] at asked
      split at asked
      · contradiction
      · exact Instrument.getElem?_columnsFrom (fun channel _ => eq_analog_of_output channel) asked
          index
  | syncOut channels samples rate options buffer =>
      exact Instrument.getElem?_columnsOf (fun _ _ => Instrument.outlet?_of_syncOutColumn) asked
        index
  | _ => simp [target] at mixed

/-- The device has an output for every column of an output scan. -/
theorem hasOutput_of_columns (output : scan.target.isInput = false)
    (asked : scan.columns instrument = .ok columns) {column : Column}
    (member : column ∈ columns) : instrument.HasOutput column := by
  cases scan with
  | analogOut request range buffer =>
      simp only [ScanStart.columns, Instrument.columnsBetween] at asked
      split at asked
      · contradiction
      · obtain ⟨channel, _, placed⟩ := Instrument.mem_columnsFrom asked member
        rw [eq_analog_of_output channel placed]
        trivial
  | digitalOut request buffer =>
      simp only [ScanStart.columns, bind_eq_ok_iff] at asked
      obtain ⟨found, listed, checked⟩ := asked
      split at checked
      · contradiction
      · obtain rfl := pure_eq_ok_iff.mp checked
        obtain ⟨kind, there, rfl⟩ := Instrument.mem_portColumns listed member
        exact there
  | syncOut channels samples rate options buffer =>
      obtain ⟨channel, placed⟩ := Instrument.mem_columnsOf asked member
      exact Instrument.hasOutput_of_syncOutColumn placed
  | _ => cases output

end ScanStart

/-! ## Runs -/

namespace Bench

variable {bench : Bench} {handle : Handle} {target : ScanTarget} {command : Command}
  {device after : Instrument}

/-- What the device behind a handle puts out at a column. -/
def output? (bench : Bench) (handle : Handle) (column : Column) : Option Output :=
  (bench.driver.instruments.get? handle).bind fun device => device.output? column

/-- Along some commands, what does not move the scan on a target leaves an output as it is. -/
def Unwritten (handle : Handle) (target : ScanTarget) (column : Column) :
    Bench → List Command → Prop
  | _, [] => True
  | bench, command :: rest =>
      ((bench.taken? handle command).bind Action.moved? ≠ some target →
        (bench.step command).1.output? handle column = bench.output? handle column) ∧
      Unwritten handle target column (bench.step command).1 rest

instance decidableUnwritten (handle : Handle) (target : ScanTarget) (column : Column) :
    (bench : Bench) → (commands : List Command) →
      Decidable (Unwritten handle target column bench commands)
  | _, [] => inferInstanceAs (Decidable True)
  | bench, command :: rest =>
      have := decidableUnwritten handle target column (bench.step command).1 rest
      inferInstanceAs (Decidable ((_ → _) ∧ _))

/-- A device keeps what it reports, and so the forms of its ports. -/
theorem Reachable.forms_step (reachable : bench.Reachable)
    (found : bench.driver.instruments.get? handle = some device)
    (still : (bench.step command).1.driver.instruments.get? handle = some after) :
    after.ports.map Port.form = device.ports.map Port.form := by
  have profile : after.profile = device.profile := by
    cases taken : bench.taken? handle command with
    | none => exact (alike_of_taken?_eq_none taken found still (reachable.issued found)).profile
    | some action =>
        obtain ⟨_, result, lookup, done, acted, _⟩ := step_of_taken? taken
        obtain rfl := Option.some.inj (found.symm.trans lookup)
        obtain rfl := Option.some.inj (acted.get?_self.symm.trans still)
        exact Instrument.profile_of_act done
  have before := Instrument.forms_invariant.holds reachable found
  have now := Instrument.forms_invariant.holds (reachable.step command) still
  rw [now, before, profile]

/-- What neither starts nor moves a scan leaves its record as it is, or halts it. -/
theorem scans_of_unmoved (issued : handle < bench.driver.nextHandle)
    (found : bench.driver.instruments.get? handle = some device)
    (still : (bench.step command).1.driver.instruments.get? handle = some after)
    (unstarted : (bench.taken? handle command).bind Action.started? ≠ some target)
    (unmoved : (bench.taken? handle command).bind Action.moved? ≠ some target) :
    after.scans.get? target = device.scans.get? target ∨
      after.scans.get? target = (device.scans.get? target).map ScanRun.halt := by
  cases taken : bench.taken? handle command with
  | none => exact .inl (by rw [(alike_of_taken?_eq_none taken found still issued).scans])
  | some action =>
      rw [taken] at unstarted unmoved
      obtain ⟨_, result, lookup, done, acted, _⟩ := step_of_taken? taken
      obtain rfl := Option.some.inj (found.symm.trans lookup)
      obtain rfl := Option.some.inj (acted.get?_self.symm.trans still)
      exact Action.get?_scans_of_act done unstarted unmoved

section Run

variable {outputs : Column → Prop} {opened : Instrument} {first run : ScanRun} {source : Store}

/-- A command that leaves the scan, its buffer and the outputs alone but for moving the scan
keeps it playing back. -/
theorem Reachable.plays_step (reachable : bench.Reachable) (output : target.isInput = false)
    (outlets : ∀ column ∈ first.columns, opened.HasOutput column)
    (unstarted : (bench.taken? handle command).bind Action.started? ≠ some target)
    (unedited : (bench.taken? handle command).bind Action.moved? ≠ some target →
      first.buffer.Unchanged bench.store (bench.step command).1.store)
    (unwritten : ∀ column, outputs column →
      (bench.taken? handle command).bind Action.moved? ≠ some target →
      (bench.step command).1.output? handle column = bench.output? handle column)
    (found : bench.driver.instruments.get? handle = some device)
    (still : (bench.step command).1.driver.instruments.get? handle = some after)
    (recorded : device.scans.get? target = some run)
    (plays : Plays outputs opened first source device run bench.store) :
    ∃ run, after.scans.get? target = some run ∧
      Plays outputs opened first source after run (bench.step command).1.store := by
  by_cases moved : (bench.taken? handle command).bind Action.moved? = some target
  · obtain ⟨action, taken, moves⟩ := Option.bind_eq_some_iff.mp moved
    obtain ⟨_, result, lookup, done, acted, _⟩ := step_of_taken? taken
    obtain rfl := Option.some.inj (found.symm.trans lookup)
    obtain rfl := Option.some.inj (acted.get?_self.symm.trans still)
    obtain ⟨rows, rfl⟩ := Action.advance_of_act moves done
    rw [acted.store]
    exact plays.advance output (Instrument.consistent_invariant.holds reachable found) outlets
      recorded rows
  · have same (column : Column) (listens : outputs column) :
        after.output? column = device.output? column := by
      have kept := unwritten column listens moved
      rw [Bench.output?, Bench.output?, still, found] at kept
      exact kept
    have forms := reachable.forms_step found still
    rcases scans_of_unmoved (reachable.issued found) found still unstarted moved with kept | halted
    · exact ⟨run, kept.trans recorded,
        plays.congr {} rfl rfl forms (unedited moved) same⟩
    · rw [recorded] at halted
      exact ⟨run.halt, halted, plays.congr {} rfl rfl forms (unedited moved) same⟩

/-- Commands that leave the scan, its buffer and the outputs alone but for moving the scan keep
it playing back. -/
theorem Reachable.plays_run (reachable : bench.Reachable) (output : target.isInput = false)
    (outlets : ∀ column ∈ first.columns, opened.HasOutput column) {commands : List Command}
    (alone : LeftAlone handle target first.buffer bench commands)
    (unwritten : ∀ column, outputs column → Unwritten handle target column bench commands)
    (found : bench.driver.instruments.get? handle = some device)
    (still : (bench.run commands).1.driver.instruments.get? handle = some after)
    (recorded : device.scans.get? target = some run)
    (plays : Plays outputs opened first source device run bench.store) :
    ∃ run, after.scans.get? target = some run ∧
      Plays outputs opened first source after run (bench.run commands).1.store := by
  induction commands generalizing bench device run with
  | nil =>
      obtain rfl := Option.some.inj (found.symm.trans still)
      exact ⟨run, recorded, plays⟩
  | cons command rest ih =>
      obtain ⟨unstarted, unedited, alone⟩ := alone
      have issued := Int.lt_of_lt_of_le (reachable.issued found) (bench.nextHandle_le_step command)
      obtain ⟨middle, between⟩ := found_of_run issued still
      obtain ⟨later, now, goes⟩ := reachable.plays_step output outlets unstarted unedited
        (fun column listens => (unwritten column listens).1) found between recorded plays
      exact ih (reachable.step command) alone (fun column listens => (unwritten column listens).2)
        between still now goes

end Run

/-! ## Scans that have been accepted -/

/-- The rows that a scan counts are the rows that it has moved. -/
theorem counted_invariant (target : ScanTarget) (buffer : ScanBuffer) :
    ShotInvariant target buffer fun run _ shots => run.transfer.scanCount = shots.length where
  moveRow _ _ _ _ _ counted := by
    rw [List.length_append, List.length_singleton, ← counted]
    rfl
  halt _ _ _ counted := counted
  unchanged _ _ _ _ _ counted := counted

/-- A scan that has just been accepted has put nothing out. -/
theorem plays_of_accepted {scan : ScanStart} (output : scan.target.isInput = false)
    (accepted : bench.taken? handle command = some (.start scan)) :
    ∃ opened started columns, bench.driver.instruments.get? handle = some opened ∧
      scan.columns opened = .ok columns ∧
      (bench.step command).1.driver.instruments.get? handle = some started ∧
      started.scans.get? scan.target = some (scan.plan columns).opening ∧
      ∀ outputs, Plays outputs opened (scan.plan columns).opening bench.store started
        (scan.plan columns).opening (bench.step command).1.store := by
  obtain ⟨opened, result, before, done, acted, _⟩ := step_of_taken? accepted
  obtain ⟨columns, asked, _, _, recorded⟩ := Action.opening_of_start done
  obtain ⟨_, found, _, asked', _, rfl⟩ := Action.act_start_eq_ok_iff.mp done
  obtain rfl := Except.ok.inj (asked.symm.trans asked')
  have settled : scan.settle (opened.launch scan.target (scan.plan columns)) =
      opened.launch scan.target (scan.plan columns) := by
    cases scan with
    | counters => contradiction
    | _ => rfl
  refine ⟨opened, _, columns, before, asked, acted.get?_self, recorded, fun outputs => ?_⟩
  rw [settled, acted.store]
  exact {
    continues := {}
    options := rfl
    forms := rfl
    unchanged := by cases (scan.plan columns).opening.buffer <;> rfl
    apart := fun column _ _ => by cases column <;> rfl
    driven := fun _ _ _ _ _ moved => absurd moved (Nat.lt_irrefl 0) }

/-- A scan that is not continuous never counts more rows than it was asked for, and one that is
running stops with the last of them. -/
theorem Reachable.stops_after_last (reachable : bench.Reachable) {run : ScanRun}
    (found : bench.driver.instruments.get? handle = some device)
    (recorded : device.scans.get? target = some run) (limited : run.isContinuous = false) :
    run.transfer.scanCount ≤ run.samples ∧
      (device.isRunning target = true → run.transfer.scanCount < run.samples ∧
        ∀ rows, ∃ last, (bench.afterRows handle target rows).scan? handle target = some last ∧
          last.transfer.scanCount = min (run.transfer.scanCount + rows) run.samples ∧
          (last.isRunning = true ↔ run.transfer.scanCount + rows < run.samples)) := by
  have limits := Instrument.consistent_invariant.holds reachable found target run recorded
  refine ⟨(limits.finite limited).1, fun active => ?_⟩
  obtain ⟨current, running⟩ := Option.isSome_iff_exists.mp active
  obtain ⟨lookup, runs⟩ := Instrument.running?_eq_some_iff.mp running
  obtain rfl := Option.some.inj (recorded.symm.trans lookup)
  have room := (limits.finite limited).2 runs
  refine ⟨room, fun rows => ?_⟩
  obtain ⟨last, later, count, ends⟩ :=
    Instrument.scanCount_advance running limited room rows bench.store
  refine ⟨last, ?_, count, by rw [ends, decide_eq_true_eq]⟩
  rw [afterRows, step_stimulus (apply_advance found rows), scan?_of_found (get?_advanced rows)]
  exact later

/-- An accepted output scan plays its buffer back in order, as long as nothing else writes to the
buffer.  An output that nothing else changes has, after each row, the value of its last column in
that row, and if it has no column what it had before.  A scan that is not continuous stops after
its last row. -/
theorem Reachable.plays_back (reachable : bench.Reachable) {scan : ScanStart}
    (accepted : bench.taken? handle command = some (.start scan))
    (output : scan.target.isInput = false) {commands : List Command}
    (alone : LeftAlone handle scan.target scan.buffer (bench.step command).1 commands)
    (found : ((bench.step command).1.run commands).1.driver.instruments.get? handle =
      some device) :
    ∃ opened columns, bench.driver.instruments.get? handle = some opened ∧
      scan.columns opened = .ok columns ∧
      (scan.target = .analogOut ∨ scan.target = .syncOut →
        ∀ index, columns[index]? = scan.destination? index) ∧
      let last := ((bench.step command).1.run commands).1
      let count := (device.scanStatus scan.target).2.scanCount
      let samples := scan.samples.toNat
      count = (shots handle scan.target (bench.step command).1 commands).length ∧
      (∀ column, Unwritten handle scan.target column (bench.step command).1 commands →
        (column ∉ columns → device.output? column = opened.output? column) ∧
        ∀ place, columns[place]? = some column → column ∉ columns.drop (place + 1) →
          0 < count → ∃ value,
            scan.buffer.get? bench.store ((count - 1) % samples * columns.length + place) =
              some value ∧ device.PutsOut value column) ∧
      (scan.options.contains ScanOption.continuous = false →
        count ≤ samples ∧ (device.isRunning scan.target = true → count < samples ∧
          ∀ rows, ∃ run,
            (last.afterRows handle scan.target rows).scan? handle scan.target = some run ∧
            run.transfer.scanCount = min (count + rows) samples ∧
            (run.isRunning = true ↔ count + rows < samples))) := by
  obtain ⟨opened, started, columns, before, asked, now, recorded, plays⟩ :=
    plays_of_accepted output accepted
  refine ⟨opened, columns, before, asked, fun mixed => ScanStart.getElem?_destinations mixed asked,
    ?_⟩
  have buffer : (scan.plan columns).opening.buffer = scan.buffer := scan.plan_buffer columns
  have width : (scan.plan columns).opening.columns = columns := scan.plan_columns columns
  have samples : (scan.plan columns).opening.samples = scan.samples.toNat :=
    congrArg Int.toNat (scan.plan_samples columns)
  have options : (scan.plan columns).opening.options = scan.options := scan.plan_options columns
  have outlets : ∀ column ∈ (scan.plan columns).opening.columns, opened.HasOutput column := by
    rw [width]
    exact fun column member => ScanStart.hasOutput_of_columns output asked member
  have issued := Int.lt_of_lt_of_le (reachable.issued before) (bench.nextHandle_le_step command)
  have begun : started.Records scan.target
      (fun run _ shots => run.transfer.scanCount = shots.length) (bench.step command).1.store [] :=
    ⟨_, recorded, rfl⟩
  obtain ⟨run, record, counted⟩ :=
    (counted_invariant scan.target scan.buffer).run alone issued now found begun
  obtain ⟨_, same, plays⟩ := (reachable.step command).plays_run output outlets (buffer ▸ alone)
    (fun _ unwritten => unwritten) now found recorded (plays _)
  obtain rfl := Option.some.inj (record.symm.trans same)
  have status : (device.scanStatus scan.target).2 = run.transfer := by
    simp [Instrument.scanStatus, record]
  have most : run.samples = scan.samples.toNat := plays.continues.samples.trans samples
  simp only [status]
  refine ⟨counted, fun column unwritten => ⟨?_, ?_⟩, fun finite => ?_⟩
  · intro outside
    exact plays.apart column unwritten (by rwa [width])
  · intro place listed last moved
    have driven := plays.driven column unwritten place (by rwa [width]) (by rwa [width]) moved
    rwa [buffer, samples, show (scan.plan columns).opening.width = columns.length from
      congrArg List.length width] at driven
  · have limited : run.isContinuous = false := by
      rw [ScanRun.isContinuous, plays.options, options, finite]
    rw [← most]
    exact ((reachable.step command).run commands).stops_after_last found record limited

/-- An analog output, a port, and the analog output again. -/
def mixedOutlets : List (SyncChannel .syncOutChannel) :=
  [⟨0, SyncChannel.analogOut, .bip10Volts⟩, ⟨Coded.code PortKind.firstPortA, ⟨0x2⟩, .bip10Volts⟩,
   ⟨0, SyncChannel.analogOut, .bip10Volts⟩]

/-- A synchronous output scan of two rows that starts over. -/
def mixedPlayback : ScanStart :=
  .syncOut mixedOutlets 2 1000 ScanOption.continuous ⟨0, 3⟩

/-- A bench with a buffer of two rows for the scan. -/
def mixedRows : Bench :=
  withCells #[1, 259.5, 2, 3, 4, 5]

/-- Start the scan of mixed outputs. -/
def startPlayback : Command :=
  .request (.scanSyncOut 1 mixedOutlets 2 1000 ScanOption.continuous .empty ⟨0, 3⟩)

/-- Three rows, with a value for another output between them. -/
def playbackTicks : List Command :=
  [.stimulus (.advance 1 .syncOut 2), .request (.writeAnalog 1 1 .bip10Volts .empty 7),
   .stimulus (.advance 1 .syncOut 1)]

/-- The third row is the first one again.  The analog output has the last of its two values, and
the port the eight bits that it has. -/
theorem plays_back_mixed :
    ∃ device, ((mixedRows.step startPlayback).1.run playbackTicks).1.driver.instruments.get? 1 =
        some device ∧
      device.PutsOut 2 (.analog 0) ∧ device.PutsOut 259.5 (.port .firstPortA) := by
  have reachable : mixedRows.Reachable := withCells_reachable _
  have accepted : mixedRows.taken? 1 startPlayback = some (.start mixedPlayback) :=
    taken?_of_isSome rfl (by decide +kernel)
  have alone : LeftAlone 1 mixedPlayback.target mixedPlayback.buffer
      (mixedRows.step startPlayback).1 playbackTicks := by decide +kernel
  have there : (((mixedRows.step startPlayback).1.run playbackTicks).1.driver.instruments.get?
      1).map (fun device => (device.scanStatus mixedPlayback.target).2.scanCount) = some 3 := by
    decide +kernel
  obtain ⟨device, found, count⟩ := Option.map_eq_some_iff.mp there
  obtain ⟨opened, columns, _, _, named, _, driven, _⟩ :=
    reachable.plays_back accepted rfl alone found
  have listed : columns = [.analog 0, .port .firstPortA, .analog 0] := by
    refine List.ext_getElem? fun index => (named (.inr rfl) index).trans ?_
    match index with
    | 0 | 1 | 2 => rfl
    | index + 3 => rfl
  subst listed
  rw [count] at driven
  have row (place : Nat) : (3 - 1) % mixedPlayback.samples.toNat *
      [Column.analog 0, .port .firstPortA, .analog 0].length + place = place := Nat.zero_add place
  obtain ⟨volts, held, shown⟩ := (driven (.analog 0) (by decide +kernel)).2 2 rfl (by decide)
    (by decide)
  obtain ⟨level, stored, latched⟩ := (driven (.port .firstPortA) (by decide +kernel)).2 1 rfl
    (by decide) (by decide)
  rw [row] at held stored
  have two : mixedPlayback.buffer.get? mixedRows.store 2 = some 2 := by decide +kernel
  have more : mixedPlayback.buffer.get? mixedRows.store 1 = some 259.5 := by decide +kernel
  obtain rfl : 2 = volts := Option.some.inj (two.symm.trans held)
  obtain rfl : 259.5 = level := Option.some.inj (more.symm.trans stored)
  exact ⟨device, found, shown, latched⟩

end Bench

end Acquisition
