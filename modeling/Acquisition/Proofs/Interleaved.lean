import Acquisition.Proofs.ReadBack

/-!
# Samples in their cells

An input scan of analog or mixed channels lays its rows out in a ring of as many rows as it
has samples per channel, one cell for each column.  What a column is sampled at can be told
from the device right before the row (`Instrument.getElem?_sampleRow`), and which channel it
samples from how the scan was started (`ScanStart.getElem?_columns`).

Main statement: `Bench.Reachable.interleaved`.
-/

namespace Acquisition

/-! ## What a column is sampled at -/

namespace Instrument

/-- The count of a counter after some more events. -/
def countAfter (instrument : Instrument) (counter : Int) : Nat → UInt64
  | 0 => instrument.registers.getD (counter, CounterRegister.count) 0
  | events + 1 =>
      let value := instrument.countAfter counter events
      if instrument.counterMax ≤ value then 0 else value + 1

/-- What a column is sampled at after some columns of the same row: a counter counts one
event each time that the row comes to it. -/
def reading (instrument : Instrument) (earlier : List Column) : Column → Float
  | .analog channel => instrument.inputs.getD channel 0
  | .port kind =>
      match instrument.port kind with
      | .ok port => port.read.toFloat
      | .error _ => 0
  | .counter counter =>
      (instrument.countAfter counter (earlier.count (.counter counter) + 1)).toFloat

/-- What a row has in a column. -/
def reading? (instrument : Instrument) (columns : List Column) (index : Nat) : Option Float :=
  columns[index]?.map (instrument.reading (columns.take index))

variable {instrument : Instrument}

theorem sample_inputs (column : Column) :
    (instrument.sample column).2.inputs = instrument.inputs := by
  cases column with
  | analog | counter => rfl
  | port kind =>
      simp only [sample]
      split <;> rfl

theorem sample_port (column : Column) (kind : PortKind) :
    (instrument.sample column).2.port kind = instrument.port kind := by
  cases column with
  | analog | counter => rfl
  | port other =>
      simp only [sample]
      split <;> rfl

/-- Sampling a counter counts an event on it, and no other column counts one. -/
theorem countAfter_sample (column : Column) (counter : Int) (events : Nat) :
    (instrument.sample column).2.countAfter counter events =
      instrument.countAfter counter
        (if column == .counter counter then events + 1 else events) := by
  have most : (instrument.sample column).2.counterMax = instrument.counterMax := by
    simp only [counterMax, (instrument.sample_alike column).profile]
  induction events with
  | zero =>
      cases column with
      | analog channel => simp [sample]
      | port kind =>
          simp only [sample]
          split <;> simp [countAfter]
      | counter other =>
          by_cases same : other = counter
          · subst same
            simp only [sample, countAfter, Table.getD, Table.get?_set_self, BEq.rfl, if_true]
            rfl
          · have ne : (counter, CounterRegister.count) ≠ (other, CounterRegister.count) := by
              simpa using Ne.symm same
            simp [sample, countAfter, Table.getD, Table.get?_set_of_ne _ ne, same]
  | succ events ih =>
      rw [countAfter, ih, most]
      split <;> rfl

theorem reading_nil (column : Column) :
    instrument.reading [] column = (instrument.sample column).1 := by
  cases column with
  | analog | counter => rfl
  | port kind =>
      simp only [reading, sample]
      cases instrument.port kind <;> rfl

theorem reading_cons (first : Column) (earlier : List Column) (column : Column) :
    instrument.reading (first :: earlier) column =
      (instrument.sample first).2.reading earlier column := by
  cases column with
  | analog channel => simp only [reading, sample_inputs]
  | port kind => simp only [reading, sample_port]
  | counter counter =>
      simp only [reading, countAfter_sample, List.count_cons]
      split <;> simp_all

/-- A row holds what each of its columns is sampled at. -/
theorem getElem?_sampleRow (instrument : Instrument) (columns : List Column) (index : Nat) :
    (instrument.sampleRow columns)[index]? = instrument.reading? columns index := by
  induction columns generalizing instrument index with
  | nil => rfl
  | cons column rest ih =>
      cases index with
      | zero => simp [sampleRow, reading?, reading_nil]
      | succ index =>
          rw [sampleRow, List.getElem?_cons_succ, ih]
          simp only [reading?, List.getElem?_cons_succ, List.take_succ_cons]
          exact congrArg (rest[index]?.map ·) (funext fun _ => (reading_cons _ _ _).symm)

end Instrument

/-! ## Which channel a column samples -/

namespace Instrument

/-- The columns of a run of channel numbers follow the numbers. -/
theorem getElem?_columnsFrom {column : Int → Except Error Column} {place : Int → Column}
    (each : ∀ channel found, column channel = .ok found → found = place channel)
    {low : Int} {count : Nat} {columns : List Column}
    (done : columnsFrom column low count = .ok columns) (index : Nat) :
    columns[index]? = if index < count then some (place (low + index)) else none := by
  induction count generalizing low columns index with
  | zero =>
      obtain rfl := Except.ok.inj done
      simp
  | succ count ih =>
      simp only [columnsFrom, bind_eq_ok_iff, pure_eq_ok_iff] at done
      obtain ⟨first, head, rest, tail, rfl⟩ := done
      cases index with
      | zero => simp [each low first head]
      | succ index =>
          have shift : low + 1 + index = low + ((index + 1 : Nat) : Int) := by omega
          rw [List.getElem?_cons_succ, ih tail, shift]
          simp

/-- The columns of channels follow the channels. -/
theorem getElem?_columnsOf {family : Family} {column : SyncChannel family → Except Error Column}
    {place : SyncChannel family → Option Column}
    (each : ∀ channel found, column channel = .ok found → place channel = some found)
    {channels : List (SyncChannel family)} {columns : List Column}
    (done : columnsOf column channels = .ok columns) (index : Nat) :
    columns[index]? = channels[index]?.bind place := by
  induction channels generalizing columns index with
  | nil =>
      obtain rfl := Except.ok.inj done
      rfl
  | cons channel rest ih =>
      simp only [columnsOf, bind_eq_ok_iff, pure_eq_ok_iff] at done
      obtain ⟨first, head, others, tail, rfl⟩ := done
      cases index with
      | zero => exact (each channel first head).symm
      | succ index => exact ih tail index

end Instrument

/-- What a channel of a synchronous input scan samples. -/
def SyncChannel.column? (channel : SyncChannel .syncInChannel) : Option Column :=
  if channel.kind = analogDifferential ∨ channel.kind = analogSingleEnded then
    some (.analog channel.channel)
  else if channel.kind = digitalIn then (Coded.ofCode? channel.channel).map .port
  else some (.counter channel.channel)

namespace Instrument

variable {instrument : Instrument} {column : Column}

theorem eq_port_of_portColumn {code : Int} (done : instrument.portColumn code = .ok column) :
    (Coded.ofCode? code).map Column.port = some column := by
  unfold portColumn at done
  split at done
  · next kind known =>
      simp only [bind_eq_ok_iff, pure_eq_ok_iff] at done
      obtain ⟨_, _, rfl⟩ := done
      rw [known]
      rfl
  · contradiction

theorem eq_analog_of_checked {mode : InputMode} {range : Range} (channel : Int)
    (done : (do instrument.checkAnalogIn channel mode range
                return Column.analog channel) = Except.ok column) :
    column = .analog channel := by
  simp only [bind_eq_ok_iff, pure_eq_ok_iff] at done
  obtain ⟨_, _, rfl⟩ := done
  rfl

theorem column?_of_syncInColumn {channel : SyncChannel .syncInChannel}
    (done : instrument.syncInColumn channel = .ok column) : channel.column? = some column := by
  simp only [syncInColumn] at done
  unfold SyncChannel.column?
  split at done
  · contradiction
  split at done
  · next differential =>
      simp only [bind_eq_ok_iff, pure_eq_ok_iff] at done
      obtain ⟨_, _, rfl⟩ := done
      rw [if_pos (.inl differential)]
  next notDifferential =>
    split at done
    · next singleEnded =>
        obtain rfl := eq_analog_of_checked channel.channel done
        rw [if_pos (.inr singleEnded)]
    next notSingleEnded =>
      rw [if_neg (not_or.mpr ⟨notDifferential, notSingleEnded⟩)]
      split at done
      · next digital =>
          rw [if_pos digital]
          exact eq_port_of_portColumn done
      · next counts =>
          simp only [bind_eq_ok_iff, pure_eq_ok_iff] at done
          obtain ⟨_, _, rfl⟩ := done
          rw [if_neg counts]

end Instrument

namespace ScanStart

/-- What a column of an analog or a synchronous input scan samples: an entry of the queue, or
the channels of the request from the lowest one on if the queue is empty, or an entry of the
list of channels. -/
def source? (instrument : Instrument) (index : Nat) : ScanStart → Option Column
  | analogIn request _ _ _ =>
      if instrument.queue.isEmpty then
        if index < request.span then some (.analog (request.low + index)) else none
      else instrument.queue[index]?.map fun element => .analog element.channel
  | syncIn channels _ _ _ _ => channels[index]?.bind SyncChannel.column?
  | _ => none

/-- The columns of an analog or a synchronous input scan are what it is asked to sample. -/
theorem getElem?_columns {scan : ScanStart} {instrument : Instrument} {columns : List Column}
    (mixed : scan.target = .analogIn ∨ scan.target = .syncIn)
    (asked : scan.columns instrument = .ok columns) (index : Nat) :
    columns[index]? = scan.source? instrument index := by
  cases scan with
  | analogIn request mode range buffer =>
      simp only [ScanStart.columns, Instrument.analogInColumns] at asked
      simp only [source?]
      split at asked
      · next empty =>
          unfold Instrument.columnsBetween at asked
          split at asked
          · contradiction
          · rw [if_pos empty]
            exact Instrument.getElem?_columnsFrom
              (fun channel _ => Instrument.eq_analog_of_checked channel) asked index
      · next loaded =>
          obtain rfl := Except.ok.inj asked
          simp [loaded]
  | syncIn channels samples rate options buffer =>
      exact Instrument.getElem?_columnsOf (fun _ _ => Instrument.column?_of_syncInColumn) asked
        index
  | _ => simp [target] at mixed

end ScanStart

/-! ## The ring of a scan -/

/-- The last of the first `count` rows that lies at a place of a ring of rows. -/
structure IsLatest (count samples place row : Nat) : Prop where
  lt : row < count
  lies : row % samples = place
  last : ∀ later, row < later → later < count → later % samples ≠ place

/-- Every place of the ring that has been reached has a latest row, less than a round ago. -/
theorem exists_isLatest {count samples place : Nat} (reached : place < min count samples) :
    ∃ row, IsLatest count samples place row ∧ count ≤ row + samples := by
  obtain ⟨below, inside⟩ := Nat.lt_min.mp reached
  obtain ⟨rounds, rest, split, small⟩ :
      ∃ rounds rest, samples * rounds + rest = count - 1 - place ∧ rest < samples :=
    ⟨_, _, Nat.div_add_mod _ _, Nat.mod_lt _ (Nat.zero_lt_of_lt inside)⟩
  have near : count ≤ place + samples * rounds + samples := by omega
  refine ⟨place + samples * rounds, ⟨by omega, ?_, ?_⟩, near⟩
  · rw [Nat.add_mul_mod_self_left, Nat.mod_eq_of_lt inside]
  · intro later after before same
    refine mod_ne_mod after (Nat.lt_of_lt_of_le before near) ?_
    rw [same, Nat.add_mul_mod_self_left, Nat.mod_eq_of_lt inside]

/-- Each cell of the ring that has been reached holds what its column was sampled at for the
latest row there, and the other cells hold what they have held before the scan. -/
structure Interleaved (columns : List Column) (samples : Nat) (shots : List Instrument)
    (before after : Array Float) : Prop where
  ring : ∀ place, place < min shots.length samples → ∃ row shot,
    IsLatest shots.length samples place row ∧ shots[row]? = some shot ∧
    ∀ index, index < columns.length →
      after[place * columns.length + index]? = shot.reading? columns index
  rest : ∀ cell, min shots.length samples * columns.length ≤ cell → after[cell]? = before[cell]?

/-- The scan is the first one still, the rows of the shots lie in its ring, and nothing has been
written beyond what has been reached of the ring. -/
structure Ringed (first : ScanRun) (buffer : Buffer Float) (before : Store) (run : ScanRun)
    (store : Store) (shots : List Instrument) : Prop where
  continues : first.Continues run
  reals : run.buffer = .reals buffer
  written : (buffer.view store).Written run.transfer
    (shots.map fun shot => shot.sampleRow run.columns) run.width run.samples
  rest : ∀ cell, min shots.length run.samples * run.width ≤ cell →
    (buffer.view store).cells[cell]? = (buffer.view before).cells[cell]?

namespace Ringed

variable {first run : ScanRun} {buffer : Buffer Float} {before store : Store}
  {shots : List Instrument}

theorem counted (ringed : Ringed first buffer before run store shots) :
    run.transfer.scanCount = shots.length := by
  simpa using ringed.written.counted

/-- A row does not reach beyond the cells that are reached with it. -/
theorem position_le (count samples width : Nat) (positive : 0 < samples) :
    count % samples * width + width ≤ min (count + 1) samples * width := by
  rw [← Nat.succ_mul]
  refine Nat.mul_le_mul_right width (Nat.le_min.mpr ⟨?_, Nat.mod_lt _ positive⟩)
  exact Nat.succ_le_succ (Nat.mod_le _ _)

theorem moveRow (ringed : Ringed first buffer before run store shots) {target : ScanTarget}
    (input : target.isInput = true) (device : Instrument) :
    Ringed first buffer before run.next (device.moveRow store target run).2.1
      (shots ++ [device]) where
  continues := ringed.continues.trans {}
  reals := ringed.reals
  written := by
    have written : run.buffer.Written store run.transfer
        (shots.map fun shot => shot.sampleRow run.columns) run.width run.samples := by
      rw [ringed.reals]
      exact ringed.written
    have next : run.buffer.Written (device.moveRow store target run).2.1 run.next.transfer
        (shots.map (fun shot => shot.sampleRow run.columns) ++ [device.sampleRow run.columns])
        run.width run.samples := Instrument.written_moveRow input written
    rw [ringed.reals] at next
    rw [List.map_append]
    exact next
  rest := by
    intro cell beyond
    rw [List.length_append, List.length_singleton, run.next_samples, run.next_width] at beyond
    have reach := position_le shots.length run.samples run.width ringed.written.most_pos
    have outside : run.position + run.columns.length ≤ cell := by
      rw [ScanRun.position, ringed.counted]
      exact Nat.le_trans reach beyond
    have earlier : min shots.length run.samples * run.width ≤ cell := by
      refine Nat.le_trans (Nat.mul_le_mul_right _ ?_) beyond
      omega
    rw [Instrument.moveRow_store, Instrument.moveSamples, if_pos input, ringed.reals,
      Instrument.cells_acquire_outside (fun _ _ _ => rfl) _ _ _ _ (.inr outside)]
    exact ringed.rest cell earlier

theorem toInterleaved (ringed : Ringed first buffer before run store shots) :
    Interleaved run.columns run.samples shots (buffer.view before).cells
      (buffer.view store).cells where
  ring place reached := by
    obtain ⟨row, latest, near⟩ := exists_isLatest reached
    obtain ⟨shot, found⟩ : ∃ shot, shots[row]? = some shot :=
      ⟨_, List.getElem?_eq_getElem latest.lt⟩
    refine ⟨row, shot, latest, found, fun index inside => ?_⟩
    have sampled : (shots.map fun shot => shot.sampleRow run.columns)[row]? =
        some (shot.sampleRow run.columns) := by
      rw [List.getElem?_map, found]
      rfl
    have stored := ringed.written.laid.stored row _ sampled (by simpa using near) index inside
    rw [latest.lies] at stored
    rw [← Instrument.getElem?_sampleRow]
    exact stored
  rest := ringed.rest

end Ringed

/-- Every row of an input scan keeps its ring. -/
theorem ringed_invariant {target : ScanTarget} (input : target.isInput = true) (first : ScanRun)
    (buffer : Buffer Float) (before : Store) :
    ShotInvariant target (.reals buffer) (Ringed first buffer before) where
  moveRow device store run shots _ ringed := ringed.moveRow input device
  halt run store shots ringed := { ringed with continues := ringed.continues.trans {} }
  unchanged run store after shots unchanged ringed := by
    have same : buffer.view after = buffer.view store :=
      congrArg (Samples.mk · buffer.channels) unchanged
    exact {
      continues := ringed.continues
      reals := ringed.reals
      written := same ▸ ringed.written
      rest := same ▸ ringed.rest }

/-! ## Scans that have been accepted -/

/-- Analog and synchronous input scans fill buffers of real samples. -/
theorem ScanStart.exists_reals {scan : ScanStart}
    (mixed : scan.target = .analogIn ∨ scan.target = .syncIn) :
    scan.target.isInput = true ∧ ∃ buffer, scan.buffer = .reals buffer := by
  cases scan with
  | analogIn _ _ _ buffer | syncIn _ _ _ _ buffer => exact ⟨rfl, buffer, rfl⟩
  | _ => simp [target] at mixed

namespace Bench

variable {bench : Bench} {handle : Handle} {command : Command} {scan : ScanStart}

/-- A scan that has just been accepted has reached nothing of its ring. -/
theorem ringed_of_accepted (accepted : bench.taken? handle command = some (.start scan))
    {buffer : Buffer Float} (reals : scan.buffer = .reals buffer) :
    ∃ opened started columns, bench.driver.instruments.get? handle = some opened ∧
      scan.columns opened = .ok columns ∧
      (bench.step command).1.driver.instruments.get? handle = some started ∧
      started.Records scan.target (Ringed (scan.plan columns).opening buffer bench.store)
        (bench.step command).1.store [] := by
  obtain ⟨opened, started, columns, before, asked, now, store, run, record, continues, written⟩ :=
    acquiring_of_accepted accepted
  have same : run.buffer = .reals buffer := by
    rw [continues.buffer, ← reals]
    exact scan.plan_buffer columns
  rw [same] at written
  refine ⟨opened, started, columns, before, asked, now, run, record, continues, same, ?_, ?_⟩
  · rw [store]
    exact written
  · intro cell _
    rw [store]

/-- An accepted scan of analog or mixed inputs, whose buffer nothing else writes to, has its
samples in the cells of its ring, each in the column of its channel, and has left the other
cells alone. -/
theorem Reachable.interleaved (reachable : bench.Reachable)
    (accepted : bench.taken? handle command = some (.start scan))
    (mixed : scan.target = .analogIn ∨ scan.target = .syncIn) {commands : List Command}
    (alone : LeftAlone handle scan.target scan.buffer (bench.step command).1 commands)
    {device : Instrument}
    (found : ((bench.step command).1.run commands).1.driver.instruments.get? handle =
      some device) :
    ∃ opened columns buffer, bench.driver.instruments.get? handle = some opened ∧
      (∀ index, columns[index]? = scan.source? opened index) ∧ scan.buffer = .reals buffer ∧
      let shots := shots handle scan.target (bench.step command).1 commands
      (device.scanStatus scan.target).2.scanCount = shots.length ∧
      Interleaved columns scan.samples.toNat shots (buffer.view bench.store).cells
        (buffer.view ((bench.step command).1.run commands).1.store).cells := by
  obtain ⟨input, buffer, reals⟩ := ScanStart.exists_reals mixed
  obtain ⟨opened, started, columns, before, asked, now, records⟩ :=
    ringed_of_accepted accepted reals
  refine ⟨opened, columns, buffer, before, ScanStart.getElem?_columns mixed asked, reals, ?_⟩
  have issued := Int.lt_of_lt_of_le (reachable.issued before) (bench.nextHandle_le_step command)
  rw [reals] at alone
  obtain ⟨run, record, ringed⟩ :=
    (ringed_invariant input _ buffer bench.store).run alone issued now found records
  have status : (device.scanStatus scan.target).2 = run.transfer := by
    simp [Instrument.scanStatus, record]
  have width : run.columns = columns := ringed.continues.columns.trans (scan.plan_columns columns)
  have samples : run.samples = scan.samples.toNat :=
    ringed.continues.samples.trans (congrArg Int.toNat (scan.plan_samples columns))
  rw [status, ← width, ← samples]
  exact ⟨ringed.counted, ringed.toInterleaved⟩

/-- A port, a counter twice and an analog input. -/
def mixedChannels : List (SyncChannel .syncInChannel) :=
  [.ofPort .firstPortA, ⟨0, ⟨0x10⟩, .bip10Volts⟩, ⟨1, SyncChannel.analogSingleEnded, .bip10Volts⟩,
   ⟨0, ⟨0x10⟩, .bip10Volts⟩]

/-- A synchronous scan of mixed channels over a ring of two rows. -/
def mixedScan : ScanStart :=
  .syncIn mixedChannels 2 1000 ScanOption.continuous ⟨0, 1⟩

/-- Start the scan of mixed channels. -/
def startMixed : Command :=
  .request (.scanSyncIn 1 mixedChannels 2 1000 ScanOption.continuous .empty ⟨0, 1⟩)

/-- Three rows, with inputs that change between them. -/
def mixedTicks : List Command :=
  [.stimulus (.setLevels 1 .firstPortA 0x3c), .stimulus (.presetCounter 1 0 9),
   .stimulus (.advance 1 .syncIn 2), .stimulus (.setInput 1 1 4.5),
   .stimulus (.advance 1 .syncIn 1)]

/-- The third row comes round to the first place, and the last cell is outside of the ring. -/
theorem interleaved_mixed :
    let ready := withCells #[0, 0, 0, 0, 0, 0, 0, 0, 7]
    let started := (ready.step startMixed).1
    let shots := shots 1 .syncIn started mixedTicks
    let cells (bench : Bench) := (Buffer.view (⟨0, 1⟩ : Buffer Float) bench.store).cells
    shots.length = 3 ∧
    Interleaved [.port .firstPortA, .counter 0, .analog 1, .counter 0] 2 shots (cells ready)
      (cells (started.run mixedTicks).1) := by
  intro ready started shots cells
  have accepted : ready.taken? 1 startMixed = some (.start mixedScan) :=
    taken?_of_isSome rfl (by decide +kernel)
  have leaves : ∀ command ∈ mixedTicks, command.Leaves 1 .syncIn := by
    simp only [mixedTicks, List.forall_mem_cons]
    exact ⟨Command.leaves_of_action?_eq_none rfl nofun,
      Command.leaves_of_action?_eq_none rfl nofun, Command.leaves_advance 2,
      Command.leaves_of_action?_eq_none rfl nofun, Command.leaves_advance 1,
      List.forall_mem_nil _⟩
  have there : ((started.run mixedTicks).1.driver.instruments.get? 1).isSome = true := by
    decide +kernel
  obtain ⟨device, found⟩ := Option.isSome_iff_exists.mp there
  obtain ⟨opened, columns, buffer, _, sources, reals, _, laid⟩ :=
    (withCells_reachable _).interleaved accepted (.inr rfl)
      (leftAlone_of_leaves mixedScan.buffer leaves) found
  obtain rfl : (⟨0, 1⟩ : Buffer Float) = buffer := ScanBuffer.reals.inj reals
  have named : columns = [.port .firstPortA, .counter 0, .analog 1, .counter 0] := by
    refine List.ext_getElem? fun index => (sources index).trans ?_
    match index with
    | 0 | 1 | 2 | 3 => rfl
    | index + 4 => rfl
  rw [named] at laid
  exact ⟨by decide +kernel, laid⟩

end Bench

end Acquisition
