import Acquisition.Proofs.Batch
import Acquisition.Proofs.Connection
import Acquisition.Proofs.Doubles
import Acquisition.Proofs.Interleaved
import Acquisition.Proofs.Origins
import Acquisition.Proofs.Positions

/-!
# Samples that are integers

A digital or a counter scan works on a buffer of words, but each sample passes through a real on
its way.  So a row keeps the words that a real keeps (`Number.IsExact`): what a digital input
scan stores is what reading the port answers, what a counter scan stores is the count that
reading the counter answers after the row, and a digital output scan leaves the word of the
buffer, as far as the port has bits, in the latch.

Main statement: `Bench.Reachable.integers_kept`.
-/

namespace Acquisition

/-! ## Ports that are driven -/

namespace Port

/-- Changing ports of one kind leaves the first one of another kind. -/
theorem find?_updateFirst_of_ne {kind other : PortKind} (ne : other ≠ kind)
    {change : Port → Except Error Port}
    (keeps : ∀ {port changed}, change port = .ok changed → changed.kind = port.kind)
    {ports changed : List Port} (done : updateFirst other change ports = .ok changed) :
    changed.find? (fun port => port.kind = kind) = ports.find? (fun port => port.kind = kind) := by
  induction ports generalizing changed with
  | nil => contradiction
  | cons port rest ih =>
      by_cases hit : port.kind = other
      · simp only [updateFirst, hit, if_true, bind_eq_ok_iff, pure_eq_ok_iff] at done
        obtain ⟨after, accepted, rfl⟩ := done
        have before : ¬port.kind = kind := hit ▸ ne
        have later : ¬after.kind = kind := keeps accepted ▸ before
        rw [List.find?_cons_of_neg (by simpa using later),
          List.find?_cons_of_neg (by simpa using before)]
      · simp only [updateFirst, hit, if_false, bind_eq_ok_iff, pure_eq_ok_iff] at done
        obtain ⟨others, accepted, rfl⟩ := done
        simp only [List.find?_cons, ih accepted]

end Port

namespace Instrument

variable {instrument : Instrument} {kind : PortKind} {port : Port}

theorem exists_port_iff :
    (∃ port, instrument.port kind = .ok port) ↔ kind ∈ instrument.ports.map Port.kind := by
  simp only [port_eq_ok_iff, ← Option.isSome_iff_exists, List.find?_isSome, List.mem_map,
    decide_eq_true_eq]

theorem port_drive (first : instrument.port kind = .ok port) (value : Float) :
    (instrument.drive value (.port kind)).port kind = .ok (port.drive value.toUInt64) := by
  have same : port.kind = kind := kind_of_port first
  let put (port : Port) : Except Error Port := .ok (port.drive value.toUInt64)
  have accepted : put port = .ok (port.drive value.toUInt64) := rfl
  obtain ⟨ports, updated, found⟩ :=
    Port.updateFirst_of_accepted (port_eq_ok_iff.mp first) accepted same
  simp only [drive]
  rw [updated]
  exact port_eq_ok_iff.mpr found

theorem port_drive_of_ne {column : Column} (ne : column ≠ .port kind) (value : Float) :
    (instrument.drive value column).port kind = instrument.port kind := by
  cases column with
  | analog channel => rfl
  | counter counter => rfl
  | port other =>
      have differs : other ≠ kind := fun same => ne (congrArg Column.port same)
      simp only [drive]
      split
      · next ports updated =>
          have same := Port.find?_updateFirst_of_ne differs ?_ updated
          · simp only [Instrument.port, same]
          · intro port changed accepted
            exact (Except.ok.inj accepted) ▸ rfl
      · rfl

variable {buffer : ScanBuffer} {store : Store}

theorem port_generate_of_not_mem {columns : List Column} (outside : .port kind ∉ columns)
    (index : Nat) (instrument : Instrument) :
    (generate buffer store columns index instrument).port kind = instrument.port kind := by
  induction columns generalizing index instrument with
  | nil => rfl
  | cons column rest ih =>
      obtain ⟨ne, outside⟩ := List.ne_and_not_mem_of_not_mem_cons outside
      rw [generate, ih outside]
      split
      · exact port_drive_of_ne ne.symm _
      · rfl

/-- The last of the cells that are put out to a port is what its latch is left with. -/
theorem port_generate {columns : List Column} {place : Nat} {value : Float}
    (listed : columns[place]? = some (.port kind)) (last : .port kind ∉ columns.drop (place + 1))
    (index : Nat) (there : kind ∈ instrument.ports.map Port.kind)
    (held : buffer.get? store (index + place) = some value) :
    ∃ port, (generate buffer store columns index instrument).port kind = .ok port ∧
      port.latch = value.toUInt64 &&& port.widthMask := by
  induction columns generalizing index instrument place with
  | nil => contradiction
  | cons column rest ih =>
      rw [generate]
      cases place with
      | zero =>
          obtain rfl := Option.some.inj listed
          obtain ⟨port, first⟩ := exists_port_iff.mpr there
          rw [Nat.add_zero] at held
          rw [held]
          exact ⟨_, (port_generate_of_not_mem last _ _).trans (port_drive first value), rfl⟩
      | succ place =>
          refine ih listed last (index + 1) ?_ ?_
          · split
            · rw [(instrument.drive_alike _ column).portKinds]
              exact there
            · exact there
          · rw [Nat.add_right_comm, Nat.add_assoc]
            exact held

/-- A row counts an event on a counter for each of the columns that sample it. -/
theorem countAfter_acquire (columns : List Column) (index : Nat) (instrument : Instrument)
    (store : Store) (counter : Int) (events : Nat) :
    (acquire buffer columns index instrument store).1.countAfter counter events =
      instrument.countAfter counter (columns.count (.counter counter) + events) := by
  induction columns generalizing index instrument store with
  | nil => rw [List.count_nil, Nat.zero_add]; rfl
  | cons column rest ih =>
      simp only [acquire]
      rw [ih, countAfter_sample, List.count_cons]
      split
      · rw [Nat.add_right_comm]
      · rw [Nat.add_zero]

section Counter

variable {run : ScanRun} {counter : Int}

/-- A row with one column for a counter counts one event on it. -/
theorem countAfter_moveRow (once : run.columns.Nodup) (member : .counter counter ∈ run.columns)
    (instrument : Instrument) (store : Store) :
    (instrument.moveRow store .counterIn run).1.countAfter counter 0 =
      instrument.countAfter counter 1 := by
  have counted : (acquire run.buffer run.columns run.position instrument store).1.countAfter
      counter 0 = instrument.countAfter counter (run.columns.count (.counter counter) + 0) :=
    countAfter_acquire _ _ _ _ _ _
  rw [once.count, if_pos member] at counted
  exact counted

/-- The only column of a counter has its first event of the row. -/
theorem reading_of_nodup (once : run.columns.Nodup) {index : Nat}
    (listed : run.columns[index]? = some (.counter counter)) (instrument : Instrument) :
    instrument.reading (run.columns.take index) (.counter counter) =
      (instrument.countAfter counter 1).toFloat := by
  obtain ⟨inside, here⟩ := List.getElem?_eq_some_iff.mp listed
  have parts := congrArg (List.count (Column.counter counter))
    (List.take_append_drop index run.columns)
  rw [List.count_append, List.drop_eq_getElem_cons inside, here, List.count_cons_self,
    once.count, if_pos (List.mem_of_getElem? listed)] at parts
  have earlier : (run.columns.take index).count (.counter counter) = 0 := by omega
  rw [reading, earlier]

end Counter

/-- A row of an input scan stores what it samples in the cells of its buffer. -/
theorem getElem?_moveRow_of_puts {α : Type} [Sample α] {target : ScanTarget} {run : ScanRun}
    {cells : Buffer α} {encode : Float → α} (input : target.isInput = true)
    (puts : ∀ store index value,
      run.buffer.put store index value = cells.put index (encode value) store)
    (size : run.buffer.size store = (cells.view store).size) (consistent : run.Consistent store)
    {column : Column} {index : Nat} (listed : run.columns[index]? = some column) :
    (cells.view (instrument.moveRow store target run).2.1).get? (run.position + index) =
      some (encode (instrument.reading (run.columns.take index) column)) := by
  have fits : run.position + run.columns.length ≤ (cells.view store).size :=
    size ▸ consistent.row_le_size
  have inside : index < run.columns.length := (List.getElem?_eq_some_iff.mp listed).1
  have stored := cells_acquire_inside puts run.columns run.position instrument store fits inside
  rw [List.getElem?_map, getElem?_sampleRow, reading?, listed] at stored
  rw [moveRow_store, moveSamples, if_pos input]
  exact stored

/-- A row of an input scan over words stores the integer parts of what it samples. -/
theorem getElem?_moveRow {target : ScanTarget} {run : ScanRun} {words : Buffer UInt64}
    (input : target.isInput = true) (integral : run.buffer = .words words)
    (consistent : run.Consistent store) {column : Column} {index : Nat}
    (listed : run.columns[index]? = some column) :
    (words.view (instrument.moveRow store target run).2.1).get? (run.position + index) =
      some (instrument.reading (run.columns.take index) column).toUInt64 :=
  getElem?_moveRow_of_puts input (fun _ _ _ => by rw [integral]; rfl) (by rw [integral]; rfl)
    consistent listed

end Instrument

namespace Bench

variable {bench before after : Bench} {handle : Handle} {target : ScanTarget}
  {device : Instrument} {run : ScanRun}

/-! ## One row -/

/-- The bench after a scan has been told to move some rows in one call.  Waiting for a scan that is
not continuous moves the rows that it has left in the same way (`serve_waitScan`). -/
def afterRows (bench : Bench) (handle : Handle) (target : ScanTarget) (rows : Nat) : Bench :=
  (bench.step (.stimulus (.advance handle target rows))).1

/-- One more row in the call is one row more. -/
theorem afterRows_succ {rows : Nat}
    (found : (bench.afterRows handle target rows).driver.instruments.get? handle = some device)
    (running : device.running? target = some run) :
    let moved := device.moveRow (bench.afterRows handle target rows).store target run
    (bench.afterRows handle target (rows + 1)).driver.instruments.get? handle = some moved.1 ∧
      (bench.afterRows handle target (rows + 1)).store = moved.2.1 := by
  cases opened : bench.driver.instruments.get? handle with
  | none =>
      have left : bench.afterRows handle target rows = bench := by
        simp only [afterRows, step, settled, Stimulus.apply, Driver.instrument, opened, bind,
          Except.bind]
      rw [left, opened] at found
      contradiction
  | some first =>
      have earlier : bench.afterRows handle target rows =
          (bench.advanced handle target first rows).bench :=
        step_stimulus (apply_advance opened rows)
      have later : bench.afterRows handle target (rows + 1) =
          (bench.advanced handle target first (rows + 1)).bench :=
        step_stimulus (apply_advance opened (rows + 1))
      rw [earlier, get?_advanced, Option.some.injEq] at found
      rw [later, advanced_add, ← earlier, found]
      have moved := Instrument.advance_succ running 0 (bench.afterRows handle target rows).store
      constructor
      · rw [get?_advanced, moved]
        rfl
      · exact congrArg (fun result => result.2.1) moved

/-! ## Samples and readings -/

/-- Reading the port of a column answers with a value. -/
def ReadsPort (bench : Bench) (handle : Handle) (column : Column) (value : UInt64) : Prop :=
  ∃ kind, column = .port kind ∧
    (Request.readPort handle kind).serve bench = .ok (bench.reply value)

/-- The counter of a column has counted to a value, and reading it answers with that if the device
reports that running counts can be read. -/
def ReadsCount (bench : Bench) (handle : Handle) (column : Column) (value : UInt64) : Prop :=
  ∃ counter device, column = .counter counter ∧
    bench.driver.instruments.get? handle = some device ∧
    device.registers.getD (counter, CounterRegister.count) 0 = value ∧
    (Request.readCounter handle counter).serve bench =
      (device.checkRegister CounterRegister.count).map fun _ => bench.reply value

/-- A port has one reading, which is what reading it answers. -/
theorem ReadsPort.eq_of_answer {kind : PortKind} {value answer : UInt64}
    (reads : bench.ReadsPort handle (.port kind) value)
    (answered : ((Request.readPort handle kind).serve bench).map Outcome.answer = .ok answer) :
    value = answer := by
  obtain ⟨_, here, served⟩ := reads
  obtain rfl := Column.port.inj here
  rw [served] at answered
  exact Except.ok.inj answered

/-- A counter has one reading, which is what reading it answers. -/
theorem ReadsCount.eq_of_answer {counter : Int} {value answer : UInt64}
    (reads : bench.ReadsCount handle (.counter counter) value)
    (answered : ((Request.readCounter handle counter).serve bench).map Outcome.answer =
      .ok answer) : value = answer := by
  obtain ⟨_, device, here, _, _, served⟩ := reads
  obtain rfl := Column.counter.inj here
  rw [served] at answered
  cases allowed : device.checkRegister CounterRegister.count with
  | error error =>
      rw [allowed] at answered
      contradiction
  | ok accepted =>
      rw [allowed] at answered
      exact Except.ok.inj answered

/-- A row has stored the reading of each of its columns, if a real keeps the reading. -/
def Stores (after : Bench) (run : ScanRun) (reads : Column → UInt64 → Prop) : Prop :=
  ∃ words, run.buffer = .words words ∧ ∀ index column, run.columns[index]? = some column →
    ∃ value, reads column value ∧
      ((words.view after.store).get? (run.position + index) = some value ↔ Number.IsExact value)

/-- A row has left the words of the buffer in the latches, as far as the ports have bits, if a
real keeps them.  Of several words for one port it is the last one. -/
def Latches (before after : Bench) (handle : Handle) (run : ScanRun) : Prop :=
  ∃ words device, run.buffer = .words words ∧
    after.driver.instruments.get? handle = some device ∧
    ∀ index column, run.columns[index]? = some column → column ∉ run.columns.drop (index + 1) →
      ∃ kind port word, column = .port kind ∧ device.port kind = .ok port ∧
        (words.view before.store).get? (run.position + index) = some word ∧
        port.latch = word.toFloat.toUInt64 &&& port.widthMask ∧
        (Number.IsExact word → port.latch = word &&& port.widthMask)

theorem readsPort {kind : PortKind} {port : Port}
    (found : bench.driver.instruments.get? handle = some device)
    (connected : device.isConnected = true) (first : device.port kind = .ok port) :
    bench.ReadsPort handle (.port kind) port.read := by
  have reads : (do return (← device.port kind).read : Except Error UInt64) = .ok port.read := by
    rw [first]
    rfl
  exact ⟨kind, rfl, askConnected_eq_ok_iff.mpr ⟨device, _, found, connected, reads, rfl⟩⟩

theorem Reachable.stores_ports (reachable : before.Reachable)
    (found : before.driver.instruments.get? handle = some device)
    (running : device.running? .digitalIn = some run)
    (now : after.driver.instruments.get? handle =
      some (device.moveRow before.store .digitalIn run).1)
    (stored : after.store = (device.moveRow before.store .digitalIn run).2.1) :
    after.Stores run fun column value =>
      before.ReadsPort handle column value ∧ after.ReadsPort handle column value := by
  have recorded := (Instrument.running?_eq_some_iff.mp running).1
  have consistent := Instrument.consistent_invariant.holds reachable found _ run recorded
  have stems := Instrument.stems_invariant.holds reachable found
  obtain ⟨words, integral, ports⟩ := (stems.records _ run recorded).ports (.inl rfl)
  refine ⟨words, integral, fun index column listed => ?_⟩
  obtain ⟨kind, there, rfl⟩ := ports column (List.mem_of_getElem? listed)
  rw [← stems.forms.kinds] at there
  obtain ⟨port, first⟩ := Instrument.exists_port_iff.mpr there
  have connected := reachable.connected found running
  have alike := device.moveRow_alike before.store .digitalIn run
  have still : (device.moveRow before.store .digitalIn run).1.port kind = .ok port := by
    rw [← first, Instrument.port, Instrument.ports_moveRow_of_input rfl]
    rfl
  refine ⟨port.read, ⟨readsPort found connected first,
    readsPort now (alike.isConnected.trans connected) still⟩, ?_⟩
  rw [stored, Instrument.getElem?_moveRow rfl integral consistent listed,
    ← Number.toUInt64_toFloat_eq_iff, Option.some.injEq, Instrument.reading, first]

theorem Reachable.stores_counts (reachable : before.Reachable)
    (found : before.driver.instruments.get? handle = some device)
    (running : device.running? .counterIn = some run)
    (now : after.driver.instruments.get? handle =
      some (device.moveRow before.store .counterIn run).1)
    (stored : after.store = (device.moveRow before.store .counterIn run).2.1) :
    after.Stores run (after.ReadsCount handle) := by
  have recorded := (Instrument.running?_eq_some_iff.mp running).1
  have consistent := Instrument.consistent_invariant.holds reachable found _ run recorded
  have stems := Instrument.stems_invariant.holds reachable found
  obtain ⟨words, integral, once, counters⟩ := (stems.records _ run recorded).counters
  have alike := device.moveRow_alike before.store .counterIn run
  refine ⟨words, integral, fun index column listed => ?_⟩
  have member := List.mem_of_getElem? listed
  obtain ⟨counter, rfl, checked⟩ := counters column member
  have reached := Instrument.countAfter_moveRow once member device before.store
  refine ⟨device.countAfter counter 1, ⟨counter, _, rfl, now, reached, ?_⟩, ?_⟩
  · have connected := alike.isConnected.trans (reachable.connected found running)
    have accepted := checked (device.moveRow before.store .counterIn run).1 alike.profile
    change after.askConnected handle _ = _
    rw [askConnected_of_connected now connected, ask, Driver.instrument_eq_ok_iff.mpr now]
    simp only [Instrument.readRegister, accepted, ← reached, bind, Except.bind]
    cases (device.moveRow before.store .counterIn run).1.checkRegister CounterRegister.count <;> rfl
  · rw [stored, Instrument.getElem?_moveRow rfl integral consistent listed,
      ← Number.toUInt64_toFloat_eq_iff, Option.some.injEq,
      Instrument.reading_of_nodup once listed]

theorem Reachable.latches (reachable : before.Reachable)
    (found : before.driver.instruments.get? handle = some device)
    (running : device.running? .digitalOut = some run)
    (now : after.driver.instruments.get? handle =
      some (device.moveRow before.store .digitalOut run).1) :
    before.Latches after handle run := by
  have recorded := (Instrument.running?_eq_some_iff.mp running).1
  have consistent := Instrument.consistent_invariant.holds reachable found _ run recorded
  have stems := Instrument.stems_invariant.holds reachable found
  obtain ⟨words, integral, ports⟩ := (stems.records _ run recorded).ports (.inr rfl)
  refine ⟨words, _, integral, now, fun index column listed last => ?_⟩
  obtain ⟨kind, there, rfl⟩ := ports column (List.mem_of_getElem? listed)
  rw [← stems.forms.kinds] at there
  have inside : run.position + index < (words.view before.store).cells.size := by
    have fits := consistent.row_le_size
    have short := (List.getElem?_eq_some_iff.mp listed).1
    rw [integral] at fits
    exact Nat.lt_of_lt_of_le (Nat.add_lt_add_left short _) fits
  have held : (words.view before.store).get? (run.position + index) =
      some (words.view before.store).cells[run.position + index] :=
    Array.getElem?_eq_getElem inside
  generalize (words.view before.store).cells[run.position + index] = word at held
  have value : run.buffer.get? before.store (run.position + index) = some word.toFloat := by
    rw [integral, ScanBuffer.get?, held]
    rfl
  obtain ⟨port, first, latch⟩ := Instrument.port_generate listed last _ there value
  refine ⟨kind, port, word, rfl, first, held, latch, fun exact => ?_⟩
  rw [latch, (Number.toUInt64_toFloat_eq_iff word).mpr exact]

/-! ## Every row -/

/-- Every row of a digital or counter scan keeps the words that a real keeps.  What a digital
input scan stores is what reading the port answers, before the row as well as after it; what a
counter scan stores is what reading the counter answers after the row; and what a digital output
scan leaves in a latch is the word of the buffer. -/
theorem Reachable.integers_kept (reachable : bench.Reachable) (rows : Nat)
    (found : (bench.afterRows handle target rows).driver.instruments.get? handle = some device)
    (running : device.running? target = some run) :
    let before := bench.afterRows handle target rows
    let after := bench.afterRows handle target (rows + 1)
    (target = .digitalIn → after.Stores run fun column value =>
      before.ReadsPort handle column value ∧ after.ReadsPort handle column value) ∧
    (target = .counterIn → after.Stores run (after.ReadsCount handle)) ∧
    (target = .digitalOut → before.Latches after handle run) := by
  intro before after
  have reached : before.Reachable := reachable.step _
  obtain ⟨now, stored⟩ := afterRows_succ found running
  refine ⟨?_, ?_, ?_⟩
  · rintro rfl
    exact reached.stores_ports found running now stored
  · rintro rfl
    exact reached.stores_counts found running now stored
  · rintro rfl
    exact reached.latches found running now

/-- Scans run over a port in each direction and over a counter, on small values. -/
def sampling : Bench :=
  ((withCells #[]).run
    [.edit (.allocateWords #[3]), .edit (.allocateWords #[0]), .edit (.allocateWords #[0]),
     .request (.configurePort 1 .firstPortA .output),
     .stimulus (.setLevels 1 .auxPort 5), .stimulus (.presetCounter 1 0 41),
     .request (.scanDigitalOut 1
       ⟨Coded.code PortKind.firstPortA, Coded.code PortKind.firstPortA, 1, 1000, .empty⟩
       .empty ⟨0, 1⟩),
     .request (.scanDigitalIn 1
       ⟨Coded.code PortKind.auxPort, Coded.code PortKind.auxPort, 1, 1000, .empty⟩
       .empty ⟨1, 1⟩),
     .request (.scanCounters 1 ⟨0, 0, 1, 1000, .empty⟩ DataFlag.keepCount ⟨2, 1⟩)]).1

/-- The columns and the buffer of a running scan, and the cell that its next row starts at. -/
def nextRow? (bench : Bench) (handle : Handle) (target : ScanTarget) :
    Option (List Column × ScanBuffer × Nat) :=
  (bench.driver.instruments.get? handle).bind fun device =>
    (device.running? target).map fun run => (run.columns, run.buffer, run.position)

theorem exists_running {columns : List Column} {buffer : ScanBuffer} {position : Nat}
    (next : bench.nextRow? handle target = some (columns, buffer, position)) :
    ∃ device run, bench.driver.instruments.get? handle = some device ∧
      device.running? target = some run ∧ run.columns = columns ∧ run.buffer = buffer ∧
      run.position = position := by
  obtain ⟨device, found, scanning⟩ := Option.bind_eq_some_iff.mp next
  obtain ⟨run, running, parts⟩ := Option.map_eq_some_iff.mp scanning
  obtain ⟨columns, rest⟩ := Prod.mk.inj parts
  obtain ⟨buffer, position⟩ := Prod.mk.inj rest
  exact ⟨device, run, found, running, columns, buffer, position⟩

/-- Small values are kept in each direction. -/
theorem integers_kept_small :
    ((sampling.afterRows 1 .digitalIn 1).ReadsPort 1 (.port .auxPort) 5 ∧
      ((⟨1, 1⟩ : Buffer UInt64).view (sampling.afterRows 1 .digitalIn 1).store).get? 0 =
        some 5) ∧
    ((sampling.afterRows 1 .counterIn 1).ReadsCount 1 (.counter 0) 42 ∧
      ((⟨2, 1⟩ : Buffer UInt64).view (sampling.afterRows 1 .counterIn 1).store).get? 0 =
        some 42) ∧
    ∃ device port, (sampling.afterRows 1 .digitalOut 1).driver.instruments.get? 1 = some device ∧
      device.port .firstPortA = .ok port ∧ port.latch = 3 &&& port.widthMask := by
  have reachable : sampling.Reachable := (withCells_reachable #[]).run _
  refine ⟨?_, ?_, ?_⟩
  · have next : (sampling.afterRows 1 .digitalIn 0).nextRow? 1 .digitalIn =
        some ([.port .auxPort], .words ⟨1, 1⟩, 0) := by decide +kernel
    have answer : ((Request.readPort 1 .auxPort).serve (sampling.afterRows 1 .digitalIn 1)).map
        Outcome.answer = .ok 5 := by decide +kernel
    obtain ⟨device, run, found, running, columns, buffer, position⟩ := exists_running next
    obtain ⟨stores, _, _⟩ := reachable.integers_kept 0 found running
    obtain ⟨words, integral, kept⟩ := stores rfl
    obtain rfl := ScanBuffer.words.inj (buffer.symm.trans integral)
    obtain ⟨value, ⟨_, reads⟩, stored⟩ := kept 0 (.port .auxPort) (by rw [columns]; rfl)
    rw [position] at stored
    obtain rfl := reads.eq_of_answer answer
    exact ⟨reads, stored.mpr (Number.isExact_of_lt (by decide))⟩
  · have next : (sampling.afterRows 1 .counterIn 0).nextRow? 1 .counterIn =
        some ([.counter 0], .words ⟨2, 1⟩, 0) := by decide +kernel
    have answer : ((Request.readCounter 1 0).serve (sampling.afterRows 1 .counterIn 1)).map
        Outcome.answer = .ok 42 := by decide +kernel
    obtain ⟨device, run, found, running, columns, buffer, position⟩ := exists_running next
    obtain ⟨_, stores, _⟩ := reachable.integers_kept 0 found running
    obtain ⟨words, integral, kept⟩ := stores rfl
    obtain rfl := ScanBuffer.words.inj (buffer.symm.trans integral)
    obtain ⟨value, reads, stored⟩ := kept 0 (.counter 0) (by rw [columns]; rfl)
    rw [position] at stored
    obtain rfl := reads.eq_of_answer answer
    exact ⟨reads, stored.mpr (Number.isExact_of_lt (by decide))⟩
  · have next : (sampling.afterRows 1 .digitalOut 0).nextRow? 1 .digitalOut =
        some ([.port .firstPortA], .words ⟨0, 1⟩, 0) := by decide +kernel
    have held : ((⟨0, 1⟩ : Buffer UInt64).view (sampling.afterRows 1 .digitalOut 0).store).get? 0 =
        some 3 := by decide +kernel
    obtain ⟨device, run, found, running, columns, buffer, position⟩ := exists_running next
    obtain ⟨_, _, leaves⟩ := reachable.integers_kept 0 found running
    obtain ⟨words, after, integral, now, latches⟩ := leaves rfl
    obtain rfl := ScanBuffer.words.inj (buffer.symm.trans integral)
    obtain ⟨kind, port, word, here, first, cell, _, exact⟩ :=
      latches 0 (.port .firstPortA) (by rw [columns]; rfl) (by rw [columns]; exact List.not_mem_nil)
    obtain rfl := Column.port.inj here
    rw [position] at cell
    obtain rfl : 3 = word := Option.some.inj (held.symm.trans cell)
    exact ⟨after, port, now, first, exact (Number.isExact_of_lt (by decide))⟩

/-- A digital output scan of a word of 61 bits runs over a port of 8 bits. -/
def lossy : Bench :=
  ((withCells #[]).run
    [.edit (.allocateWords #[1152921504606846977]), .request (.configurePort 1 .firstPortA .output),
     .request (.scanDigitalOut 1
       ⟨Coded.code PortKind.firstPortA, Coded.code PortKind.firstPortA, 1, 1000, .empty⟩
       .empty ⟨0, 1⟩)]).1

/-- The lowest bit of the word does not reach the latch. -/
theorem not_integers_kept_lossy :
    ¬∀ (bench : Bench) (handle : Handle) (rows : Nat) (device after : Instrument) (run : ScanRun)
      (words : Buffer UInt64) (kind : PortKind) (word : UInt64) (port : Port), bench.Reachable →
      (bench.afterRows handle .digitalOut rows).driver.instruments.get? handle = some device →
      device.running? .digitalOut = some run → run.buffer = .words words →
      run.columns = [.port kind] →
      (words.view (bench.afterRows handle .digitalOut rows).store).get? run.position = some word →
      (bench.afterRows handle .digitalOut (rows + 1)).driver.instruments.get? handle = some after →
      after.port kind = .ok port → port.latch = word &&& port.widthMask := by
  intro claim
  have reachable : lossy.Reachable := (withCells_reachable #[]).run _
  have next : (lossy.afterRows 1 .digitalOut 0).nextRow? 1 .digitalOut =
      some ([.port .firstPortA], .words ⟨0, 1⟩, 0) := by decide +kernel
  have held : ((⟨0, 1⟩ : Buffer UInt64).view (lossy.afterRows 1 .digitalOut 0).store).get? 0 =
      some 1152921504606846977 := by decide +kernel
  have driven : ((lossy.afterRows 1 .digitalOut 1).driver.instruments.get? 1).map
      (fun device => device.port .firstPortA) =
      some (.ok ⟨.firstPortA, .bidirectional, 8, 0, 0, 255⟩) := by decide +kernel
  obtain ⟨device, run, found, running, columns, buffer, position⟩ := exists_running next
  obtain ⟨after, now, first⟩ := Option.map_eq_some_iff.mp driven
  have latch := claim lossy 1 0 device after run _ _ _ _ reachable found running buffer columns
    (by rw [position]; exact held) now first
  exact absurd latch (by decide)

end Bench

end Acquisition
