import Acquisition.Driver.Bench

/-!
# When an operation answers

An operation put together from others answers exactly when each of them does.
The lemmas turn an answer of the bench into what it found behind the handle and
what it left there.
-/

namespace Acquisition

theorem pure_eq_ok_iff {α : Type} {value answer : α} :
    (pure value : Except Error α) = .ok answer ↔ value = answer := by
  simp [pure, Except.pure]

/-- A sequence of two operations answers exactly when both do. -/
theorem bind_eq_ok_iff {α β : Type} {first : Except Error α} {next : α → Except Error β}
    {answer : β} :
    (first >>= next) = .ok answer ↔ ∃ value, first = .ok value ∧ next value = .ok answer := by
  cases first <;> simp [bind, Except.bind]

theorem isOk_iff {α : Type} {result : Except Error α} :
    result.isOk = true ↔ ∃ value, result = .ok value := by
  cases result <;> simp [Except.isOk, Except.toBool]

namespace Driver

theorem instrument_eq_ok_iff {driver : Driver} {handle : Handle} {instrument : Instrument} :
    driver.instrument handle = .ok instrument ↔
      driver.instruments.get? handle = some instrument := by
  unfold Driver.instrument
  cases driver.instruments.get? handle <;> simp

/-- Putting a device back behind its handle changes nothing. -/
theorem put_of_get? {driver : Driver} {handle : Handle} {instrument : Instrument}
    (found : driver.instruments.get? handle = some instrument) :
    driver.put handle instrument = driver := by
  rw [Driver.put, Table.set_of_get? found]

theorem connected_eq_ok_iff {driver : Driver} {handle : Handle} {instrument : Instrument} :
    driver.connected handle = .ok instrument ↔
      driver.instruments.get? handle = some instrument ∧ instrument.isConnected = true := by
  simp only [Driver.connected, bind_eq_ok_iff, instrument_eq_ok_iff]
  constructor
  · rintro ⟨found, lookup, checked⟩
    cases connection : found.isConnected with
    | false => simp [connection] at checked
    | true =>
        simp only [connection, if_true, pure_eq_ok_iff] at checked
        subst checked
        exact ⟨lookup, connection⟩
  · rintro ⟨lookup, connection⟩
    exact ⟨instrument, lookup, by simp [connection, pure_eq_ok_iff]⟩

end Driver

namespace Bench

variable {α : Type} {bench : Bench} {handle : Handle}

/-- A question answers without changing anything. -/
theorem ask_eq_ok_iff {question : Instrument → Except Error α} {outcome : Outcome α} :
    bench.ask handle question = .ok outcome ↔
      ∃ instrument answer, bench.driver.instruments.get? handle = some instrument ∧
        question instrument = .ok answer ∧ outcome = bench.reply answer := by
  simp only [Bench.ask, bind_eq_ok_iff, pure_eq_ok_iff, Driver.instrument_eq_ok_iff]
  constructor
  · rintro ⟨instrument, lookup, answer, answered, rfl⟩
    exact ⟨instrument, answer, lookup, answered, rfl⟩
  · rintro ⟨instrument, answer, lookup, answered, rfl⟩
    exact ⟨instrument, lookup, answer, answered, rfl⟩

theorem askConnected_eq_ok_iff {question : Instrument → Except Error α} {outcome : Outcome α} :
    bench.askConnected handle question = .ok outcome ↔
      ∃ instrument answer, bench.driver.instruments.get? handle = some instrument ∧
        instrument.isConnected = true ∧ question instrument = .ok answer ∧
        outcome = bench.reply answer := by
  simp only [Bench.askConnected, bind_eq_ok_iff, pure_eq_ok_iff, Driver.connected_eq_ok_iff]
  constructor
  · rintro ⟨instrument, ⟨lookup, connection⟩, answer, answered, rfl⟩
    exact ⟨instrument, answer, lookup, connection, answered, rfl⟩
  · rintro ⟨instrument, answer, lookup, connection, answered, rfl⟩
    exact ⟨instrument, ⟨lookup, connection⟩, answer, answered, rfl⟩

/-- A connected device is asked like any other. -/
theorem askConnected_of_connected {device : Instrument}
    (there : bench.driver.instruments.get? handle = some device)
    (connected : device.isConnected = true) (question : Instrument → Except Error α) :
    bench.askConnected handle question = bench.ask handle question := by
  rw [askConnected, ask, Driver.connected_eq_ok_iff.mpr ⟨there, connected⟩,
    Driver.instrument_eq_ok_iff.mpr there]

theorem askConnected_eq_ok_iff_of_found {device : Instrument}
    (there : bench.driver.instruments.get? handle = some device)
    (connected : device.isConnected = true) {question : Instrument → Except Error α}
    {outcome : Outcome α} :
    bench.askConnected handle question = .ok outcome ↔
      ∃ answer, question device = .ok answer ∧ outcome = bench.reply answer := by
  refine askConnected_eq_ok_iff.trans ⟨?_, ?_⟩
  · rintro ⟨_, answer, lookup, _, answered, rfl⟩
    obtain rfl := Option.some.inj (there.symm.trans lookup)
    exact ⟨answer, answered, rfl⟩
  · rintro ⟨answer, answered, rfl⟩
    exact ⟨device, answer, there, connected, answered, rfl⟩

/-- A change of a device puts the changed device back behind its handle. -/
theorem adjust_eq_ok_iff {change : Instrument → Except Error Instrument}
    {outcome : Outcome Unit} :
    bench.adjust handle change = .ok outcome ↔
      ∃ before after, bench.driver.instruments.get? handle = some before ∧
        change before = .ok after ∧ outcome = ⟨(), bench.put handle after, []⟩ := by
  simp only [Bench.adjust, bind_eq_ok_iff, pure_eq_ok_iff, Driver.instrument_eq_ok_iff]
  constructor
  · rintro ⟨before, lookup, after, changed, rfl⟩
    exact ⟨before, after, lookup, changed, rfl⟩
  · rintro ⟨before, after, lookup, changed, rfl⟩
    exact ⟨before, lookup, after, changed, rfl⟩

theorem adjustConnected_eq_ok_iff {change : Instrument → Except Error Instrument}
    {outcome : Outcome Unit} :
    bench.adjustConnected handle change = .ok outcome ↔
      ∃ before after, bench.driver.instruments.get? handle = some before ∧
        before.isConnected = true ∧ change before = .ok after ∧
        outcome = ⟨(), bench.put handle after, []⟩ := by
  simp only [Bench.adjustConnected, bind_eq_ok_iff, pure_eq_ok_iff, Driver.connected_eq_ok_iff]
  constructor
  · rintro ⟨before, ⟨lookup, connection⟩, after, changed, rfl⟩
    exact ⟨before, after, lookup, connection, changed, rfl⟩
  · rintro ⟨before, after, lookup, connection, changed, rfl⟩
    exact ⟨before, ⟨lookup, connection⟩, after, changed, rfl⟩

/-- A connected device is changed like any other. -/
theorem adjustConnected_of_connected {device : Instrument}
    (there : bench.driver.instruments.get? handle = some device)
    (connected : device.isConnected = true) (change : Instrument → Except Error Instrument) :
    bench.adjustConnected handle change = bench.adjust handle change := by
  rw [adjustConnected, adjust, Driver.connected_eq_ok_iff.mpr ⟨there, connected⟩,
    Driver.instrument_eq_ok_iff.mpr there]

theorem adjustConnected_eq_ok_iff_of_found {device : Instrument}
    (there : bench.driver.instruments.get? handle = some device)
    (connected : device.isConnected = true) {change : Instrument → Except Error Instrument}
    {outcome : Outcome Unit} :
    bench.adjustConnected handle change = .ok outcome ↔
      ∃ after, change device = .ok after ∧ outcome = ⟨(), bench.put handle after, []⟩ := by
  refine adjustConnected_eq_ok_iff.trans ⟨?_, ?_⟩
  · rintro ⟨_, after, lookup, _, changed, rfl⟩
    obtain rfl := Option.some.inj (there.symm.trans lookup)
    exact ⟨after, changed, rfl⟩
  · rintro ⟨after, changed, rfl⟩
    exact ⟨device, after, there, connected, changed, rfl⟩

theorem exchange_eq_ok_iff {change : Instrument → Except Error (α × Instrument)}
    {outcome : Outcome α} :
    bench.exchange handle change = .ok outcome ↔
      ∃ before answer after, bench.driver.instruments.get? handle = some before ∧
        before.isConnected = true ∧ change before = .ok (answer, after) ∧
        outcome = ⟨answer, bench.put handle after, []⟩ := by
  simp only [Bench.exchange, bind_eq_ok_iff, pure_eq_ok_iff, Driver.connected_eq_ok_iff]
  constructor
  · rintro ⟨before, ⟨lookup, connection⟩, ⟨answer, after⟩, changed, rfl⟩
    exact ⟨before, answer, after, lookup, connection, changed, rfl⟩
  · rintro ⟨before, answer, after, lookup, connection, changed, rfl⟩
    exact ⟨before, ⟨lookup, connection⟩, (answer, after), changed, rfl⟩

theorem change_eq_ok_iff {change : Driver → Except Error Driver} {outcome : Outcome Unit} :
    bench.change change = .ok outcome ↔
      ∃ driver, change bench.driver = .ok driver ∧
        outcome = ⟨(), bench.withDriver driver, []⟩ := by
  simp only [Bench.change, bind_eq_ok_iff, pure_eq_ok_iff]
  constructor
  · rintro ⟨driver, changed, rfl⟩
    exact ⟨driver, changed, rfl⟩
  · rintro ⟨driver, changed, rfl⟩
    exact ⟨driver, changed, rfl⟩

end Bench

end Acquisition
