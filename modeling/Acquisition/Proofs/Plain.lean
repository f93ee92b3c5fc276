import Acquisition.Proofs.Command

/-!
# Plain commands

A command that asks for no action opens or closes a device, attaches one, edits a
storage, or at most adjusts a device (`plain_of_action?_eq_none`).  No handler is due
after it.
-/

namespace Acquisition

namespace Bench

/-! ## Plain commands -/

/-- No storage has changed, and no device but by an adjustment. -/
structure Tuned (before after : Bench) : Prop where
  store : after.store = before.store := by rfl
  nextHandle : after.driver.nextHandle = before.driver.nextHandle := by rfl
  inventory : after.driver.inventory = before.driver.inventory := by rfl
  lifecycle : after.driver.lifecycle = before.driver.lifecycle := by rfl
  devices : ∀ handle,
    after.driver.instruments.get? handle = before.driver.instruments.get? handle ∨
    ∃ device adjusted, before.driver.instruments.get? handle = some device ∧
      after.driver.instruments.get? handle = some adjusted ∧
      device.Adjustment adjusted := by exact fun _ => .inl rfl

theorem Tuned.refl (bench : Bench) : bench.Tuned bench :=
  {}

theorem tuned_put {bench : Bench} {handle : Handle} {device adjusted : Instrument}
    (found : bench.driver.instruments.get? handle = some device)
    (adjustment : device.Adjustment adjusted) : bench.Tuned (bench.put handle adjusted) where
  devices other := by
    by_cases same : other = handle
    · subst same
      exact .inr ⟨device, adjusted, found, Table.get?_set_self _ _ _, adjustment⟩
    · exact .inl (Table.get?_set_of_ne _ same _)

/-- An operation that only tunes the bench and makes no handler due. -/
def Tunes {α : Type} (bench : Bench) (result : Except Error (Outcome α)) : Prop :=
  bench.Tuned (bench.settled result).1 ∧ (bench.settled result).2 = []

section Tunes

variable {α : Type} (bench : Bench) (handle : Handle)

theorem tunes_of_outcome {result : Except Error (Outcome α)}
    (outcomes : ∀ outcome, result = .ok outcome → bench.Tuned outcome.bench ∧ outcome.due = []) :
    bench.Tunes result := by
  cases result with
  | error error => exact ⟨.refl bench, rfl⟩
  | ok outcome => exact outcomes outcome rfl

theorem tunes_ask (question : Instrument → Except Error α) :
    bench.Tunes (bench.ask handle question) := by
  apply tunes_of_outcome
  intro outcome answered
  rcases ask_eq_ok_iff.mp answered with ⟨_, _, _, _, rfl⟩
  exact ⟨.refl bench, rfl⟩

theorem tunes_askConnected (question : Instrument → Except Error α) :
    bench.Tunes (bench.askConnected handle question) := by
  apply tunes_of_outcome
  intro outcome answered
  rcases askConnected_eq_ok_iff.mp answered with ⟨_, _, _, _, _, rfl⟩
  exact ⟨.refl bench, rfl⟩

variable {change : Instrument → Except Error Instrument}

theorem tunes_adjust
    (adjusts : ∀ {before after}, change before = .ok after → before.Adjustment after) :
    bench.Tunes (bench.adjust handle change) := by
  apply tunes_of_outcome
  intro outcome answered
  rcases adjust_eq_ok_iff.mp answered with ⟨before, after, found, changed, rfl⟩
  exact ⟨tuned_put found (adjusts changed), rfl⟩

theorem tunes_adjustConnected
    (adjusts : ∀ {before after}, change before = .ok after → before.Adjustment after) :
    bench.Tunes (bench.adjustConnected handle change) := by
  apply tunes_of_outcome
  intro outcome answered
  rcases adjustConnected_eq_ok_iff.mp answered with ⟨before, after, found, _, changed, rfl⟩
  exact ⟨tuned_put found (adjusts changed), rfl⟩

theorem tunes_exchange {change : Instrument → Except Error (α × Instrument)}
    (adjusts : ∀ {before answer after}, change before = .ok (answer, after) →
      before.Adjustment after) : bench.Tunes (bench.exchange handle change) := by
  apply tunes_of_outcome
  intro outcome answered
  rcases exchange_eq_ok_iff.mp answered with ⟨before, answer, after, found, _, changed, rfl⟩
  exact ⟨tuned_put found (adjusts changed), rfl⟩

end Tunes

end Bench

namespace Command

/-- A command that asks for no action. -/
inductive Plain : Command → Prop
  | create (descriptor : Descriptor) : Plain (.request (.create descriptor))
  | release (handle : Handle) : Plain (.request (.release handle))
  | attach (descriptor : Descriptor) (profile : Profile) :
      Plain (.stimulus (.attach descriptor profile))
  | edit (edit : Edit) : Plain (.edit edit)
  | tune {command : Command} (tunes : ∀ bench : Bench,
      bench.Tuned (bench.step command).1 ∧ (bench.step command).2 = []) : Plain command

theorem plain_of_request {α : Type} {request : Request α} (asks : request.action? = none) :
    Plain (.request request) := by
  cases request with
  | create descriptor => exact .create descriptor
  | release handle => exact .release handle
  | inventory transport most =>
      apply Plain.tune
      intro bench
      apply bench.tunes_of_outcome
      intro outcome answered
      obtain rfl := Except.ok.inj answered
      exact ⟨.refl bench, rfl⟩
  | libraryText | librarySetting =>
      apply Plain.tune
      intro bench
      apply bench.tunes_of_outcome
      intro outcome answered
      simp only [Request.serve, bind_eq_ok_iff, pure_eq_ok_iff] at answered
      rcases answered with ⟨_, _, rfl⟩
      exact ⟨.refl bench, rfl⟩
  | setLibrarySetting item index value =>
      apply Plain.tune
      intro bench
      apply bench.tunes_of_outcome
      intro outcome answered
      simp only [Request.serve, Bench.change_eq_ok_iff] at answered
      rcases answered with ⟨driver, accepted, rfl⟩
      unfold Driver.setLibrarySetting at accepted
      split at accepted
      · contradiction
      · split at accepted
        · obtain rfl := Except.ok.inj accepted
          exact ⟨{}, rfl⟩
        · contradiction
  | descriptor handle | isConnected handle | integerItem handle | realItem handle
  | scanStatus handle | memoryArea handle =>
      exact .tune fun bench => bench.tunes_ask handle _
  | versionText handle | setting handle | realSetting handle | textSetting handle
  | portSetting handle | readAnalog handle | readPort handle | readBit handle
  | readCounter handle | readRegister handle | timerStatus handle | readMemory handle =>
      exact .tune fun bench => bench.tunes_askConnected handle _
  | flashLed handle count =>
      exact .tune fun bench => bench.tunes_adjustConnected handle (.flashLed count)
  | setSetting handle item index value =>
      exact .tune fun bench => bench.tunes_adjustConnected handle (.setSetting item index value)
  | setRealSetting handle item index value =>
      exact .tune fun bench =>
        bench.tunes_adjustConnected handle (.setRealSetting item index value)
  | writeAnalog handle channel range flags value =>
      exact .tune fun bench =>
        bench.tunes_adjustConnected handle (.writeAnalog channel range flags value)
  | configurePort handle port direction =>
      exact .tune fun bench => bench.tunes_adjustConnected handle (.configurePort port direction)
  | configureBit handle port bit direction =>
      exact .tune fun bench =>
        bench.tunes_adjustConnected handle (.configureBit port bit direction)
  | writePort handle port value =>
      exact .tune fun bench => bench.tunes_adjustConnected handle (.writePort port value)
  | writeBit handle port bit value =>
      exact .tune fun bench => bench.tunes_adjustConnected handle (.writeBit port bit value)
  | loadRegister handle counter register value =>
      exact .tune fun bench =>
        bench.tunes_adjustConnected handle (.loadRegister counter register value)
  | clearCounter handle counter =>
      exact .tune fun bench => bench.tunes_adjustConnected handle (.clearCounter counter)
  | setupCounter handle counter setup =>
      exact .tune fun bench => bench.tunes_adjustConnected handle (.setupCounter counter setup)
  | startTimer handle timer request =>
      exact .tune fun bench => bench.tunes_exchange handle (.startTimer timer request _)
  | stopTimer handle timer =>
      exact .tune fun bench => bench.tunes_adjustConnected handle (.stopTimer timer)
  | setTrigger handle target channel trigger =>
      exact .tune fun bench =>
        bench.tunes_adjustConnected handle (.setTrigger target channel trigger)
  | setSyncInTrigger handle channel trigger =>
      exact .tune fun bench =>
        bench.tunes_adjustConnected handle (.setSyncTrigger .syncIn channel trigger)
  | setSyncOutTrigger handle channel trigger =>
      exact .tune fun bench =>
        bench.tunes_adjustConnected handle (.setSyncTrigger .syncOut channel trigger)
  | writeMemory handle region address data =>
      exact .tune fun bench =>
        bench.tunes_adjustConnected handle (.writeMemory region address data)
  | _ => simp [Request.action?, Request.start?] at asks

theorem plain_of_stimulus {α : Type} {stimulus : Stimulus α} (asks : stimulus.action? = none) :
    Plain (.stimulus stimulus) := by
  cases stimulus with
  | attach descriptor profile => exact .attach descriptor profile
  | setInput handle channel volts =>
      apply Plain.tune
      intro bench
      apply bench.tunes_adjust handle
      intro before after done
      exact (Except.ok.inj done) ▸ .setInput channel volts
  | setLevels handle port levels =>
      exact .tune fun bench => bench.tunes_adjust handle (.setLevels port levels)
  | presetCounter handle counter value =>
      exact .tune fun bench => bench.tunes_adjust handle (.presetCounter counter value)
  | _ => simp [Stimulus.action?] at asks

/-- A command that asks for no action opens, closes, attaches, edits or tunes. -/
theorem plain_of_action?_eq_none {command : Command} (asks : command.action? = none) :
    Plain command := by
  cases command with
  | request request => exact plain_of_request asks
  | stimulus stimulus => exact plain_of_stimulus asks
  | edit edit => exact .edit edit

end Command

namespace Bench

/-! ## Opening and closing -/

/-- Opening a device puts it behind the next handle, or is refused. -/
theorem step_create (bench : Bench) (descriptor : Descriptor) :
    (∃ known profile,
      (bench.driver.inventory.find? fun entry => entry.1.sameUnit descriptor) =
        some (known, profile) ∧
      bench.step (.request (.create descriptor)) =
        (bench.withDriver { bench.driver.put bench.driver.nextHandle (.initial known profile) with
          nextHandle := bench.driver.nextHandle + 1 }, [])) ∨
    (bench.driver.inventory.find? fun entry => entry.1.sameUnit descriptor) = none ∧
      bench.step (.request (.create descriptor)) = (bench, []) := by
  simp only [step, Request.serve, Driver.create]
  cases bench.driver.inventory.find? fun entry => entry.1.sameUnit descriptor with
  | none => exact .inr ⟨rfl, rfl⟩
  | some entry => exact .inl ⟨entry.1, entry.2, rfl, rfl⟩

/-- Closing a device drops what is behind its handle, or is refused. -/
theorem step_release (bench : Bench) (handle : Handle) :
    (∃ device, bench.driver.instruments.get? handle = some device ∧
      bench.step (.request (.release handle)) =
        (bench.withDriver (Driver.record
          { bench.driver with instruments := bench.driver.instruments.erase handle }
          handle .release), [])) ∨
    bench.driver.instruments.get? handle = none ∧
      bench.step (.request (.release handle)) = (bench, []) := by
  simp only [step, Request.serve, Bench.change, Driver.release, Driver.instrument]
  cases bench.driver.instruments.get? handle with
  | none => exact .inr ⟨rfl, rfl⟩
  | some device => exact .inl ⟨device, rfl, rfl⟩

end Bench

namespace Command

/-- No handler is due after a plain command. -/
theorem Plain.due_eq_nil {command : Command} (plain : command.Plain) (bench : Bench) :
    (bench.step command).2 = [] := by
  cases plain with
  | create descriptor =>
      rcases bench.step_create descriptor with ⟨_, _, _, opened⟩ | ⟨_, unchanged⟩
      · rw [opened]
      · rw [unchanged]
  | release handle =>
      rcases bench.step_release handle with ⟨_, _, closed⟩ | ⟨_, unchanged⟩
      · rw [closed]
      · rw [unchanged]
  | attach descriptor profile => rfl
  | edit edit => rfl
  | tune tunes => exact (tunes bench).2

/-- Of the plain commands, only an edit writes to a storage. -/
theorem Plain.store_eq {command : Command} (plain : command.Plain)
    (unedited : ∀ edit, command ≠ .edit edit) (bench : Bench) :
    (bench.step command).1.store = bench.store := by
  cases plain with
  | create descriptor =>
      rcases bench.step_create descriptor with ⟨_, _, _, opened⟩ | ⟨_, unchanged⟩
      · rw [opened]
        rfl
      · rw [unchanged]
  | release handle =>
      rcases bench.step_release handle with ⟨_, _, closed⟩ | ⟨_, unchanged⟩
      · rw [closed]
        rfl
      · rw [unchanged]
  | attach descriptor profile => rfl
  | edit edit => exact absurd rfl (unedited edit)
  | tune tunes => exact (tunes bench).1.store

end Command

end Acquisition
