import Acquisition.Proofs.Follow

/-!
# Tunings

A tuning is an adjustment of a device as data: which one it is, and what it takes.  A command
that asks for a tuning does just that or changes nothing (`step_of_tuning`), and a command that
makes a device neither take an action nor a tuning leaves it as it is (`tuned_or_same`).  So
what a command does to a part of the state that only some adjustments touch can be read off
the command and off whether the device accepts it (`tuned?`).
-/

namespace Acquisition

/-- What is done to a device that touches neither its connection nor its queue nor its scans
nor its bindings. -/
inductive Tuning where
  | flashLed (count : Int)
  | setSetting (item : Int) (index : Nat) (value : Int)
  | setRealSetting (item : Int) (index : Nat) (value : Float)
  | writeAnalog (channel : Int) (range : Range) (flags : Flags .analogOutWrite) (value : Float)
  | configurePort (kind : PortKind) (direction : Direction)
  | configureBit (kind : PortKind) (bit : Int) (direction : Direction)
  | writePort (kind : PortKind) (value : UInt64)
  | writeBit (kind : PortKind) (bit : Int) (value : Nat)
  | setLevels (kind : PortKind) (levels : UInt64)
  | setInput (channel : Int) (volts : Float)
  | loadRegister (counter : Int) (register : Flags .register) (value : UInt64)
  | clearCounter (counter : Int)
  | presetCounter (counter : Int) (value : UInt64)
  | setupCounter (counter : Int) (setup : CounterSetup)
  | startTimer (timer : Int) (request : PulseRequest)
  | stopTimer (timer : Int)
  | setTrigger (target : TriggerTarget) (channel : Int) (trigger : Trigger)
  | setSyncTrigger (target : ScanTarget) (channel : SyncChannel .syncInChannel)
      (trigger : Trigger)
  | writeMemory (region : Flags .memoryRegion) (address : UInt32) (data : List UInt8)

namespace Tuning

/-- Whether a tuning comes from outside, and so does not need a connection. -/
def isOutside : Tuning → Bool
  | setLevels .. | setInput .. | presetCounter .. => true
  | _ => false

/-- What a tuning changes. -/
def change (device : Instrument) : Tuning → Except Error Instrument
  | flashLed count => device.flashLed count
  | setSetting item index value => device.setSetting item index value
  | setRealSetting item index value => device.setRealSetting item index value
  | writeAnalog channel range flags value => device.writeAnalog channel range flags value
  | configurePort kind direction => device.updatePort kind fun port => port.configure direction
  | configureBit kind bit direction =>
      device.updatePort kind fun port => port.configureBit bit direction
  | writePort kind value => device.updatePort kind fun port => port.write value
  | writeBit kind bit value => device.updatePort kind fun port => port.writeBit bit value
  | setLevels kind levels =>
      device.updatePort kind fun port => .ok { port with levels := levels }
  | setInput channel volts => .ok { device with inputs := device.inputs.set channel volts }
  | loadRegister counter register value => device.loadRegister counter register value
  | clearCounter counter => device.clearCounter counter
  | presetCounter counter value => device.presetCounter counter value
  | setupCounter counter setup => device.setupCounter counter setup
  | startTimer timer request => do return (← device.startTimer timer request).2
  | stopTimer timer => device.stopTimer timer
  | setTrigger target channel trigger => device.setTrigger target channel trigger
  | setSyncTrigger target channel trigger => device.setSyncTrigger target channel trigger
  | writeMemory region address data => device.writeMemory region address data

/-- The device after a tuning. -/
def act (device : Instrument) (tuning : Tuning) : Except Error Instrument :=
  if device.isConnected || tuning.isOutside then tuning.change device
  else .error .devNotConnected

variable {tuning : Tuning} {device after : Instrument}

theorem act_eq_ok_iff :
    tuning.act device = .ok after ↔
      (device.isConnected = true ∨ tuning.isOutside = true) ∧ tuning.change device = .ok after := by
  unfold act
  split
  · next ready => simp [Bool.or_eq_true_iff.mp ready]
  · next unready => simp [mt Bool.or_eq_true_iff.mpr unready]

/-- Every tuning is an adjustment. -/
theorem adjusts (done : tuning.change device = .ok after) : device.Adjustment after := by
  cases tuning with
  | flashLed => exact .flashLed _ done
  | setSetting => exact .setSetting _ _ _ done
  | setRealSetting => exact .setRealSetting _ _ _ done
  | writeAnalog => exact .writeAnalog _ _ _ _ done
  | configurePort => exact .configurePort _ _ done
  | configureBit => exact .configureBit _ _ _ done
  | writePort => exact .writePort _ _ done
  | writeBit => exact .writeBit _ _ _ done
  | setLevels => exact .setLevels _ _ done
  | setInput => exact (Except.ok.inj done) ▸ .setInput _ _
  | loadRegister => exact .loadRegister _ _ _ done
  | clearCounter => exact .clearCounter _ done
  | presetCounter => exact .presetCounter _ _ done
  | setupCounter => exact .setupCounter _ _ done
  | startTimer =>
      obtain ⟨⟨timing, started⟩, started, same⟩ := bind_eq_ok_iff.mp done
      exact (pure_eq_ok_iff.mp same) ▸ .startTimer _ _ timing started
  | stopTimer => exact .stopTimer _ done
  | setTrigger => exact .setTrigger _ _ _ done
  | setSyncTrigger => exact .setSyncTrigger _ _ _ done
  | writeMemory => exact .writeMemory _ _ _ done

/-- Whether a tuning makes a setting. -/
def isSetting : Tuning → Bool
  | setSetting .. | setRealSetting .. => true
  | _ => false

/-- Whether a tuning puts a value into a register. -/
def isLoad : Tuning → Bool
  | loadRegister .. | clearCounter .. | presetCounter .. => true
  | _ => false

/-- Whether a tuning sets a trigger. -/
def isTrigger : Tuning → Bool
  | setTrigger .. | setSyncTrigger .. => true
  | _ => false

/-- Whether a tuning writes to the memory. -/
def isMemoryWrite : Tuning → Bool
  | writeMemory .. => true
  | _ => false

/-- The settings are left alone unless a setting is made, the registers unless a value is put into
one, the trigger unless one is set, and the memory unless bytes are written to it. -/
structure Spares (tuning : Tuning) (before after : Instrument) : Prop where
  settings : tuning.isSetting = false → after.settings = before.settings := by exact fun _ => rfl
  realSettings : tuning.isSetting = false → after.realSettings = before.realSettings := by
    exact fun _ => rfl
  registers : tuning.isLoad = false → after.registers = before.registers := by exact fun _ => rfl
  trigger : tuning.isTrigger = false → after.trigger = before.trigger := by exact fun _ => rfl
  memory : tuning.isMemoryWrite = false → after.memory = before.memory := by exact fun _ => rfl

theorem spares (done : tuning.change device = .ok after) : tuning.Spares device after := by
  cases tuning with
  | flashLed count =>
      simp only [change, Instrument.flashLed] at done
      split at done
      · contradiction
      · exact (Except.ok.inj done) ▸ {}
  | setSetting item index value =>
      simp only [change, Instrument.setSetting, bind_eq_ok_iff, pure_eq_ok_iff] at done
      obtain ⟨_, _, _, _, rfl⟩ := done
      exact { settings := fun plain => by cases plain }
  | setRealSetting item index value =>
      simp only [change, Instrument.setRealSetting] at done
      split at done
      · contradiction
      · simp only [bind_eq_ok_iff, pure_eq_ok_iff] at done
        obtain ⟨_, _, _, _, rfl⟩ := done
        exact { realSettings := fun plain => by cases plain }
  | writeAnalog channel range flags value =>
      simp only [change, Instrument.writeAnalog, bind_eq_ok_iff, pure_eq_ok_iff] at done
      obtain ⟨_, _, _, _, rfl⟩ := done
      exact {}
  | configurePort | configureBit | writePort | writeBit | setLevels =>
      simp only [change, Instrument.updatePort, bind_eq_ok_iff, pure_eq_ok_iff] at done
      obtain ⟨_, _, rfl⟩ := done
      exact {}
  | setInput channel volts => exact (Except.ok.inj done) ▸ {}
  | loadRegister counter register value =>
      simp only [change, Instrument.loadRegister, bind_eq_ok_iff] at done
      obtain ⟨_, _, done⟩ := done
      split at done <;> exact (pure_eq_ok_iff.mp done) ▸ { registers := fun plain => by cases plain }
  | clearCounter counter =>
      simp only [change, Instrument.clearCounter, bind_eq_ok_iff, pure_eq_ok_iff] at done
      obtain ⟨_, _, rfl⟩ := done
      exact { registers := fun plain => by cases plain }
  | presetCounter counter value =>
      simp only [change, Instrument.presetCounter, bind_eq_ok_iff, pure_eq_ok_iff] at done
      obtain ⟨_, _, rfl⟩ := done
      exact { registers := fun plain => by cases plain }
  | setupCounter counter setup =>
      simp only [change, Instrument.setupCounter, bind_eq_ok_iff, pure_eq_ok_iff] at done
      obtain ⟨_, _, rfl⟩ := done
      exact {}
  | startTimer timer request =>
      obtain ⟨⟨timing, started⟩, started, same⟩ := bind_eq_ok_iff.mp done
      obtain rfl := pure_eq_ok_iff.mp same
      simp only [Instrument.startTimer, bind_eq_ok_iff] at started
      obtain ⟨_, _, started⟩ := started
      split at started
      · contradiction
      · simp only [bind_eq_ok_iff, pure_eq_ok_iff, Prod.mk.injEq] at started
        obtain ⟨_, _, _, _, _, _, _, rfl⟩ := started
        exact {}
  | stopTimer timer =>
      simp only [change, Instrument.stopTimer, bind_eq_ok_iff, pure_eq_ok_iff] at done
      obtain ⟨_, _, rfl⟩ := done
      exact {}
  | setTrigger target channel trigger =>
      simp only [change, Instrument.setTrigger, bind_eq_ok_iff, pure_eq_ok_iff] at done
      obtain ⟨_, _, rfl⟩ := done
      exact { trigger := fun plain => by cases plain }
  | setSyncTrigger target channel trigger =>
      simp only [change, Instrument.setSyncTrigger, bind_eq_ok_iff, pure_eq_ok_iff] at done
      obtain ⟨_, _, _, _, rfl⟩ := done
      exact { trigger := fun plain => by cases plain }
  | writeMemory region address data =>
      simp only [change, Instrument.writeMemory, bind_eq_ok_iff] at done
      obtain ⟨_, _, done⟩ := done
      split at done
      · simp only [bind_eq_ok_iff, pure_eq_ok_iff] at done
        obtain ⟨_, _, rfl⟩ := done
        exact { memory := fun plain => by cases plain }
      · contradiction

end Tuning

/-! ## Commands that ask for a tuning -/

/-- The tuning that a request asks for, with the device it is for. -/
def Request.tuning? {α : Type} : Request α → Option (Handle × Tuning)
  | flashLed handle count => some (handle, .flashLed count)
  | setSetting handle item index value => some (handle, .setSetting item index value)
  | setRealSetting handle item index value => some (handle, .setRealSetting item index value)
  | writeAnalog handle channel range flags value =>
      some (handle, .writeAnalog channel range flags value)
  | configurePort handle kind direction => some (handle, .configurePort kind direction)
  | configureBit handle kind bit direction => some (handle, .configureBit kind bit direction)
  | writePort handle kind value => some (handle, .writePort kind value)
  | writeBit handle kind bit value => some (handle, .writeBit kind bit value)
  | loadRegister handle counter register value =>
      some (handle, .loadRegister counter register value)
  | clearCounter handle counter => some (handle, .clearCounter counter)
  | setupCounter handle counter setup => some (handle, .setupCounter counter setup)
  | startTimer handle timer request => some (handle, .startTimer timer request)
  | stopTimer handle timer => some (handle, .stopTimer timer)
  | setTrigger handle target channel trigger => some (handle, .setTrigger target channel trigger)
  | setSyncInTrigger handle channel trigger =>
      some (handle, .setSyncTrigger .syncIn channel trigger)
  | setSyncOutTrigger handle channel trigger =>
      some (handle, .setSyncTrigger .syncOut channel trigger)
  | writeMemory handle region address data => some (handle, .writeMemory region address data)
  | _ => none

/-- The tuning that a stimulus comes to, with the device it is for. -/
def Stimulus.tuning? {α : Type} : Stimulus α → Option (Handle × Tuning)
  | setInput handle channel volts => some (handle, .setInput channel volts)
  | setLevels handle kind levels => some (handle, .setLevels kind levels)
  | presetCounter handle counter value => some (handle, .presetCounter counter value)
  | _ => none

/-- The tuning that a command asks for, with the device it is for. -/
def Command.tuning? : Command → Option (Handle × Tuning)
  | .request asked => asked.tuning?
  | .stimulus applied => applied.tuning?
  | .edit _ => none

/-- A command that asks for an action asks for no tuning. -/
theorem Command.tuning?_of_action? {command : Command} {asked : Handle × Action}
    (asks : command.action? = some asked) : command.tuning? = none := by
  cases command with
  | request request =>
      cases request <;>
        first | rfl | simp [Command.action?, Request.action?, Request.start?] at asks
  | stimulus stimulus =>
      cases stimulus <;> first | rfl | simp [Command.action?, Stimulus.action?] at asks
  | edit edit => rfl

namespace Bench

variable {bench : Bench} {handle : Handle} {command : Command} {tuning : Tuning}

/-- The bench after a tuning of the device behind a handle, which is refused or accepted. -/
def tune (bench : Bench) (handle : Handle) (tuning : Tuning) : Bench × List Due :=
  match bench.driver.instruments.get? handle with
  | none => (bench, [])
  | some device =>
      match tuning.act device with
      | .ok after => (bench.put handle after, [])
      | .error _ => (bench, [])

section Settled

variable {α : Type}

@[simp]
theorem settled_ask (bench : Bench) (handle : Handle) (question : Instrument → Except Error α) :
    bench.settled (bench.ask handle question) = (bench, []) := by
  cases answered : bench.ask handle question with
  | error error => rfl
  | ok outcome =>
      obtain ⟨_, _, _, _, rfl⟩ := ask_eq_ok_iff.mp answered
      rfl

@[simp]
theorem settled_askConnected (bench : Bench) (handle : Handle)
    (question : Instrument → Except Error α) :
    bench.settled (bench.askConnected handle question) = (bench, []) := by
  cases answered : bench.askConnected handle question with
  | error error => rfl
  | ok outcome =>
      obtain ⟨_, _, _, _, _, rfl⟩ := askConnected_eq_ok_iff.mp answered
      rfl

theorem tune_of_adjust (bench : Bench) (handle : Handle) (outside : tuning.isOutside = true) :
    bench.tune handle tuning = bench.settled (bench.adjust handle tuning.change) := by
  unfold tune adjust Driver.instrument
  cases bench.driver.instruments.get? handle with
  | none => rfl
  | some device =>
      have ready : tuning.act device = tuning.change device := by simp [Tuning.act, outside]
      simp only [ready, bind, Except.bind]
      cases tuning.change device <;> rfl

theorem tune_of_adjustConnected (bench : Bench) (handle : Handle)
    (inside : tuning.isOutside = false) :
    bench.tune handle tuning = bench.settled (bench.adjustConnected handle tuning.change) := by
  unfold tune adjustConnected Driver.connected Driver.instrument
  cases bench.driver.instruments.get? handle with
  | none => rfl
  | some device =>
      cases connected : device.isConnected with
      | false => simp [settled, Tuning.act, connected, inside, bind, Except.bind]
      | true =>
          have ready : tuning.act device = tuning.change device := by
            simp [Tuning.act, connected]
          simp only [ready, connected, bind, Except.bind, pure, Except.pure, if_true]
          cases tuning.change device <;> rfl

/-- Starting a timer answers its timing beside. -/
theorem tune_of_startTimer (bench : Bench) (handle : Handle) (timer : Int)
    (request : PulseRequest) :
    bench.tune handle (.startTimer timer request) =
      bench.settled (bench.exchange handle fun device => device.startTimer timer request) := by
  rw [bench.tune_of_adjustConnected handle rfl]
  unfold exchange adjustConnected
  cases bench.driver.connected handle with
  | error error => rfl
  | ok device =>
      simp only [bind, Except.bind, Tuning.change]
      cases device.startTimer timer request <;> rfl

end Settled

theorem settled_serve_of_tuning {α : Type} {request : Request α}
    (asks : request.tuning? = some (handle, tuning)) (bench : Bench) :
    bench.settled (request.serve bench) = bench.tune handle tuning := by
  cases request with
  | startTimer =>
      obtain ⟨rfl, rfl⟩ := asks
      exact (bench.tune_of_startTimer _ _ _).symm
  | flashLed | setSetting | setRealSetting | writeAnalog | configurePort | configureBit
  | writePort | writeBit | loadRegister | clearCounter | setupCounter | stopTimer | setTrigger
  | setSyncInTrigger | setSyncOutTrigger | writeMemory =>
      obtain ⟨rfl, rfl⟩ := asks
      symm
      refine bench.tune_of_adjustConnected _ ?_
      rfl
  | _ => simp [Request.tuning?] at asks

theorem settled_apply_of_tuning {α : Type} {stimulus : Stimulus α}
    (asks : stimulus.tuning? = some (handle, tuning)) (bench : Bench) :
    bench.settled (stimulus.apply bench) = bench.tune handle tuning := by
  cases stimulus with
  | setInput | setLevels | presetCounter =>
      obtain ⟨rfl, rfl⟩ := asks
      symm
      refine bench.tune_of_adjust _ ?_
      rfl
  | _ => simp [Stimulus.tuning?] at asks

/-- A command that asks for a tuning does just that. -/
theorem step_of_tuning (asks : command.tuning? = some (handle, tuning)) (bench : Bench) :
    bench.step command = bench.tune handle tuning := by
  cases command with
  | request request => exact settled_serve_of_tuning asks bench
  | stimulus stimulus => exact settled_apply_of_tuning asks bench
  | edit edit => simp [Command.tuning?] at asks

/-- A command that asks for neither an action nor a tuning, and neither opens nor closes a
device, leaves the devices alone. -/
theorem instruments_of_untuned (acts : command.action? = none) (asks : command.tuning? = none)
    (opens : ∀ descriptor, command ≠ .request (.create descriptor))
    (closes : ∀ released, command ≠ .request (.release released)) (bench : Bench) :
    (bench.step command).1.driver.instruments = bench.driver.instruments := by
  cases command with
  | request request =>
      cases request with
      | create descriptor => exact absurd rfl (opens descriptor)
      | release released => exact absurd rfl (closes released)
      | inventory => rfl
      | descriptor | isConnected | integerItem | realItem | scanStatus | memoryArea =>
          simp only [step, Request.serve, settled_ask]
      | versionText | setting | realSetting | textSetting | portSetting | readAnalog | readPort
      | readBit | readCounter | readRegister | timerStatus | readMemory =>
          simp only [step, Request.serve, settled_askConnected]
      | libraryText item index =>
          simp only [step, Request.serve]
          cases bench.driver.libraryText item <;> rfl
      | librarySetting item index =>
          simp only [step, Request.serve]
          cases bench.driver.librarySetting item <;> rfl
      | setLibrarySetting item index value =>
          simp only [step, Request.serve, change]
          cases accepted : bench.driver.setLibrarySetting item value with
          | error error => rfl
          | ok driver =>
              unfold Driver.setLibrarySetting at accepted
              split at accepted
              · contradiction
              · split at accepted
                · exact (Except.ok.inj accepted) ▸ rfl
                · contradiction
      | _ => simp [Command.action?, Request.action?, Request.start?, Command.tuning?,
          Request.tuning?] at acts asks
  | stimulus stimulus =>
      cases stimulus with
      | attach => rfl
      | _ => simp [Command.action?, Stimulus.action?, Command.tuning?, Stimulus.tuning?]
          at acts asks
  | edit edit => rfl

/-! ## The tuning that a device takes -/

/-- The tuning that a command makes the device behind a handle take. -/
def tuned? (bench : Bench) (handle : Handle) (command : Command) : Option Tuning := do
  let (asked, tuning) ← command.tuning?
  let device ← bench.driver.instruments.get? handle
  if asked = handle ∧ (tuning.act device).isOk then some tuning else none

theorem tuned?_eq_some_iff :
    bench.tuned? handle command = some tuning ↔
      command.tuning? = some (handle, tuning) ∧
      ∃ device after, bench.driver.instruments.get? handle = some device ∧
        tuning.act device = .ok after := by
  simp only [tuned?, Option.bind_eq_bind, Option.bind_eq_some_iff]
  constructor
  · rintro ⟨⟨asked, wanted⟩, asks, device, found, accepted⟩
    split at accepted
    · next holds =>
        obtain ⟨rfl, answers⟩ := holds
        obtain rfl := Option.some.inj accepted
        refine ⟨asks, device, ?_⟩
        cases done : wanted.act device with
        | error error => simp [done, Except.isOk, Except.toBool] at answers
        | ok after => exact ⟨after, found, rfl⟩
    · contradiction
  · rintro ⟨asks, device, after, found, done⟩
    exact ⟨(handle, tuning), asks, device, found, by simp [done, Except.isOk, Except.toBool]⟩

/-- A command that asks for an action makes no device take a tuning. -/
theorem tuned?_of_action? {asked : Handle × Action} (asks : command.action? = some asked) :
    bench.tuned? handle command = none := by
  simp [tuned?, Command.tuning?_of_action? asks]

variable {device after : Instrument}

section Step

variable (found : bench.driver.instruments.get? handle = some device)
  (still : (bench.step command).1.driver.instruments.get? handle = some after)

include found still

/-- An action that a device does not take leaves it as it is. -/
theorem same_of_action? {asked : Handle × Action} (asks : command.action? = some asked)
    (idle : bench.taken? handle command = none) : after = device := by
  rcases step_cases asks bench with ⟨other, result, there, done, acted, _⟩ | unchanged
  · have ne : handle ≠ asked.1 := by
      rintro rfl
      rw [taken?_eq_some_iff.mpr ⟨asks, other, result, there, done⟩] at idle
      contradiction
    rw [acted.instruments, Table.get?_set_of_ne _ ne, found] at still
    exact (Option.some.inj still).symm
  · rw [unchanged, found] at still
    exact (Option.some.inj still).symm

/-- A command that asks for neither an action nor a tuning leaves a device as it is. -/
theorem same_of_untuned (acts : command.action? = none) (asks : command.tuning? = none)
    (issued : handle < bench.driver.nextHandle) : after = device := by
  by_cases opens : ∃ descriptor, command = .request (.create descriptor)
  · obtain ⟨descriptor, rfl⟩ := opens
    rcases bench.step_create descriptor with ⟨_, _, _, opened⟩ | ⟨_, unchanged⟩
    · rw [opened] at still
      have other := (Table.get?_set_of_ne _ (Int.ne_of_lt issued) _).symm.trans still
      exact (Option.some.inj (found.symm.trans other)).symm
    · rw [unchanged, found] at still
      exact (Option.some.inj still).symm
  by_cases closes : ∃ released, command = .request (.release released)
  · obtain ⟨released, rfl⟩ := closes
    rcases bench.step_release released with ⟨_, _, closed⟩ | ⟨_, unchanged⟩
    · rw [closed] at still
      by_cases same : handle = released
      · subst same
        have gone := (Table.get?_erase_self _ _).symm.trans still
        contradiction
      · have other := (Table.get?_erase_of_ne _ same).symm.trans still
        exact (Option.some.inj (found.symm.trans other)).symm
    · rw [unchanged, found] at still
      exact (Option.some.inj still).symm
  rw [instruments_of_untuned acts asks (fun descriptor same => opens ⟨descriptor, same⟩)
    (fun released same => closes ⟨released, same⟩) bench, found] at still
  exact (Option.some.inj still).symm

/-- A command that asks for a tuning makes a device take it, or leaves it as it is. -/
theorem tuned_or_same_of_tuning? {asked : Handle} (wants : command.tuning? = some (asked, tuning)) :
    (bench.tuned? handle command = none ∧ after = device) ∨
    bench.tuned? handle command = some tuning ∧ tuning.act device = .ok after := by
  rw [step_of_tuning wants bench, tune] at still
  by_cases same : asked = handle
  · subst same
    rw [found] at still
    cases done : tuning.act device with
    | ok tuned =>
        simp only [done, put, withDriver, Driver.put, Table.get?_set_self] at still
        obtain rfl := Option.some.inj still
        exact .inr ⟨tuned?_eq_some_iff.mpr ⟨wants, device, tuned, found, done⟩, rfl⟩
    | error error =>
        simp only [done, found] at still
        refine .inl ⟨?_, (Option.some.inj still).symm⟩
        simp [tuned?, wants, found, done, Except.isOk, Except.toBool]
  · refine .inl ⟨by simp [tuned?, wants, same], ?_⟩
    split at still
    · exact (Option.some.inj (found.symm.trans still)).symm
    · split at still
      · have other := (Table.get?_set_of_ne _ (Ne.symm same) _).symm.trans still
        exact (Option.some.inj (found.symm.trans other)).symm
      · exact (Option.some.inj (found.symm.trans still)).symm

/-- A device that takes no action takes the tuning that it is asked for, or stays as it is. -/
theorem tuned_or_same (idle : bench.taken? handle command = none)
    (issued : handle < bench.driver.nextHandle) :
    (bench.tuned? handle command = none ∧ after = device) ∨
    ∃ tuning, bench.tuned? handle command = some tuning ∧ tuning.act device = .ok after := by
  cases acts : command.action? with
  | some asked => exact .inl ⟨tuned?_of_action? acts, same_of_action? found still acts idle⟩
  | none =>
      cases wants : command.tuning? with
      | some asked =>
          rcases tuned_or_same_of_tuning? found still wants with same | tuned
          · exact .inl same
          · exact .inr ⟨asked.2, tuned⟩
      | none =>
          exact .inl ⟨by simp [tuned?, wants], same_of_untuned found still acts wants issued⟩

end Step

end Bench

end Acquisition
