import Acquisition.Proofs.PortViews
import Acquisition.Proofs.Settings
import Acquisition.Proofs.Unasked

/-!
# Settings along a session

Only making a setting on a device changes what the device keeps of its settings
(`Bench.made_of_step`), and making one changes that one alone.  So a device keeps of each setting
the value that it was given last and has accepted, through whatever else happens in a session
(`World.stands_run`), and tells it when it is asked.

Main statement: `World.settings_told`.
-/

namespace Acquisition

/-! ## Commands that make no setting -/

/-- Whether an operation makes a setting. -/
def Operation.makesSetting {α : Type} : Operation α → Bool
  | .makeSetting .. => true
  | _ => false

/-- The handle of the device that a command makes a setting on. -/
def Command.sets? (command : Command) : Option Handle :=
  command.tuning?.bind fun (handle, tuning) => if tuning.isSetting then some handle else none

/-- The handle of the device that a move makes a setting on past the device. -/
def Move.sets? : Move → Option Handle
  | .request asked => (Command.request asked).sets?
  | _ => none

theorem Move.asks?_isSetting (move : Move) : move.asks? Tuning.isSetting = move.sets? := by
  cases move <;> rfl

theorem Tuning.isAskedFor_isSetting : Tuning.IsAskedFor Tuning.isSetting := by
  intro tuning plain
  cases tuning <;> first | rfl | contradiction

theorem Operation.spares_isSetting {α : Type} {operation : Operation α}
    (unset : operation.makesSetting = false) : operation.Spares Tuning.isSetting := by
  intro request comes handle
  cases operation with
  | setTrigger | setSyncInTrigger | setSyncOutTrigger =>
      obtain rfl := Option.some.inj comes
      rfl
  | _ => contradiction

/-- A command that makes no setting on a device leaves its settings alone. -/
theorem Bench.made_of_step {bench : Bench} {command : Command} {handle : Handle}
    {device after : Instrument} (unset : command.asks? Tuning.isSetting ≠ some handle)
    (issued : handle < bench.driver.nextHandle)
    (found : bench.driver.instruments.get? handle = some device)
    (still : (bench.step command).1.driver.instruments.get? handle = some after) :
    after.made = device.made := by
  refine part_of_step (fun done => ?_) (fun plain done => ?_) unset issued found still
  · obtain ⟨_, _, _, _, _, _, _, _, rest⟩ := Action.rest_of_act done
    rw [rest]
    rfl
  · have spares := Tuning.spares done
    exact Prod.ext (spares.settings plain) (spares.realSettings plain)

namespace World

variable {α β : Type} {world after : World} {id : DeviceId} {handle : Handle}

/-! ## The value that a setting was given last -/

/-- The value that a move gives a setting of a device, if the device accepts it. -/
def given? (world : World) (id : DeviceId) (setting : AnalogSetting α) : Move → Option α
  | .call other (.makeSetting which value) =>
      if other = id ∧ (world.answer other (.makeSetting which value)).isOk then
        setting.gets? which value
      else none
  | _ => none

/-- The value that moves give a setting of a device last, or else the one that it had before. -/
def lastGiven? (id : DeviceId) (setting : AnalogSetting α) :
    World → Option α → List Move → Option α
  | _, last?, [] => last?
  | world, last?, move :: rest =>
      lastGiven? id setting (world.step move) ((world.given? id setting move).or last?) rest

/-- What a device with a handle keeps of a setting is the value that it was given last, if it is
there. -/
structure Stands (world : World) (id : DeviceId) (handle : Handle) (setting : AnalogSetting α)
    (last? : Option α) : Prop where
  absent : world.devices.get? id = none → last? = none
  holds : ∀ held device, world.devices.get? id = some held → held.handle = handle →
    world.bench.driver.instruments.get? handle = some device → setting.Holds device last?

section Stands

variable {setting : AnalogSetting α} {last? : Option α}

/-- Moves that make no setting on a device leave its settings standing. -/
theorem Stands.of_unset {deed : Option Deed} {slot : Option (DeviceId × ScanTarget)}
    (stands : world.Stands id handle setting last?) (sound : world.Sound)
    (follows : world.Follows deed slot after)
    (bench : ∃ commands : List Command,
      (∀ command ∈ commands, command.asks? Tuning.isSetting ≠ some handle) ∧
        after.bench = (world.bench.run commands).1) :
    after.Stands id handle setting last? where
  absent gone := by
    cases found : world.devices.get? id with
    | none => exact stands.absent found
    | some held =>
        obtain ⟨later, now, _⟩ := follows.present id held found
        rw [gone] at now
        contradiction
  holds later device now same there := by
    obtain ⟨commands, unset, reached⟩ := bench
    rw [reached] at there
    have kept := Bench.part_of_run Bench.made_of_step sound.reachable unset there
    cases found : world.devices.get? id with
    | none =>
        -- The device has just been opened.
        have fresh := (follows.fresh id later found now).handle
        obtain rfl := stands.absent found
        rcases kept with ⟨earlier, behind, _⟩ | ⟨_, descriptor, profile, unmade⟩
        · exact absurd (sound.reachable.issued behind) (by rw [← same, fresh]; exact Int.lt_irrefl _)
        · exact .of_made unmade .initial
    | some held =>
        obtain ⟨still, now', remains, _⟩ := follows.present id held found
        obtain rfl := Option.some.inj (now.symm.trans now')
        have issued := sound.issued found
        rw [← remains.handle, same] at issued
        rcases kept with ⟨earlier, behind, unmade⟩ | ⟨fresh, _⟩
        · exact .of_made unmade (stands.holds held earlier found (remains.handle ▸ same) behind)
        · exact absurd issued (Int.not_lt.mpr fresh)

end Stands

/-! ## Making a setting -/

/-- Making a setting on a device is refused and changes nothing, or the device has made it and
nothing else has changed. -/
theorem makeSetting_cases (direct : world.IsDirect) (id : DeviceId) (setting : AnalogSetting α)
    (value : α) :
    (∃ error, ((Operation.makeSetting setting value).perform id).on world = (.error error, world)) ∨
    ∃ held device made, world.devices.get? id = some held ∧ held.isReleased = false ∧
      world.bench.driver.instruments.get? held.handle = some device ∧
      device.isConnected = true ∧ setting.make value device = .ok made ∧
      ((Operation.makeSetting setting value).perform id).on world =
        (.ok (), { world with bench := world.bench.put held.handle made }) := by
  refine tuner_cases direct rfl (fun handle => ?_) id
  cases setting <;> rfl

section Stands

variable {setting : AnalogSetting α} {last? : Option α}

/-- A move that makes a setting on a device, if it is accepted, leaves the value standing. -/
theorem stands_makeSetting (stands : world.Stands id handle setting last?) (sound : world.Sound)
    (other : DeviceId) (which : AnalogSetting β) (value : β) :
    (world.step (.call other (.makeSetting which value))).Stands id handle setting
      ((world.given? id setting (.call other (.makeSetting which value))).or last?) := by
  rw [step_of_tuner? rfl, given?, answer]
  rcases makeSetting_cases sound.direct other which value with
    ⟨error, refused⟩ | ⟨held, device, made, found, _, there, _, done, accepted⟩
  · rw [refused, if_neg (fun given => Bool.false_ne_true given.2)]
    exact stands
  · rw [accepted]
    by_cases same : other = id
    · subst same
      rw [if_pos ⟨rfl, rfl⟩]
      refine ⟨fun gone => ?_, ?_⟩
      · rw [found] at gone
        contradiction
      · rintro later last found' rfl there'
        obtain rfl := Option.some.inj (found.symm.trans found')
        obtain rfl := Option.some.inj ((Table.get?_set_self _ _ _).symm.trans there')
        exact AnalogSetting.holds_of_make (stands.holds held device found rfl there) done
    · rw [if_neg fun given => same given.1]
      refine ⟨stands.absent, ?_⟩
      rintro later last found' rfl there'
      have apart : later.handle ≠ held.handle := fun shared =>
        same (sound.apart found found' shared.symm)
      exact stands.holds later last found' rfl
        ((Table.get?_set_of_ne _ apart _).symm.trans there')

/-- Whatever a move does, a device keeps the value that it was given last. -/
theorem stands_step (stands : world.Stands id handle setting last?) (sound : world.Sound)
    {move : Move} (unbypassed : move.sets? ≠ some handle) :
    (world.step move).Stands id handle setting ((world.given? id setting move).or last?) := by
  by_cases makes : ∃ (β : Type) (other : DeviceId) (which : AnalogSetting β) (value : β),
      move = .call other (.makeSetting which value)
  · obtain ⟨β, other, which, value, rfl⟩ := makes
    exact stands_makeSetting stands sound other which value
  · have spares : ∀ {α : Type} (id : DeviceId) (operation : Operation α),
        move = .call id operation → operation.Spares Tuning.isSetting := by
      rintro α id operation rfl
      apply Operation.spares_isSetting
      cases operation with
      | makeSetting which value => exact absurd ⟨_, _, _, _, rfl⟩ makes
      | _ => rfl
    have none : world.given? id setting move = none := by
      unfold given?
      split
      · exact absurd ⟨_, _, _, _, rfl⟩ makes
      · rfl
    rw [none, Option.none_or]
    rw [← Move.asks?_isSetting] at unbypassed
    exact stands.of_unset sound (sound.carries move).1
      (bench_of_unasked Tuning.isAskedFor_isSetting sound unbypassed spares)

theorem stands_run (stands : world.Stands id handle setting last?) (sound : world.Sound)
    {moves : List Move} (unbypassed : ∀ move ∈ moves, move.sets? ≠ some handle) :
    (world.run moves).Stands id handle setting (lastGiven? id setting world last? moves) := by
  induction moves generalizing world last? with
  | nil => exact stands
  | cons move rest ih =>
      obtain ⟨first, others⟩ := List.forall_mem_cons.mp unbypassed
      exact ih (stands_step stands sound first) (sound.carries move).2 others

end Stands

/-! ## What a device tells of its settings -/

/-- A connected device tells a setting when it is asked. -/
theorem Reaches.answer_currentSetting {held : Device} {device : Instrument}
    (reaches : world.Reaches id held device) (setting : AnalogSetting α) :
    world.answer id (.currentSetting setting) = setting.tell device := by
  have integer := Act.on_questionConnected reaches
    (fun handle => .setting handle setting.item setting.channel) rfl fun _ => rfl
  have real := Act.on_questionConnected reaches
    (fun handle => .realSetting handle setting.item setting.channel) rfl fun _ => rfl
  rw [answer, Operation.perform]
  rw [Act.on_bind_ok (Act.on_live reaches.found reaches.kept)] at integer real ⊢
  cases setting with
  | sensitivity | slope | offset => exact congrArg Prod.fst real
  | _ => exact congrArg Prod.fst (Act.on_bind_told integer fun _ => Act.on_resume world _)

/-- The settings of a device are a faithful store.  After every session in which no setting is made
on the device past it, a connected device tells of every setting that it has the value that the
setting was given last and has accepted, or else the default; a kind of channel whose flag has no
name is accepted and kept, but cannot be told.  A setting that is refused changes nothing, and one
that is accepted changes nothing but itself. -/
theorem settings_told {moves : List Move} {held : Device} {device : Instrument}
    (reaches : (initial.run moves).Reaches id held device)
    (unbypassed : ∀ move ∈ moves, move.sets? ≠ some held.handle) :
    let world := initial.run moves
    (∀ {α : Type} (setting : AnalogSetting α), device.HasChannel setting →
      world.answer id (.currentSetting setting) =
        setting.told ((lastGiven? id setting .initial none moves).getD setting.default)) ∧
    ∀ {β : Type} (which : AnalogSetting β) (value : β),
      (∀ error, world.answer id (.makeSetting which value) = .error error →
        world.after id (.makeSetting which value) = world) ∧
      (world.answer id (.makeSetting which value) = .ok () →
        (∃ made, device.Sets which.key made ∧ world.after id (.makeSetting which value) =
          { world with bench := world.bench.put held.handle made }) ∧
        ∀ {α : Type} (setting : AnalogSetting α), setting.gets? which value = none →
          (world.after id (.makeSetting which value)).answer id (.currentSetting setting) =
            world.answer id (.currentSetting setting)) := by
  intro world
  have sound : world.Sound := sound_run moves
  refine ⟨fun {α} setting there => ?_, fun which value => ?_⟩
  · have unmade : World.initial.Stands id held.handle setting none :=
      ⟨fun _ => rfl, fun _ _ found => by cases found⟩
    have stands := stands_run unmade sound_initial unbypassed
    rw [reaches.answer_currentSetting]
    exact AnalogSetting.tell_of_holds there (stands.holds held device reaches.found rfl reaches.there)
  · rcases makeSetting_cases sound.direct id which value with
      ⟨error, refused⟩ | ⟨held', device', made, found, kept, there, connected, done, accepted⟩
    · rw [answer, after, refused]
      exact ⟨fun _ _ => rfl, fun accepted => by cases accepted⟩
    · obtain rfl := Option.some.inj (reaches.found.symm.trans found)
      obtain rfl := Option.some.inj (reaches.there.symm.trans there)
      have sets := (AnalogSetting.sets_of_make done).2
      have changed : world.after id (.makeSetting which value) =
          { world with bench := world.bench.put held.handle made } := by
        rw [after, accepted]
      refine ⟨fun error refused => ?_, fun _ => ⟨⟨made, sets, changed⟩, fun setting other => ?_⟩⟩
      · rw [answer, accepted] at refused
        cases refused
      · have still : made.isConnected = true := by
          obtain ⟨_, _, rfl, _⟩ := sets
          exact connected
        have reached : (world.after id (.makeSetting which value)).Reaches id held made := by
          rw [changed]
          exact ⟨⟨sound.direct.1, sound.direct.2⟩, found, kept, Table.get?_set_self _ _ _, still⟩
        rw [reached.answer_currentSetting, reaches.answer_currentSetting]
        cases setting.meets which with
        | same => rw [AnalogSetting.gets?_self] at other; cases other
        | apart keys _ => exact AnalogSetting.tell_of_sets sets keys

/-- A device that measures voltages, thermocouples and one kind of channel without a name is opened
and connected. -/
def assorted : List Move :=
  let device := Descriptor.ofIdentity "USB-1808X" 317 (.named ["USB"]) "01D97CFA"
  let profile := Profile.multifunction.withInteger .analogIn Item.AnalogIn.channelKinds 0 0x23
  [.stimulus (.attach device profile), .take device, .call 0 .connect]

/-- Settings are made on the device, some of them are refused, and it is disconnected and connected
again. -/
def configured : List Move :=
  assorted ++ [.call 0 (.makeSetting (.channelKind 1) ⟨0x2⟩),
    .call 0 (.makeSetting (.thermocouple 1) .n), .call 0 (.makeSetting (.thermocouple 1) .k),
    .call 0 (.makeSetting (.channelKind 1) ⟨0x3⟩), .call 0 (.makeSetting (.thermocouple 99) .b),
    .call 0 (.makeSetting .temperatureUnit .kelvin), .call 0 .disconnect,
    .call 0 (.makeSetting .temperatureUnit .fahrenheit), .call 0 .connect]

/-- Each setting is told as it was accepted last, and making one leaves another alone. -/
theorem settings_told_configured :
    let world := initial.run configured
    world.answer 0 (.currentSetting (.channelKind 1)) = .ok ⟨0x2⟩ ∧
    world.answer 0 (.currentSetting (.thermocouple 1)) = .ok .k ∧
    world.answer 0 (.currentSetting (.thermocouple 0)) = .ok .j ∧
    world.answer 0 (.currentSetting .temperatureUnit) = .ok .kelvin ∧
    world.answer 0 (.makeSetting (.thermocouple 0) .b) = .ok () ∧
    (world.after 0 (.makeSetting (.thermocouple 0) .b)).answer 0
      (.currentSetting (.thermocouple 1)) = .ok .k := by
  have handle : ((initial.run configured).devices.get? 0).map (fun held =>
      (held.handle, held.isReleased)) = some (1, false) := by decide +kernel
  have profile : ((initial.run configured).bench.driver.instruments.get? 1).map (fun device =>
      (device.isConnected, device.profile.integerD .analogIn Item.AnalogIn.channelCount 0 0)) =
        some (true, 8) := by decide +kernel
  obtain ⟨held, found, parts⟩ := Option.map_eq_some_iff.mp handle
  obtain ⟨handle, kept⟩ := Prod.mk.inj parts
  obtain ⟨device, there, parts⟩ := Option.map_eq_some_iff.mp profile
  obtain ⟨connected, count⟩ := Prod.mk.inj parts
  have reaches : (initial.run configured).Reaches 0 held device :=
    ⟨(sound_run configured).direct, found, kept, handle ▸ there, connected⟩
  have unbypassed : ∀ move ∈ configured, move.sets? ≠ some held.handle := by
    simp only [configured, assorted, List.cons_append, List.nil_append, List.forall_mem_cons]
    exact ⟨nofun, nofun, nofun, nofun, nofun, nofun, nofun, nofun, nofun, nofun, nofun, nofun,
      List.forall_mem_nil _⟩
  have channel {α : Type} {setting : AnalogSetting α} {channel : Nat}
      (own : setting.channel? = some channel) (few : channel < 8) : device.HasChannel setting := by
    intro other same
    obtain rfl := Option.some.inj (own.symm.trans same)
    rw [count]
    exact Int.ofNat_lt.mpr few
  obtain ⟨tells, makes⟩ := settings_told reaches unbypassed
  have kind := tells (.channelKind 1) (channel rfl (by decide))
  have first := tells (.thermocouple 1) (channel rfl (by decide))
  have other := tells (.thermocouple 0) (channel rfl (by decide))
  have unit := tells .temperatureUnit nofun
  have accepted : (initial.run configured).answer 0 (.makeSetting (.thermocouple 0) .b) =
      .ok () := by decide +kernel
  have alone := ((makes (.thermocouple 0) .b).2 accepted).2 (.thermocouple 1) rfl
  rw [show lastGiven? 0 (.channelKind 1) .initial none configured = some ⟨0x2⟩ by decide +kernel]
    at kind
  rw [show lastGiven? 0 (.thermocouple 1) .initial none configured = some .k by decide +kernel]
    at first
  rw [show lastGiven? 0 (.thermocouple 0) .initial none configured = none by decide +kernel]
    at other
  rw [show lastGiven? 0 .temperatureUnit .initial none configured = some .kelvin by decide +kernel]
    at unit
  exact ⟨kind, first, other, unit, accepted, alone.trans first⟩

/-- A kind of channel without a name is accepted and cannot be told. -/
theorem not_settings_told_nameless :
    ¬∀ (moves : List Move) (id : DeviceId) (channel : Nat) (kind : Flags .analogChannel),
      (initial.run moves).answer id (.makeSetting (.channelKind channel) kind) = .ok () →
      ((initial.run moves).after id (.makeSetting (.channelKind channel) kind)).answer id
        (.currentSetting (.channelKind channel)) = .ok kind := by
  intro claim
  have accepted : (initial.run assorted).answer 0 (.makeSetting (.channelKind 0) ⟨0x20⟩) =
      .ok () := by decide +kernel
  have told := claim assorted 0 0 ⟨0x20⟩ accepted
  have refused : ((initial.run assorted).after 0 (.makeSetting (.channelKind 0) ⟨0x20⟩)).answer 0
      (.currentSetting (.channelKind 0)) = .error (.unknownValue "AiChanType" 0x20) := by
    decide +kernel
  rw [refused] at told
  cases told

end World

end Acquisition
