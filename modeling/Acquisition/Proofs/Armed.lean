import Acquisition.Proofs.PortViews
import Acquisition.Proofs.Triggers
import Acquisition.Proofs.Unasked

/-!
# Triggers along a session

Only setting a trigger on a device changes the one that it keeps (`Bench.armed_of_step`).  So a
device keeps the trigger that was set last and was accepted, wherever it was set, through whatever
else happens in a session (`World.armed_run`).  It is one flag that the profile reports for the part
it was set on, but if that was a timer, it can be anything that is not empty.

Main statement: `World.trigger_recorded`.
-/

namespace Acquisition

/-- A trigger of some kinds, without a level. -/
def Trigger.ofBits (bits : UInt32) : Trigger :=
  ⟨⟨bits⟩, 0, 0, 0⟩

/-! ## What sets a trigger -/

section Arms

variable {α : Type}

/-- Where an operation sets a trigger, and the trigger. -/
def Operation.arms? : Operation α → Option (TriggerInlet × Trigger)
  | .setTrigger target channel trigger => some (.part target channel, trigger)
  | .setSyncInTrigger channel trigger => some (.syncIn channel, trigger)
  | .setSyncOutTrigger channel trigger => some (.syncOut channel, trigger)
  | _ => none

/-- The handle of the device that a request sets a trigger on, where, and the trigger. -/
def Request.arms? : Request α → Option (Handle × TriggerInlet × Trigger)
  | .setTrigger handle target channel trigger => some (handle, .part target channel, trigger)
  | .setSyncInTrigger handle channel trigger => some (handle, .syncIn channel, trigger)
  | .setSyncOutTrigger handle channel trigger => some (handle, .syncOut channel, trigger)
  | _ => none

theorem Tuning.isAskedFor_isTrigger : Tuning.IsAskedFor Tuning.isTrigger := by
  intro tuning plain
  cases tuning <;> first | rfl | contradiction

/-- An operation sets a trigger on some part, or it sets none. -/
theorem Operation.arms_or_spares (operation : Operation α) (id : DeviceId) :
    (∃ inlet trigger, Move.call id operation = .call id (TriggerInlet.operation trigger inlet)) ∨
    operation.arms? = none ∧ operation.Spares Tuning.isTrigger := by
  cases operation with
  | setTrigger target channel trigger => exact .inl ⟨.part target channel, trigger, rfl⟩
  | setSyncInTrigger channel trigger => exact .inl ⟨.syncIn channel, trigger, rfl⟩
  | setSyncOutTrigger channel trigger => exact .inl ⟨.syncOut channel, trigger, rfl⟩
  | makeSetting setting value =>
      refine .inr ⟨rfl, fun request comes handle => ?_⟩
      obtain rfl := Option.some.inj comes
      cases setting <;> rfl
  | _ => exact .inr ⟨rfl, .of_untuned rfl⟩

/-- A request sets a trigger on some part of a device, or it sets none. -/
theorem Request.arms_or_spares (request : Request α) :
    (∃ asked inlet trigger, Move.request request =
      .request (TriggerInlet.request asked trigger inlet)) ∨
    request.arms? = none ∧ (Command.request request).asks? Tuning.isTrigger = none := by
  cases request with
  | setTrigger asked target channel trigger => exact .inl ⟨asked, .part target channel, trigger, rfl⟩
  | setSyncInTrigger asked channel trigger => exact .inl ⟨asked, .syncIn channel, trigger, rfl⟩
  | setSyncOutTrigger asked channel trigger => exact .inl ⟨asked, .syncOut channel, trigger, rfl⟩
  | _ => exact .inr ⟨rfl, rfl⟩

end Arms

namespace TriggerInlet

variable (inlet : TriggerInlet) (trigger : Trigger)

theorem tuner?_operation :
    (inlet.operation trigger).tuner? = some fun handle => inlet.request handle trigger := by
  cases inlet <;> rfl

@[simp]
theorem arms?_operation : (inlet.operation trigger).arms? = some (inlet, trigger) := by
  cases inlet <;> rfl

@[simp]
theorem arms?_request (handle : Handle) :
    (inlet.request handle trigger).arms? = some (handle, inlet, trigger) := by
  cases inlet <;> rfl

theorem serve_request (bench : Bench) (handle : Handle) :
    (inlet.request handle trigger).serve bench =
      bench.adjustConnected handle (inlet.set trigger) := by
  cases inlet <;> rfl

end TriggerInlet

/-! ## What a device keeps -/

/-- The trigger of a device, with the profile that its kind was checked against. -/
def Instrument.armed (device : Instrument) : Option Trigger × Profile :=
  (device.trigger, device.profile)

/-- What a device keeps is the trigger that was set last, and it has taken it. -/
structure Instrument.IsArmed (device : Instrument) (last? : Option (TriggerInlet × Trigger)) :
    Prop where
  kept : device.trigger = last?.map Prod.snd
  taken : ∀ inlet trigger, last? = some (inlet, trigger) →
    inlet.Takes device.profile trigger.kind

theorem Instrument.IsArmed.of_armed {device after : Instrument}
    {last? : Option (TriggerInlet × Trigger)} (records : device.IsArmed last?)
    (same : after.armed = device.armed) : after.IsArmed last? := by
  obtain ⟨trigger, profile⟩ := Prod.mk.inj same
  exact ⟨trigger.trans records.kept, profile ▸ records.taken⟩

theorem Instrument.isArmed_initial (descriptor : Descriptor) (profile : Profile) :
    (Instrument.initial descriptor profile).IsArmed none :=
  ⟨rfl, fun _ _ none => by cases none⟩

/-- A command that sets no trigger on a device leaves its trigger alone. -/
theorem Bench.armed_of_step {bench : Bench} {command : Command} {handle : Handle}
    {device after : Instrument} (unarmed : command.asks? Tuning.isTrigger ≠ some handle)
    (issued : handle < bench.driver.nextHandle)
    (found : bench.driver.instruments.get? handle = some device)
    (still : (bench.step command).1.driver.instruments.get? handle = some after) :
    after.armed = device.armed := by
  refine part_of_step (fun done => ?_) (fun plain done => ?_) unarmed issued found still
  · obtain ⟨_, _, _, _, _, _, _, _, rest⟩ := Action.rest_of_act done
    rw [rest]
    rfl
  · exact Prod.ext ((Tuning.spares done).trigger plain) (Tuning.adjusts done).alike.profile

namespace World

variable {world : World} {handle : Handle} {last? : Option (TriggerInlet × Trigger)}

/-! ## The trigger that was set last -/

/-- Where a move sets a trigger of the device behind a handle, and the trigger, if it is accepted. -/
def armed? (world : World) (handle : Handle) : Move → Option (TriggerInlet × Trigger)
  | .call id operation =>
      if (world.devices.get? id).map Device.handle = some handle ∧
          (world.answer id operation).isOk then
        operation.arms?
      else none
  | .request request =>
      request.arms?.bind fun (asked, armed) =>
        if asked = handle ∧ ((Act.perform request).on world).1.isOk then some armed else none
  | _ => none

/-- Where moves set the trigger of the device behind a handle last, and the trigger, or else the one
that was set before. -/
def lastArmed? (handle : Handle) :
    World → Option (TriggerInlet × Trigger) → List Move → Option (TriggerInlet × Trigger)
  | _, last?, [] => last?
  | world, last?, move :: rest =>
      lastArmed? handle (world.step move) ((world.armed? handle move).or last?) rest

/-- Whatever is behind a handle keeps the trigger that was set last, and none was set before the
handle was given out. -/
structure Armed (world : World) (handle : Handle) (last? : Option (TriggerInlet × Trigger)) :
    Prop where
  fresh : world.bench.driver.nextHandle ≤ handle → last? = none
  records : ∀ device, world.bench.driver.instruments.get? handle = some device →
    device.IsArmed last?

/-- Commands that set no trigger on a device leave it armed as it is. -/
theorem Armed.of_unarmed {after : World} (armed : world.Armed handle last?) (sound : world.Sound)
    (bench : ∃ commands : List Command,
      (∀ command ∈ commands, command.asks? Tuning.isTrigger ≠ some handle) ∧
        after.bench = (world.bench.run commands).1) :
    after.Armed handle last? := by
  obtain ⟨commands, unarmed, reached⟩ := bench
  refine ⟨fun fresh => ?_, fun device found => ?_⟩
  · rw [reached] at fresh
    exact armed.fresh (Int.le_trans (Bench.nextHandle_le_run _ commands) fresh)
  · rw [reached] at found
    rcases Bench.part_of_run Bench.armed_of_step sound.reachable unarmed found with
      ⟨before, there, same⟩ | ⟨fresh, descriptor, profile, same⟩
    · exact (armed.records before there).of_armed same
    · rw [armed.fresh fresh]
      exact (Instrument.isArmed_initial descriptor profile).of_armed same

/-- A trigger that is accepted is the one that is recorded then. -/
theorem Armed.of_set (armed : world.Armed handle last?) (sound : world.Sound) {asked : Handle}
    {inlet : TriggerInlet} {trigger : Trigger} {device made : Instrument}
    (there : world.bench.driver.instruments.get? asked = some device)
    (done : inlet.set trigger device = .ok made) :
    ({ world with bench := world.bench.put asked made } : World).Armed handle
      ((if asked = handle then some (inlet, trigger) else none).or last?) := by
  by_cases own : asked = handle
  · subst own
    rw [if_pos rfl]
    refine ⟨fun fresh => ?_, fun later found => ?_⟩
    · exact absurd (sound.reachable.issued there) (Int.not_lt.mpr fresh)
    · obtain rfl := Option.some.inj ((Table.get?_set_self _ _ _).symm.trans found)
      obtain ⟨rfl, takes⟩ := TriggerInlet.taken_of_set done
      refine ⟨rfl, fun other last same => ?_⟩
      obtain ⟨rfl, rfl⟩ := Prod.mk.inj (Option.some.inj same)
      exact takes
  · rw [if_neg own]
    exact ⟨armed.fresh, fun later found =>
      armed.records later ((Table.get?_set_of_ne _ (Ne.symm own) _).symm.trans found)⟩

/-! ## Steps and runs -/

theorem armed_call (armed : world.Armed handle last?) (sound : world.Sound) (id : DeviceId)
    (inlet : TriggerInlet) (trigger : Trigger) :
    (world.step (.call id (inlet.operation trigger))).Armed handle
      ((world.armed? handle (.call id (inlet.operation trigger))).or last?) := by
  rw [step_of_tuner? (inlet.tuner?_operation trigger), armed?, answer]
  rcases tuner_cases sound.direct (inlet.tuner?_operation trigger)
      (fun handle => inlet.serve_request trigger world.bench handle) id with
    ⟨error, refused⟩ | ⟨held, device, made, found, _, there, _, done, accepted⟩
  · rw [refused, if_neg (fun accepted => Bool.false_ne_true accepted.2)]
    exact armed
  · rw [accepted, found, TriggerInlet.arms?_operation]
    simpa [Except.isOk, Except.toBool] using armed.of_set sound there done

theorem armed_request (armed : world.Armed handle last?) (sound : world.Sound) (asked : Handle)
    (inlet : TriggerInlet) (trigger : Trigger) :
    (world.step (.request (inlet.request asked trigger))).Armed handle
      ((world.armed? handle (.request (inlet.request asked trigger))).or last?) := by
  rw [step, armed?, TriggerInlet.arms?_request, Option.bind_some]
  have silent := Operation.silent_of_tuner? (inlet.tuner?_operation trigger) asked world.bench
  rcases change_cases silent (inlet.serve_request trigger world.bench asked) with
    ⟨error, refused⟩ | ⟨device, made, there, _, done, accepted⟩
  · simp only [refused]
    rw [if_neg (fun accepted => Bool.false_ne_true accepted.2)]
    exact armed
  · rw [accepted]
    simpa [Except.isOk, Except.toBool] using armed.of_set sound there done

/-- Whatever a move does, a device records the trigger that was set last. -/
theorem armed_step (armed : world.Armed handle last?) (sound : world.Sound) (move : Move) :
    (world.step move).Armed handle ((world.armed? handle move).or last?) := by
  have unarmed : world.armed? handle move = none → move.asks? Tuning.isTrigger ≠ some handle →
      (∀ {α : Type} (id : DeviceId) (operation : Operation α), move = .call id operation →
        operation.Spares Tuning.isTrigger) →
      (world.step move).Armed handle ((world.armed? handle move).or last?) := by
    intro none unbypassed spares
    rw [none, Option.none_or]
    exact armed.of_unarmed sound
      (bench_of_unasked Tuning.isAskedFor_isTrigger sound unbypassed spares)
  cases move with
  | call id operation =>
      rcases operation.arms_or_spares id with ⟨inlet, trigger, same⟩ | ⟨none, spares⟩
      · rw [same]
        exact armed_call armed sound id inlet trigger
      · refine unarmed (by rw [armed?, none, ite_self]) (fun asks => by cases asks) ?_
        rintro _ _ _ ⟨⟩
        exact spares
  | request request =>
      rcases request.arms_or_spares with ⟨asked, inlet, trigger, same⟩ | ⟨none, spares⟩
      · rw [same]
        exact armed_request armed sound asked inlet trigger
      · exact unarmed (by rw [armed?, none, Option.bind_none]) (Command.unasked_of_eq_none spares)
          (fun _ _ same => by cases same)
  | take | close | drop | stimulus | edit =>
      exact unarmed rfl (fun asks => by cases asks) (fun _ _ same => by cases same)

theorem armed_run (armed : world.Armed handle last?) (sound : world.Sound) (moves : List Move) :
    (world.run moves).Armed handle (lastArmed? handle world last? moves) := by
  induction moves generalizing world last? with
  | nil => exact armed
  | cons move rest ih => exact ih (armed_step armed sound move) (sound.carries move).2

/-! ## What is told of the trigger -/

/-- A connected device answers as the part on which a trigger is set. -/
theorem Reaches.answer_set {id : DeviceId} {held : Device} {device : Instrument}
    (reaches : world.Reaches id held device) (inlet : TriggerInlet) (trigger : Trigger) :
    world.answer id (inlet.operation trigger) = (inlet.set trigger device).map fun _ => () :=
  reaches.answer_adjust (fun handle => inlet.request handle trigger)
    (Operation.perform_of_tuner? (inlet.tuner?_operation trigger) id)
    (inlet.serve_request trigger world.bench held.handle)

/-- A device records the trigger that was set last and was accepted, in every session.  It is not
empty, and exactly one bit that the profile reports for the part it was set on, unless it was set on
a timer and is not a flag with a name.  Where a trigger is refused, nothing changes; and what is not
one supported bit is refused for its kind, but a timer accepts it unless it is empty. -/
theorem trigger_recorded (moves : List Move) {device : Instrument}
    (there : (initial.run moves).bench.driver.instruments.get? handle = some device) :
    let world := initial.run moves
    let last? := lastArmed? handle initial none moves
    world.bench.driver.lastTrigger handle = .ok (last?.map Prod.snd) ∧
    (∀ inlet trigger, last? = some (inlet, trigger) → trigger.kind.isEmpty = false ∧
      (inlet.Admits device.profile trigger.kind ↔
        (inlet.isTimer = true → trigger.kind ∈ Flags.declared .trigger))) ∧
    ∀ (id : DeviceId) (inlet : TriggerInlet) (trigger : Trigger),
      (∀ error, world.answer id (inlet.operation trigger) = .error error →
        world.after id (inlet.operation trigger) = world) ∧
      ∀ held, world.Reaches id held device → inlet.IsThere device.profile →
        ¬inlet.Admits device.profile trigger.kind →
        world.answer id (inlet.operation trigger) =
          if inlet.isTimer && !trigger.kind.isEmpty then .ok () else .error .badTrigType := by
  intro world last?
  have sound : world.Sound := sound_run moves
  have unarmed : World.initial.Armed handle none := ⟨fun _ => rfl, fun _ found => by cases found⟩
  have records := (armed_run unarmed sound_initial moves).records device there
  refine ⟨?_, fun inlet trigger last => ?_, fun id inlet trigger => ⟨fun error refused => ?_, ?_⟩⟩
  · rw [Driver.lastTrigger, Driver.instrument_eq_ok_iff.mpr there]
    exact congrArg Except.ok records.kept
  · have takes := records.taken inlet trigger last
    refine ⟨takes.nonempty, ?_⟩
    rcases inlet.target_or_timer with ⟨_, _, untimed⟩ | ⟨timer, rfl⟩
    · have unlike : inlet.isTimer = false := by rw [TriggerInlet.isTimer, untimed]; rfl
      refine iff_of_true (takes.admits unlike) fun timed => ?_
      rw [unlike] at timed
      contradiction
    · rw [TriggerInlet.admits_timer_iff]
      exact ⟨fun named _ => named, fun named => named rfl⟩
  · rcases tuner_cases sound.direct (inlet.tuner?_operation trigger)
        (fun handle => inlet.serve_request trigger world.bench handle) id with
      ⟨_, same⟩ | ⟨_, _, _, _, _, _, _, _, accepted⟩
    · rw [after, same]
    · rw [answer, accepted] at refused
      cases refused
  · intro held reaches offered unfit
    rw [reaches.answer_set, TriggerInlet.set_of_unfit unfit offered]
    split <;> rfl

/-- A single-ended analog input of a synchronous scan. -/
def firstInput : SyncChannel .syncInChannel :=
  ⟨0, SyncChannel.analogSingleEnded, .bip10Volts⟩

/-- Triggers are set on a device, one of them past it and one that is refused, and it is disconnected
and connected again. -/
def rearmed : List Move :=
  connected ++ [.call 0 (.setTrigger .analogIn 0 (.ofBits 0x40)),
    .call 0 (.setTrigger .counterIn 0 (.ofBits 0x40)),
    .request (.setTrigger 1 .timer 0 (.ofBits 0x3)),
    .call 0 (.setSyncOutTrigger firstInput (.ofBits 0x80)), .call 0 .disconnect,
    .call 0 (.setTrigger .analogIn 0 (.ofBits 0x1)), .call 0 .connect]

/-- The trigger of synchronous output was accepted last, and is what the device records.  A counter
takes no trigger for an analog level, and a timer takes two edges at once. -/
theorem trigger_recorded_rearmed :
    ∃ device trigger, (initial.run rearmed).bench.driver.instruments.get? 1 = some device ∧
      lastArmed? 1 initial none rearmed = some (.syncOut firstInput, trigger) ∧
      trigger.kind = ⟨0x80⟩ ∧
      (initial.run rearmed).bench.driver.lastTrigger 1 = .ok (some trigger) ∧
      (TriggerInlet.syncOut firstInput).Admits device.profile trigger.kind ∧
      (initial.run rearmed).answer 0 (.setTrigger .counterIn 0 (.ofBits 0x40)) =
        .error .badTrigType ∧
      (initial.run rearmed).answer 0 (.setTrigger .timer 1 (.ofBits 0x3)) = .ok () := by
  have handle : ((initial.run rearmed).devices.get? 0).map (fun held =>
      (held.handle, held.isReleased)) = some (1, false) := by decide +kernel
  have profile : ((initial.run rearmed).bench.driver.instruments.get? 1).map (fun device =>
      (device.isConnected,
        decide ((TriggerInlet.part .counterIn 0).Admits device.profile ⟨0x40⟩),
        decide ((TriggerInlet.part .timer 1).Admits device.profile ⟨0x3⟩),
        decide ((TriggerInlet.part .timer 1).IsThere device.profile))) =
      some (true, false, false, true) := by decide +kernel
  have last : (lastArmed? 1 initial none rearmed).map (fun armed => (armed.1, armed.2.kind)) =
      some (.syncOut firstInput, ⟨0x80⟩) := by decide +kernel
  obtain ⟨held, found, parts⟩ := Option.map_eq_some_iff.mp handle
  obtain ⟨handle, kept⟩ := Prod.mk.inj parts
  obtain ⟨device, there, parts⟩ := Option.map_eq_some_iff.mp profile
  simp only [Prod.mk.injEq, decide_eq_false_iff_not, decide_eq_true_eq] at parts
  obtain ⟨connected, counter, timer, counted⟩ := parts
  obtain ⟨⟨inlet, trigger⟩, armed, parts⟩ := Option.map_eq_some_iff.mp last
  obtain ⟨rfl, kind⟩ := Prod.mk.inj parts
  have reaches : (initial.run rearmed).Reaches 0 held device :=
    ⟨(sound_run rearmed).direct, found, kept, handle ▸ there, connected⟩
  obtain ⟨records, admits, sets⟩ := trigger_recorded rearmed there
  rw [armed] at records
  exact ⟨device, trigger, there, armed, kind, records, (admits _ _ armed).2.mpr nofun,
    (sets 0 (.part .counterIn 0) (.ofBits 0x40)).2 held reaches nofun counter,
    (sets 0 (.part .timer 1) (.ofBits 0x3)).2 held reaches counted timer⟩

/-- A timer records a trigger of two kinds at once. -/
theorem not_trigger_single_timer :
    ¬∀ (moves : List Move) (handle : Handle) (trigger : Trigger),
      (initial.run moves).bench.driver.lastTrigger handle = .ok (some trigger) →
      trigger.kind.isSingle = true := by
  intro claim
  let moves := connected ++ [.call 0 (.setTrigger .timer 0 (.ofBits 0x3))]
  have kind : ((initial.run moves).bench.driver.lastTrigger 1).map (Option.map Trigger.kind) =
      .ok (some ⟨0x3⟩) := by decide +kernel
  cases told : (initial.run moves).bench.driver.lastTrigger 1 with
  | error error =>
      rw [told] at kind
      cases kind
  | ok last? =>
      rw [told] at kind
      obtain ⟨trigger, rfl, both⟩ := Option.map_eq_some_iff.mp (Except.ok.inj kind)
      have single := claim moves 1 trigger told
      rw [both] at single
      exact absurd single (by decide)

end World

end Acquisition
