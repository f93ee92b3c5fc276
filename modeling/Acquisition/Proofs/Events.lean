import Acquisition.Proofs.Bound
import Acquisition.Proofs.Routine

/-!
# Events that are left alone

Only enabling and disabling events on a device changes what is bound there, apart from handlers
that disable events themselves (`Bench.IsTame`).  So most of what a caller does leaves alone
what one device has bound and what the caller remembers of it (`World.LeavesEvents`).
Main statements: `Act.leavesEvents_routine` for what a caller does with a device,
`Act.leavesEvents_perform` for operations and `Act.leavesEvents_openDevice` for new devices.
-/

namespace Acquisition

/-! ## Commands -/

namespace Command

/-- The handle of the device that a command enables or disables events on. -/
def rebinds? (command : Command) : Option Handle :=
  command.action?.bind fun (handle, action) => if action.rebinds then some handle else none

theorem rebinds_of_rebinds? {command : Command} {handle : Handle} {action : Action}
    (asks : command.action? = some (handle, action)) (unbound : command.rebinds? ≠ some handle) :
    action.rebinds = false := by
  cases rebinds : action.rebinds with
  | false => rfl
  | true => exact absurd (by simp [rebinds?, asks, rebinds]) unbound

end Command

section Unbound

variable {α : Type} {handle : Handle}

theorem Command.unbound_of_eq_none {command : Command} (none : command.rebinds? = none) :
    command.rebinds? ≠ some handle := by
  simp [none]

theorem Request.unbound_of_isQuiet {request : Request α} (quiet : request.isQuiet = true) :
    (Command.request request).rebinds? ≠ some handle := by
  apply Command.unbound_of_eq_none
  cases request <;> first | rfl | contradiction

theorem Request.unbound_of_start? {request : Request α} {asked : Handle × ScanStart}
    (starts : request.start? = some asked) :
    (Command.request request).rebinds? ≠ some handle := by
  apply Command.unbound_of_eq_none
  cases request <;> first | rfl | contradiction

theorem Operation.unbound_of_tuner? {operation : Operation α} {request : Handle → Request α}
    (comes : operation.tuner? = some request) (other : Handle) :
    (Command.request (request other)).rebinds? ≠ some handle := by
  apply Command.unbound_of_eq_none
  rw [Command.rebinds?, (Operation.plain_of_tuner? comes other).1]
  rfl

theorem Stimulus.unbound (stimulus : Stimulus α) :
    (Command.stimulus stimulus).rebinds? ≠ some handle := by
  apply Command.unbound_of_eq_none
  cases stimulus <;> rfl

end Unbound

/-- Whether a handler disables events. -/
def Reaction.disables : Reaction → Bool
  | .disable _ => true
  | .record | .stop _ | .status _ | .breakDown => false

namespace Bench

variable {bench before middle after : Bench} {handle : Handle} {command : Command}

/-- The handle has been handed out, and no handler of the device behind it disables events. -/
structure IsTame (bench : Bench) (handle : Handle) : Prop where
  issued : handle < bench.driver.nextHandle
  keeps : ∀ device, bench.driver.instruments.get? handle = some device →
    ∀ handler, device.Binds handler → handler.reaction.disables = false

/-- The device behind a handle has bound what it had, if there is still one. -/
structure SparesEvents (handle : Handle) (before after : Bench) : Prop where
  nextHandle : before.driver.nextHandle ≤ after.driver.nextHandle
  bound : ∀ later, after.driver.instruments.get? handle = some later →
    ∃ device, before.driver.instruments.get? handle = some device ∧ later.bound = device.bound

theorem SparesEvents.refl (bench : Bench) : bench.SparesEvents handle bench where
  nextHandle := Int.le_refl _
  bound later found := ⟨later, found, rfl⟩

theorem SparesEvents.trans (first : before.SparesEvents handle middle)
    (second : middle.SparesEvents handle after) : before.SparesEvents handle after where
  nextHandle := Int.le_trans first.nextHandle second.nextHandle
  bound later found := by
    obtain ⟨between, there, same⟩ := second.bound later found
    obtain ⟨device, known, kept⟩ := first.bound between there
    exact ⟨device, known, same.trans kept⟩

theorem IsTame.spares (tame : before.IsTame handle) (spares : before.SparesEvents handle after) :
    after.IsTame handle where
  issued := Int.lt_of_lt_of_le tame.issued spares.nextHandle
  keeps later found handler binds := by
    obtain ⟨device, known, kept⟩ := spares.bound later found
    exact tame.keeps device known handler (binds.congr kept)

/-- A command that neither enables nor disables events on a device leaves alone what it has
bound. -/
theorem sparesEvents_step (issued : handle < bench.driver.nextHandle)
    (unbound : command.rebinds? ≠ some handle) :
    bench.SparesEvents handle (bench.step command).1 where
  nextHandle := bench.nextHandle_le_step command
  bound later found := by
    cases bench.change_of_step command handle with
    | kept unchanged => exact ⟨later, unchanged.symm.trans found, rfl⟩
    | acted taken there done now =>
        obtain rfl := Option.some.inj (now.symm.trans found)
        have asks := (taken?_eq_some_iff.mp taken).1
        exact ⟨_, there, Instrument.bound_of_act done (Command.rebinds_of_rebinds? asks unbound)⟩
    | tuned there now adjustment =>
        obtain rfl := Option.some.inj (now.symm.trans found)
        exact ⟨_, there, congrArg (List.map _) adjustment.alike.bindings⟩
    | opened descriptor profile next => exact absurd next (Int.ne_of_lt issued)
    | closed asks now =>
        rw [now] at found
        contradiction

/-- A handler that is due is one of its device. -/
theorem binds_of_due {due : Due} (member : due ∈ (bench.step command).2) :
    ∃ device, bench.driver.instruments.get? due.handle = some device ∧
      device.Binds due.firing.handler := by
  obtain ⟨action, taken⟩ := taken?_of_due member
  obtain ⟨device, result, found, done, _, dues⟩ := step_of_taken? taken
  rw [dues] at member
  obtain ⟨firing, fires, same⟩ := List.mem_map.mp member
  exact ⟨device, found, same ▸ Instrument.binds_of_act done fires⟩

/-- A handler of a tame device disables no events. -/
theorem IsTame.due (tame : bench.IsTame handle) :
    ∀ due ∈ (bench.step command).2, due.handle = handle →
      due.firing.handler.reaction.disables = false := by
  intro due member here
  obtain ⟨device, found, binds⟩ := binds_of_due member
  exact tame.keeps device (here ▸ found) _ binds

end Bench

/-! ## What a caller remembers -/

/-- The caller remembers the events that it remembered, or has released the device. -/
structure Device.KeepsEvents (before after : Device) : Prop where
  handle : after.handle = before.handle := by rfl
  isReleased : before.isReleased = true → after.isReleased = true := by exact fun released => released
  subscriptions : after.isReleased = true ∨ after.subscriptions = before.subscriptions := by
    exact .inr rfl

theorem Device.Carries.keepsEvents {before after : Device} (carries : before.Carries after) :
    before.KeepsEvents after where
  handle := carries.handle
  isReleased := carries.isReleased
  subscriptions := carries.subscriptions

theorem Device.KeepsEvents.trans {first middle last : Device} (left : first.KeepsEvents middle)
    (right : middle.KeepsEvents last) : first.KeepsEvents last where
  handle := right.handle.trans left.handle
  isReleased released := right.isReleased (left.isReleased released)
  subscriptions := by
    rcases right.subscriptions with released | same
    · exact .inl released
    · rcases left.subscriptions with released | kept
      · exact .inl (right.isReleased released)
      · exact .inr (same.trans kept)

namespace World

variable {id : DeviceId} {handle : Handle} {before middle after world : World}

/-- What is bound on the device behind a handle is left alone, and what is remembered of the
device under a number. -/
structure SparesEvents (id : DeviceId) (handle : Handle) (before after : World) : Prop where
  direct : after.IsDirect
  nextDevice : before.nextDevice ≤ after.nextDevice
  bench : before.bench.SparesEvents handle after.bench
  present : ∀ held, id < before.nextDevice → before.devices.get? id = some held →
    ∃ later, after.devices.get? id = some later ∧ held.KeepsEvents later

/-- Events are left alone unless a handler disables some. -/
def LeavesEvents (id : DeviceId) (handle : Handle) (before after : World) : Prop :=
  before.IsDirect → before.bench.IsTame handle → before.SparesEvents id handle after

/-- A world in which the devices are as they were. -/
theorem SparesEvents.of_bench (direct : after.IsDirect)
    (bench : before.bench.SparesEvents handle after.bench)
    (devices : after.devices = before.devices) (nextDevice : after.nextDevice = before.nextDevice) :
    before.SparesEvents id handle after where
  direct := direct
  nextDevice := Nat.le_of_eq nextDevice.symm
  bench := bench
  present held _ found := ⟨held, devices ▸ found, {}⟩

/-- A world that differs in the notices or the occurrences at most. -/
theorem SparesEvents.of_same (direct : after.IsDirect) (bench : after.bench = before.bench)
    (devices : after.devices = before.devices) (nextDevice : after.nextDevice = before.nextDevice) :
    before.SparesEvents id handle after :=
  .of_bench direct (bench ▸ .refl _) devices nextDevice

/-- One command on the bench. -/
theorem SparesEvents.of_step (command : Command) (tame : before.bench.IsTame handle)
    (unbound : command.rebinds? ≠ some handle) (direct : after.IsDirect)
    (bench : after.bench = (before.bench.step command).1)
    (devices : after.devices = before.devices) (nextDevice : after.nextDevice = before.nextDevice) :
    before.SparesEvents id handle after :=
  .of_bench direct (bench ▸ Bench.sparesEvents_step tame.issued unbound) devices nextDevice

/-- A change of what is kept of one device. -/
theorem SparesEvents.of_put (direct : world.IsDirect) {other : DeviceId} {held later : Device}
    (found : world.devices.get? other = some held) (kept : id = other → held.KeepsEvents later) :
    world.SparesEvents id handle { world with devices := world.devices.set other later } where
  direct := ⟨direct.faults, direct.rival⟩
  nextDevice := Nat.le_refl _
  bench := .refl _
  present held' _ found' := by
    by_cases same : id = other
    · subst same
      obtain rfl := Option.some.inj (found.symm.trans found')
      exact ⟨later, Table.get?_set_self _ _ _, kept rfl⟩
    · exact ⟨held', (Table.get?_set_of_ne _ same _).trans found', {}⟩

theorem SparesEvents.trans (left : before.SparesEvents id handle middle)
    (right : middle.SparesEvents id handle after) : before.SparesEvents id handle after where
  direct := right.direct
  nextDevice := Nat.le_trans left.nextDevice right.nextDevice
  bench := left.bench.trans right.bench
  present held numbered found := by
    obtain ⟨between, there, kept⟩ := left.present held numbered found
    obtain ⟨later, now, keeps⟩ :=
      right.present between (Nat.lt_of_lt_of_le numbered left.nextDevice) there
    exact ⟨later, now, kept.trans keeps⟩

theorem LeavesEvents.refl (world : World) : world.LeavesEvents id handle world :=
  fun direct _ => .of_same direct rfl rfl rfl

theorem LeavesEvents.trans (first : before.LeavesEvents id handle middle)
    (second : middle.LeavesEvents id handle after) : before.LeavesEvents id handle after := by
  intro direct tame
  have left := first direct tame
  exact left.trans (second left.direct (tame.spares left.bench))

end World

namespace Act

/-! ## Requests -/

/-- Wherever an action is carried out, events are left alone. -/
def LeavesEvents {α : Type} (id : DeviceId) (handle : Handle) (act : Act α) : Prop :=
  Obeys (World.LeavesEvents id handle) act

namespace LeavesEvents

variable {α β : Type} {id : DeviceId} {handle : Handle}

/-- To leave events alone is allowed to go on. -/
theorem allows (id : DeviceId) (handle : Handle) : Allows (World.LeavesEvents id handle) where
  refl := .refl
  trans := .trans
  note _ _ direct _ := .of_same ⟨direct.faults, direct.rival⟩ rfl rfl rfl
  report _ _ direct _ := .of_same ⟨direct.faults, direct.rival⟩ rfl rfl rfl

theorem of_looks {act : Act α} (looks : Looks act) : LeavesEvents id handle act :=
  (allows id handle).looks looks

theorem bind {act : Act α} {next : α → Act β} (first : LeavesEvents id handle act)
    (rest : ∀ answer, LeavesEvents id handle (next answer)) :
    LeavesEvents id handle (act >>= next) :=
  (allows id handle).bind first rest

theorem attempt {act : Act α} (leaves : LeavesEvents id handle act) :
    LeavesEvents id handle (attempt act) :=
  leaves

theorem note (notices : List Notice) : LeavesEvents id handle (Act.note notices) :=
  (allows id handle).note notices

theorem updateDevice (other : DeviceId) {change : Device → Device}
    (kept : id = other → ∀ held : Device, held.KeepsEvents (change held)) :
    LeavesEvents id handle (Act.updateDevice other change) := by
  intro world direct _
  cases found : world.devices.get? other with
  | none =>
      unfold Act.updateDevice
      rw [on_bind_error (on_device_of_absent found)]
      exact .of_same direct rfl rfl rfl
  | some held =>
      rw [on_updateDevice found]
      exact .of_put direct found fun same => kept same held

theorem serve {request : Request α} (unbound : (Command.request request).rebinds? ≠ some handle) :
    LeavesEvents id handle (Act.serve request) := by
  intro world direct tame
  cases served : request.serve world.bench with
  | error error =>
      rw [on_serve_of_refused served]
      exact .of_same direct rfl rfl rfl
  | ok outcome =>
      rw [on_serve served]
      exact .of_step _ tame unbound ⟨direct.faults, direct.rival⟩ (Bench.step_request served).symm
        rfl rfl

/-- A handler that disables events does so on the device that it is bound on. -/
theorem react {other : Handle} {reaction : Reaction}
    (spares : other = handle → reaction.disables = false) :
    LeavesEvents id handle (Act.react other reaction) := by
  cases reaction with
  | record | breakDown => exact .of_looks (looks_pure _)
  | stop target | status target =>
      exact bind (serve (Request.unbound_of_isQuiet rfl)).attempt fun _ => .of_looks (looks_pure _)
  | disable kinds =>
      have apart : (Command.request (.disableEvents other kinds)).rebinds? ≠ some handle := by
        intro same
        cases spares (Option.some.inj same)
      exact bind (serve apart).attempt fun _ => .of_looks (looks_pure _)

theorem handleAll {dues : List Due}
    (spares : ∀ due ∈ dues, due.handle = handle → due.firing.handler.reaction.disables = false) :
    LeavesEvents id handle (Act.handleAll dues) :=
  (allows id handle).handleAll fun due member => react (spares due member)

theorem perform {request : Request α}
    (unbound : (Command.request request).rebinds? ≠ some handle) :
    LeavesEvents id handle (Act.perform request) := by
  intro world direct tame
  have serves : world.SparesEvents id handle ((Act.serve request).on world).2 :=
    serve unbound world direct tame
  cases served : request.serve world.bench with
  | error error =>
      rw [on_perform_of_refused served]
      exact .of_same direct rfl rfl rfl
  | ok outcome =>
      rw [on_serve served] at serves
      have dues : outcome.due = (world.bench.step (.request request)).2 := by
        simp only [Bench.step, Bench.settled, served]
      have handles : LeavesEvents id handle (do Act.handleAll outcome.due; return outcome.answer) :=
        bind (handleAll (dues ▸ tame.due)) fun _ => .of_looks (looks_pure _)
      unfold Act.perform
      rw [on_bind_ok (on_serve served)]
      exact serves.trans (handles _ serves.direct (tame.spares serves.bench))

theorem stimulate (stimulus : Stimulus α) : LeavesEvents id handle (Act.stimulate stimulus) := by
  intro world direct tame
  cases applied : stimulus.apply world.bench with
  | error error =>
      rw [on_stimulate_of_refused applied]
      exact .of_same direct rfl rfl rfl
  | ok outcome =>
      have applies : world.SparesEvents id handle (world.stimulated stimulus outcome) :=
        .of_step _ tame stimulus.unbound ⟨direct.faults, direct.rival⟩
          (Bench.step_stimulus applied).symm rfl rfl
      have dues : outcome.due = (world.bench.step (.stimulus stimulus)).2 := by
        simp only [Bench.step, Bench.settled, applied]
      have handles : LeavesEvents id handle (do Act.handleAll outcome.due; return outcome.answer) :=
        bind (handleAll (dues ▸ tame.due)) fun _ => .of_looks (looks_pure _)
      rw [on_stimulate applied]
      exact applies.trans (handles _ applies.direct (tame.spares applies.bench))

theorem send {request : Request α} (unbound : (Command.request request).rebinds? ≠ some handle) :
    LeavesEvents id handle (Act.send request) := by
  intro world direct
  rw [on_send direct]
  exact perform unbound world direct

theorem askStatus (other : Handle) (target : ScanTarget) :
    LeavesEvents id handle (Act.askStatus other target) := by
  intro world direct _
  have same : ((Act.askStatus other target).on world).2 = world := by
    rcases on_askStatus_cases direct other target with ⟨_, asked⟩ | ⟨_, asked, _⟩ <;> rw [asked]
  rw [same]
  exact .of_same direct rfl rfl rfl

end LeavesEvents

/-! ## Operations -/

section Operations

variable {α : Type} {id : DeviceId} {handle : Handle}

/-- Leaving events alone allows the routine of every device. -/
theorem leavesEvents_routine (id : DeviceId) (handle : Handle) (other : DeviceId) :
    Routine (World.LeavesEvents id handle) other where
  toAllows := LeavesEvents.allows id handle
  send quiet := LeavesEvents.send (Request.unbound_of_isQuiet quiet)
  askStatus := LeavesEvents.askStatus
  start starts := LeavesEvents.send (Request.unbound_of_start? starts)
  giveBack _ := LeavesEvents.send (Command.unbound_of_eq_none rfl)
  update carries := LeavesEvents.updateDevice other fun _ held => (carries held).keepsEvents

theorem leavesEvents_loadQueue (other : DeviceId) (queue : List QueueElement) :
    LeavesEvents id handle ((Operation.loadQueue queue).perform other) :=
  .bind (.of_looks (looks_live other)) fun _ =>
    .bind (.send (Command.unbound_of_eq_none rfl)) fun _ =>
      .bind (.updateDevice other fun _ _ => {}) fun _ => .note _

theorem leavesEvents_of_tuner? {operation : Operation α} {request : Handle → Request α}
    (comes : operation.tuner? = some request) (other : DeviceId) :
    LeavesEvents id handle (operation.perform other) := by
  rw [Operation.perform_of_tuner? comes]
  exact .bind (.of_looks (looks_live other)) fun asked =>
    .send (Operation.unbound_of_tuner? comes asked)

/-- An operation that neither enables nor disables events leaves events alone. -/
theorem leavesEvents_perform {operation : Operation α} (other : DeviceId)
    (unbinding : operation.bindsEvents = false) :
    LeavesEvents id handle (operation.perform other) := by
  cases tunes : operation.tuner? with
  | some request => exact leavesEvents_of_tuner? tunes other
  | none =>
      cases loads : operation.loadsQueue with
      | false => exact (leavesEvents_routine id handle other).performs unbinding loads tunes
      | true =>
          cases operation with
          | loadQueue queue => exact leavesEvents_loadQueue other queue
          | _ => contradiction

/-- Enabling or disabling events on one device leaves those of another alone. -/
theorem leavesEvents_rebind {operation : Operation α} {world : World} {other : DeviceId}
    {held : Device} (binds : operation.bindsEvents = true)
    (found : world.devices.get? other = some held) (ne : id ≠ other)
    (apart : held.handle ≠ handle) :
    world.LeavesEvents id handle ((operation.perform other).on world).2 := by
  have updates : ∀ change, LeavesEvents id handle (updateDevice other change) := fun _ =>
    .updateDevice other fun same => absurd same ne
  have bound : ∀ {asked}, asked = held.handle → some asked ≠ some handle := by
    rintro _ rfl same
    exact apart (Option.some.inj same)
  rcases on_live_cases world other with ⟨held', found', _, carried⟩ | carried
  · obtain rfl := Option.some.inj (found'.symm.trans found)
    cases operation with
    | enableEvents kinds period handler =>
        have enables : LeavesEvents id handle (do
            send (.enableEvents held'.handle kinds period handler)
            updateDevice other fun held => held.subscribe kinds
            note [.eventsEnabled kinds]) :=
          .bind (.send (bound rfl)) fun _ => .bind (updates _) fun _ => .note _
        rw [Operation.perform, enableEvents, on_bind_ok carried, on_bind_ok (on_device found')]
        split
        · exact .refl world
        · exact enables world
    | disableEvents kinds =>
        have disables : LeavesEvents id handle (do
            send (.disableEvents held'.handle kinds)
            updateDevice other fun held => held.unsubscribe kinds
            note [.eventsDisabled kinds]) :=
          .bind (.send (bound rfl)) fun _ => .bind (updates _) fun _ => .note _
        rw [Operation.perform, disableEvents, on_bind_ok carried]
        exact disables world
    | _ => contradiction
  · have refused : ((operation.perform other).on world).2 = world := by
      cases operation with
      | enableEvents | disableEvents => exact congrArg Prod.snd (on_bind_error carried)
      | _ => contradiction
    rw [refused]
    exact .refl world

end Operations

/-! ## The ends of a device -/

section Ends

variable {id : DeviceId} {handle : Handle}

/-- A device that is put under a new number does not replace another. -/
theorem leavesEvents_adopt (held : Device) : LeavesEvents id handle (adopt held) := by
  intro world direct _
  exact {
    direct := ⟨direct.faults, direct.rival⟩
    nextDevice := Nat.le_succ _
    bench := .refl _
    present := fun earlier numbered found =>
      ⟨earlier, (Table.get?_set_of_ne _ (Nat.ne_of_lt numbered) _).trans found, {}⟩ }

theorem leavesEvents_openDevice (descriptor : Descriptor) :
    LeavesEvents id handle (openDevice descriptor) := by
  have frame := leavesEvents_routine id handle id
  have abandons : ∀ opened, LeavesEvents id handle (abandon opened) := by
    intro opened
    apply LeavesEvents.bind (LeavesEvents.send (Command.unbound_of_eq_none rfl)).attempt
    rintro (error | answer)
    · exact .note _
    · exact .of_looks (looks_pure _)
  apply frame.bind (frame.send rfl)
  intro opened
  apply frame.bind (frame.note _)
  intro _
  apply LeavesEvents.bind (LeavesEvents.attempt (frame.findParts opened Part.all))
  rintro (error | parts)
  · exact .bind (abandons opened) fun _ => .of_looks (looks_throw error)
  · exact leavesEvents_adopt _

end Ends

end Act

end Acquisition
