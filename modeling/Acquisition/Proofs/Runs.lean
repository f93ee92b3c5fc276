import Acquisition.Proofs.Opening
import Acquisition.Proofs.Routine

/-!
# What an action runs on the bench

Over a link that passes every call, all that an action does to the bench is a run of commands.  A
statement about commands of one kind becomes one about the actions that run no others
(`World.Runs`), and what is ordinary runs only ordinary commands (`Act.Ordinary.performs`): apart
from loading the channel-gain queue, making settings and setting triggers, that is whatever a caller
does with a device.  What each command of a kind keeps of a device a run of them keeps
(`Bench.part_of_run`).
-/

namespace Acquisition

namespace Bench

variable {β : Type} {part : Instrument → β} {allowed : Command → Prop} {handle : Handle}
  {bench : Bench} {commands : List Command} {after : Instrument}

/-- What commands of a kind keep of the device behind a handle is after a run of them what it was
before, or what it is of a device that has just been opened. -/
theorem part_of_run
    (keeps : ∀ {bench : Bench} {command : Command} {device after : Instrument}, allowed command →
      handle < bench.driver.nextHandle → bench.driver.instruments.get? handle = some device →
      (bench.step command).1.driver.instruments.get? handle = some after → part after = part device)
    (reachable : bench.Reachable) (permitted : ∀ command ∈ commands, allowed command)
    (found : (bench.run commands).1.driver.instruments.get? handle = some after) :
    (∃ device, bench.driver.instruments.get? handle = some device ∧ part after = part device) ∨
    (bench.driver.nextHandle ≤ handle ∧
      ∃ descriptor profile, part after = part (.initial descriptor profile)) := by
  induction commands generalizing bench with
  | nil => exact .inl ⟨after, found, rfl⟩
  | cons command rest ih =>
      obtain ⟨first, others⟩ := List.forall_mem_cons.mp permitted
      rcases ih (reachable.step command) others found with
        ⟨middle, between, kept⟩ | ⟨later, descriptor, profile, same⟩
      · cases there : bench.driver.instruments.get? handle with
        | some device =>
            exact .inl ⟨device, rfl, kept.trans (keeps first (reachable.issued there) there between)⟩
        | none =>
            obtain ⟨descriptor, profile, rfl⟩ := initial_of_step there between
            exact .inr ⟨Int.le_of_eq (eq_nextHandle_of_step there between).1.symm,
              descriptor, profile, kept⟩
      · exact .inr ⟨Int.le_trans (bench.nextHandle_le_step command) later,
          descriptor, profile, same⟩

end Bench

namespace World

variable {κ : Type} {allowed : Command → Prop} {told : Device → κ} {before middle after : World}

/-- The bench has run commands that are allowed, and the caller is told of every device what it was
told before. -/
structure Runs (allowed : Command → Prop) (told : Device → κ) (before after : World) : Prop where
  direct : after.IsDirect
  bench : ∃ commands : List Command, (∀ command ∈ commands, allowed command) ∧
    after.bench = (before.bench.run commands).1
  devices : ∀ id, (after.devices.get? id).map told = (before.devices.get? id).map told := by
    exact fun _ => rfl

/-- A world that differs in the notices or the occurrences at most. -/
theorem Runs.of_same (direct : after.IsDirect) (bench : after.bench = before.bench)
    (devices : after.devices = before.devices) : before.Runs allowed told after where
  direct := direct
  bench := ⟨[], List.forall_mem_nil _, bench⟩
  devices _ := by rw [devices]

/-- One command on the bench. -/
theorem Runs.of_step (command : Command) (permitted : allowed command) (direct : after.IsDirect)
    (bench : after.bench = (before.bench.step command).1)
    (devices : after.devices = before.devices) : before.Runs allowed told after where
  direct := direct
  bench := ⟨[command], List.forall_mem_singleton.mpr permitted, bench⟩
  devices _ := by rw [devices]

theorem Runs.trans (first : before.Runs allowed told middle)
    (second : middle.Runs allowed told after) : before.Runs allowed told after where
  direct := second.direct
  bench := by
    obtain ⟨earlier, permitted, reached⟩ := first.bench
    obtain ⟨later, permits, ended⟩ := second.bench
    refine ⟨earlier ++ later, List.forall_mem_append.mpr ⟨permitted, permits⟩, ?_⟩
    rw [ended, reached, Bench.run_append]
  devices id := (second.devices id).trans (first.devices id)

end World

namespace Act

/-- Wherever an action is carried out over a link that passes every call, it runs commands that are
allowed, and the caller is told of every device what it was told before. -/
def Runs {α κ : Type} (allowed : Command → Prop) (told : Device → κ) (act : Act α) : Prop :=
  Obeys (fun before after => before.IsDirect → before.Runs allowed told after) act

/-- What is ordinary is allowed: whatever makes no setting, sets no trigger and loads no queue. -/
structure Ordinary {κ : Type} (allowed : Command → Prop) (told : Device → κ) : Prop where
  quiet : ∀ {α : Type} {request : Request α}, request.isQuiet = true → allowed (.request request)
  start : ∀ {α : Type} {request : Request α} {asked : Handle × ScanStart},
    request.start? = some asked → allowed (.request request)
  release : ∀ handle, allowed (.request (.release handle))
  enable : ∀ handle kinds period handler,
    allowed (.request (.enableEvents handle kinds period handler))
  disable : ∀ handle kinds, allowed (.request (.disableEvents handle kinds))
  stimulus : ∀ {α : Type} (stimulus : Stimulus α), allowed (.stimulus stimulus)
  carries : ∀ {before after : Device}, before.Carries after → told after = told before
  subscribe : ∀ (held : Device) kinds, told (held.subscribe kinds) = told held
  unsubscribe : ∀ (held : Device) kinds, told (held.unsubscribe kinds) = told held

namespace Runs

variable {α β κ : Type} {allowed : Command → Prop} {told : Device → κ}

/-- To run what is allowed is allowed to go on. -/
theorem allows (allowed : Command → Prop) (told : Device → κ) :
    Allows fun before after => before.IsDirect → before.Runs allowed told after where
  refl _ direct := .of_same direct rfl rfl
  trans first second direct := (first direct).trans (second (first direct).direct)
  note _ _ direct := .of_same ⟨direct.faults, direct.rival⟩ rfl rfl
  report _ _ direct := .of_same ⟨direct.faults, direct.rival⟩ rfl rfl

theorem of_looks {act : Act α} (looks : Looks act) : Runs allowed told act :=
  (allows allowed told).looks looks

theorem bind {act : Act α} {next : α → Act β} (first : Runs allowed told act)
    (rest : ∀ answer, Runs allowed told (next answer)) : Runs allowed told (act >>= next) :=
  (allows allowed told).bind first rest

theorem attempt {act : Act α} (runs : Runs allowed told act) :
    Runs allowed told (Act.attempt act) :=
  runs

theorem note (notices : List Notice) : Runs allowed told (Act.note notices) :=
  (allows allowed told).note notices

theorem updateDevice (id : DeviceId) {change : Device → Device}
    (kept : ∀ held : Device, told (change held) = told held) :
    Runs allowed told (Act.updateDevice id change) := by
  intro world direct
  cases found : world.devices.get? id with
  | none =>
      unfold Act.updateDevice
      rw [on_bind_error (on_device_of_absent found)]
      exact .of_same direct rfl rfl
  | some held =>
      rw [on_updateDevice found]
      refine ⟨⟨direct.faults, direct.rival⟩, ⟨[], List.forall_mem_nil _, rfl⟩, fun other => ?_⟩
      by_cases same : other = id
      · subst same
        rw [Table.get?_set_self, found, Option.map_some, Option.map_some, kept]
      · rw [Table.get?_set_of_ne _ same]

/-! ## Requests -/

theorem serve {request : Request α} (permitted : allowed (.request request)) :
    Runs allowed told (Act.serve request) := by
  intro world direct
  cases served : request.serve world.bench with
  | error error =>
      rw [on_serve_of_refused served]
      exact .of_same direct rfl rfl
  | ok outcome =>
      rw [on_serve served]
      exact .of_step _ permitted ⟨direct.faults, direct.rival⟩ (Bench.step_request served).symm rfl

end Runs

namespace Ordinary

variable {α κ : Type} {allowed : Command → Prop} {told : Device → κ}
  (ordinary : Ordinary allowed told)

include ordinary

/-- Whatever handlers do is ordinary. -/
theorem handleAll (dues : List Due) : Runs allowed told (Act.handleAll dues) := by
  refine (Runs.allows allowed told).handleAll fun due _ => ?_
  cases due.firing.handler.reaction with
  | record | breakDown => exact Runs.of_looks (looks_pure _)
  | stop | status =>
      exact Runs.bind (Runs.serve (ordinary.quiet rfl)).attempt fun _ => .of_looks (looks_pure _)
  | disable =>
      exact Runs.bind (Runs.serve (ordinary.disable _ _)).attempt fun _ =>
        .of_looks (looks_pure _)

theorem request {request : Request α} (permitted : allowed (.request request)) :
    Runs allowed told (Act.perform request) :=
  Runs.bind (.serve permitted) fun _ => Runs.bind (ordinary.handleAll _) fun _ =>
    .of_looks (looks_pure _)

theorem stimulate (stimulus : Stimulus α) : Runs allowed told (Act.stimulate stimulus) := by
  intro world direct
  cases applied : stimulus.apply world.bench with
  | error error =>
      rw [on_stimulate_of_refused applied]
      exact .of_same direct rfl rfl
  | ok outcome =>
      have applies : world.Runs allowed told (world.stimulated stimulus outcome) :=
        .of_step _ (ordinary.stimulus stimulus) ⟨direct.faults, direct.rival⟩
          (Bench.step_stimulus applied).symm rfl
      have handles : Runs allowed told (do Act.handleAll outcome.due; return outcome.answer) :=
        Runs.bind (ordinary.handleAll _) fun _ => .of_looks (looks_pure _)
      rw [on_stimulate applied]
      exact applies.trans (handles _ applies.direct)

theorem send {request : Request α} (permitted : allowed (.request request)) :
    Runs allowed told (Act.send request) := by
  intro world direct
  rw [on_send direct]
  exact ordinary.request permitted world direct

/-! ## Operations -/

/-- What is ordinary has the routine of every device in it. -/
theorem routine (id : DeviceId) :
    Routine (fun before after => before.IsDirect → before.Runs allowed told after) id where
  toAllows := Runs.allows allowed told
  send quiet := ordinary.send (ordinary.quiet quiet)
  askStatus handle target world direct := by
    rcases on_askStatus_cases direct handle target with ⟨_, asked⟩ | ⟨_, asked, _⟩ <;>
      rw [asked] <;> exact .of_same direct rfl rfl
  start starts := ordinary.send (ordinary.start starts)
  giveBack handle := ordinary.send (ordinary.release handle)
  update carries := Runs.updateDevice id fun held => ordinary.carries (carries held)

/-- An operation that loads no queue, makes no setting and sets no trigger is ordinary. -/
theorem performs {operation : Operation α} (id : DeviceId)
    (unloading : operation.loadsQueue = false) (untuned : operation.tuner? = none) :
    Runs allowed told (operation.perform id) := by
  have routine := ordinary.routine id
  cases binds : operation.bindsEvents with
  | false => exact routine.performs binds unloading untuned
  | true =>
      cases operation with
      | enableEvents kinds period handler =>
          apply routine.live
          intro handle
          apply routine.bind (routine.looks (looks_device id))
          intro held
          have enables : Runs allowed told (do
              Act.send (.enableEvents handle kinds period handler)
              Act.updateDevice id fun held => held.subscribe kinds
              Act.note [.eventsEnabled kinds]) :=
            .bind (ordinary.send (ordinary.enable _ _ _ _)) fun _ =>
              .bind (.updateDevice id fun held => ordinary.subscribe held kinds) fun _ => .note _
          split
          · exact Runs.bind (.of_looks (looks_throw _)) fun _ => enables
          · exact enables
      | disableEvents kinds =>
          apply routine.live
          intro handle
          exact Runs.bind (ordinary.send (ordinary.disable _ _)) fun _ =>
            .bind (.updateDevice id fun held => ordinary.unsubscribe held kinds) fun _ => .note _
      | _ => contradiction

/-- An operation that comes to one request runs what is allowed if the request is. -/
theorem tunes {operation : Operation α} {request : Handle → Request α}
    (comes : operation.tuner? = some request)
    (permitted : ∀ handle, allowed (.request (request handle))) (id : DeviceId) :
    Runs allowed told (operation.perform id) := by
  rw [Operation.perform_of_tuner? comes]
  exact Runs.bind (.of_looks (looks_live id)) fun handle => ordinary.send (permitted handle)

/-- Up to where a device is adopted, opening one is ordinary.  The device has the next handle, and
nothing is counted of it. -/
theorem openDevice {world : World} (direct : world.IsDirect) (descriptor : Descriptor) :
    ∃ middle, world.Runs allowed told middle ∧
      (((Act.openDevice descriptor).on world).2 = middle ∨
      ∃ held, held.handle = world.bench.driver.nextHandle ∧ held.queueLength = 0 ∧
        ((Act.openDevice descriptor).on world).2 = ((Act.adopt held).on middle).2) := by
  have routine := ordinary.routine 0
  unfold Act.openDevice
  rw [on_bind, on_send direct]
  cases served : (Request.create descriptor).serve world.bench with
  | error error =>
      rw [on_perform_of_refused served]
      exact ⟨world, .of_same direct rfl rfl, .inl rfl⟩
  | ok outcome =>
      obtain ⟨handle, _, _, silent⟩ := World.opened_of_serve served
      have creates : Runs allowed told (Act.perform (.create descriptor)) :=
        ordinary.request (ordinary.quiet rfl)
      have opened := creates world direct
      rw [on_perform served silent] at opened ⊢
      have finds : Runs allowed told (do
          Act.note [.deviceOpened outcome.answer descriptor]
          Act.findParts outcome.answer Part.all) :=
        .bind (.note _) fun _ => routine.findParts _ _
      have asked := finds _ opened.direct
      simp only []
      rw [on_bind_ok (on_note _ _)] at asked ⊢
      rw [on_bind_ok (on_attempt _ _)]
      rcases found : (Act.findParts outcome.answer Part.all).on _ with ⟨error | parts, middle⟩
      · rw [found] at asked
        have abandons : Runs allowed told (do
            Act.abandon outcome.answer
            throw error : Act DeviceId) := by
          refine .bind ?_ fun _ => .of_looks (looks_throw error)
          apply Runs.bind (Runs.attempt (ordinary.send (ordinary.release outcome.answer)))
          rintro (refusal | answer)
          · exact .note _
          · exact .of_looks (looks_pure _)
        exact ⟨_, (opened.trans asked).trans (abandons middle asked.direct), .inl rfl⟩
      · rw [found] at asked
        exact ⟨middle, opened.trans asked,
          .inr ⟨.initial outcome.answer descriptor parts, handle, rfl, rfl⟩⟩

end Ordinary

end Act

end Acquisition
