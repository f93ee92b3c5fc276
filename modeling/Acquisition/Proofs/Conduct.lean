import Acquisition.Device.Scan
import Acquisition.Proofs.Handles
import Acquisition.Proofs.InPlace
import Acquisition.Proofs.Reachable

/-!
# How actions of a caller are carried out

An action of a caller leads from one world to another (`Act.on`).  Over a link that
passes every call, all that an action does to the bench is a run of commands, and all
that it does to the devices is to their bookkeeping (`World.Leads`).  Most actions start
no scan, give no handle back and change no slot; what they lead to is put together from
what their parts lead to (`Act.Keeps`).
-/

namespace Acquisition

namespace World

/-- The link passes every call, and no rival waits. -/
structure IsDirect (world : World) : Prop where
  faults : world.faults = [] := by rfl
  rival : world.rival = none := by rfl

/-- The world after a request has been served. -/
def served {α : Type} (world : World) (request : Request α) (outcome : Outcome α) : World :=
  { world with
    bench := outcome.bench
    notices := world.notices ++ Notice.ofRequest request world.bench outcome }

/-- The world after a stimulus has been applied. -/
def stimulated {α : Type} (world : World) (stimulus : Stimulus α) (outcome : Outcome α) :
    World :=
  { world with
    bench := outcome.bench
    notices := world.notices ++ Notice.ofStimulus stimulus world.bench outcome }

end World

namespace Bench

variable {α : Type} {bench : Bench} {outcome : Outcome α}

theorem step_request {request : Request α} (served : request.serve bench = .ok outcome) :
    (bench.step (.request request)).1 = outcome.bench := by
  simp only [step, settled, served]

theorem step_stimulus {stimulus : Stimulus α} (applied : stimulus.apply bench = .ok outcome) :
    (bench.step (.stimulus stimulus)).1 = outcome.bench := by
  simp only [step, settled, applied]

end Bench

namespace Act

/-! ## Carrying out -/

section On

variable {α β : Type}

/-- The answer of an action in a world, and the world after it. -/
def on (act : Act α) (world : World) : Except Error α × World :=
  act.run.run world

variable (world : World)

@[simp]
theorem on_pure (answer : α) : (pure answer : Act α).on world = (.ok answer, world) :=
  rfl

@[simp]
theorem on_get : (get : Act World).on world = (.ok world, world) :=
  rfl

/-- What follows an action starts from where it led, unless it was refused. -/
theorem on_bind (act : Act α) (next : α → Act β) :
    (act >>= next).on world =
      match act.on world with
      | (.ok answer, after) => (next answer).on after
      | (.error error, after) => (.error error, after) := by
  simp only [on, ExceptT.run_bind, StateT.run_bind]
  rcases act.run.run world with ⟨answer | answer, after⟩ <;> rfl

theorem on_bind_ok {act : Act α} {next : α → Act β} {world after : World} {answer : α}
    (first : act.on world = (.ok answer, after)) :
    (act >>= next).on world = (next answer).on after := by
  rw [on_bind, first]

theorem on_bind_error {act : Act α} {next : α → Act β} {world after : World} {error : Error}
    (first : act.on world = (.error error, after)) :
    (act >>= next).on world = (.error error, after) := by
  rw [on_bind, first]

/-- Two questions, each of which changes nothing. -/
theorem on_bind_told {act : Act α} {next : α → Act β} {world : World} {answer : Except Error α}
    {rest : α → Except Error β} (first : act.on world = (answer, world))
    (second : ∀ value, (next value).on world = (rest value, world)) :
    (act >>= next).on world = (answer >>= rest, world) := by
  rw [on_bind, first]
  cases answer with
  | ok value => exact second value
  | error error => rfl

/-- A sequence of two actions answers exactly when both do. -/
theorem on_bind_eq_ok_iff {act : Act α} {next : α → Act β} {world after : World} {answer : β} :
    (act >>= next).on world = (.ok answer, after) ↔
      ∃ value middle, act.on world = (.ok value, middle) ∧
        (next value).on middle = (.ok answer, after) := by
  rw [on_bind]
  rcases act.on world with ⟨error | value, middle⟩
  · simp
  · constructor
    · exact fun followed => ⟨value, middle, rfl, followed⟩
    · rintro ⟨_, _, first, followed⟩
      obtain ⟨⟨⟩, rfl⟩ := Prod.mk.inj first
      exact followed

@[simp]
theorem on_attempt (act : Act α) :
    (attempt act).on world = (.ok (act.on world).1, (act.on world).2) :=
  rfl

@[simp]
theorem on_resume (answer : Except Error α) : (resume answer).on world = (answer, world) :=
  Procedure.on_resume answer world

@[simp]
theorem on_note (notices : List Notice) :
    (note notices).on world = (.ok (), { world with notices := world.notices ++ notices }) :=
  rfl

end On

/-! ## Devices that the caller holds -/

section Devices

variable {world : World} {id : DeviceId} {held : Device}

theorem on_device (found : world.devices.get? id = some held) :
    (device id).on world = (.ok held, world) := by
  unfold device
  rw [on_bind_ok (on_get world), found]
  rfl

theorem on_device_of_absent (absent : world.devices.get? id = none) :
    (device id).on world = (.error .badDevHandle, world) := by
  unfold device
  rw [on_bind_ok (on_get world), absent]
  rfl

theorem on_updateDevice (found : world.devices.get? id = some held)
    (change : Device → Device) :
    (updateDevice id change).on world =
      (.ok (), { world with devices := world.devices.set id (change held) }) := by
  unfold updateDevice
  rw [on_bind_ok (on_device found)]
  rfl

theorem on_live (found : world.devices.get? id = some held) (kept : held.isReleased = false) :
    (live id).on world = (.ok held.handle, world) := by
  unfold live
  rw [on_bind_ok (on_device found), kept]
  rfl

theorem on_live_of_released (found : world.devices.get? id = some held)
    (released : held.isReleased = true) :
    (live id).on world = (.error .badDevHandle, world) := by
  unfold live
  rw [on_bind_ok (on_device found), released]
  rfl

/-- Only a device that was not released is asked for its handle in vain. -/
theorem on_live_cases (world : World) (id : DeviceId) :
    (∃ held, world.devices.get? id = some held ∧ held.isReleased = false ∧
      (live id).on world = (.ok held.handle, world)) ∨
    (live id).on world = (.error .badDevHandle, world) := by
  cases found : world.devices.get? id with
  | none =>
      right
      unfold live
      rw [on_bind_error (on_device_of_absent found)]
  | some held =>
      cases released : held.isReleased with
      | false => exact .inl ⟨held, rfl, released, on_live found released⟩
      | true => exact .inr (on_live_of_released found released)

end Devices

/-! ## Requests -/

section Requests

variable {α : Type} {world : World} {request : Request α} {outcome : Outcome α}

theorem on_onBench {β : Type} (work : Procedure Bench β) (world : World) :
    (onBench work).on world =
      ((work.on world.bench).1, { world with bench := (work.on world.bench).2 }) :=
  Procedure.on_within _ _ work world

/-- A request is executed on the bench in place, and that is serving it as a whole. -/
theorem on_serve (served : request.serve world.bench = .ok outcome) :
    (serve request).on world = (.ok outcome, world.served request outcome) := by
  have executed : request.execute.on world.bench =
      (.ok (outcome.answer, outcome.due), outcome.bench) :=
    (request.execute_serves world.bench).trans
      (Procedure.settle_of_ok (congrArg (· >>= _) served))
  unfold serve
  rw [on_bind_ok (on_get world), on_bind, on_onBench, executed]
  rfl

/-- A refused request has left the bench, and with it the world, as it was. -/
theorem on_serve_of_refused {error : Error} (refused : request.serve world.bench = .error error) :
    (serve request).on world = (.error error, world) := by
  have executed : request.execute.on world.bench = (.error error, world.bench) :=
    (request.execute_serves world.bench).trans
      (Procedure.settle_of_error (congrArg (· >>= _) refused))
  unfold serve
  rw [on_bind_ok (on_get world), on_bind, on_onBench, executed]

/-- A request that makes no handler due is performed by serving it. -/
theorem on_perform (served : request.serve world.bench = .ok outcome)
    (silent : outcome.due = []) :
    (perform request).on world = (.ok outcome.answer, world.served request outcome) := by
  unfold perform
  rw [on_bind_ok (on_serve served), silent]
  rfl

theorem on_perform_of_refused {error : Error}
    (refused : request.serve world.bench = .error error) :
    (perform request).on world = (.error error, world) := by
  unfold perform
  rw [on_bind_error (on_serve_of_refused refused)]

theorem on_stimulate {stimulus : Stimulus α} (applied : stimulus.apply world.bench = .ok outcome) :
    (stimulate stimulus).on world =
      (do handleAll outcome.due; return outcome.answer : Act α).on
        (world.stimulated stimulus outcome) := by
  unfold stimulate
  rw [on_bind_ok (on_get world)]
  simp only [applied]
  rfl

theorem on_stimulate_of_refused {stimulus : Stimulus α} {error : Error}
    (refused : stimulus.apply world.bench = .error error) :
    (stimulate stimulus).on world = (.error error, world) := by
  unfold stimulate
  rw [on_bind_ok (on_get world)]
  simp only [refused]
  rfl

/-- A link without faults passes a call. -/
theorem on_pass (direct : world.IsDirect) (name : String) :
    (pass name).on world = (.ok (), world) := by
  rcases world with ⟨bench, faults, rival, devices, nextDevice, notices, occurrences⟩
  rcases direct with ⟨empty, _⟩
  obtain rfl : faults = [] := empty
  rfl

theorem on_send (direct : world.IsDirect) (request : Request α) :
    (send request).on world = (perform request).on world := by
  unfold send
  rw [on_bind_ok (on_pass direct request.name)]

/-- A question is passed on, and nothing changes. -/
theorem on_send_ask {handle : Handle} {device : Instrument}
    {question : Instrument → Except Error α} (direct : world.IsDirect)
    (there : world.bench.driver.instruments.get? handle = some device)
    (asks : request.serve world.bench = world.bench.ask handle question)
    (silent : ∀ outcome, Notice.ofRequest request world.bench outcome = []) :
    (send request).on world = (question device, world) := by
  rw [on_send direct]
  cases answered : question device with
  | ok answer =>
      have served := asks.trans (Bench.ask_eq_ok_iff.mpr ⟨device, answer, there, answered, rfl⟩)
      rw [on_perform served rfl, World.served, silent, List.append_nil]
      rfl
  | error error =>
      refine on_perform_of_refused (asks.trans ?_)
      rw [Bench.ask, Driver.instrument_eq_ok_iff.mpr there]
      change (question device >>= _) = _
      rw [answered]
      rfl

/-- A request that changes what is behind a handle is passed on. -/
theorem on_send_adjust {handle : Handle} {device after : Instrument}
    {change : Instrument → Except Error Instrument} (request : Request Unit)
    (direct : world.IsDirect)
    (there : world.bench.driver.instruments.get? handle = some device)
    (asks : request.serve world.bench = world.bench.adjust handle change)
    (changed : change device = .ok after) :
    ∃ later, (send request).on world = (.ok (), later) ∧
      later.bench.driver.instruments.get? handle = some after ∧ later.devices = world.devices := by
  have served := asks.trans (Bench.adjust_eq_ok_iff.mpr ⟨device, after, there, changed, rfl⟩)
  exact ⟨_, (on_send direct request).trans (on_perform served rfl), Table.get?_set_self _ _ _, rfl⟩

theorem on_send_adjust_of_refused {handle : Handle} {device : Instrument} {error : Error}
    {change : Instrument → Except Error Instrument} (request : Request Unit)
    (direct : world.IsDirect)
    (there : world.bench.driver.instruments.get? handle = some device)
    (asks : request.serve world.bench = world.bench.adjust handle change)
    (refused : change device = .error error) :
    (send request).on world = (.error error, world) := by
  have served : request.serve world.bench = .error error := by
    rw [asks, Bench.adjust, Driver.instrument_eq_ok_iff.mpr there]
    change (change device >>= _) = _
    rw [refused]
    rfl
  rw [on_send direct, on_perform_of_refused served]

/-- No rival slips in where none waits. -/
theorem on_admitRival (direct : world.IsDirect) : admitRival.on world = (.ok (), world) := by
  unfold admitRival
  rw [on_bind_ok (on_get world), direct.rival]
  rfl

/-- The status of a scan that a device knows is told, and nothing changes. -/
theorem on_askStatus (direct : world.IsDirect) {handle : Handle} {target : ScanTarget}
    {instrument : Instrument}
    (found : world.bench.driver.instruments.get? handle = some instrument) :
    (askStatus handle target).on world = (.ok (instrument.scanStatus target), world) := by
  have served : (Request.scanStatus handle target).serve world.bench =
      .ok (world.bench.reply (instrument.scanStatus target)) :=
    Bench.ask_eq_ok_iff.mpr ⟨instrument, _, found, rfl, rfl⟩
  have asked : (perform (Request.scanStatus handle target)).on world =
      (.ok (instrument.scanStatus target), world) := by
    rw [on_perform served rfl]
    simp [World.served, Notice.ofRequest, Bench.reply]
  unfold askStatus
  rw [on_bind_ok (on_pass direct _), on_bind_ok (on_attempt world _), asked]
  rw [on_bind_ok (on_admitRival direct), on_resume]

theorem on_askStatus_of_absent (direct : world.IsDirect) {handle : Handle}
    (absent : world.bench.driver.instruments.get? handle = none) (target : ScanTarget) :
    (askStatus handle target).on world = (.error .badDevHandle, world) := by
  unfold askStatus
  rw [on_bind_ok (on_pass direct _), on_bind_ok (on_attempt world _),
    on_perform_of_refused (Bench.serve_of_absent absent rfl)]
  rw [on_bind_ok (on_admitRival direct), on_resume]

end Requests

end Act

/-! ## What a command does to those who hold a device -/

/-- What matters to those who hold a device: a scan is started, or a handle is given back. -/
inductive Deed where
  | start (handle : Handle) (target : ScanTarget)
  | release (handle : Handle)
  deriving DecidableEq

namespace Command

/-- What a command asks for that matters to those who hold a device. -/
def deed? (command : Command) : Option Deed :=
  match command with
  | .request (.release handle) => some (.release handle)
  | command => command.action?.bind fun (handle, action) => action.started?.map (.start handle)

/-- A command that asks for an action may start a scan, but gives no handle back. -/
theorem deed?_of_action? {command : Command} {handle : Handle} {action : Action}
    (asks : command.action? = some (handle, action)) :
    command.deed? = action.started?.map (.start handle) := by
  unfold deed?
  split
  · contradiction
  · rw [asks]
    rfl

end Command

/-! ## What an action leads to -/

/-- The device is still the one that it was, with its bookkeeping of scans but for one slot. -/
structure Device.Remains (id : DeviceId) (slot : Option (DeviceId × ScanTarget))
    (before after : Device) : Prop where
  handle : after.handle = before.handle := by rfl
  parts : after.parts = before.parts := by rfl
  slots : ∀ target, slot ≠ some (id, target) → after.slot target = before.slot target := by
    exact fun _ _ => rfl

theorem Device.Remains.trans {id : DeviceId} {slot : Option (DeviceId × ScanTarget)}
    {first middle last : Device} (left : first.Remains id slot middle)
    (right : middle.Remains id slot last) : first.Remains id slot last where
  handle := right.handle.trans left.handle
  parts := right.parts.trans left.parts
  slots target other := (right.slots target other).trans (left.slots target other)

/-- The device has not been released either. -/
structure Device.Keeps (id : DeviceId) (slot : Option (DeviceId × ScanTarget))
    (before after : Device) : Prop extends before.Remains id slot after where
  isReleased : after.isReleased = before.isReleased := by rfl

/-- The bench has run commands of which none starts a scan or gives a handle back, but for
one deed, and the devices have kept their slots, but for one. -/
structure World.Leads (deed : Option Deed)
    (slot : Option (DeviceId × ScanTarget)) (before after : World) : Prop where
  direct : after.IsDirect
  nextDevice : after.nextDevice = before.nextDevice := by rfl
  bench : ∃ commands : List Command,
    (∀ command ∈ commands, command.deed? = none ∨ command.deed? = deed) ∧
    after.bench = (before.bench.run commands).1
  absent : ∀ id, before.devices.get? id = none → after.devices.get? id = none := by
    exact fun _ absent => absent
  present : ∀ id held, before.devices.get? id = some held →
    ∃ later, after.devices.get? id = some later ∧ held.Keeps id slot later

namespace World

variable {deed : Option Deed} {slot : Option (DeviceId × ScanTarget)}
  {before middle after : World}

/-- A world that differs in the notices or the occurrences at most. -/
theorem Leads.of_same (direct : after.IsDirect) (bench : after.bench = before.bench)
    (devices : after.devices = before.devices) (nextDevice : after.nextDevice = before.nextDevice) :
    before.Leads deed slot after where
  direct := direct
  nextDevice := nextDevice
  bench := ⟨[], by simp, bench⟩
  absent id absent := devices ▸ absent
  present id held found := ⟨held, devices ▸ found, {}⟩

theorem Leads.refl {world : World} (direct : world.IsDirect) : world.Leads deed slot world :=
  .of_same direct rfl rfl rfl

theorem Leads.trans (first : before.Leads deed slot middle)
    (second : middle.Leads deed slot after) : before.Leads deed slot after where
  direct := second.direct
  nextDevice := second.nextDevice.trans first.nextDevice
  bench := by
    rcases first.bench with ⟨earlier, spared, reached⟩
    rcases second.bench with ⟨later, sparing, ended⟩
    refine ⟨earlier ++ later, ?_, ?_⟩
    · exact List.forall_mem_append.mpr ⟨spared, sparing⟩
    · rw [ended, reached, Bench.run_append]
  absent id absent := second.absent id (first.absent id absent)
  present id held found := by
    rcases first.present id held found with ⟨between, there, kept⟩
    rcases second.present id between there with ⟨later, now, keeps⟩
    refine ⟨later, now, ?_⟩
    constructor
    · exact kept.toRemains.trans keeps.toRemains
    · exact keeps.isReleased.trans kept.isReleased

/-- What may have been done need not have been done. -/
theorem Leads.mono {deed' : Option Deed}
    {slot' : Option (DeviceId × ScanTarget)} (leads : before.Leads deed' slot' after)
    (deeds : deed' = none ∨ deed' = deed) (slots : slot' = none ∨ slot' = slot) :
    before.Leads deed slot after where
  direct := leads.direct
  nextDevice := leads.nextDevice
  bench := by
    rcases leads.bench with ⟨commands, spared, reached⟩
    refine ⟨commands, ?_, reached⟩
    intro command member
    rcases spared command member with quiet | same
    · exact .inl quiet
    · rcases deeds with none | equal
      · exact .inl (same.trans none)
      · exact .inr (same.trans equal)
  absent := leads.absent
  present id held found := by
    rcases leads.present id held found with ⟨later, now, kept⟩
    refine ⟨later, now, { kept with slots := fun target other => kept.slots target ?_ }⟩
    rcases slots with rfl | rfl
    · exact nofun
    · exact other

/-- One command on the bench. -/
theorem Leads.of_step (direct : after.IsDirect) (command : Command)
    (does : command.deed? = none ∨ command.deed? = deed)
    (bench : after.bench = (before.bench.step command).1)
    (devices : after.devices = before.devices) (nextDevice : after.nextDevice = before.nextDevice) :
    before.Leads deed slot after where
  direct := direct
  nextDevice := nextDevice
  bench := ⟨[command], by simpa using does, bench⟩
  absent id absent := devices ▸ absent
  present id held found := ⟨held, devices ▸ found, {}⟩

/-- A change of what is kept of one device. -/
theorem Leads.of_put {world : World} (direct : world.IsDirect) {id : DeviceId} {held later : Device}
    (found : world.devices.get? id = some held) (kept : held.Keeps id slot later) :
    world.Leads deed slot { world with devices := world.devices.set id later } where
  direct := ⟨direct.faults, direct.rival⟩
  bench := ⟨[], by simp, rfl⟩
  absent other absent := by
    have ne : other ≠ id := by
      rintro rfl
      rw [found] at absent
      contradiction
    exact (Table.get?_set_of_ne _ ne _).trans absent
  present other held' found' := by
    by_cases same : other = id
    · subst same
      obtain rfl := Option.some.inj (found.symm.trans found')
      exact ⟨later, Table.get?_set_self _ _ _, kept⟩
    · exact ⟨held', (Table.get?_set_of_ne _ same _).trans found', {}⟩

end World

namespace Act

/-! ## What an action obeys -/

/-- Wherever an action is carried out, a relation allows where it leads. -/
def Obeys {α : Type} (R : World → World → Prop) (act : Act α) : Prop :=
  ∀ world, R world (act.on world).2

/-- Wherever an action is carried out, it changes nothing. -/
def Looks {α : Type} (act : Act α) : Prop :=
  ∀ world, (act.on world).2 = world

section Obeys

variable {α β : Type} {R : World → World → Prop}

theorem looks_pure (answer : α) : Looks (pure answer : Act α) :=
  fun _ => rfl

theorem looks_throw (error : Error) : Looks (throw error : Act α) :=
  fun _ => rfl

theorem looks_resume (answer : Except Error α) : Looks (resume answer) :=
  fun world => congrArg Prod.snd (on_resume world answer)

theorem looks_device (id : DeviceId) : Looks (device id) := by
  intro world
  cases found : world.devices.get? id with
  | none => rw [on_device_of_absent found]
  | some held => rw [on_device found]

theorem looks_live (id : DeviceId) : Looks (live id) := by
  intro world
  rcases on_live_cases world id with ⟨_, _, _, carried⟩ | carried <;> rw [carried]

theorem Obeys.of_looks {act : Act α} (refl : ∀ world, R world world) (looks : Looks act) :
    Obeys R act := by
  intro world
  rw [looks]
  exact refl world

theorem Obeys.bind {act : Act α} {next : α → Act β}
    (trans : ∀ {first middle last}, R first middle → R middle last → R first last)
    (first : Obeys R act) (rest : ∀ answer, Obeys R (next answer)) : Obeys R (act >>= next) := by
  intro world
  have led := first world
  rw [on_bind]
  rcases carried : act.on world with ⟨error | answer, after⟩
  · rwa [carried] at led
  · rw [carried] at led
    exact trans led (rest answer after)

/-- A relation between worlds that allows nothing to happen, one thing after another, and what
is noted. -/
structure Allows (R : World → World → Prop) : Prop where
  refl : ∀ world, R world world
  trans : ∀ {first middle last}, R first middle → R middle last → R first last
  note : ∀ notices, Obeys R (Act.note notices)
  report : ∀ occurrence, Obeys R (Act.report occurrence)

namespace Allows

variable (allows : Allows R)

include allows

theorem looks {act : Act α} (looks : Looks act) : Obeys R act :=
  .of_looks allows.refl looks

theorem bind {act : Act α} {next : α → Act β} (first : Obeys R act)
    (rest : ∀ answer, Obeys R (next answer)) : Obeys R (act >>= next) :=
  .bind allows.trans first rest

/-- To run a handler is allowed when what the handler does is. -/
theorem handle {due : Due} (reacts : Obeys R (Act.react due.handle due.firing.handler.reaction)) :
    Obeys R (Act.handle due) := by
  refine allows.bind (allows.note _) fun _ => allows.bind reacts fun _ =>
    allows.bind (allows.report _) fun _ => ?_
  split
  · exact allows.note _
  · exact allows.looks (looks_pure _)

theorem handleAll {dues : List Due}
    (reacts : ∀ due ∈ dues, Obeys R (Act.react due.handle due.firing.handler.reaction)) :
    Obeys R (Act.handleAll dues) := by
  induction dues with
  | nil => exact allows.looks (looks_pure _)
  | cons due rest ih =>
      rw [List.forall_mem_cons] at reacts
      exact allows.bind (allows.handle reacts.1) fun _ => ih reacts.2

end Allows

end Obeys

/-! ## What an action keeps -/

/-- Wherever an action is carried out over a link that passes every call, it starts no scan
and gives no handle back, but for one deed, and changes no slot, but for one. -/
def Keeps {α : Type} (deed : Option Deed)
    (slot : Option (DeviceId × ScanTarget)) (act : Act α) : Prop :=
  ∀ world : World, world.IsDirect → world.Leads deed slot (act.on world).2

section Keeps

variable {α β : Type} {deed : Option Deed}
  {slot : Option (DeviceId × ScanTarget)}

/-- To start no scan and give no handle back, but for one deed, and to change no slot, but for one,
is allowed to go on. -/
theorem keeps_allows (deed : Option Deed) (slot : Option (DeviceId × ScanTarget)) :
    Allows fun before after => before.IsDirect → before.Leads deed slot after where
  refl _ direct := .refl direct
  trans left right direct := (left direct).trans (right (left direct).direct)
  note _ _ direct := .of_same ⟨direct.faults, direct.rival⟩ rfl rfl rfl
  report _ _ direct := .of_same ⟨direct.faults, direct.rival⟩ rfl rfl rfl

theorem Keeps.of_looks {act : Act α} (looks : Looks act) : Keeps deed slot act :=
  (keeps_allows deed slot).looks looks

theorem Keeps.pure (answer : α) : Keeps deed slot (pure answer : Act α) :=
  .of_looks (looks_pure answer)

theorem Keeps.throw (error : Error) : Keeps deed slot (throw error : Act α) :=
  .of_looks (looks_throw error)

theorem Keeps.bind {act : Act α} {next : α → Act β} (first : Keeps deed slot act)
    (rest : ∀ answer, Keeps deed slot (next answer)) : Keeps deed slot (act >>= next) :=
  (keeps_allows deed slot).bind first rest

theorem Keeps.attempt {act : Act α} (keeps : Keeps deed slot act) :
    Keeps deed slot (attempt act) :=
  keeps

theorem Keeps.note (notices : List Notice) : Keeps deed slot (note notices) :=
  (keeps_allows deed slot).note notices

/-! ### Devices -/

theorem Keeps.device (id : DeviceId) : Keeps deed slot (device id) :=
  .of_looks (looks_device id)

theorem Keeps.live (id : DeviceId) : Keeps deed slot (live id) :=
  .of_looks (looks_live id)

theorem Keeps.updateDevice (id : DeviceId) {change : Device → Device}
    (kept : ∀ held : Device, held.Keeps id slot (change held)) :
    Keeps deed slot (updateDevice id change) := by
  intro world direct
  cases found : world.devices.get? id with
  | none =>
      unfold Act.updateDevice
      rw [on_bind_error (on_device_of_absent found)]
      exact .refl direct
  | some held =>
      rw [on_updateDevice found]
      exact .of_put direct found (kept held)

/-! ### Requests -/

theorem Keeps.serve {request : Request α}
    (does : (Command.request request).deed? = none ∨
      (Command.request request).deed? = deed) : Keeps deed slot (serve request) := by
  intro world direct
  cases served : request.serve world.bench with
  | error error =>
      rw [on_serve_of_refused served]
      exact .refl direct
  | ok outcome =>
      rw [on_serve served]
      exact .of_step ⟨direct.faults, direct.rival⟩ _ does (Bench.step_request served).symm
        rfl rfl

theorem Keeps.react (handle : Handle) (reaction : Reaction) :
    Keeps deed slot (react handle reaction) := by
  cases reaction with
  | record | breakDown => exact .pure _
  | stop target | disable kinds | status target =>
      exact Keeps.bind (Keeps.serve (.inl rfl)).attempt fun _ => .pure _

theorem Keeps.handleAll (dues : List Due) : Keeps deed slot (handleAll dues) :=
  (keeps_allows deed slot).handleAll fun _ _ => Keeps.react _ _

theorem Keeps.perform {request : Request α}
    (does : (Command.request request).deed? = none ∨
      (Command.request request).deed? = deed) : Keeps deed slot (perform request) :=
  Keeps.bind (.serve does) fun _ => Keeps.bind (.handleAll _) fun _ => .pure _

theorem Keeps.stimulate (stimulus : Stimulus α) : Keeps deed slot (stimulate stimulus) := by
  intro world direct
  have quiet : (Command.stimulus stimulus).deed? = none := by
    cases stimulus <;> rfl
  cases applied : stimulus.apply world.bench with
  | error error =>
      rw [on_stimulate_of_refused applied]
      exact .refl direct
  | ok outcome =>
      have led : world.Leads deed slot (world.stimulated stimulus outcome) :=
        .of_step ⟨direct.faults, direct.rival⟩ _ (.inl quiet) (Bench.step_stimulus applied).symm
          rfl rfl
      have handled : Keeps deed slot (do Act.handleAll outcome.due; return outcome.answer) :=
        Keeps.bind (.handleAll _) fun _ => .pure _
      rw [on_stimulate applied]
      exact led.trans (handled _ led.direct)

theorem Keeps.pass (name : String) : Keeps deed slot (pass name) := by
  intro world direct
  rw [on_pass direct]
  exact .refl direct

theorem Keeps.send {request : Request α}
    (does : (Command.request request).deed? = none ∨
      (Command.request request).deed? = deed) : Keeps deed slot (send request) :=
  Keeps.bind (.pass _) fun _ => .perform does

theorem Keeps.askStatus (handle : Handle) (target : ScanTarget) :
    Keeps deed slot (askStatus handle target) := by
  intro world direct
  cases found : world.bench.driver.instruments.get? handle with
  | none =>
      rw [on_askStatus_of_absent direct found]
      exact .refl direct
  | some instrument =>
      rw [on_askStatus direct found]
      exact .refl direct

end Keeps

end Act

end Acquisition
