import Acquisition.Device.Operation
import Acquisition.Proofs.Conduct

/-!
# Operations and slots

An operation that is about no scan, loads no queue, makes no setting and sets no trigger is put
together from requests that do little and from notices, so a relation that allows these allows all
that it leads to (`Act.Frame.perform`).  It changes no slot and starts no scan (`keeps_perform`).  The others are
starts, which ask the driver and then pin the buffer, and queries, which ask for the status of a
scan, perhaps after stopping it or waiting for it, and then settle the slot with the answer.
-/

namespace Acquisition

/-! ## Which scan an operation is about -/

/-- What is asked of the driver before the status of a scan. -/
inductive Query where
  | status
  | stop
  | wait (condition : WaitCondition) (parameter : Int) (timeout : Float)

namespace Operation

variable {α : Type}

/-- The target and the buffer of a scan that is to be started. -/
def start? : Operation α → Option (ScanTarget × ScanBuffer)
  | .scanAnalogIn _ _ _ _ _ _ _ _ buffer => some (.analogIn, .reals buffer)
  | .scanAnalogOut _ _ _ _ _ _ _ buffer => some (.analogOut, .reals buffer)
  | .scanDigitalIn _ _ _ _ _ _ buffer => some (.digitalIn, .words buffer)
  | .scanDigitalOut _ _ _ _ _ _ buffer => some (.digitalOut, .words buffer)
  | .scanCounters _ _ _ _ _ _ buffer => some (.counterIn, .words buffer)
  | .scanSyncIn _ _ _ _ _ buffer => some (.syncIn, .reals buffer)
  | .scanSyncOut _ _ _ _ _ buffer => some (.syncOut, .reals buffer)
  | _ => none

/-- The target whose scan is asked about, and how. -/
def query? : Operation α → Option (ScanTarget × Query)
  | .scanStatus target => some (target, .status)
  | .stopScan target => some (target, .stop)
  | .waitScan target condition parameter timeout => some (target, .wait condition parameter timeout)
  | _ => none

/-- The target whose scan an operation starts or asks about. -/
def target? (operation : Operation α) : Option ScanTarget :=
  match operation.start?, operation.query? with
  | some (target, _), _ => some target
  | none, some (target, _) => some target
  | none, none => none

/-- Whether an operation gives the handle of its device back. -/
def isRelease : Operation α → Bool
  | .release => true
  | _ => false

/-- Whether an operation changes which events have a handler. -/
def bindsEvents : Operation α → Bool
  | .enableEvents .. | .disableEvents .. => true
  | _ => false

/-- Whether an operation loads the channel-gain queue. -/
def loadsQueue : Operation α → Bool
  | .loadQueue _ => true
  | _ => false

/-- The request that an operation comes to when it makes a setting or sets a trigger. -/
def tuner? : Operation α → Option (Handle → Request α)
  | .makeSetting setting value => some fun handle => setting.request handle value
  | .setTrigger target channel trigger =>
      some fun handle => .setTrigger handle target channel trigger
  | .setSyncInTrigger channel trigger => some fun handle => .setSyncInTrigger handle channel trigger
  | .setSyncOutTrigger channel trigger =>
      some fun handle => .setSyncOutTrigger handle channel trigger
  | _ => none

theorem perform_of_tuner? {operation : Operation α} {request : Handle → Request α}
    (comes : operation.tuner? = some request) (id : DeviceId) :
    operation.perform id = (do Act.send (request (← Act.live id))) := by
  cases operation with
  | makeSetting | setTrigger | setSyncInTrigger | setSyncOutTrigger =>
      obtain rfl := Option.some.inj comes
      rfl
  | _ => contradiction

/-- What an operation may do that matters to those who hold the device behind a handle. -/
def deed? (handle : Handle) (operation : Operation α) : Option Deed :=
  if operation.isRelease then some (.release handle)
  else operation.start?.map fun start => .start handle start.1

/-- Whether a device has the part that an operation about a scan belongs to. -/
def isOffered (held : Device) (operation : Operation α) : Bool :=
  operation.target?.all fun target => target ∈ held.targets

end Operation

/-- Whether a request starts no scan, gives no handle back, binds no event, loads no queue, makes no
setting and sets no trigger. -/
def Request.isQuiet {α : Type} : Request α → Bool
  | .release _ | .enableEvents .. | .disableEvents .. | .loadQueue .. | .setSetting ..
  | .setRealSetting .. | .setTrigger .. | .setSyncInTrigger .. | .setSyncOutTrigger .. => false
  | request => request.start?.isNone

theorem Request.deed?_of_isQuiet {α : Type} {request : Request α} (quiet : request.isQuiet = true) :
    (Command.request request).deed? = none := by
  cases request <;> first | rfl | contradiction

/-- Making a setting or setting a trigger is no action, and no deed. -/
theorem Operation.plain_of_tuner? {α : Type} {operation : Operation α}
    {request : Handle → Request α} (comes : operation.tuner? = some request) (handle : Handle) :
    (Command.request (request handle)).action? = none ∧
      (Command.request (request handle)).deed? = none := by
  cases operation with
  | makeSetting setting value =>
      obtain rfl := Option.some.inj comes
      cases setting <;> exact ⟨rfl, rfl⟩
  | setTrigger | setSyncInTrigger | setSyncOutTrigger =>
      obtain rfl := Option.some.inj comes
      exact ⟨rfl, rfl⟩
  | _ => contradiction

namespace Act

/-! ## Operations that are about no scan -/

/-- A relation between worlds that allows what most operations on a device are made of. -/
structure Frame (R : World → World → Prop) (id : DeviceId) : Prop extends Allows R where
  send : ∀ {α : Type} {request : Request α}, request.isQuiet = true → Obeys R (Act.send request)
  askStatus : ∀ handle target, Obeys R (Act.askStatus handle target)

namespace Frame

variable {α β : Type} {R : World → World → Prop} {id : DeviceId} (frame : Frame R id)

include frame

/-- What comes after the handle of the device. -/
theorem live {next : Handle → Act α} (rest : ∀ handle, Obeys R (next handle)) :
    Obeys R (Act.live id >>= next) :=
  frame.bind (frame.looks (looks_live id)) rest

/-- The device is asked something over the link. -/
theorem call {request : Handle → Request α} (quiet : ∀ handle, (request handle).isQuiet = true) :
    Obeys R (do Act.send (request (← Act.live id))) :=
  frame.live fun handle => frame.send (quiet handle)

/-- The device is asked something over the link, and something follows. -/
theorem call_bind {request : Handle → Request α} {next : α → Act β}
    (quiet : ∀ handle, (request handle).isQuiet = true) (rest : ∀ answer, Obeys R (next answer)) :
    Obeys R (do next (← Act.send (request (← Act.live id)))) :=
  frame.live fun handle => frame.bind (frame.send (quiet handle)) rest

theorem ask (property : Property α) : Obeys R (Act.ask id property) := by
  cases property with
  | integer place understand =>
      exact frame.call_bind (fun _ => rfl) fun _ => frame.looks (looks_resume _)
  | real place understand =>
      exact frame.call_bind (fun _ => rfl) fun _ => frame.looks (looks_pure _)

theorem askFrom (property : Nat → Property α) (position remaining : Nat) :
    Obeys R (Act.askFrom id property position remaining) := by
  induction remaining generalizing position with
  | zero => exact frame.looks (looks_pure _)
  | succ remaining ih =>
      exact frame.bind (frame.ask _) fun _ => frame.bind (ih _) fun _ => frame.looks (looks_pure _)

theorem searchPort (port : PortKind) (position remaining : Nat) :
    Obeys R (Act.searchPort id port position remaining) := by
  induction remaining generalizing position with
  | zero => exact frame.looks (looks_throw _)
  | succ remaining ih =>
      apply frame.bind (frame.ask _)
      intro code
      split
      · exact frame.looks (looks_pure _)
      · exact ih _

theorem portPosition (port : PortKind) : Obeys R (Act.portPosition id port) :=
  frame.bind (frame.ask _) fun _ => frame.searchPort port _ _

theorem directionMask (port : PortKind) : Obeys R (Act.directionMask id port) :=
  frame.bind (frame.portPosition port) fun _ =>
    frame.call_bind (fun _ => rfl) fun _ => frame.looks (looks_pure _)

theorem currentSetting (setting : AnalogSetting α) :
    Obeys R (do setting.current (← Act.live id)) := by
  apply frame.live
  intro handle
  cases setting with
  | sensitivity | slope | offset => exact frame.send rfl
  | _ => exact frame.bind (frame.send rfl) fun _ => frame.looks (looks_resume _)

theorem stopRunning (handle : Handle) (targets : List ScanTarget) :
    Obeys R (Act.stopRunning handle targets) := by
  induction targets with
  | nil => exact frame.looks (looks_pure _)
  | cons target rest ih =>
      apply frame.bind (frame.askStatus handle target)
      rintro ⟨status, transfer⟩
      by_cases running : status = .running
      · simp only [running, if_true]
        exact frame.bind (frame.send rfl) fun _ => frame.bind (frame.note _) fun _ => ih
      · simp only [running, if_false]
        exact ih

theorem stopAll : Obeys R (Act.stopAll id) :=
  frame.live fun _ => frame.bind (frame.looks (looks_device id)) fun _ => frame.stopRunning _ _

theorem disconnect : Obeys R (Act.disconnect id) :=
  frame.call_bind (fun _ => rfl) fun _ =>
    frame.bind (frame.looks (looks_device id)) fun _ => frame.note _

theorem findParts (handle : Handle) (among : List Part) :
    Obeys R (Act.findParts handle among) := by
  induction among with
  | nil => exact frame.looks (looks_pure _)
  | cons part rest ih =>
      exact frame.bind (frame.send rfl) fun _ => frame.bind ih fun _ => frame.looks (looks_pure _)

/-- What an operation leads to is allowed when it is about no scan, about no event and about no
queue, makes no setting, sets no trigger and does not give the handle back. -/
theorem perform {operation : Operation α} (unscanned : operation.target? = none)
    (kept : operation.isRelease = false) (unbinding : operation.bindsEvents = false)
    (unloading : operation.loadsQueue = false) (untuned : operation.tuner? = none) :
    Obeys R (operation.perform id) := by
  cases operation with
  | handle => exact frame.looks (looks_live id)
  | connect =>
      exact frame.call_bind (fun _ => rfl) fun _ =>
        frame.bind (frame.looks (looks_device id)) fun _ => frame.note _
  | disconnect => exact frame.disconnect
  | stopAll => exact frame.stopAll
  | ask property => exact frame.ask property
  | askEach count property => exact frame.bind (frame.ask count) fun _ => frame.askFrom property _ _
  | currentSetting setting => exact frame.currentSetting setting
  | calibrationDate => exact frame.call_bind (fun _ => rfl) fun _ => frame.looks (looks_pure _)
  | portInfo port =>
      exact frame.bind (frame.portPosition port) fun _ => frame.bind (frame.ask _) fun _ =>
        frame.bind (frame.ask _) fun _ => frame.looks (looks_pure _)
  | directionMask port => exact frame.directionMask port
  | bitDirections port =>
      exact frame.bind (frame.portPosition port) fun _ => frame.bind (frame.ask _) fun _ =>
        frame.bind (frame.directionMask port) fun _ => frame.looks (looks_pure _)
  | loadRegister counter register value =>
      exact frame.call_bind (fun _ => rfl) fun _ => frame.note _
  | startTimer timer request =>
      exact frame.call_bind (fun _ => rfl) fun _ =>
        frame.bind (frame.note _) fun _ => frame.looks (looks_pure _)
  | readMemory region address length =>
      exact frame.bind (frame.looks (looks_resume _)) fun _ => frame.call fun _ => rfl
  | descriptor | isConnected | flashLed | version | memoryArea | writeMemory
  | readAnalog | calibrationText
  | writeAnalog | configurePort | configureBit | readPort | writePort | readBit | writeBit
  | readCounter | readRegister | clearCounter | setupCounter | stopTimer | timerStatus =>
      exact frame.call fun _ => rfl
  | release | enableEvents | disableEvents | loadQueue | makeSetting | setTrigger
  | setSyncInTrigger | setSyncOutTrigger => contradiction
  | _ => simp [Operation.target?, Operation.start?, Operation.query?] at unscanned

end Frame

section Plain

variable {α : Type} (id : DeviceId)

/-- Starting no scan, giving no handle back and changing no slot is a frame. -/
theorem keeps_frame :
    Frame (fun before after => before.IsDirect → before.Leads none none after) id where
  toAllows := keeps_allows none none
  send quiet := Keeps.send (.inl (Request.deed?_of_isQuiet quiet))
  askStatus := Keeps.askStatus

theorem keeps_enableEvents (kinds : Flags .event) (period : Nat) (handler : Handler) :
    Keeps none none (enableEvents id kinds period handler) := by
  apply Keeps.bind (.live id)
  intro handle
  apply Keeps.bind (.device id)
  intro held
  have bind : Keeps none none (do
      Act.send (.enableEvents handle kinds period handler)
      Act.updateDevice id fun held => held.subscribe kinds
      Act.note [.eventsEnabled kinds]) :=
    Keeps.bind (.send (.inl rfl)) fun _ => Keeps.bind (.updateDevice id fun _ => {}) fun _ =>
      .note _
  split
  · exact Keeps.bind (.throw _) fun _ => bind
  · exact bind

theorem keeps_disableEvents (kinds : Flags .event) : Keeps none none (disableEvents id kinds) :=
  Keeps.bind (.live id) fun _ => Keeps.bind (.send (.inl rfl)) fun _ =>
    Keeps.bind (.updateDevice id fun _ => {}) fun _ => .note _

theorem keeps_loadQueue (queue : List QueueElement) :
    Keeps none none ((Operation.loadQueue queue).perform id) :=
  Keeps.bind (.live id) fun _ => Keeps.bind (.send (.inl rfl)) fun _ =>
    Keeps.bind (.updateDevice id fun _ => {}) fun _ => .note _

theorem keeps_of_tuner? {operation : Operation α} {request : Handle → Request α}
    (comes : operation.tuner? = some request) : Keeps none none (operation.perform id) := by
  rw [Operation.perform_of_tuner? comes]
  exact Keeps.bind (.live id) fun handle =>
    .send (.inl (Operation.plain_of_tuner? comes handle).2)

/-- An operation that is about no scan, and does not give the handle back, starts no scan
and changes no slot. -/
theorem keeps_perform {operation : Operation α} (unscanned : operation.target? = none)
    (kept : operation.isRelease = false) : Keeps none none (operation.perform id) := by
  cases tunes : operation.tuner? with
  | some request => exact keeps_of_tuner? id tunes
  | none =>
      by_cases plain : operation.bindsEvents = false ∧ operation.loadsQueue = false
      · exact (keeps_frame id).perform unscanned kept plain.1 plain.2 tunes
      · cases operation with
        | enableEvents kinds period handler => exact keeps_enableEvents id kinds period handler
        | disableEvents kinds => exact keeps_disableEvents id kinds
        | loadQueue queue => exact keeps_loadQueue id queue
        | _ => exact absurd ⟨rfl, rfl⟩ plain

end Plain

end Act

/-! ## Operations that come to one request -/

section Tuner

variable {α : Type}

/-- Nothing is noted of a setting that is made or of a trigger that is set. -/
theorem Operation.silent_of_tuner? {operation : Operation α} {request : Handle → Request α}
    (comes : operation.tuner? = some request) (handle : Handle) (bench : Bench)
    (outcome : Outcome α) : Notice.ofRequest (request handle) bench outcome = [] := by
  cases operation with
  | makeSetting setting value =>
      obtain rfl := Option.some.inj comes
      cases setting <;> rfl
  | setTrigger | setSyncInTrigger | setSyncOutTrigger =>
      obtain rfl := Option.some.inj comes
      rfl
  | _ => contradiction

/-- A request that comes to a change of a connected device, and of which nothing is noted, is refused
and changes nothing, or the device has been changed and nothing else. -/
theorem World.change_cases {world : World} {request : Request Unit} {handle : Handle}
    {change : Instrument → Except Error Instrument}
    (silent : ∀ outcome, Notice.ofRequest request world.bench outcome = [])
    (asks : request.serve world.bench = world.bench.adjustConnected handle change) :
    (∃ error, (Act.perform request).on world = (.error error, world)) ∨
    ∃ device made, world.bench.driver.instruments.get? handle = some device ∧
      device.isConnected = true ∧ change device = .ok made ∧
      (Act.perform request).on world =
        (.ok (), { world with bench := world.bench.put handle made }) := by
  cases served : request.serve world.bench with
  | error error => exact .inl ⟨error, Act.on_perform_of_refused served⟩
  | ok outcome =>
      obtain ⟨device, made, there, connected, done, rfl⟩ :=
        Bench.adjustConnected_eq_ok_iff.mp (asks.symm.trans served)
      refine .inr ⟨device, made, there, connected, done, ?_⟩
      rw [Act.on_perform served rfl, World.served, silent, List.append_nil]

/-- An operation that comes to a change of a connected device is refused and changes nothing, or
the device has been changed and nothing else. -/
theorem World.tuner_cases {world : World} {operation : Operation Unit}
    {request : Handle → Request Unit} {change : Instrument → Except Error Instrument}
    (direct : world.IsDirect) (comes : operation.tuner? = some request)
    (asks : ∀ handle, (request handle).serve world.bench =
      world.bench.adjustConnected handle change) (id : DeviceId) :
    (∃ error, (operation.perform id).on world = (.error error, world)) ∨
    ∃ held device made, world.devices.get? id = some held ∧ held.isReleased = false ∧
      world.bench.driver.instruments.get? held.handle = some device ∧
      device.isConnected = true ∧ change device = .ok made ∧
      (operation.perform id).on world =
        (.ok (), { world with bench := world.bench.put held.handle made }) := by
  rw [Operation.perform_of_tuner? comes]
  rcases Act.on_live_cases world id with ⟨held, found, kept, carried⟩ | carried
  · rw [Act.on_bind_ok carried, Act.on_send direct]
    have silent := Operation.silent_of_tuner? comes held.handle world.bench
    rcases World.change_cases silent (asks held.handle) with refused | changed
    · exact .inl refused
    · obtain ⟨device, made, there, connected, done, carried⟩ := changed
      exact .inr ⟨held, device, made, found, kept, there, connected, done, carried⟩
  · exact .inl ⟨_, Act.on_bind_error carried⟩

end Tuner

end Acquisition
