import Acquisition.Proofs.Calls
import Acquisition.Proofs.Calm

/-!
# Slots

A start asks the driver for a scan and then pins its buffer.  A query asks for the status
of a scan, in three steps: read the generation of the slot, ask the driver, settle the
slot with the answer.  The lemmas say what each step does over a link that passes every
call, and that the operations on a scan are put together from these steps.
-/

namespace Acquisition

/-! ## The parts of a slot -/

namespace Device

@[simp]
theorem slot_putSlot_self (held : Device) (target : ScanTarget) (slot : Slot) :
    (held.putSlot target slot).slot target = slot := by
  simp [Device.slot, putSlot, Table.getD]

theorem slot_putSlot_of_ne (held : Device) {target other : ScanTarget} (ne : other ≠ target)
    (slot : Slot) : (held.putSlot target slot).slot other = held.slot other := by
  simp [Device.slot, putSlot, Table.getD, Table.get?_set_of_ne _ ne]

theorem putSlot_keeps (held : Device) (id : DeviceId) (target : ScanTarget) (slot : Slot) :
    held.Keeps id (some (id, target)) (held.putSlot target slot) where
  slots other ne := by
    apply slot_putSlot_of_ne
    rintro rfl
    exact ne rfl

end Device

namespace Instrument

variable {instrument : Instrument} {target : ScanTarget} {run : ScanRun}

/-- A scan is running exactly when its status says so. -/
theorem running?_eq_none_iff :
    instrument.running? target = none ↔ (instrument.scanStatus target).1 = .idle := by
  unfold running? scanStatus
  cases instrument.scans.get? target with
  | none => simp
  | some run => cases status : run.status <;> simp [ScanRun.isRunning, status]

end Instrument

/-! ## Starts -/

namespace Request

variable {α : Type} {request : Request α} {handle : Handle} {scan : ScanStart}

theorem action?_of_start? (asks : request.start? = some (handle, scan)) :
    request.action? = some (handle, .start scan) := by
  cases request <;> simp_all [action?, start?]

end Request

/-- No handler is due after a scan has been started. -/
theorem Bench.due_of_start {α : Type} {bench : Bench} {request : Request α} {handle : Handle}
    {scan : ScanStart} {outcome : Outcome α} (asks : request.start? = some (handle, scan))
    (served : request.serve bench = .ok outcome) : outcome.due = [] := by
  obtain ⟨device, result, _, done, _, due⟩ := performs_of_serve (Request.action?_of_start? asks) served
  obtain ⟨_, _, _, silent, _⟩ := Action.opening_of_start done
  rw [due, silent]
  rfl

/-- A start on a target: the buffer, and how the driver is asked for the scan. -/
structure SlotStart (target : ScanTarget) where
  buffer : ScanBuffer
  request : Handle → Request Float
  asks : ∀ handle, ∃ scan, (request handle).start? = some (handle, scan) ∧
    scan.target = target ∧ scan.buffer = buffer

namespace SlotStart

variable {target : ScanTarget} (start : SlotStart target) {handle : Handle} {world : World}

theorem deed? (handle : Handle) :
    (Command.request (start.request handle)).deed? = some (.start handle target) := by
  rcases start.asks handle with ⟨scan, asks, rfl, _⟩
  have asked : (Command.request (start.request handle)).action? = some (handle, .start scan) :=
    Request.action?_of_start? asks
  rw [Command.deed?_of_action? asked]
  rfl

end SlotStart

/-- The driver has accepted a start: its scan runs, and the devices are as they were. -/
structure World.Accepts {target : ScanTarget} (before : World) (handle : Handle)
    (start : SlotStart target) (after : World) : Prop where
  leads : before.Leads (some (.start handle target)) none after
  devices : after.devices = before.devices
  running : ∃ run, after.bench.running? handle target = some run ∧ run.buffer = start.buffer

/-- Nothing has changed but one slot of a device, and the notices. -/
structure World.Sets (before : World) (id : DeviceId) (target : ScanTarget) (held : Device)
    (slot : Slot) (after : World) : Prop where
  direct : after.IsDirect
  bench : after.bench = before.bench := by rfl
  nextDevice : after.nextDevice = before.nextDevice := by rfl
  devices : after.devices = before.devices.set id (held.putSlot target slot) := by rfl

namespace World.Sets

variable {before after : World} {id : DeviceId} {target : ScanTarget} {held : Device} {slot : Slot}

theorem found (sets : before.Sets id target held slot after) :
    after.devices.get? id = some (held.putSlot target slot) := by
  rw [sets.devices, Table.get?_set_self]

theorem leads {deed : Option Deed}
    (there : before.devices.get? id = some held) (sets : before.Sets id target held slot after) :
    before.Leads deed (some (id, target)) after where
  direct := sets.direct
  nextDevice := sets.nextDevice
  bench := ⟨[], by simp, sets.bench⟩
  absent other absent := by
    rw [sets.devices, Table.get?_set_of_ne, absent]
    rintro rfl
    rw [there] at absent
    contradiction
  present other held' there' := by
    rw [sets.devices]
    by_cases same : other = id
    · subst same
      obtain rfl := Option.some.inj (there.symm.trans there')
      exact ⟨_, Table.get?_set_self _ _ _, held.putSlot_keeps other target slot⟩
    · exact ⟨held', (Table.get?_set_of_ne _ same _).trans there', {}⟩

end World.Sets

namespace Act

variable {id : DeviceId} {target : ScanTarget} {world : World} {held : Device}

/-! ## The steps of a start -/

/-- Ask the driver for a scan. -/
def accept (id : DeviceId) (start : SlotStart target) : Act Float := do
  send (start.request (← live id))

/-- A start asks the driver and then pins the buffer. -/
theorem startScan_eq (id : DeviceId) (start : SlotStart target) :
    startScan id target start.buffer start.request = (do
      let rate ← accept id start
      pin id target start.buffer rate
      return rate) := by
  simp only [startScan, accept, bind_assoc]

/-- The driver refuses a start, and nothing has changed, or it accepts it. -/
theorem on_accept_cases (direct : world.IsDirect) (id : DeviceId) (start : SlotStart target) :
    (∃ error, (accept id start).on world = (.error error, world)) ∨
    ∃ held rate after, world.devices.get? id = some held ∧ held.isReleased = false ∧
      (accept id start).on world = (.ok rate, after) ∧
      world.Accepts held.handle start after := by
  rcases on_live_cases world id with ⟨held, found, kept, carried⟩ | carried
  · unfold accept
    rw [on_bind_ok carried, on_send direct]
    cases served : (start.request held.handle).serve world.bench with
    | error error => exact .inl ⟨error, on_perform_of_refused served⟩
    | ok outcome =>
        rcases start.asks held.handle with ⟨scan, asks, aimed, same⟩
        rcases Bench.performs_of_serve (Request.action?_of_start? asks) served with
          ⟨device, result, there, done, acted, _⟩
        rcases Action.opening_of_start done with ⟨columns, _, _, _, recorded⟩
        have quiet : outcome.due = [] := Bench.due_of_start asks served
        refine .inr ⟨held, outcome.answer, _, found, kept, on_perform served quiet, ?_⟩
        constructor
        · exact .of_step ⟨direct.faults, direct.rival⟩ _ (.inr (start.deed? held.handle))
            (Bench.step_request served).symm rfl rfl
        · rfl
        · refine ⟨(scan.plan columns).opening, ?_, ?_⟩
          · have now : (world.served (start.request held.handle) outcome).bench = outcome.bench :=
              rfl
            rw [now, Bench.running?_of_found acted.get?_self,
              Instrument.running?_eq_some_iff, ← aimed]
            exact ⟨recorded, rfl⟩
          · rw [← same]
            exact scan.plan_buffer columns
  · refine .inl ⟨.badDevHandle, ?_⟩
    unfold accept
    rw [on_bind_error carried]

theorem on_pin (direct : world.IsDirect) (found : world.devices.get? id = some held)
    (target : ScanTarget) (buffer : ScanBuffer) (rate : Float) :
    ∃ after, (pin id target buffer rate).on world = (.ok (), after) ∧
      world.Sets id target held ((held.slot target).pin buffer) after := by
  unfold pin
  rw [on_bind_ok (on_updateDevice found _), on_bind_ok (on_get _), on_note]
  exact ⟨_, rfl, { direct := ⟨direct.faults, direct.rival⟩ }⟩

/-! ## The steps of a query -/

/-- The request of a query, before the status is asked for. -/
def lead (id : DeviceId) (target : ScanTarget) : Query → Act Unit
  | .status => return ()
  | .stop => do
      send (.stopScan (← live id) target)
      note [.stopRequested target]
  | .wait condition parameter timeout => do
      send (.waitScan (← live id) target condition parameter timeout)

/-- Read the generation of a slot. -/
def readGeneration (id : DeviceId) (target : ScanTarget) : Act (Handle × Nat) := do
  let handle ← live id
  return (handle, ((← device id).slot target).generation)

/-- A query makes its request and then asks for the status. -/
def query (id : DeviceId) (target : ScanTarget) (query : Query) : Act (ScanStatus × Transfer) := do
  lead id target query
  scanStatus id target

/-- The status of a scan: read the generation, ask the driver, settle the slot. -/
theorem scanStatus_eq (id : DeviceId) (target : ScanTarget) :
    scanStatus id target = (do
      let (handle, asked) ← readGeneration id target
      let (status, transfer) ← askStatus handle target
      settle id target asked status
      return (status, transfer)) := by
  simp only [scanStatus, readGeneration, bind_assoc, pure_bind]

theorem keeps_lead (id : DeviceId) (target : ScanTarget) (query : Query) :
    Keeps none none (lead id target query) := by
  cases query with
  | status => exact .pure _
  | stop => exact Keeps.bind (.live id) fun _ => Keeps.bind (.send (.inl rfl)) fun _ => .note _
  | wait => exact Keeps.bind (.live id) fun _ => .send (.inl rfl)

theorem on_readGeneration_cases (world : World) (id : DeviceId) (target : ScanTarget) :
    (∃ error, (readGeneration id target).on world = (.error error, world)) ∨
    ∃ held, world.devices.get? id = some held ∧ held.isReleased = false ∧
      (readGeneration id target).on world =
        (.ok (held.handle, (held.slot target).generation), world) := by
  unfold readGeneration
  rcases on_live_cases world id with ⟨held, found, kept, carried⟩ | carried
  · refine .inr ⟨held, found, kept, ?_⟩
    rw [on_bind_ok carried, on_bind_ok (on_device found), on_pure]
  · exact .inl ⟨.badDevHandle, by rw [on_bind_error carried]⟩

/-- The driver does not know the handle, or it tells the status; nothing has changed. -/
theorem on_askStatus_cases (direct : world.IsDirect) (handle : Handle) (target : ScanTarget) :
    (∃ error, (askStatus handle target).on world = (.error error, world)) ∨
    ∃ answer, (askStatus handle target).on world = (.ok answer, world) ∧
      (answer.1 = .idle → world.bench.running? handle target = none) := by
  cases found : world.bench.driver.instruments.get? handle with
  | none => exact .inl ⟨_, on_askStatus_of_absent direct found target⟩
  | some instrument =>
      refine .inr ⟨_, on_askStatus direct found, ?_⟩
      intro idle
      rw [Bench.running?_of_found found]
      exact Instrument.running?_eq_none_iff.mpr idle

theorem on_settle (direct : world.IsDirect) (found : world.devices.get? id = some held)
    (target : ScanTarget) (asked : Nat) (status : ScanStatus) :
    ∃ after, (settle id target asked status).on world = (.ok (), after) ∧
      world.Sets id target held ((held.slot target).settle asked status) after := by
  unfold settle
  rw [on_bind_ok (on_device found), on_bind_ok (on_updateDevice found _), on_note]
  exact ⟨_, rfl, { direct := ⟨direct.faults, direct.rival⟩ }⟩

/-! ## Whole starts and queries -/

section Served

variable {start : SlotStart target}

/-- The driver refuses a start, and nothing changes. -/
theorem on_startScan_of_refused (direct : world.IsDirect) (found : world.devices.get? id = some held)
    (kept : held.isReleased = false) {error : Error}
    (refused : (start.request held.handle).serve world.bench = .error error) :
    (startScan id target start.buffer start.request).on world = (.error error, world) := by
  rw [startScan, on_bind_ok (on_live found kept),
    on_bind_error ((on_send direct _).trans (on_perform_of_refused refused))]

/-- The driver accepts a start, and its answer is passed on. -/
theorem on_startScan_of_served (direct : world.IsDirect) (found : world.devices.get? id = some held)
    (kept : held.isReleased = false) {outcome : Outcome Float}
    (served : (start.request held.handle).serve world.bench = .ok outcome) :
    ∃ after, (startScan id target start.buffer start.request).on world = (.ok outcome.answer, after) ∧
      after.bench = outcome.bench := by
  obtain ⟨scan, asks, _⟩ := start.asks held.handle
  have quiet : outcome.due = [] := Bench.due_of_start asks served
  have direct' : (world.served (start.request held.handle) outcome).IsDirect :=
    ⟨direct.faults, direct.rival⟩
  obtain ⟨after, pinned, sets⟩ := on_pin direct' found target start.buffer outcome.answer
  refine ⟨after, ?_, sets.bench⟩
  rw [startScan, on_bind_ok (on_live found kept),
    on_bind_ok ((on_send direct _).trans (on_perform served quiet)), on_bind_ok pinned, on_pure]

end Served

/-- A start that is refused changes nothing; one that is accepted pins its buffer. -/
theorem on_startScan_cases (direct : world.IsDirect) (id : DeviceId) (start : SlotStart target) :
    (∃ error, (startScan id target start.buffer start.request).on world =
      (.error error, world)) ∨
    ∃ held rate middle after, world.devices.get? id = some held ∧
      (startScan id target start.buffer start.request).on world = (.ok rate, after) ∧
      world.Accepts held.handle start middle ∧
      middle.Sets id target held ((held.slot target).pin start.buffer) after := by
  rw [startScan_eq]
  rcases on_accept_cases direct id start with
    ⟨error, refused⟩ | ⟨held, rate, middle, found, _, accepted, accepts⟩
  · exact .inl ⟨error, on_bind_error refused⟩
  · have there : middle.devices.get? id = some held := accepts.devices ▸ found
    rcases on_pin accepts.leads.direct there target start.buffer rate with
      ⟨after, pinned, sets⟩
    refine .inr ⟨held, rate, middle, after, found, ?_, accepts, sets⟩
    rw [on_bind_ok accepted, on_bind_ok pinned, on_pure]

/-- A query that is refused settles nothing; one that is answered settles the slot with the
status that it saw. -/
theorem on_query_cases (direct : world.IsDirect) (id : DeviceId) (target : ScanTarget)
    (asked : Query) :
    (∃ error after, (query id target asked).on world = (.error error, after) ∧
      world.Leads none none after) ∨
    ∃ middle held answer after, (query id target asked).on world = (.ok answer, after) ∧
      world.Leads none none middle ∧ middle.devices.get? id = some held ∧
      (answer.1 = .idle → middle.bench.running? held.handle target = none) ∧
      middle.Sets id target held
        ((held.slot target).settle (held.slot target).generation answer.1) after := by
  have leads := keeps_lead id target asked world direct
  unfold query
  rw [on_bind]
  rcases led : (lead id target asked).on world with ⟨error | answer, middle⟩
  · rw [led] at leads
    exact .inl ⟨error, middle, rfl, leads⟩
  · rw [led] at leads
    simp only []
    rw [scanStatus_eq]
    rcases on_readGeneration_cases middle id target with ⟨error, refused⟩ | ⟨held, found, _, read⟩
    · exact .inl ⟨error, middle, on_bind_error refused, leads⟩
    · rw [on_bind_ok read]
      rcases on_askStatus_cases leads.direct held.handle target with
        ⟨error, refused⟩ | ⟨answer, told, idle⟩
      · exact .inl ⟨error, middle, on_bind_error refused, leads⟩
      · rcases on_settle leads.direct found target (held.slot target).generation
          answer.1 with ⟨after, settled, sets⟩
        refine .inr ⟨middle, held, answer, after, ?_, leads, found, idle, sets⟩
        rw [on_bind_ok told, on_bind_ok settled, on_pure]

end Act

/-! ## Operations -/

namespace Operation

variable {α : Type} {operation : Operation α} {target : ScanTarget} {buffer : ScanBuffer}

/-- In a world, an action is refused without a change, or it is a start with a buffer. -/
def IsStart (act : Act α) (id : DeviceId) (target : ScanTarget) (buffer : ScanBuffer)
    (world : World) : Prop :=
  (∃ error, act.on world = (.error error, world)) ∨
  ∃ start : SlotStart target, start.buffer = buffer ∧
    (act.on world).2 = ((Act.startScan id target start.buffer start.request).on world).2 ∧
    (act.on world).1.isOk =
      ((Act.startScan id target start.buffer start.request).on world).1.isOk

/-- A start whose samples have to be counted is refused when they are too many. -/
theorem isStart_counted {id : DeviceId} {world : World} (samples : Nat)
    (start : Int → SlotStart target) (same : ∀ count, (start count).buffer = buffer) :
    IsStart (do
      let count ← Act.resume (sampleCount samples)
      Act.startScan id target (start count).buffer (start count).request) id target buffer
      world := by
  cases counted : sampleCount samples with
  | error error => exact .inl ⟨error, Act.on_bind_error (Act.on_resume _ _)⟩
  | ok count =>
      refine .inr ⟨start count, same count, ?_, ?_⟩ <;> rw [Act.on_bind_ok (Act.on_resume _ _)]

/-- The channels of an analog input scan come from the queue of the device, if it is there. -/
theorem isStart_startAnalogIn (id : DeviceId) (world : World) (low high : Int) (mode : InputMode)
    (range : Range) (samples : Nat) (rate : Float) (options : Flags .scanOption)
    (flags : Flags .analogInScan) (buffer : Buffer Float) :
    IsStart (Act.startAnalogIn id low high mode range samples rate options flags buffer) id
      .analogIn (.reals buffer) world := by
  unfold IsStart Act.startAnalogIn
  cases counted : sampleCount samples with
  | error error => exact .inl ⟨error, Act.on_bind_error (Act.on_resume _ _)⟩
  | ok count =>
      rw [Act.on_bind_ok (Act.on_resume _ _)]
      cases found : world.devices.get? id with
      | none => exact .inl ⟨.badDevHandle, Act.on_bind_error (Act.on_device_of_absent found)⟩
      | some held =>
          rw [Act.on_bind_ok (Act.on_device found)]
          let channels := Act.queuedChannels held low high
          exact .inr ⟨⟨.reals buffer, fun handle => .scanAnalogIn handle
            ⟨channels.1, channels.2, count, rate, options⟩ mode range flags buffer,
            fun handle => ⟨_, rfl, rfl, rfl⟩⟩, rfl, rfl, rfl⟩

/-- An operation that starts a scan is a start. -/
theorem isStart_of_start? (starts : operation.start? = some (target, buffer)) (id : DeviceId)
    (world : World) : IsStart (operation.perform id) id target buffer world := by
  cases operation with
  | scanAnalogIn low high mode range samples rate options flags buffer =>
      obtain ⟨rfl, rfl⟩ := Prod.mk.inj (Option.some.inj starts)
      exact isStart_startAnalogIn id world low high mode range samples rate options flags buffer
  | scanAnalogOut low high range samples rate options flags buffer =>
      obtain ⟨rfl, rfl⟩ := Prod.mk.inj (Option.some.inj starts)
      exact isStart_counted samples (fun count => ⟨.reals buffer,
        fun handle => .scanAnalogOut handle ⟨low, high, count, rate, options⟩ range flags buffer,
        fun handle => ⟨_, rfl, rfl, rfl⟩⟩) fun _ => rfl
  | scanDigitalIn low high samples rate options flags buffer =>
      obtain ⟨rfl, rfl⟩ := Prod.mk.inj (Option.some.inj starts)
      exact isStart_counted samples (fun count => ⟨.words buffer,
        fun handle => .scanDigitalIn handle
          ⟨Coded.code low, Coded.code high, count, rate, options⟩ flags buffer,
        fun handle => ⟨_, rfl, rfl, rfl⟩⟩) fun _ => rfl
  | scanDigitalOut low high samples rate options flags buffer =>
      obtain ⟨rfl, rfl⟩ := Prod.mk.inj (Option.some.inj starts)
      exact isStart_counted samples (fun count => ⟨.words buffer,
        fun handle => .scanDigitalOut handle
          ⟨Coded.code low, Coded.code high, count, rate, options⟩ flags buffer,
        fun handle => ⟨_, rfl, rfl, rfl⟩⟩) fun _ => rfl
  | scanCounters low high samples rate options flags buffer =>
      obtain ⟨rfl, rfl⟩ := Prod.mk.inj (Option.some.inj starts)
      exact isStart_counted samples (fun count => ⟨.words buffer,
        fun handle => .scanCounters handle ⟨low, high, count, rate, options⟩ flags buffer,
        fun handle => ⟨_, rfl, rfl, rfl⟩⟩) fun _ => rfl
  | scanSyncIn channels samples rate options flags buffer =>
      obtain ⟨rfl, rfl⟩ := Prod.mk.inj (Option.some.inj starts)
      exact isStart_counted samples (fun count => ⟨.reals buffer,
        fun handle => .scanSyncIn handle channels count rate options flags buffer,
        fun handle => ⟨_, rfl, rfl, rfl⟩⟩) fun _ => rfl
  | scanSyncOut channels samples rate options flags buffer =>
      obtain ⟨rfl, rfl⟩ := Prod.mk.inj (Option.some.inj starts)
      exact isStart_counted samples (fun count => ⟨.reals buffer,
        fun handle => .scanSyncOut handle channels count rate options flags buffer,
        fun handle => ⟨_, rfl, rfl, rfl⟩⟩) fun _ => rfl
  | _ => simp [start?] at starts

/-- An operation that asks about a scan is a query, of which it keeps at most the answer. -/
theorem perform_of_query? {asked : Query} (asks : operation.query? = some (target, asked))
    (id : DeviceId) (world : World) :
    ((operation.perform id).on world).2 = ((Act.query id target asked).on world).2 ∧
    ((operation.perform id).on world).1.isOk = ((Act.query id target asked).on world).1.isOk := by
  have discard : ∀ act : Act (ScanStatus × Transfer),
      ((do let _ ← act; return () : Act Unit).on world).2 = (act.on world).2 ∧
      ((do let _ ← act; return () : Act Unit).on world).1.isOk = (act.on world).1.isOk := by
    intro act
    rw [Act.on_bind]
    rcases act.on world with ⟨error | answer, after⟩ <;> exact ⟨rfl, rfl⟩
  cases operation with
  | scanStatus target =>
      obtain ⟨rfl, rfl⟩ := Prod.mk.inj (Option.some.inj asks)
      exact ⟨rfl, rfl⟩
  | stopScan target =>
      obtain ⟨rfl, rfl⟩ := Prod.mk.inj (Option.some.inj asks)
      have whole : (stopScan target).perform id =
          (do let _ ← Act.query id target .stop; return ()) := by
        simp only [perform, Act.stopScan, Act.query, Act.lead, bind_assoc]
      rw [whole]
      exact discard _
  | waitScan target condition parameter timeout =>
      obtain ⟨rfl, rfl⟩ := Prod.mk.inj (Option.some.inj asks)
      have whole : (waitScan target condition parameter timeout).perform id =
          (do let _ ← Act.query id target (.wait condition parameter timeout); return ()) := by
        simp only [perform, Act.waitScan, Act.query, Act.lead, bind_assoc]
      rw [whole]
      exact discard _
  | _ => simp [query?] at asks

end Operation

end Acquisition
