import Acquisition.Device.Lifecycle
import Acquisition.Proofs.Calls
import Acquisition.Proofs.Calm

/-!
# Taking a device down

Over a link that passes every call, taking a device down never gets stuck: `on_teardown`
says which calls on the driver are logged and what is left, while something is behind the
handle of the device (with and without a connection), and `on_teardown_of_lost` when the
handle has been given back already.  In each case the device is marked as released and
nothing is behind its handle afterwards (`World.Retires`).
-/

namespace Acquisition

/-! ## Progress -/

/-- No scan was started, no handle but one was given back, no slot has changed, and some calls
on the handle were logged. -/
structure World.Logs (before : World) (handle : Handle) (calls : List LifecycleCall)
    (after : World) : Prop where
  leads : before.Leads (some (.release handle)) none after
  log : after.bench.driver.lifecycle = before.bench.driver.lifecycle ++ calls.map (Prod.mk handle)

namespace World.Logs

variable {before middle after : World} {handle : Handle} {first second : List LifecycleCall}

theorem refl {world : World} (direct : world.IsDirect) : world.Logs handle [] world where
  leads := .refl direct
  log := (List.append_nil _).symm

theorem note {world : World} (direct : world.IsDirect) (notices : List Notice) :
    world.Logs handle [] { world with notices := world.notices ++ notices } where
  leads := .of_same ⟨direct.faults, direct.rival⟩ rfl rfl rfl
  log := (List.append_nil _).symm

theorem trans (left : before.Logs handle first middle) (right : middle.Logs handle second after) :
    before.Logs handle (first ++ second) after where
  leads := left.leads.trans right.leads
  log := by rw [right.log, left.log, List.map_append, List.append_assoc]

end World.Logs

/-- A device has been marked as released, nothing is behind its handle, and some calls on
the handle were logged. -/
structure World.Retires (before : World) (id : DeviceId) (handle : Handle)
    (calls : List LifecycleCall) (after : World) : Prop where
  direct : after.IsDirect
  nextDevice : after.nextDevice = before.nextDevice
  bench : ∃ commands : List Command,
    (∀ command ∈ commands, command.deed? = none ∨ command.deed? = some (.release handle)) ∧
    after.bench = (before.bench.run commands).1
  log : after.bench.driver.lifecycle = before.bench.driver.lifecycle ++ calls.map (Prod.mk handle)
  gone : after.bench.driver.instruments.get? handle = none
  absent : ∀ other, before.devices.get? other = none → after.devices.get? other = none
  present : ∀ other held, before.devices.get? other = some held →
    ∃ later, after.devices.get? other = some later ∧ held.Remains other none later ∧
      later.isReleased = (held.isReleased || decide (other = id))

namespace World.Retires

variable {before middle after : World} {id : DeviceId} {handle : Handle}
  {first second calls : List LifecycleCall} {held retired : Device}

/-- A device is marked once nothing is behind its handle. -/
theorem of_put (logs : before.Logs handle calls middle)
    (gone : middle.bench.driver.instruments.get? handle = none)
    (found : middle.devices.get? id = some held) (remains : held.Remains id none retired)
    (marked : retired.isReleased = true) (direct : after.IsDirect)
    (bench : after.bench = middle.bench) (nextDevice : after.nextDevice = middle.nextDevice)
    (devices : after.devices = middle.devices.set id retired) :
    before.Retires id handle calls after where
  direct := direct
  nextDevice := nextDevice.trans logs.leads.nextDevice
  bench := by
    rcases logs.leads.bench with ⟨commands, spared, reached⟩
    exact ⟨commands, spared, bench.trans reached⟩
  log := by rw [bench, logs.log]
  gone := by rw [bench, gone]
  absent other absent := by
    have still := logs.leads.absent other absent
    rw [devices, Table.get?_set_of_ne, still]
    rintro rfl
    rw [found] at still
    contradiction
  present other there before := by
    rcases logs.leads.present other there before with ⟨later, now, keeps⟩
    rw [devices]
    by_cases same : other = id
    · subst same
      obtain rfl := Option.some.inj (found.symm.trans now)
      exact ⟨retired, Table.get?_set_self _ _ _, keeps.toRemains.trans remains, by simp [marked]⟩
    · exact ⟨later, (Table.get?_set_of_ne _ same _).trans now, keeps.toRemains,
        by simp [same, keeps.isReleased]⟩

theorem of_logs (logs : before.Logs handle first middle)
    (retires : middle.Retires id handle second after) :
    before.Retires id handle (first ++ second) after where
  direct := retires.direct
  nextDevice := retires.nextDevice.trans logs.leads.nextDevice
  bench := by
    rcases logs.leads.bench with ⟨earlier, spared, reached⟩
    rcases retires.bench with ⟨later, sparing, ended⟩
    refine ⟨earlier ++ later, ?_, ?_⟩
    · exact List.forall_mem_append.mpr ⟨spared, sparing⟩
    · rw [ended, reached, Bench.run_append]
  log := by rw [retires.log, logs.log, List.map_append, List.append_assoc]
  gone := retires.gone
  absent other absent := retires.absent other (logs.leads.absent other absent)
  present other held found := by
    rcases logs.leads.present other held found with ⟨between, there, keeps⟩
    rcases retires.present other between there with ⟨later, now, remains, marked⟩
    exact ⟨later, now, keeps.toRemains.trans remains, by rw [marked, keeps.isReleased]⟩

/-- A device that was marked is marked again. -/
theorem mark (retires : before.Retires id handle calls middle)
    (found : middle.devices.get? id = some held) :
    before.Retires id handle calls
      { middle with devices := middle.devices.set id { held with isReleased := true } } where
  direct := ⟨retires.direct.faults, retires.direct.rival⟩
  nextDevice := retires.nextDevice
  bench := retires.bench
  log := retires.log
  gone := retires.gone
  absent other absent := by
    have still := retires.absent other absent
    refine (Table.get?_set_of_ne _ ?_ _).trans still
    rintro rfl
    rw [found] at still
    contradiction
  present other there before := by
    rcases retires.present other there before with ⟨later, now, remains, marked⟩
    by_cases same : other = id
    · subst same
      obtain rfl := Option.some.inj (found.symm.trans now)
      exact ⟨_, Table.get?_set_self _ _ _, remains.trans {}, by simp⟩
    · exact ⟨later, (Table.get?_set_of_ne _ same _).trans now, remains, marked⟩

theorem isReleased (retires : before.Retires id handle calls after)
    (found : before.devices.get? id = some held) :
    ∃ later, after.devices.get? id = some later ∧ held.Remains id none later ∧
      later.isReleased = true := by
  rcases retires.present id held found with ⟨later, now, remains, marked⟩
  exact ⟨later, now, remains, by simpa using marked⟩

end World.Retires

namespace Act

variable {world : World} {handle : Handle} {device : Instrument} {id : DeviceId} {held : Device}

/-! ## The steps -/

/-- What is behind a handle tells whether it is connected. -/
theorem on_isConnected (direct : world.IsDirect) (found : world.devices.get? id = some held)
    (kept : held.isReleased = false)
    (there : world.bench.driver.instruments.get? held.handle = some device) :
    (isConnected id).on world = (.ok device.isConnected, world) := by
  have served : (Request.isConnected held.handle).serve world.bench =
      .ok (world.bench.reply device.isConnected) :=
    Bench.ask_eq_ok_iff.mpr ⟨device, _, there, rfl, rfl⟩
  unfold isConnected
  rw [on_bind_ok (on_live found kept), on_send direct, on_perform served rfl]
  simp [World.served, Notice.ofRequest, Bench.reply]

theorem on_isConnected_of_lost (direct : world.IsDirect)
    (found : world.devices.get? id = some held) (kept : held.isReleased = false)
    (lost : world.bench.driver.instruments.get? held.handle = none) :
    (isConnected id).on world = (.error .badDevHandle, world) := by
  unfold isConnected
  rw [on_bind_ok (on_live found kept), on_send direct,
    on_perform_of_refused (Bench.serve_of_absent lost rfl)]

/-- A request that changes the driver alone is passed on. -/
theorem on_send_change (direct : world.IsDirect) {request : Request Unit} {driver : Driver}
    (calls : List LifecycleCall)
    (does : (Command.request request).deed? = none ∨
      (Command.request request).deed? = some (.release handle))
    (served : request.serve world.bench = .ok ⟨(), world.bench.withDriver driver, []⟩)
    (log : driver.lifecycle = world.bench.driver.lifecycle ++ calls.map (Prod.mk handle)) :
    ∃ after, (send request).on world = (.ok (), after) ∧ world.Logs handle calls after ∧
      after.bench.driver = driver := by
  refine ⟨_, by rw [on_send direct, on_perform served rfl], ?_, rfl⟩
  constructor
  · exact .of_step ⟨direct.faults, direct.rival⟩ _ does (Bench.step_request served).symm
      rfl rfl
  · exact log

/-- A stop that finds the scan running is logged, and the scan is halted. -/
theorem on_send_stopScan (direct : world.IsDirect)
    (there : world.bench.driver.instruments.get? handle = some device) {target : ScanTarget}
    (running : device.isRunning target = true) :
    ∃ after, (send (.stopScan handle target)).on world = (.ok (), after) ∧
      world.Logs handle [.scanStop target] after ∧
      after.bench.driver.instruments.get? handle = some (device.haltScan target) := by
  have served : (Request.stopScan handle target).serve world.bench =
      .ok ⟨(), world.bench.withDriver
        ((world.bench.driver.put handle (device.haltScan target)).record handle
          (.scanStop target)), []⟩ := by
    simp [Request.serve, Bench.change, Driver.stopScan, Driver.instrument, there, running, bind,
      Except.bind, pure, Except.pure]
  rcases on_send_change direct [.scanStop target] (.inl rfl) served rfl with ⟨after, sent, logs, driver⟩
  exact ⟨after, sent, logs, by rw [driver]; exact Table.get?_set_self _ _ _⟩

theorem on_send_disconnect (direct : world.IsDirect)
    (there : world.bench.driver.instruments.get? handle = some device) :
    ∃ after, (send (.disconnect handle)).on world = (.ok (), after) ∧
      world.Logs handle [.disconnect device.isBusy] after ∧
      after.bench.driver.instruments.get? handle = some device.disconnect := by
  have served : (Request.disconnect handle).serve world.bench =
      .ok ⟨(), world.bench.withDriver
        ((world.bench.driver.put handle device.disconnect).record handle
          (.disconnect device.isBusy)), []⟩ := by
    simp [Request.serve, Bench.change, Driver.disconnect, Driver.instrument, there, bind,
      Except.bind, pure, Except.pure]
  rcases on_send_change direct [.disconnect device.isBusy] (.inl rfl) served rfl with ⟨after, sent, logs, driver⟩
  exact ⟨after, sent, logs, by rw [driver]; exact Table.get?_set_self _ _ _⟩

theorem on_send_release (direct : world.IsDirect)
    (there : world.bench.driver.instruments.get? handle = some device) :
    ∃ after, (send (.release handle)).on world = (.ok (), after) ∧
      world.Logs handle [.release] after ∧
      after.bench.driver.instruments.get? handle = none := by
  have served : (Request.release handle).serve world.bench =
      .ok ⟨(), world.bench.withDriver
        (Driver.record { world.bench.driver with
          instruments := world.bench.driver.instruments.erase handle } handle .release), []⟩ := by
    simp [Request.serve, Bench.change, Driver.release, Driver.instrument, there, bind,
      Except.bind, pure, Except.pure]
  rcases on_send_change direct [.release] (.inr rfl) served rfl with ⟨after, sent, logs, driver⟩
  exact ⟨after, sent, logs, by rw [driver]; exact Table.get?_erase_self _ _⟩

theorem on_send_release_of_lost (direct : world.IsDirect)
    (lost : world.bench.driver.instruments.get? handle = none) :
    (send (.release handle)).on world = (.error .badDevHandle, world) := by
  rw [on_send direct, on_perform_of_refused (Bench.serve_of_absent lost rfl)]

/-! ## Stopping scans -/

/-- The stops that are logged when the running ones among some scans are stopped. -/
def stopCalls (device : Instrument) (targets : List ScanTarget) : List LifecycleCall :=
  (targets.filter device.isRunning).map .scanStop

/-- The running ones among some scans have been stopped. -/
structure Stopped (device : Instrument) (targets : List ScanTarget) (stopped : Instrument) :
    Prop where
  isRunning : ∀ target, stopped.isRunning target =
    (device.isRunning target && decide (target ∉ targets))
  single : device.scans.IsSingle → stopped.scans.IsSingle

theorem isRunning_haltScan (device : Instrument) (target other : ScanTarget) :
    (device.haltScan target).isRunning other =
      (device.isRunning other && decide (other ≠ target)) := by
  unfold Instrument.isRunning Instrument.running?
  rw [Instrument.get?_haltScan]
  by_cases same : other = target
  · simp only [same, if_true]
    cases device.scans.get? target <;> simp [ScanRun.halt, ScanRun.isRunning]
  · simp [same]

theorem isRunning_iff (device : Instrument) (target : ScanTarget) :
    device.isRunning target = true ↔ (device.scanStatus target).1 = .running := by
  unfold Instrument.isRunning Instrument.running? Instrument.scanStatus
  cases device.scans.get? target with
  | none => simp
  | some run => cases status : run.status <;> simp [ScanRun.isRunning, status]

/-- Stopping one running scan and then the others among some is stopping all of them. -/
theorem Stopped.cons {device stopped : Instrument} {target : ScanTarget} {rest : List ScanTarget}
    (others : Stopped (device.haltScan target) rest stopped) :
    Stopped device (target :: rest) stopped where
  isRunning other := by
    rw [others.isRunning, isRunning_haltScan]
    simp [Bool.and_assoc]
  single single := others.single (Instrument.single_haltScan single target)

theorem Stopped.cons_of_idle {device stopped : Instrument} {target : ScanTarget}
    {rest : List ScanTarget} (idle : device.isRunning target = false)
    (others : Stopped device rest stopped) : Stopped device (target :: rest) stopped where
  isRunning other := by
    rw [others.isRunning]
    by_cases same : other = target
    · simp [same, idle]
    · simp [same]
  single := others.single

/-- Each running scan among some distinct ones is stopped, in order, and nothing else. -/
theorem on_stopRunning (direct : world.IsDirect)
    (there : world.bench.driver.instruments.get? handle = some device)
    {targets : List ScanTarget} (distinct : targets.Nodup) :
    ∃ after stopped, (stopRunning handle targets).on world = (.ok (), after) ∧
      world.Logs handle (stopCalls device targets) after ∧
      after.bench.driver.instruments.get? handle = some stopped ∧
      Stopped device targets stopped := by
  induction targets generalizing world device with
  | nil => exact ⟨world, device, rfl, .refl direct, there, by simp, id⟩
  | cons target rest ih =>
      rw [List.nodup_cons] at distinct
      have asked : (askStatus handle target).on world = (.ok (device.scanStatus target), world) :=
        on_askStatus direct there
      by_cases running : device.isRunning target = true
      · rcases on_send_stopScan direct there running with ⟨middle, sent, logs, behind⟩
        have noted : middle.Logs handle [] _ := .note logs.leads.direct [.scanStopped target]
        rcases ih noted.leads.direct behind distinct.2 with ⟨after, stopped, carried, rest', now, done⟩
        refine ⟨after, stopped, ?_, ?_, now, done.cons⟩
        · rw [stopRunning, on_bind_ok asked]
          simp only [(isRunning_iff device target).mp running, if_true]
          rw [on_bind_ok sent, on_bind_ok (on_note _ _), carried]
        · -- The scans that come after are not affected by the halt.
          have same : stopCalls (device.haltScan target) rest = stopCalls device rest := by
            unfold stopCalls
            congr 1
            apply List.filter_congr
            intro other member
            rw [isRunning_haltScan, decide_eq_true, Bool.and_true]
            rintro rfl
            exact distinct.1 member
          rw [same] at rest'
          have all := (logs.trans noted).trans rest'
          simpa [stopCalls, running] using all
      · have idle : device.isRunning target = false := by simpa using running
        rcases ih direct there distinct.2 with ⟨after, stopped, carried, logs, now, done⟩
        refine ⟨after, stopped, ?_, ?_, now, done.cons_of_idle idle⟩
        · rw [stopRunning, on_bind_ok asked]
          simp only [not_congr (isRunning_iff device target) |>.mp running, if_false]
          exact carried
        · simpa [stopCalls, idle] using logs

theorem on_stopAll (direct : world.IsDirect) (found : world.devices.get? id = some held)
    (kept : held.isReleased = false)
    (there : world.bench.driver.instruments.get? held.handle = some device)
    (distinct : held.targets.Nodup) :
    ∃ after stopped, (stopAll id).on world = (.ok (), after) ∧
      world.Logs held.handle (stopCalls device held.targets) after ∧
      after.bench.driver.instruments.get? held.handle = some stopped ∧
      Stopped device held.targets stopped := by
  unfold stopAll
  rw [on_bind_ok (on_live found kept), on_bind_ok (on_device found)]
  exact on_stopRunning direct there distinct

/-! ## The other steps -/

theorem on_disconnect (direct : world.IsDirect) (found : world.devices.get? id = some held)
    (kept : held.isReleased = false)
    (there : world.bench.driver.instruments.get? held.handle = some device) :
    ∃ after, (disconnect id).on world = (.ok (), after) ∧
      world.Logs held.handle [.disconnect device.isBusy] after ∧
      after.bench.driver.instruments.get? held.handle = some device.disconnect := by
  rcases on_send_disconnect direct there with ⟨middle, sent, logs, behind⟩
  rcases logs.leads.present id held found with ⟨later, now, keeps⟩
  refine ⟨_, ?_, logs.trans (.note logs.leads.direct [.deviceDisconnected later.descriptor.uniqueId]),
    behind⟩
  unfold disconnect
  rw [on_bind_ok (on_live found kept), on_bind_ok sent, on_bind_ok (on_device now), on_note]

theorem on_release (direct : world.IsDirect) (found : world.devices.get? id = some held)
    (kept : held.isReleased = false)
    (there : world.bench.driver.instruments.get? held.handle = some device) :
    ∃ after, (release id).on world = (.ok (), after) ∧
      world.Retires id held.handle [.release] after := by
  rcases on_send_release direct there with ⟨middle, sent, logs, gone⟩
  rcases logs.leads.present id held found with ⟨later, now, keeps⟩
  have direct' := logs.leads.direct
  refine ⟨{ middle with
    devices := middle.devices.set id later.release
    notices := middle.notices ++ [.deviceReleased held.handle] }, ?_, ?_⟩
  · unfold release
    rw [on_bind_ok (on_live found kept), on_bind_ok sent, on_bind_ok (on_updateDevice now _),
      on_note]
  · exact .of_put logs gone now {} rfl
      ⟨direct'.faults, direct'.rival⟩ rfl rfl rfl

theorem on_release_of_lost (direct : world.IsDirect) (found : world.devices.get? id = some held)
    (kept : held.isReleased = false)
    (lost : world.bench.driver.instruments.get? held.handle = none) :
    (release id).on world = (.error .badDevHandle, world) := by
  unfold release
  rw [on_bind_ok (on_live found kept), on_bind_error (on_send_release_of_lost direct lost)]

/-! ## All steps -/

theorem on_takeSteps_cons {step : TeardownStep} {rest : List TeardownStep} {middle after : World}
    {failures : List Error} (taken : (takeStep id step).on world = (.ok (), middle))
    (others : (takeSteps id rest).on middle = (.ok failures, after)) :
    (takeSteps id (step :: rest)).on world = (.ok failures, after) := by
  rw [takeSteps, on_bind_ok (on_attempt world _), taken]
  exact others

/-- The calls that taking down a device comes to. -/
def teardownCalls (device stopped : Instrument) (targets : List ScanTarget) : List LifecycleCall :=
  if device.isConnected then
    stopCalls device targets ++ [.disconnect stopped.isBusy] ++ [.release]
  else [.release]

/-- While something is behind the handle, every step of taking the device down is done. -/
theorem on_takeSteps (direct : world.IsDirect) (found : world.devices.get? id = some held)
    (kept : held.isReleased = false)
    (there : world.bench.driver.instruments.get? held.handle = some device)
    (distinct : held.targets.Nodup) :
    ∃ after stopped, (takeSteps id (teardownSteps device.isConnected)).on world = (.ok [], after) ∧
      world.Retires id held.handle (teardownCalls device stopped held.targets) after ∧
      Stopped device held.targets stopped := by
  rcases on_stopAll direct found kept there distinct with ⟨calm, stopped, stops, logs, behind, done⟩
  cases connected : device.isConnected with
  | false =>
      rcases on_release direct found kept there with ⟨after, released, retires⟩
      refine ⟨after, stopped, on_takeSteps_cons released rfl, ?_, done⟩
      simpa [teardownCalls, connected] using retires
  | true =>
      rcases logs.leads.present id held found with ⟨second, found₂, keeps₂⟩
      have kept₂ := keeps₂.isReleased.trans kept
      rw [← keeps₂.handle] at behind
      rcases on_disconnect logs.leads.direct found₂ kept₂ behind with ⟨apart, cut, logs₂, behind₂⟩
      rcases logs₂.leads.present id second found₂ with ⟨third, found₃, keeps₃⟩
      have kept₃ := keeps₃.isReleased.trans kept₂
      rw [← keeps₃.handle] at behind₂
      rcases on_release logs₂.leads.direct found₃ kept₃ behind₂ with ⟨after, released, retires⟩
      refine ⟨after, stopped, ?_, ?_, done⟩
      · exact on_takeSteps_cons stops (on_takeSteps_cons cut (on_takeSteps_cons released rfl))
      · rw [keeps₂.handle] at logs₂
        rw [keeps₃.handle, keeps₂.handle] at retires
        simp only [teardownCalls, connected, if_true]
        exact .of_logs (logs.trans logs₂) retires

/-! ## Taking down -/

/-- A device that was released is not taken down again. -/
theorem on_teardown_of_released (found : world.devices.get? id = some held)
    (released : held.isReleased = true) : (teardown id).on world = (.ok (), world) := by
  unfold teardown
  rw [on_bind_ok (on_device found), released]
  rfl

/-- A device whose handle leads somewhere is taken down without a failure. -/
theorem on_teardown (direct : world.IsDirect) (found : world.devices.get? id = some held)
    (kept : held.isReleased = false)
    (there : world.bench.driver.instruments.get? held.handle = some device)
    (distinct : held.targets.Nodup) :
    ∃ after stopped, (teardown id).on world = (.ok (), after) ∧
      world.Retires id held.handle (teardownCalls device stopped held.targets) after ∧
      Stopped device held.targets stopped := by
  rcases on_takeSteps direct found kept there distinct with ⟨middle, stopped, taken, retires, done⟩
  rcases retires.present id held found with ⟨later, now, _⟩
  refine ⟨_, stopped, ?_, retires.mark now, done⟩
  unfold teardown
  rw [on_bind_ok (on_device found), kept]
  simp only [Bool.false_eq_true, if_false]
  rw [on_bind_ok (on_attempt world _), on_isConnected direct found kept there]
  simp only [Except.toOption, Option.getD_some]
  rw [on_bind_ok taken, on_bind_ok (on_updateDevice now _)]
  rfl

/-- Taking down a device whose handle was given back already fails, but marks it. -/
theorem on_teardown_of_lost (direct : world.IsDirect) (found : world.devices.get? id = some held)
    (kept : held.isReleased = false)
    (lost : world.bench.driver.instruments.get? held.handle = none) :
    ∃ after, (teardown id).on world = (.error .badDevHandle, after) ∧
      world.Retires id held.handle [] after := by
  let notice := Notice.teardownFailed held.descriptor.uniqueId .release .badDevHandle
  let noted : World := { world with notices := world.notices ++ [notice] }
  have still : noted.devices.get? id = some held := found
  have failed : (takeSteps id (teardownSteps false)).on world = (.ok [.badDevHandle], noted) := by
    rw [teardownSteps, if_neg Bool.false_ne_true, takeSteps, on_bind_ok (on_attempt world _),
      takeStep, on_release_of_lost direct found kept lost]
    simp only []
    rw [on_bind_ok (on_device found), on_bind_ok (on_note _ _)]
    rfl
  refine ⟨{ noted with devices := noted.devices.set id { held with isReleased := true } }, ?_, ?_⟩
  · unfold teardown
    rw [on_bind_ok (on_device found), kept]
    simp only [Bool.false_eq_true, if_false]
    rw [on_bind_ok (on_attempt world _), on_isConnected_of_lost direct found kept lost]
    simp only [Except.toOption, Option.getD_none]
    rw [on_bind_ok failed, on_bind_ok (on_updateDevice still _)]
    rfl
  · exact .of_put (.note direct [notice]) lost still {} rfl
      ⟨direct.faults, direct.rival⟩ rfl rfl rfl

/-! ## Letting go -/

/-- Letting go of a device is taking it down, whatever comes of it. -/
theorem on_drop (world : World) (id : DeviceId) :
    (drop id).on world = (.ok (), ((teardown id).on world).2) := by
  unfold drop
  rw [on_bind_ok (on_attempt world _), on_pure]

/-- The device stays as it is when it is taken down once more. -/
theorem on_drop_of_retires {before after : World} {handle : Handle} {calls : List LifecycleCall}
    (retires : before.Retires id handle calls after) (found : before.devices.get? id = some held) :
    (drop id).on after = (.ok (), after) := by
  rcases retires.isReleased found with ⟨later, now, _, released⟩
  rw [on_drop, on_teardown_of_released now released]

/-- Closing a device is taking it down: letting go of it changes nothing more. -/
theorem on_close {answer : Except Error Unit} {after : World}
    (taken : (teardown id).on world = (answer, after))
    (again : (drop id).on after = (.ok (), after)) :
    (close id).on world = (answer, after) := by
  unfold close
  rw [on_bind_ok (on_attempt world _), taken, on_bind_ok again, on_resume]

end Act

end Acquisition
