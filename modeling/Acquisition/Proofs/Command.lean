import Acquisition.Proofs.Action

/-!
# Commands

A run of the bench is a list of commands: requests to the driver, stimuli from
outside, and edits of storages by a caller.  A refused command changes nothing,
and a command that asks for an action does just that (`step_cases`).
-/

namespace Acquisition

/-- What can happen to the bench. -/
inductive Command : Type 1 where
  | request {α : Type} (request : Request α)
  | stimulus {α : Type} (stimulus : Stimulus α)
  | edit (edit : Edit)

namespace Command

/-- The action that a command asks for, with the device it is for. -/
def action? : Command → Option (Handle × Action)
  | .request asked => asked.action?
  | .stimulus applied => applied.action?
  | .edit _ => none

end Command

namespace Bench

/-- The bench after an operation, with the handlers that are due. -/
def settled {α : Type} (bench : Bench) (result : Except Error (Outcome α)) : Bench × List Due :=
  match result with
  | .ok outcome => (outcome.bench, outcome.due)
  | .error _ => (bench, [])

/-- The bench after a command, with the handlers that are due. -/
def step (bench : Bench) : Command → Bench × List Due
  | .request request => bench.settled (request.serve bench)
  | .stimulus stimulus => bench.settled (stimulus.apply bench)
  | .edit edit => ({ bench with store := edit.apply bench.store }, [])

/-! ## Commands that ask for an action -/

/-- One device and the storages have changed, and nothing else that later commands
depend on.  Calls on the device may have been logged, but not its release. -/
structure Acted (before after : Bench) (handle : Handle) (device : Instrument) (store : Store) :
    Prop where
  instruments : after.driver.instruments = before.driver.instruments.set handle device := by rfl
  store : after.store = store := by rfl
  nextHandle : after.driver.nextHandle = before.driver.nextHandle := by rfl
  inventory : after.driver.inventory = before.driver.inventory := by rfl
  lifecycle : ∃ calls : List LifecycleCall, .release ∉ calls ∧
    after.driver.lifecycle = before.driver.lifecycle ++ calls.map (Prod.mk handle) := by
      exact ⟨[], List.not_mem_nil, (List.append_nil _).symm⟩

/-- What an outcome has to do with an action on a device. -/
def Performs {α : Type} (bench : Bench) (handle : Handle) (action : Action)
    (outcome : Outcome α) : Prop :=
  ∃ device result, bench.driver.instruments.get? handle = some device ∧
    action.act device bench.store = .ok result ∧
    bench.Acted outcome.bench handle result.1 result.2.1 ∧
    outcome.due = result.2.2.map (Due.mk handle)

theorem performs_of_start {bench : Bench} {handle : Handle} (scan : ScanStart)
    {outcome : Outcome Float}
    (served : bench.exchange handle (fun device => scan.perform device bench.store) =
      .ok outcome) : bench.Performs handle (.start scan) outcome := by
  rcases exchange_eq_ok_iff.mp served with ⟨device, rate, after, found, connected, done, rfl⟩
  refine ⟨device, (after, bench.store, []), found, ?_, {}, rfl⟩
  simp only [Action.act, bind_eq_ok_iff, Action.checkConnected_eq_ok_iff, pure_eq_ok_iff]
  exact ⟨(), connected, (rate, after), done, rfl⟩

/-- A request that is served performs the action it asks for. -/
theorem performs_of_serve {α : Type} {request : Request α} {handle : Handle} {action : Action}
    (asks : request.action? = some (handle, action)) {bench : Bench} {outcome : Outcome α}
    (served : request.serve bench = .ok outcome) : bench.Performs handle action outcome := by
  cases request with
  | connect handle =>
      rcases asks with ⟨rfl, rfl⟩
      rcases adjust_eq_ok_iff.mp served with ⟨device, after, found, done, rfl⟩
      refine ⟨device, (after, bench.store, []), found, ?_, {}, rfl⟩
      simp only [Action.act, bind_eq_ok_iff, pure_eq_ok_iff]
      exact ⟨after, done, rfl⟩
  | disconnect handle =>
      rcases asks with ⟨rfl, rfl⟩
      simp only [Request.serve, change_eq_ok_iff, Driver.disconnect, bind_eq_ok_iff,
        pure_eq_ok_iff, Driver.instrument_eq_ok_iff] at served
      rcases served with ⟨_, ⟨device, found, rfl⟩, rfl⟩
      refine ⟨device, (device.disconnect, bench.store, []), found, rfl, ?_, rfl⟩
      exact { lifecycle := ⟨[.disconnect device.isBusy], by simp, rfl⟩ }
  | loadQueue handle queue =>
      rcases asks with ⟨rfl, rfl⟩
      rcases adjustConnected_eq_ok_iff.mp served with ⟨device, after, found, connected, done, rfl⟩
      refine ⟨device, (after, bench.store, []), found, ?_, {}, rfl⟩
      simp only [Action.act, bind_eq_ok_iff, Action.checkConnected_eq_ok_iff, pure_eq_ok_iff]
      exact ⟨(), connected, after, done, rfl⟩
  | stopScan handle target =>
      rcases asks with ⟨rfl, rfl⟩
      simp only [Request.serve, change_eq_ok_iff, Driver.stopScan, bind_eq_ok_iff,
        pure_eq_ok_iff, Driver.instrument_eq_ok_iff] at served
      rcases served with ⟨_, ⟨device, found, rfl⟩, rfl⟩
      refine ⟨device, (device.haltScan target, bench.store, []), found, rfl, ?_, rfl⟩
      -- The log entry depends on whether the scan was running; the device does not.
      split
      · exact { lifecycle := ⟨[.scanStop target], by simp, rfl⟩ }
      · exact {}
  | waitScan handle target condition parameter timeout =>
      rcases asks with ⟨rfl, rfl⟩
      simp only [Request.serve, bind_eq_ok_iff, pure_eq_ok_iff,
        Driver.instrument_eq_ok_iff] at served
      rcases served with ⟨device, found, result, done, rfl⟩
      exact ⟨device, result, found, done, {}, rfl⟩
  | enableEvents handle kinds period handler =>
      rcases asks with ⟨rfl, rfl⟩
      rcases adjust_eq_ok_iff.mp served with ⟨device, after, found, done, rfl⟩
      refine ⟨device, (after, bench.store, []), found, ?_, {}, rfl⟩
      simp only [Action.act, bind_eq_ok_iff, pure_eq_ok_iff]
      exact ⟨after, done, rfl⟩
  | disableEvents handle kinds =>
      rcases asks with ⟨rfl, rfl⟩
      rcases adjust_eq_ok_iff.mp served with ⟨device, after, found, done, rfl⟩
      obtain rfl := Except.ok.inj done
      exact ⟨device, (device.disableEvents kinds, bench.store, []), found, rfl, {}, rfl⟩
  | scanAnalogIn handle request mode range flags buffer =>
      rcases asks with ⟨rfl, rfl⟩
      exact performs_of_start (.analogIn request mode range buffer) served
  | scanAnalogOut handle request range flags buffer =>
      rcases asks with ⟨rfl, rfl⟩
      exact performs_of_start (.analogOut request range buffer) served
  | scanDigitalIn handle request flags buffer =>
      rcases asks with ⟨rfl, rfl⟩
      exact performs_of_start (.digitalIn request buffer) served
  | scanDigitalOut handle request flags buffer =>
      rcases asks with ⟨rfl, rfl⟩
      exact performs_of_start (.digitalOut request buffer) served
  | scanCounters handle request flags buffer =>
      rcases asks with ⟨rfl, rfl⟩
      exact performs_of_start (.counters request flags buffer) served
  | scanSyncIn handle channels samples rate options flags buffer =>
      rcases asks with ⟨rfl, rfl⟩
      exact performs_of_start (.syncIn channels samples rate options buffer) served
  | scanSyncOut handle channels samples rate options flags buffer =>
      rcases asks with ⟨rfl, rfl⟩
      exact performs_of_start (.syncOut channels samples rate options buffer) served
  | _ => simp [Request.action?, Request.start?] at asks

/-- A stimulus that is applied performs the action it comes to. -/
theorem performs_of_apply {α : Type} {stimulus : Stimulus α} {handle : Handle}
    {action : Action} (asks : stimulus.action? = some (handle, action)) {bench : Bench}
    {outcome : Outcome α} (applied : stimulus.apply bench = .ok outcome) :
    bench.Performs handle action outcome := by
  cases stimulus with
  | advance handle target rows =>
      rcases asks with ⟨rfl, rfl⟩
      simp only [Stimulus.apply, bind_eq_ok_iff, pure_eq_ok_iff,
        Driver.instrument_eq_ok_iff] at applied
      rcases applied with ⟨device, found, rfl⟩
      exact ⟨device, Instrument.advance target rows device bench.store, found, rfl, {}, rfl⟩
  | abort handle target error =>
      rcases asks with ⟨rfl, rfl⟩
      simp only [Stimulus.apply, bind_eq_ok_iff, pure_eq_ok_iff,
        Driver.instrument_eq_ok_iff] at applied
      rcases applied with ⟨device, found, rfl⟩
      exact ⟨device, ((device.abortScan target error).1, bench.store,
        (device.abortScan target error).2), found, rfl, {}, rfl⟩
  | unplug handle =>
      rcases asks with ⟨rfl, rfl⟩
      rcases adjust_eq_ok_iff.mp applied with ⟨device, after, found, done, rfl⟩
      obtain rfl := Except.ok.inj done
      exact ⟨device, (device.unplug, bench.store, []), found, rfl, {}, rfl⟩
  | _ => simp [Stimulus.action?] at asks

theorem exchange_of_start {bench : Bench} {handle : Handle} {scan : ScanStart}
    {device : Instrument} {result : Instrument × Store × List Firing}
    (found : bench.driver.instruments.get? handle = some device)
    (done : (Action.start scan).act device bench.store = .ok result) :
    ∃ outcome, bench.exchange handle (fun device => scan.perform device bench.store) =
      .ok outcome := by
  simp only [Action.act, bind_eq_ok_iff, Action.checkConnected_eq_ok_iff, pure_eq_ok_iff] at done
  rcases done with ⟨_, connected, ⟨rate, after⟩, performed, _⟩
  exact ⟨_, exchange_eq_ok_iff.mpr ⟨device, rate, after, found, connected, performed, rfl⟩⟩

/-- A request is served when the device takes the action it asks for. -/
theorem serve_of_act {α : Type} {request : Request α} {handle : Handle} {action : Action}
    (asks : request.action? = some (handle, action)) {bench : Bench} {device : Instrument}
    {result : Instrument × Store × List Firing}
    (found : bench.driver.instruments.get? handle = some device)
    (done : action.act device bench.store = .ok result) :
    ∃ outcome, request.serve bench = .ok outcome := by
  cases request with
  | connect handle =>
      rcases asks with ⟨rfl, rfl⟩
      simp only [Action.act, bind_eq_ok_iff, pure_eq_ok_iff] at done
      rcases done with ⟨after, connected, _⟩
      exact ⟨_, adjust_eq_ok_iff.mpr ⟨device, after, found, connected, rfl⟩⟩
  | loadQueue handle queue =>
      rcases asks with ⟨rfl, rfl⟩
      simp only [Action.act, bind_eq_ok_iff, Action.checkConnected_eq_ok_iff,
        pure_eq_ok_iff] at done
      rcases done with ⟨_, connected, after, loaded, _⟩
      exact ⟨_, adjustConnected_eq_ok_iff.mpr ⟨device, after, found, connected, loaded, rfl⟩⟩
  | enableEvents handle kinds period handler =>
      rcases asks with ⟨rfl, rfl⟩
      simp only [Action.act, bind_eq_ok_iff, pure_eq_ok_iff] at done
      rcases done with ⟨after, bound, _⟩
      exact ⟨_, adjust_eq_ok_iff.mpr ⟨device, after, found, bound, rfl⟩⟩
  | disableEvents handle kinds =>
      rcases asks with ⟨rfl, rfl⟩
      exact ⟨_, adjust_eq_ok_iff.mpr ⟨device, _, found, rfl, rfl⟩⟩
  | disconnect handle =>
      rcases asks with ⟨rfl, rfl⟩
      simp only [Request.serve, change_eq_ok_iff, Driver.disconnect, bind_eq_ok_iff,
        pure_eq_ok_iff, Driver.instrument_eq_ok_iff]
      exact ⟨_, _, ⟨device, found, rfl⟩, rfl⟩
  | stopScan handle target =>
      rcases asks with ⟨rfl, rfl⟩
      simp only [Request.serve, change_eq_ok_iff, Driver.stopScan, bind_eq_ok_iff,
        pure_eq_ok_iff, Driver.instrument_eq_ok_iff]
      exact ⟨_, _, ⟨device, found, rfl⟩, rfl⟩
  | waitScan handle target condition parameter timeout =>
      rcases asks with ⟨rfl, rfl⟩
      simp only [Request.serve, bind_eq_ok_iff, pure_eq_ok_iff, Driver.instrument_eq_ok_iff]
      exact ⟨_, device, found, result, done, rfl⟩
  | scanAnalogIn handle request mode range flags buffer =>
      rcases asks with ⟨rfl, rfl⟩
      exact exchange_of_start found done
  | scanAnalogOut handle request range flags buffer =>
      rcases asks with ⟨rfl, rfl⟩
      exact exchange_of_start found done
  | scanDigitalIn handle request flags buffer =>
      rcases asks with ⟨rfl, rfl⟩
      exact exchange_of_start found done
  | scanDigitalOut handle request flags buffer =>
      rcases asks with ⟨rfl, rfl⟩
      exact exchange_of_start found done
  | scanCounters handle request flags buffer =>
      rcases asks with ⟨rfl, rfl⟩
      exact exchange_of_start found done
  | scanSyncIn handle channels samples rate options flags buffer =>
      rcases asks with ⟨rfl, rfl⟩
      exact exchange_of_start found done
  | scanSyncOut handle channels samples rate options flags buffer =>
      rcases asks with ⟨rfl, rfl⟩
      exact exchange_of_start found done
  | _ => simp [Request.action?, Request.start?] at asks

/-- A stimulus is applied when its device is there. -/
theorem apply_of_found {α : Type} {stimulus : Stimulus α} {handle : Handle} {action : Action}
    (asks : stimulus.action? = some (handle, action)) {bench : Bench} {device : Instrument}
    (found : bench.driver.instruments.get? handle = some device) :
    ∃ outcome, stimulus.apply bench = .ok outcome := by
  cases stimulus with
  | advance handle target rows =>
      rcases asks with ⟨rfl, rfl⟩
      simp only [Stimulus.apply, bind_eq_ok_iff, pure_eq_ok_iff, Driver.instrument_eq_ok_iff]
      exact ⟨_, device, found, rfl⟩
  | abort handle target error =>
      rcases asks with ⟨rfl, rfl⟩
      simp only [Stimulus.apply, bind_eq_ok_iff, pure_eq_ok_iff, Driver.instrument_eq_ok_iff]
      exact ⟨_, device, found, rfl⟩
  | unplug handle =>
      rcases asks with ⟨rfl, rfl⟩
      exact ⟨_, adjust_eq_ok_iff.mpr ⟨device, _, found, rfl, rfl⟩⟩
  | _ => simp [Stimulus.action?] at asks

/-- A command that asks for an action either performs it or changes nothing. -/
theorem step_cases {command : Command} {handle : Handle} {action : Action}
    (asks : command.action? = some (handle, action)) (bench : Bench) :
    (∃ device result, bench.driver.instruments.get? handle = some device ∧
      action.act device bench.store = .ok result ∧
      bench.Acted (bench.step command).1 handle result.1 result.2.1 ∧
      (bench.step command).2 = result.2.2.map (Due.mk handle)) ∨
    bench.step command = (bench, []) := by
  cases command with
  | request request =>
      cases served : request.serve bench with
      | error error => exact .inr (by simp [step, settled, served])
      | ok outcome =>
          rcases performs_of_serve asks served with ⟨device, result, found, done, acted, due⟩
          refine .inl ⟨device, result, found, done, ?_⟩
          simp only [step, settled, served]
          exact ⟨acted, due⟩
  | stimulus stimulus =>
      cases applied : stimulus.apply bench with
      | error error => exact .inr (by simp [step, settled, applied])
      | ok outcome =>
          rcases performs_of_apply asks applied with ⟨device, result, found, done, acted, due⟩
          refine .inl ⟨device, result, found, done, ?_⟩
          simp only [step, settled, applied]
          exact ⟨acted, due⟩
  | edit edit => simp [Command.action?] at asks

/-- A command performs the action it asks for when the device takes it. -/
theorem step_acted {command : Command} {handle : Handle} {action : Action}
    (asks : command.action? = some (handle, action)) {bench : Bench} {device : Instrument}
    {result : Instrument × Store × List Firing}
    (found : bench.driver.instruments.get? handle = some device)
    (done : action.act device bench.store = .ok result) :
    bench.Acted (bench.step command).1 handle result.1 result.2.1 ∧
      (bench.step command).2 = result.2.2.map (Due.mk handle) := by
  cases command with
  | request request =>
      rcases serve_of_act asks found done with ⟨outcome, served⟩
      rcases performs_of_serve asks served with ⟨device', result', found', done', acted, due⟩
      obtain rfl := Option.some.inj (found.symm.trans found')
      obtain rfl := Except.ok.inj (done.symm.trans done')
      simp only [step, settled, served]
      exact ⟨acted, due⟩
  | stimulus stimulus =>
      rcases apply_of_found asks found with ⟨outcome, applied⟩
      rcases performs_of_apply asks applied with ⟨device', result', found', done', acted, due⟩
      obtain rfl := Option.some.inj (found.symm.trans found')
      obtain rfl := Except.ok.inj (done.symm.trans done')
      simp only [step, settled, applied]
      exact ⟨acted, due⟩
  | edit edit => simp [Command.action?] at asks

end Bench

end Acquisition
