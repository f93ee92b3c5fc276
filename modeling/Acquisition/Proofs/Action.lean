import Acquisition.Driver.Request
import Acquisition.Driver.Stimulus
import Acquisition.Proofs.Start

/-!
# Actions on a device

Apart from adjustments, a command does one of a few things to one device.  An
action says which; what it does depends on the device and on the storages alone
(`Action.act`).
-/

namespace Acquisition

/-- What is done to a device that changes its connection, its queue, its scans or its
bindings. -/
inductive Action where
  | connect
  | disconnect
  | unplug
  | loadQueue (queue : List QueueElement)
  | enableEvents (kinds : Flags .event) (period : Nat) (handler : Handler)
  | disableEvents (kinds : Flags .event)
  | start (scan : ScanStart)
  | halt (target : ScanTarget)
  | advance (target : ScanTarget) (rows : Nat)
  | finish (target : ScanTarget)
  | abort (target : ScanTarget) (error : Error)

namespace Action

/-- Accept a device that is connected. -/
def checkConnected (instrument : Instrument) : Except Error Unit :=
  if instrument.isConnected then .ok () else .error .devNotConnected

/-- The device, the storages and the due handlers after an action. -/
def act (instrument : Instrument) (store : Store) :
    Action → Except Error (Instrument × Store × List Firing)
  | connect => do return (← instrument.connect, store, [])
  | disconnect => .ok (instrument.disconnect, store, [])
  | unplug => .ok (instrument.unplug, store, [])
  | loadQueue queue => do
      checkConnected instrument
      return (← instrument.loadQueue queue, store, [])
  | enableEvents kinds period handler => do
      return (← instrument.enableEvents kinds period handler, store, [])
  | disableEvents kinds => .ok (instrument.disableEvents kinds, store, [])
  | start scan => do
      checkConnected instrument
      let (_, started) ← scan.perform instrument store
      return (started, store, [])
  | halt target => .ok (instrument.haltScan target, store, [])
  | advance target rows => .ok (Instrument.advance target rows instrument store)
  | finish target => instrument.finishScan store target
  | abort target error =>
      let (aborted, firings) := instrument.abortScan target error
      .ok (aborted, store, firings)

theorem checkConnected_eq_ok_iff {instrument : Instrument} {answer : Unit} :
    checkConnected instrument = .ok answer ↔ instrument.isConnected = true := by
  unfold checkConnected
  cases instrument.isConnected <;> simp

/-- An action never changes the shape of the store. -/
theorem shape_of_act {action : Action} {instrument : Instrument} {store : Store}
    {result : Instrument × Store × List Firing} (done : action.act instrument store = .ok result) :
    result.2.1.shape = store.shape := by
  cases action with
  | advance target rows =>
      obtain rfl := Except.ok.inj done
      exact Instrument.shape_advance target rows instrument store
  | finish target =>
      rcases Instrument.advance_of_finishScan done with ⟨rows, rfl⟩
      exact Instrument.shape_advance target rows instrument store
  | disconnect | unplug | disableEvents | halt | abort =>
      obtain rfl := Except.ok.inj done
      rfl
  | connect | enableEvents =>
      simp only [act, bind_eq_ok_iff, pure_eq_ok_iff] at done
      rcases done with ⟨_, _, rfl⟩
      rfl
  | loadQueue | start =>
      simp only [act, bind_eq_ok_iff, pure_eq_ok_iff] at done
      rcases done with ⟨_, _, _, _, rfl⟩
      rfl

end Action

/-! ## Commands that ask for an action -/

namespace Request

/-- The scan that a request asks a device for. -/
def start? {α : Type} : Request α → Option (Handle × ScanStart)
  | scanAnalogIn handle request mode range _ buffer =>
      some (handle, .analogIn request mode range buffer)
  | scanAnalogOut handle request range _ buffer => some (handle, .analogOut request range buffer)
  | scanDigitalIn handle request _ buffer => some (handle, .digitalIn request buffer)
  | scanDigitalOut handle request _ buffer => some (handle, .digitalOut request buffer)
  | scanCounters handle request flags buffer => some (handle, .counters request flags buffer)
  | scanSyncIn handle channels samples rate options _ buffer =>
      some (handle, .syncIn channels samples rate options buffer)
  | scanSyncOut handle channels samples rate options _ buffer =>
      some (handle, .syncOut channels samples rate options buffer)
  | _ => none

/-- The action that a request asks for, with the device it is for. -/
def action? {α : Type} (request : Request α) : Option (Handle × Action) :=
  match request with
  | connect handle => some (handle, .connect)
  | disconnect handle => some (handle, .disconnect)
  | loadQueue handle queue => some (handle, .loadQueue queue)
  | stopScan handle target => some (handle, .halt target)
  | waitScan handle target _ _ _ => some (handle, .finish target)
  | enableEvents handle kinds period handler =>
      some (handle, .enableEvents kinds period handler)
  | disableEvents handle kinds => some (handle, .disableEvents kinds)
  | request => request.start?.map fun (handle, start) => (handle, .start start)

end Request

namespace Stimulus

/-- The action that a stimulus comes to, with the device it is for. -/
def action? {α : Type} : Stimulus α → Option (Handle × Action)
  | advance handle target rows => some (handle, .advance target rows)
  | abort handle target error => some (handle, .abort target error)
  | unplug handle => some (handle, .unplug)
  | _ => none

end Stimulus

end Acquisition
