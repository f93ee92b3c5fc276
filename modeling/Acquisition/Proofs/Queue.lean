import Acquisition.Proofs.Advertised
import Acquisition.Proofs.Interleaved
import Acquisition.Proofs.Runs
import Acquisition.Proofs.Session

/-!
# How long the queue is

The driver keeps the channel-gain queue of a device, and the caller keeps how long it is.  Both
change together when the caller loads a queue and the driver accepts it, and nothing else changes
either of them (`Act.ordinary_unloaded`), unless the driver is asked past the device.  So a
start of an analog input scan asks for as many channels as the driver has columns for it, in
32 bits, which is their number as long as there are fewer than 2 ^ 31.

Main statement: `World.queue_counted`.
-/

namespace Acquisition

/-! ## The queue of a device -/

/-- Whether an action loads a queue. -/
def Action.loads : Action → Bool
  | .loadQueue _ => true
  | _ => false

namespace Instrument

variable {instrument : Instrument} {store : Store}

theorem queue_advance (target : ScanTarget) (rows : Nat) (instrument : Instrument)
    (store : Store) : (advance target rows instrument store).1.queue = instrument.queue := by
  refine advance_induction (P := fun later _ => later.queue = instrument.queue) ?_ rows rfl
  intro later store run kept _
  exact (later.moveRow_alike store target run).queue.trans kept

theorem queue_haltScan (target : ScanTarget) :
    (instrument.haltScan target).queue = instrument.queue := by
  unfold haltScan
  split <;> rfl

/-- Only loading a queue changes the queue. -/
theorem queue_of_act {action : Action} {result : Instrument × Store × List Firing}
    (done : action.act instrument store = .ok result) (unloading : action.loads = false) :
    result.1.queue = instrument.queue := by
  cases action with
  | loadQueue queue => contradiction
  | connect =>
      simp only [Action.act, bind_eq_ok_iff, pure_eq_ok_iff, connect] at done
      obtain ⟨after, connected, rfl⟩ := done
      split at connected
      · exact (Except.ok.inj connected) ▸ rfl
      · contradiction
  | enableEvents kinds period handler =>
      simp only [Action.act, bind_eq_ok_iff, pure_eq_ok_iff, enableEvents] at done
      obtain ⟨after, ⟨_, _, rfl⟩, rfl⟩ := done
      rfl
  | start scan =>
      obtain ⟨_, columns, rate, _, _, rfl⟩ := Action.act_start_eq_ok_iff.mp done
      exact (settle_alike _ scan).queue
  | disconnect | unplug | disableEvents =>
      obtain rfl := Except.ok.inj done
      rfl
  | halt target =>
      obtain rfl := Except.ok.inj done
      exact queue_haltScan target
  | advance target rows =>
      obtain rfl := Except.ok.inj done
      exact queue_advance target rows instrument store
  | finish target =>
      obtain ⟨rows, rfl⟩ := advance_of_finishScan done
      exact queue_advance target rows instrument store
  | abort target error =>
      obtain rfl := Except.ok.inj done
      change (instrument.abortScan target error).1.queue = _
      rw [abortScan_fst]
      split
      · exact queue_haltScan target
      · rfl

end Instrument

namespace Command

/-- The handle of the device that a command loads a queue on. -/
def loads? (command : Command) : Option Handle :=
  command.action?.bind fun (handle, action) => if action.loads then some handle else none

theorem loads_of_loads? {command : Command} {handle : Handle} {action : Action}
    (asks : command.action? = some (handle, action)) (unloaded : command.loads? ≠ some handle) :
    action.loads = false := by
  cases loads : action.loads with
  | false => rfl
  | true => exact absurd (by simp [loads?, asks, loads]) unloaded

theorem unloaded_of_eq_none {command : Command} {handle : Handle} (none : command.loads? = none) :
    command.loads? ≠ some handle := by
  simp [none]

end Command

section Unloaded

variable {α : Type} {handle : Handle}

theorem Stimulus.unloaded (stimulus : Stimulus α) :
    (Command.stimulus stimulus).loads? ≠ some handle := by
  apply Command.unloaded_of_eq_none
  cases stimulus <;> rfl

end Unloaded

/-- A command that loads no queue on a device leaves its queue alone. -/
theorem Bench.queue_of_step {bench : Bench} {command : Command} {handle : Handle}
    {device after : Instrument} (unloaded : command.loads? ≠ some handle)
    (issued : handle < bench.driver.nextHandle)
    (found : bench.driver.instruments.get? handle = some device)
    (still : (bench.step command).1.driver.instruments.get? handle = some after) :
    after.queue = device.queue := by
  cases bench.change_of_step command handle with
  | kept unchanged =>
      obtain rfl := Option.some.inj (still.symm.trans (unchanged.trans found))
      rfl
  | acted taken there done now =>
      obtain rfl := Option.some.inj (there.symm.trans found)
      obtain rfl := Option.some.inj (now.symm.trans still)
      have asks := (taken?_eq_some_iff.mp taken).1
      exact Instrument.queue_of_act done (Command.loads_of_loads? asks unloaded)
  | tuned there now adjustment =>
      obtain rfl := Option.some.inj (there.symm.trans found)
      obtain rfl := Option.some.inj (now.symm.trans still)
      exact adjustment.alike.queue
  | opened descriptor profile next => exact absurd next (Int.ne_of_lt issued)
  | closed asks now =>
      rw [now] at still
      contradiction

/-! ## What a caller counts -/

/-- What the count of the queue of a device depends on. -/
def Device.counted (held : Device) : Handle × Nat :=
  (held.handle, held.queueLength)

namespace Act

end Act

/-! ## Sessions -/

namespace World

variable {handle : Handle} {id : DeviceId} {held : Device} {before after world : World}

/-- The caller counts the queue that the driver has behind a handle. -/
def Counts (world : World) (handle : Handle) : Prop :=
  ∀ id held device, world.devices.get? id = some held → held.handle = handle →
    world.bench.driver.instruments.get? handle = some device →
    held.queueLength = device.queue.length

theorem Runs.counts (runs : before.Runs (fun command => command.loads? ≠ some handle)
    Device.counted after) (sound : before.Sound) (counts : before.Counts handle) :
    after.Counts handle := by
  rintro id later device now rfl there
  obtain ⟨commands, unloaded, reached⟩ := runs.bench
  have shown := runs.devices id
  rw [now, Option.map_some] at shown
  obtain ⟨held, found, same⟩ := Option.map_eq_some_iff.mp shown.symm
  obtain ⟨handle, counted⟩ := Prod.mk.inj same
  rw [reached] at there
  rcases Bench.part_of_run Bench.queue_of_step sound.reachable unloaded there with
    ⟨earlier, behind, kept⟩ | ⟨fresh, _⟩
  · rw [kept, ← counted]
    exact counts id held earlier found handle behind
  · exact absurd (handle ▸ sound.issued found) (Int.not_lt.mpr fresh)

end World

namespace Move

/-- Whether a move loads a queue behind a handle past the device. -/
def loads? : Move → Option Handle
  | .request asked => (Command.request asked).loads?
  | _ => none

end Move

namespace World

variable {handle : Handle} {id : DeviceId} {held : Device} {world : World}

end World

/-! ## Scans of the queue -/

namespace Instrument

end Instrument

section Columns

variable {held : Device} {device : Instrument} {low high : Int}
  (counted : held.queueLength = device.queue.length)

include counted

end Columns

/-! ## Counting in 32 bits -/

namespace ScanRequest

variable {request : ScanRequest} {count : Nat}
  (counted : Int32.ofInt request.high - Int32.ofInt request.low + 1 = Int32.ofNat count)

include counted

end ScanRequest

namespace World

variable {id : DeviceId} {held : Device} {device : Instrument}

end World

end Acquisition
