import Acquisition.Proofs.Slots
import Acquisition.Proofs.Teardown
import Mathlib.Data.List.Flatten

/-!
# Sound worlds

In a sound world the devices have numbers and handles of their own, and nothing is behind the
handle of a released device (`World.Sound`).  Whatever runs commands and keeps to the devices
that are there leads from a sound world to a sound one (`Leads.sound`, `Retires.sound`), and to
one in which a scan is running only where one was, unless it was started (`Follows.running?`).
-/

namespace Acquisition

/-! ## What a move leaves alone -/

/-- A device is new: nothing has been done with it, and what is behind its handle, which was the
next one, has nothing bound. -/
structure World.IsFresh (before after : World) (held : Device) : Prop where
  slots : held.slots = .empty
  subscriptions : held.subscriptions = []
  handle : held.handle = before.bench.driver.nextHandle
  behind : ∃ device, after.bench.driver.instruments.get? held.handle = some device ∧
    device.bindings = []

/-- The bench has run commands of which none starts a scan or gives a handle back, but for one
deed, every device is still the one that it was, but for one slot, and the others are new. -/
structure World.Follows (deed : Option Deed)
    (slot : Option (DeviceId × ScanTarget)) (before after : World) : Prop where
  bench : ∃ commands : List Command,
    (∀ command ∈ commands, command.deed? = none ∨ command.deed? = deed) ∧
    after.bench = (before.bench.run commands).1
  present : ∀ id held, before.devices.get? id = some held →
    ∃ later, after.devices.get? id = some later ∧ held.Remains id slot later ∧
      (held.isReleased = true → later.isReleased = true)
  fresh : ∀ id later, before.devices.get? id = none → after.devices.get? id = some later →
    before.IsFresh after later

namespace World

variable {deed : Option Deed} {slot : Option (DeviceId × ScanTarget)}
  {before middle after : World}

theorem Leads.follows (leads : before.Leads deed slot after) : before.Follows deed slot after where
  bench := leads.bench
  present id held found := by
    rcases leads.present id held found with ⟨later, now, keeps⟩
    exact ⟨later, now, keeps.toRemains, fun released => keeps.isReleased.trans released⟩
  fresh id later absent now := by
    rw [leads.absent id absent] at now
    contradiction

theorem Retires.follows {id : DeviceId} {handle : Handle} {calls : List LifecycleCall}
    (retires : before.Retires id handle calls after) :
    before.Follows (some (.release handle)) slot after where
  bench := retires.bench
  present other held found := by
    rcases retires.present other held found with ⟨later, now, remains, marked⟩
    refine ⟨later, now, { remains with slots := fun target _ => remains.slots target (by simp) }, ?_⟩
    intro released
    simp [marked, released]
  fresh other later absent now := by
    rw [retires.absent other absent] at now
    contradiction

/-- What goes on on a target that a move does not start a scan on was going on before. -/
theorem Follows.running? (follows : before.Follows deed slot after) {handle : Handle}
    {target : ScanTarget} {run : ScanRun} (other : deed ≠ some (.start handle target))
    (running : after.bench.running? handle target = some run) :
    ∃ earlier, before.bench.running? handle target = some earlier ∧
      earlier.buffer = run.buffer := by
  rcases follows.bench with ⟨commands, spared, reached⟩
  rw [reached] at running
  have unstarted : ∀ command ∈ commands, command.deed? ≠ some (.start handle target) := by
    intro command member
    rcases spared command member with quiet | same
    · simp [quiet]
    · rwa [same]
  obtain ⟨earlier, before, continues⟩ := Bench.running?_of_run unstarted running
  exact ⟨earlier, before, continues.buffer.symm⟩

/-- A move that does not give a handle back leaves the device behind it. -/
theorem Follows.found (follows : before.Follows deed slot after) {handle : Handle}
    {device : Instrument} (other : deed ≠ some (.release handle))
    (found : before.bench.driver.instruments.get? handle = some device) :
    ∃ later, after.bench.driver.instruments.get? handle = some later := by
  rcases follows.bench with ⟨commands, spared, reached⟩
  rw [reached]
  apply Bench.found_of_run_of_kept found
  intro command member
  rcases spared command member with quiet | same
  · simp [quiet]
  · rwa [same]

end World

/-! ## Sound worlds -/

/-- Devices have numbers and handles of their own that have been handed out, nothing is
behind the handle of a released device, and the parts of a device are in order. -/
structure World.Sound (world : World) : Prop where
  direct : world.IsDirect
  reachable : world.bench.Reachable
  numbered : ∀ {id held}, world.devices.get? id = some held → id < world.nextDevice
  positive : ∀ {id held}, world.devices.get? id = some held → 0 < held.handle
  issued : ∀ {id held}, world.devices.get? id = some held →
    held.handle < world.bench.driver.nextHandle
  apart : ∀ {id other held held'}, world.devices.get? id = some held →
    world.devices.get? other = some held' → held.handle = held'.handle → id = other
  released : ∀ {id held}, world.devices.get? id = some held → held.isReleased = true →
    world.bench.driver.instruments.get? held.handle = none
  parts : ∀ {id held}, world.devices.get? id = some held → held.parts.Sublist Part.all

namespace World

variable {deed : Option Deed} {slot : Option (DeviceId × ScanTarget)}
  {before middle after world : World}

theorem sound_initial : Sound .initial where
  direct := {}
  reachable := .initial
  numbered found := by contradiction
  positive found := by contradiction
  issued found := by contradiction
  apart found := by contradiction
  released found := by contradiction
  parts found := by contradiction

/-- What happens to the devices and the bench keeps a world sound when the devices that are
released afterwards have nothing behind their handles. -/
theorem Sound.of_devices (sound : before.Sound) (direct : after.IsDirect)
    (nextDevice : after.nextDevice = before.nextDevice)
    (bench : ∃ commands, after.bench = (before.bench.run commands).1)
    (back : ∀ {id later}, after.devices.get? id = some later →
      ∃ held, before.devices.get? id = some held ∧ later.handle = held.handle ∧
        later.parts = held.parts ∧ (later.isReleased = true → held.isReleased = true ∨
          after.bench.driver.instruments.get? later.handle = none)) : after.Sound := by
  rcases bench with ⟨commands, reached⟩
  have grown : before.bench.driver.nextHandle ≤ after.bench.driver.nextHandle :=
    reached ▸ before.bench.nextHandle_le_run commands
  constructor
  · exact direct
  · exact reached ▸ sound.reachable.run commands
  · intro id later now
    rcases back now with ⟨held, found, _⟩
    rw [nextDevice]
    exact sound.numbered found
  · intro id later now
    rcases back now with ⟨held, found, handle, _⟩
    exact handle ▸ sound.positive found
  · intro id later now
    rcases back now with ⟨held, found, handle, _⟩
    exact handle ▸ Int.lt_of_lt_of_le (sound.issued found) grown
  · intro id other later later' now now' same
    rcases back now with ⟨held, found, handle, _⟩
    rcases back now' with ⟨held', found', handle', _⟩
    exact sound.apart found found' (handle.symm.trans (same.trans handle'))
  · intro id later now marked
    rcases back now with ⟨held, found, handle, _, released⟩
    rcases released marked with earlier | gone
    · rw [handle, reached]
      exact Bench.absent_of_run (sound.issued found) (sound.released found earlier)
    · exact gone
  · intro id later now
    rcases back now with ⟨held, found, _, parts, _⟩
    exact parts ▸ sound.parts found

theorem Leads.sound (sound : before.Sound) (leads : before.Leads deed slot after) :
    after.Sound := by
  rcases leads.bench with ⟨commands, _, reached⟩
  apply sound.of_devices leads.direct leads.nextDevice ⟨commands, reached⟩
  intro id later now
  cases found : before.devices.get? id with
  | none =>
      rw [leads.absent id found] at now
      contradiction
  | some held =>
      rcases leads.present id held found with ⟨last, there, keeps⟩
      obtain rfl := Option.some.inj (there.symm.trans now)
      exact ⟨held, rfl, keeps.handle, keeps.parts,
        fun marked => .inl (keeps.isReleased.symm.trans marked)⟩

theorem Retires.sound {id : DeviceId} {held : Device} {calls : List LifecycleCall}
    (sound : before.Sound) (found : before.devices.get? id = some held)
    (retires : before.Retires id held.handle calls after) : after.Sound := by
  rcases retires.bench with ⟨commands, _, reached⟩
  apply sound.of_devices retires.direct retires.nextDevice ⟨commands, reached⟩
  intro other later now
  cases there : before.devices.get? other with
  | none =>
      rw [retires.absent other there] at now
      contradiction
  | some earlier =>
      rcases retires.present other earlier there with ⟨last, here, remains, marked⟩
      obtain rfl := Option.some.inj (here.symm.trans now)
      refine ⟨earlier, rfl, remains.handle, remains.parts, fun released => ?_⟩
      rw [marked, Bool.or_eq_true, decide_eq_true_iff] at released
      rcases released with before | rfl
      · exact .inl before
      · obtain rfl := Option.some.inj (found.symm.trans there)
        exact .inr (remains.handle ▸ retires.gone)

/-- The scan targets of a device are distinct, in the order in which scans are stopped. -/
theorem Sound.targets (sound : world.Sound) {id : DeviceId} {held : Device}
    (found : world.devices.get? id = some held) : held.targets.Sublist ScanTarget.all :=
  (sound.parts found).flatMap Part.targets

theorem Sound.targets_nodup (sound : world.Sound) {id : DeviceId} {held : Device}
    (found : world.devices.get? id = some held) : held.targets.Nodup :=
  (sound.targets found).nodup (by decide)

end World

end Acquisition
