import Acquisition.Proofs.Session

/-!
# No handle is left behind

Opening a device hands out a handle before the device has been asked for its parts, and any
of the questions can fail.  What opening comes to depends on the first attached device of the
unit alone (`on_openDevice_of_unknown`, `on_openDevice_of_untold`, `on_openDevice_of_told`):
either one device more is behind a handle, or the devices behind handles are those that were
there before (`openDevice_exact`).
-/

namespace Acquisition

/-! ## What a profile tells about the parts -/

namespace Profile

/-- Whether a profile tells of a part that it is there. -/
def hasPart (profile : Profile) (part : Part) : Bool :=
  profile.integerD .device part.item 0 0 ≠ 0

/-- A profile tells of every part whether it is there. -/
def TellsParts (profile : Profile) : Prop :=
  ∀ part : Part, profile.integers.get? ⟨.device, part.item, 0⟩ ≠ none

theorem integer_of_untold {profile : Profile} {part : Part}
    (untold : profile.integers.get? ⟨.device, part.item, 0⟩ = none) :
    profile.integer .device part.item 0 = .error .badInfoItem := by
  simp [integer, untold]

theorem integer_of_told {profile : Profile} {part : Part}
    (told : profile.integers.get? ⟨.device, part.item, 0⟩ ≠ none) :
    profile.integer .device part.item 0 = .ok (profile.integerD .device part.item 0 0) := by
  obtain ⟨value, found⟩ := Option.ne_none_iff_exists'.mp told
  simp [integer, integerD, Table.getD, found]

end Profile

theorem Part.mem_all (part : Part) : part ∈ Part.all := by
  cases part <;> decide

namespace World

variable {world : World} {handle : Handle} {device : Instrument}

/-- A device is asked about a part, and nothing changes. -/
theorem on_askPart (direct : world.IsDirect)
    (there : world.bench.driver.instruments.get? handle = some device) (part : Part) :
    (Act.send (.integerItem handle .device part.item 0)).on world =
      (device.profile.integer .device part.item 0, world) := by
  have asks : (Request.integerItem handle .device part.item 0).serve world.bench =
      world.bench.ask handle fun asked => asked.profile.integer .device part.item 0 := rfl
  exact Act.on_send_ask direct there asks fun _ => rfl

/-- The parts that a device tells of are found, and nothing changes. -/
theorem on_findParts_of_told (direct : world.IsDirect)
    (there : world.bench.driver.instruments.get? handle = some device) {among : List Part}
    (told : ∀ part ∈ among, device.profile.integers.get? ⟨.device, part.item, 0⟩ ≠ none) :
    (Act.findParts handle among).on world =
      (.ok (among.filter device.profile.hasPart), world) := by
  induction among with
  | nil => rfl
  | cons part rest ih =>
      have here := Profile.integer_of_told (told part List.mem_cons_self)
      rw [Act.findParts, Act.on_bind_ok ((on_askPart direct there part).trans (by rw [here])),
        Act.on_bind_ok (ih fun other member => told other (List.mem_cons_of_mem part member)),
        Act.on_pure, List.filter_cons]
      simp only [Profile.hasPart, decide_eq_true_eq]

/-- A part that the device does not tell of ends the search, and nothing changes. -/
theorem on_findParts_of_untold (direct : world.IsDirect)
    (there : world.bench.driver.instruments.get? handle = some device) {among : List Part}
    (untold : ∃ part ∈ among, device.profile.integers.get? ⟨.device, part.item, 0⟩ = none) :
    (Act.findParts handle among).on world = (.error .badInfoItem, world) := by
  induction among with
  | nil => simp at untold
  | cons part rest ih =>
      have asked := on_askPart direct there part
      rw [Act.findParts]
      by_cases here : device.profile.integers.get? ⟨.device, part.item, 0⟩ = none
      · rw [Profile.integer_of_untold here] at asked
        exact Act.on_bind_error asked
      · rw [Profile.integer_of_told here] at asked
        rw [Act.on_bind_ok asked]
        -- The part that is not told of is one of the others.
        refine Act.on_bind_error (ih ?_)
        obtain ⟨other, member, missing⟩ := untold
        rcases List.mem_cons.mp member with rfl | later
        · exact absurd missing here
        · exact ⟨other, later, missing⟩

end World

/-! ## The three outcomes -/

namespace Driver

/-- The first attached device of the unit that a descriptor names. -/
def known? (driver : Driver) (descriptor : Descriptor) : Option (Descriptor × Profile) :=
  driver.inventory.find? fun entry => entry.1.sameUnit descriptor

/-- The driver once it has handed out the next handle. -/
def opened (driver : Driver) (known : Descriptor) (profile : Profile) : Driver :=
  { driver.put driver.nextHandle (Instrument.initial known profile) with
    nextHandle := driver.nextHandle + 1 }

/-- The driver once it has handed out the next handle and has got it back. -/
def reopened (driver : Driver) : Driver :=
  { driver with nextHandle := driver.nextHandle + 1 }.record driver.nextHandle .release

variable {driver : Driver} {descriptor known : Descriptor} {profile : Profile}

theorem create_eq (driver : Driver) (descriptor : Descriptor) :
    driver.create descriptor =
      match driver.known? descriptor with
      | some (known, profile) => .ok (driver.nextHandle, driver.opened known profile)
      | none => .error .badDescriptor :=
  rfl

/-- Giving the new handle back leaves the devices as they were. -/
theorem release_opened (fresh : driver.instruments.get? driver.nextHandle = none)
    (known : Descriptor) (profile : Profile) :
    (driver.opened known profile).release driver.nextHandle = .ok driver.reopened := by
  have there : (driver.opened known profile).instrument driver.nextHandle =
      .ok (Instrument.initial known profile) :=
    instrument_eq_ok_iff.mpr (Table.get?_set_self _ _ _)
  rw [release, there]
  change Except.ok _ = _
  simp [opened, put, reopened, record, Table.erase_of_get?_eq_none fresh]

end Driver

namespace World

variable {world : World} {descriptor known : Descriptor} {profile : Profile}

/-- The world once a handle has been handed out. -/
def handedOut (world : World) (descriptor known : Descriptor) (profile : Profile) : World :=
  { world with
    bench := world.bench.withDriver (world.bench.driver.opened known profile)
    notices := world.notices ++
      [.handleCreated world.bench.driver.nextHandle descriptor.uniqueId] ++
      [.deviceOpened world.bench.driver.nextHandle descriptor] }

/-- The world once a handle has been handed out and given back. -/
def takenBack (world : World) (descriptor : Descriptor) : World :=
  { world with
    bench := world.bench.withDriver world.bench.driver.reopened
    notices := world.notices ++
      [.handleCreated world.bench.driver.nextHandle descriptor.uniqueId] ++
      [.deviceOpened world.bench.driver.nextHandle descriptor] ++
      [.handleReleased world.bench.driver.nextHandle] }

/-- A unit that is not attached is not opened. -/
theorem on_openDevice_of_unknown (direct : world.IsDirect)
    (unknown : world.bench.driver.known? descriptor = none) :
    (Act.openDevice descriptor).on world = (.error .badDescriptor, world) := by
  have refused : (Request.create descriptor).serve world.bench = .error .badDescriptor := by
    simp only [Request.serve, Driver.create_eq, unknown]
    rfl
  rw [Act.openDevice, Act.on_bind_error]
  rw [Act.on_send direct, Act.on_perform_of_refused refused]

/-- A handle is handed out, and the device behind it is asked for its parts. -/
theorem on_openDevice_of_known (direct : world.IsDirect)
    (attached : world.bench.driver.known? descriptor = some (known, profile)) :
    (Act.openDevice descriptor).on world =
      Act.on (do
        match ← Act.attempt (Act.findParts world.bench.driver.nextHandle Part.all) with
        | .ok parts => Act.adopt (.initial world.bench.driver.nextHandle descriptor parts)
        | .error error => do
            Act.abandon world.bench.driver.nextHandle
            throw error) (world.handedOut descriptor known profile) := by
  have served : (Request.create descriptor).serve world.bench =
      .ok ⟨world.bench.driver.nextHandle,
        world.bench.withDriver (world.bench.driver.opened known profile), []⟩ := by
    simp only [Request.serve, Driver.create_eq, attached]
    rfl
  have sent := (Act.on_send direct _).trans (Act.on_perform served rfl)
  rw [Act.openDevice, Act.on_bind_ok sent, Act.on_bind_ok (Act.on_note _ _)]
  rfl

theorem handedOut_direct (direct : world.IsDirect) :
    (world.handedOut descriptor known profile).IsDirect :=
  ⟨direct.faults, direct.rival⟩

/-- The new device is behind the new handle. -/
theorem get?_handedOut (world : World) (descriptor known : Descriptor) (profile : Profile) :
    (world.handedOut descriptor known profile).bench.driver.instruments.get?
      world.bench.driver.nextHandle = some (.initial known profile) :=
  Table.get?_set_self _ _ _

/-- A device that does not tell of all parts is given up again. -/
theorem on_openDevice_of_untold (direct : world.IsDirect)
    (fresh : world.bench.driver.instruments.get? world.bench.driver.nextHandle = none)
    (attached : world.bench.driver.known? descriptor = some (known, profile))
    (untold : ¬ profile.TellsParts) :
    (Act.openDevice descriptor).on world = (.error .badInfoItem, world.takenBack descriptor) := by
  obtain ⟨part, missing⟩ := Classical.not_forall.mp untold
  have failed := on_findParts_of_untold (handedOut_direct direct)
    (get?_handedOut world descriptor known profile) ⟨part, part.mem_all, Decidable.not_not.mp missing⟩
  have served : (Request.release world.bench.driver.nextHandle).serve
      (world.handedOut descriptor known profile).bench =
        .ok ⟨(), world.bench.withDriver world.bench.driver.reopened, []⟩ := by
    simp only [Request.serve, Bench.change, handedOut, Bench.withDriver,
      Driver.release_opened fresh]
    rfl
  have sent := (Act.on_send (handedOut_direct direct) _).trans (Act.on_perform served rfl)
  rw [on_openDevice_of_known direct attached, Act.on_bind_ok (Act.on_attempt _ _), failed]
  simp only [Act.abandon]
  rw [Act.on_bind_ok]
  · rfl
  · rw [Act.on_bind_ok (Act.on_attempt _ _), sent]
    rfl

/-- A device that tells of all parts is held with those that are there. -/
theorem on_openDevice_of_told (direct : world.IsDirect)
    (attached : world.bench.driver.known? descriptor = some (known, profile))
    (told : profile.TellsParts) :
    (Act.openDevice descriptor).on world =
      (.ok world.nextDevice,
        { world.handedOut descriptor known profile with
          nextDevice := world.nextDevice + 1
          devices := world.devices.set world.nextDevice
            (.initial world.bench.driver.nextHandle descriptor
              (Part.all.filter profile.hasPart)) }) := by
  have found := on_findParts_of_told (handedOut_direct direct)
    (get?_handedOut world descriptor known profile) fun part (_ : part ∈ Part.all) => told part
  rw [on_openDevice_of_known direct attached, Act.on_bind_ok (Act.on_attempt _ _), found]
  rfl

/-! ## Nothing is left behind -/

/-- The devices behind handles, the storages and what the caller holds are as before. -/
structure Undone (before after : World) : Prop where
  instruments : after.bench.driver.instruments = before.bench.driver.instruments
  store : after.bench.store = before.bench.store
  devices : after.devices = before.devices

/-- One more device is behind a handle, and the caller holds it under a number. -/
structure Opens (before after : World) (id : DeviceId) (profile : Profile) : Prop where
  fresh : before.bench.driver.instruments.get? before.bench.driver.nextHandle = none
  behind : ∃ device,
    after.bench.driver.instruments.get? before.bench.driver.nextHandle = some device ∧
    device.isConnected = false ∧ device.scans = .empty ∧ device.bindings = []
  others : ∀ handle, handle ≠ before.bench.driver.nextHandle →
    after.bench.driver.instruments.get? handle = before.bench.driver.instruments.get? handle
  store : after.bench.store = before.bench.store
  held : ∃ held, after.devices.get? id = some held ∧
    held.handle = before.bench.driver.nextHandle ∧ held.isReleased = false ∧
    held.subscriptions = [] ∧ ∀ part, part ∈ held.parts ↔ profile.integerD .device part.item 0 0 ≠ 0

/-- A device is opened exactly when its unit is attached and the first attached device of it
tells of every part.  Otherwise the handle that may have been handed out has been released,
and the devices behind handles are as before. -/
theorem openDevice_exact (direct : world.IsDirect) (reachable : world.bench.Reachable)
    (descriptor : Descriptor) :
    let answer := ((Act.openDevice descriptor).on world).1
    let after := ((Act.openDevice descriptor).on world).2
    (∀ error, answer = .error error →
      world.Undone after ∧ (error = .badDescriptor ∨ error = .badInfoItem)) ∧
    (answer = .error .badDescriptor ↔ world.bench.driver.known? descriptor = none) ∧
    (answer = .error .badInfoItem ↔
      ∃ entry, world.bench.driver.known? descriptor = some entry ∧ ¬ entry.2.TellsParts) ∧
    (answer = .error .badInfoItem →
      after.bench.driver.isReleased world.bench.driver.nextHandle = true) ∧
    ∀ id, answer = .ok id → ∃ entry, world.bench.driver.known? descriptor = some entry ∧
      world.Opens after id entry.2 := by
  have fresh : world.bench.driver.instruments.get? world.bench.driver.nextHandle = none := by
    rw [Option.eq_none_iff_forall_ne_some]
    intro device found
    exact Int.lt_irrefl _ (reachable.issued found)
  cases attached : world.bench.driver.known? descriptor with
  | none =>
      rw [on_openDevice_of_unknown direct attached]
      simp [Undone.mk]
  | some entry =>
      obtain ⟨known, profile⟩ := entry
      by_cases told : profile.TellsParts
      · rw [on_openDevice_of_told direct attached told]
        refine ⟨by simp, by simp, by simp [told], by simp, ?_⟩
        rintro id same
        obtain rfl := Except.ok.inj same
        refine ⟨_, rfl, fresh, ⟨_, Table.get?_set_self _ _ _, rfl, rfl, rfl⟩, ?_, rfl,
          ⟨_, Table.get?_set_self _ _ _, rfl, rfl, rfl, ?_⟩⟩
        · exact fun handle ne => Table.get?_set_of_ne _ ne _
        · intro part
          simp [Device.initial, Profile.hasPart, part.mem_all]
      · rw [on_openDevice_of_untold direct fresh attached told]
        refine ⟨?_, by simp, by simp [told], ?_, by simp⟩
        · rintro error same
          exact ⟨⟨rfl, rfl, rfl⟩, .inr (Except.error.inj same).symm⟩
        · intro _
          simp only [Driver.isReleased, reachable.positive.1, decide_true, takenBack,
            Bench.withDriver, Driver.reopened, Driver.record, Bool.true_and, Table.contains, fresh,
            Option.isSome_none, Bool.not_false, Bool.and_true]
          exact decide_eq_true (Int.lt_succ _)

/-- A device that does not tell of its counters. -/
def silent : Descriptor × Profile :=
  (.ofIdentity "USB-205" 300 (.named ["USB"]) "02A4",
    Profile.multifunction.without .device Item.Device.hasCounters 0)

/-- A device is connected, and another one is attached that does not tell of its counters. -/
def besideSilent : World :=
  World.initial.run (connected ++ [.stimulus (.attach silent.1 silent.2)])

/-- The device that does not tell of its counters is given up. -/
theorem openDevice_exact_silent :
    besideSilent.IsDirect ∧ besideSilent.bench.Reachable ∧
    ((Act.openDevice silent.1).on besideSilent).1 = .error .badInfoItem ∧
    besideSilent.Undone ((Act.openDevice silent.1).on besideSilent).2 := by
  have sound : besideSilent.Sound := sound_run _
  have exact := openDevice_exact sound.direct sound.reachable silent.1
  have found : (besideSilent.bench.driver.known? silent.1).any (fun entry =>
      (entry.2.integers.get? ⟨.device, Part.counters.item, 0⟩).isNone) = true := by
    decide +kernel
  obtain ⟨entry, attached, missing⟩ := (Option.any_eq_true _ _).mp found
  have failed := exact.2.2.1.mpr
    ⟨entry, attached, fun told => told .counters (Option.isNone_iff_eq_none.mp missing)⟩
  exact ⟨sound.direct, sound.reachable, failed, (exact.1 _ failed).1⟩

end World

end Acquisition
