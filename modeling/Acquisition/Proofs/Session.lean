import Acquisition.Device.Operation
import Acquisition.Proofs.Opening

/-!
# Sessions

A session is a run of moves: a caller opens devices, uses them, closes them, turns to the
driver directly, or something happens from outside.  The world of a session is sound
(`Sound.run`), and a move leaves every device what it was but for one slot, and runs
commands of which none starts a scan but on one target (`Sound.carries`).
-/

namespace Acquisition

/-! ## Moves -/

/-- What can happen in a session. -/
inductive Move : Type 1 where
  | take (descriptor : Descriptor)
  | call {α : Type} (id : DeviceId) (operation : Operation α)
  | close (id : DeviceId)
  | drop (id : DeviceId)
  /-- The driver is asked directly. -/
  | request {α : Type} (request : Request α)
  | stimulus {α : Type} (stimulus : Stimulus α)
  | edit (edit : Edit)

namespace World

/-- Whether a device is there and has the part that an operation belongs to. -/
def offers {α : Type} (world : World) (id : DeviceId) (operation : Operation α) : Bool :=
  (world.devices.get? id).any fun held => operation.isOffered held

theorem found_of_offers {α : Type} {world : World} {id : DeviceId} {operation : Operation α}
    (offered : world.offers id operation = true) :
    ∃ held, world.devices.get? id = some held ∧ operation.isOffered held = true := by
  simpa [offers, Option.any_eq_true] using offered

/-- The world after a move.  An operation that the device does not offer is not called. -/
def step (world : World) : Move → World
  | .take descriptor => ((Act.openDevice descriptor).on world).2
  | .call id operation =>
      if world.offers id operation then ((operation.perform id).on world).2 else world
  | .close id => ((Act.close id).on world).2
  | .drop id => ((Act.drop id).on world).2
  | .request request => ((Act.perform request).on world).2
  | .stimulus stimulus => ((Act.stimulate stimulus).on world).2
  | .edit edit =>
      { world with bench := { world.bench with store := edit.apply world.bench.store } }

/-- A move that makes a setting or sets a trigger leads where the operation does, whether the device
is there or not. -/
theorem step_of_tuner? {α : Type} {world : World} {operation : Operation α}
    {request : Handle → Request α} (comes : operation.tuner? = some request) (id : DeviceId) :
    world.step (.call id operation) = ((operation.perform id).on world).2 := by
  have unscanned : operation.target? = none := by
    cases operation <;> first | rfl | contradiction
  cases found : world.devices.get? id with
  | some held =>
      have offered : world.offers id operation = true := by
        rw [offers, found, Option.any_some, Operation.isOffered, unscanned]
        rfl
      simp only [step, offered, if_true]
  | none =>
      have absent : world.offers id operation = false := by rw [offers, found, Option.any_none]
      have refused : (Act.live id).on world = (.error .badDevHandle, world) := by
        unfold Act.live
        rw [Act.on_bind_error (Act.on_device_of_absent found)]
      rw [Operation.perform_of_tuner? comes, Act.on_bind_error refused]
      simp only [step, absent, Bool.false_eq_true, if_false]

/-- The world after some moves. -/
def run (world : World) (moves : List Move) : World :=
  moves.foldl step world

theorem run_append (world : World) (first rest : List Move) :
    world.run (first ++ rest) = (world.run first).run rest :=
  List.foldl_append

theorem run_concat (world : World) (moves : List Move) (move : Move) :
    world.run (moves ++ [move]) = (world.run moves).step move :=
  world.run_append moves [move]

end World

namespace Move

/-- What a move does at the driver directly, past the device. -/
def bypass? : Move → Option Deed
  | .request asked => (Command.request asked).deed?
  | _ => none

/-- What a move may do.  The handle of a device that cannot be opened is given back. -/
def deed? (world : World) : Move → Option Deed
  | .take _ => some (.release world.bench.driver.nextHandle)
  | .call id operation => (world.devices.get? id).bind fun held => operation.deed? held.handle
  | .close id | .drop id => (world.devices.get? id).map fun held => .release held.handle
  | move => move.bypass?

/-- The slot that a move may change. -/
def slot? : Move → Option (DeviceId × ScanTarget)
  | .call id operation => operation.target?.map (Prod.mk id)
  | _ => none

end Move

/-! ## Operations -/

namespace World

variable {before middle after world : World} {id : DeviceId} {held : Device}

/-- An operation that starts a scan starts none but on its target, and changes no slot but
that of the target. -/
theorem leads_of_isStart {α : Type} {act : Act α} {target : ScanTarget} {buffer : ScanBuffer}
    (direct : world.IsDirect) (found : world.devices.get? id = some held)
    (starts : Operation.IsStart act id target buffer world) :
    world.Leads (some (.start held.handle target)) (some (id, target)) (act.on world).2 := by
  rcases starts with ⟨error, refused⟩ | ⟨start, _, same, _⟩
  · rw [refused]
    exact .refl direct
  · rw [same]
    rcases Act.on_startScan_cases direct id start with
      ⟨error, refused⟩ | ⟨held', rate, middle, after, found', accepted, accepts, sets⟩
    · rw [refused]
      exact .refl direct
    · obtain rfl := Option.some.inj (found.symm.trans found')
      rw [accepted]
      exact (accepts.leads.mono (.inr rfl) (.inl rfl)).trans
        (sets.leads (accepts.devices ▸ found))

/-- A query starts no scan and changes no slot but that of its target. -/
theorem leads_query (direct : world.IsDirect) (id : DeviceId) (target : ScanTarget)
    (asked : Query) : world.Leads none (some (id, target)) ((Act.query id target asked).on world).2 := by
  rcases Act.on_query_cases direct id target asked with
    ⟨error, after, refused, leads⟩ | ⟨middle, held, answer, after, told, leads, found, _, sets⟩
  · rw [refused]
    exact leads.mono (.inl rfl) (.inl rfl)
  · rw [told]
    exact (leads.mono (.inl rfl) (.inl rfl)).trans (sets.leads found)

/-- An operation that does not give the handle back. -/
theorem leads_perform {α : Type} (operation : Operation α) (direct : world.IsDirect)
    (found : world.devices.get? id = some held) (kept : operation.isRelease = false) :
    world.Leads (operation.deed? held.handle) (operation.target?.map (Prod.mk id))
      ((operation.perform id).on world).2 := by
  unfold Operation.target? Operation.deed?
  rw [kept, if_neg Bool.false_ne_true]
  cases starts : operation.start? with
  | some start => exact leads_of_isStart direct found (Operation.isStart_of_start? starts id world)
  | none =>
      cases asks : operation.query? with
      | some asked =>
          rw [(Operation.perform_of_query? asks id world).1]
          exact leads_query direct id asked.1 asked.2
      | none =>
          have unscanned : operation.target? = none := by simp [Operation.target?, starts, asks]
          exact Act.keeps_perform id unscanned kept world direct

/-- Giving a handle back is refused without a change, or the device has been released. -/
theorem release_cases (sound : world.Sound) (id : DeviceId) :
    (∃ error, (Act.release id).on world = (.error error, world)) ∨
    ∃ held after, world.devices.get? id = some held ∧
      (Act.release id).on world = (.ok (), after) ∧ world.Retires id held.handle [.release] after := by
  rcases Act.on_live_cases world id with ⟨held, found, kept, carried⟩ | carried
  · cases there : world.bench.driver.instruments.get? held.handle with
    | none => exact .inl ⟨_, Act.on_release_of_lost sound.direct found kept there⟩
    | some device =>
        rcases Act.on_release sound.direct found kept there with ⟨after, released, retires⟩
        exact .inr ⟨held, after, found, released, retires⟩
  · exact .inl ⟨_, Act.on_bind_error carried⟩

/-- Taking a device down changes nothing, or the device has been released. -/
theorem teardown_cases (sound : world.Sound) (id : DeviceId) :
    (∃ answer, (Act.teardown id).on world = (answer, world)) ∨
    ∃ held answer calls after, world.devices.get? id = some held ∧
      (Act.teardown id).on world = (answer, after) ∧ world.Retires id held.handle calls after := by
  cases found : world.devices.get? id with
  | none =>
      refine .inl ⟨.error .badDevHandle, ?_⟩
      unfold Act.teardown
      rw [Act.on_bind_error (Act.on_device_of_absent found)]
  | some held =>
      cases marked : held.isReleased with
      | true => exact .inl ⟨_, Act.on_teardown_of_released found marked⟩
      | false =>
          cases there : world.bench.driver.instruments.get? held.handle with
          | none =>
              rcases Act.on_teardown_of_lost sound.direct found marked there with
                ⟨after, taken, retires⟩
              exact .inr ⟨held, _, _, after, rfl, taken, retires⟩
          | some device =>
              rcases Act.on_teardown sound.direct found marked there (sound.targets_nodup found)
                with ⟨after, stopped, taken, retires, _⟩
              exact .inr ⟨held, _, _, after, rfl, taken, retires⟩

/-- A device that cannot be taken down further is let go of as it is. -/
theorem drop_of_teardown (sound : world.Sound) {answer : Except Error Unit} {after : World}
    (taken : (Act.teardown id).on world = (answer, after)) :
    (Act.drop id).on after = (.ok (), after) := by
  rcases teardown_cases sound id with ⟨other, same⟩ | ⟨held, other, calls, last, found, same, retires⟩
  · obtain ⟨rfl, rfl⟩ := Prod.mk.inj (taken.symm.trans same)
    rw [Act.on_drop, taken]
  · obtain ⟨rfl, rfl⟩ := Prod.mk.inj (taken.symm.trans same)
    exact Act.on_drop_of_retires retires found

/-- Closing a device leads where taking it down leads. -/
theorem close_eq_teardown (sound : world.Sound) (id : DeviceId) :
    (Act.close id).on world = (Act.teardown id).on world :=
  Act.on_close rfl (drop_of_teardown sound rfl)

/-! ## All moves -/

section Moves

variable {deed : Option Deed} {slot : Option (DeviceId × ScanTarget)}

theorem Leads.carries (leads : before.Leads deed slot after) (sound : before.Sound) :
    before.Follows deed slot after ∧ after.Sound :=
  ⟨leads.follows, leads.sound sound⟩

theorem Retires.carries {calls : List LifecycleCall} (found : before.devices.get? id = some held)
    (retires : before.Retires id held.handle calls after) (sound : before.Sound) :
    before.Follows (some (.release held.handle)) slot after ∧ after.Sound :=
  ⟨retires.follows, retires.sound sound found⟩

theorem carries_teardown (sound : world.Sound) (id : DeviceId) :
    world.Follows ((world.devices.get? id).map fun held => .release held.handle) slot
      ((Act.teardown id).on world).2 ∧ ((Act.teardown id).on world).2.Sound := by
  rcases teardown_cases sound id with ⟨answer, same⟩ | ⟨held, answer, calls, after, found, taken, retires⟩
  · rw [same]
    exact (Leads.refl sound.direct).carries sound
  · rw [taken, found]
    exact retires.carries found sound

theorem carries_perform {α : Type} (sound : world.Sound) (found : world.devices.get? id = some held)
    (operation : Operation α) :
    world.Follows (operation.deed? held.handle) (operation.target?.map (Prod.mk id))
      ((operation.perform id).on world).2 ∧ ((operation.perform id).on world).2.Sound := by
  cases released : operation.isRelease with
  | false => exact (leads_perform operation sound.direct found released).carries sound
  | true =>
      cases operation with
      | release =>
          change world.Follows (some (.release held.handle)) none ((Act.release id).on world).2 ∧
            ((Act.release id).on world).2.Sound
          rcases release_cases sound id with ⟨error, same⟩ | ⟨held', after, found', taken, retires⟩
          · rw [same]
            exact (Leads.refl sound.direct).carries sound
          · obtain rfl := Option.some.inj (found.symm.trans found')
            rw [taken]
            exact retires.carries found sound
      | _ => contradiction

/-- A move does nothing but what it may do, changes no slot but the one that it may change, and
keeps the world sound. -/
theorem Sound.carries (sound : world.Sound) (move : Move) :
    world.Follows (move.deed? world) move.slot? (world.step move) ∧ (world.step move).Sound := by
  cases move with
  | take descriptor =>
      rcases openDevice_cases sound.direct descriptor with leads | ⟨middle, held, takes⟩
      · exact leads.carries sound
      · exact ⟨takes.follows sound, takes.sound sound⟩
  | call id operation =>
      change world.Follows _ _ (if _ then _ else world) ∧ (if _ then _ else world).Sound
      split
      · next offered =>
          rcases found_of_offers offered with ⟨held, found, _⟩
          have deed : (Move.call id operation).deed? world = operation.deed? held.handle := by
            rw [Move.deed?, found, Option.bind_some]
          rw [deed]
          exact carries_perform sound found operation
      · exact (Leads.refl sound.direct).carries sound
  | close id =>
      simp only [step, close_eq_teardown sound]
      exact carries_teardown sound id
  | drop id =>
      simp only [step, Act.on_drop]
      exact carries_teardown sound id
  | request request =>
      exact (Act.Keeps.perform (.inr rfl) world sound.direct).carries sound
  | stimulus stimulus => exact (Act.Keeps.stimulate stimulus world sound.direct).carries sound
  | edit edit =>
      have leads : world.Leads none none (world.step (.edit edit)) :=
        .of_step ⟨sound.direct.faults, sound.direct.rival⟩ (.edit edit) (.inl rfl) rfl rfl rfl
      exact leads.carries sound

end Moves

theorem Sound.run (sound : world.Sound) (moves : List Move) : (world.run moves).Sound := by
  induction moves generalizing world with
  | nil => exact sound
  | cons move rest ih => exact ih (sound.carries move).2

theorem sound_run (moves : List Move) : (World.initial.run moves).Sound :=
  sound_initial.run moves

/-- A device is attached, opened and connected. -/
def connected : List Move :=
  let device := Descriptor.ofIdentity "USB-1808X" 317 (.named ["USB"]) "01D97CFA"
  [.stimulus (.attach device .multifunction), .take device, .call 0 .connect]

/-- A scan that a move may start is one that it starts at the driver, or one on a slot that it
may change. -/
theorem deed?_start_cases {move : Move} {handle : Handle} {target : ScanTarget}
    (does : move.deed? world = some (.start handle target)) :
    move.bypass? = some (.start handle target) ∨
    ∃ id held, world.devices.get? id = some held ∧ held.handle = handle ∧
      move.slot? = some (id, target) := by
  cases move with
  | call id operation =>
      right
      rcases Option.bind_eq_some_iff.mp does with ⟨held, found, does⟩
      unfold Operation.deed? at does
      split at does
      · cases does
      · rcases Option.map_eq_some_iff.mp does with ⟨⟨other, buffer⟩, starts, same⟩
        obtain ⟨rfl, rfl⟩ := Deed.start.inj same
        exact ⟨id, held, found, rfl, by simp [Move.slot?, Operation.target?, starts]⟩
  | take descriptor => cases does
  | close id | drop id =>
      rcases Option.map_eq_some_iff.mp does with ⟨_, _, same⟩
      contradiction
  | request | stimulus | edit => exact .inl does

/-- A move that may not change the slot of a target starts no scan there but at the driver. -/
theorem Sound.deed?_ne_start (sound : world.Sound) (found : world.devices.get? id = some held)
    {move : Move} {target : ScanTarget}
    (unbypassed : move.bypass? ≠ some (.start held.handle target))
    (other : move.slot? ≠ some (id, target)) :
    move.deed? world ≠ some (.start held.handle target) := by
  intro does
  rcases deed?_start_cases does with bypass | ⟨id', held', found', same, touches⟩
  · exact unbypassed bypass
  · exact other (sound.apart found' found same ▸ touches)

/-- No device has the next handle yet. -/
theorem Sound.deed?_ne_start_of_fresh (sound : world.Sound) {move : Move} {target : ScanTarget}
    (unbypassed : move.bypass? ≠ some (.start world.bench.driver.nextHandle target)) :
    move.deed? world ≠ some (.start world.bench.driver.nextHandle target) := by
  intro does
  rcases deed?_start_cases does with bypass | ⟨id, held, found, same, _⟩
  · exact unbypassed bypass
  · exact Int.ne_of_lt (sound.issued found) same

end World

end Acquisition
