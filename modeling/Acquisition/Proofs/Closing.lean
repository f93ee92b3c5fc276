import Acquisition.Proofs.Session
import Mathlib.Data.List.Induction
import Mathlib.Data.List.Perm.Subperm

/-!
# Closing a device

Closing a device stops the scans that are running, disconnects it and gives its handle
back, in this order, and does nothing to a device that was released (`World.closes`).
Two facts about sessions make this so: a scan that a device has not been bypassed for is on
a target of the device (`offered_of_running`), and something is behind the handle of a
device until the device is released or its handle is given back past it (`found_of_kept`).
-/

namespace Acquisition

namespace World

variable {world : World} {id : DeviceId} {held later : Device} {target : ScanTarget}
  {run : ScanRun} {move : Move}

/-! ## Scans of a device -/

/-- A scan that is running after a move was running before it or is on a target of the device. -/
theorem offered_of_step (sound : world.Sound) (found : world.devices.get? id = some held)
    (unbypassed : move.bypass? ≠ some (.start held.handle target))
    (running : (world.step move).bench.running? held.handle target = some run) :
    (∃ earlier, world.bench.running? held.handle target = some earlier) ∨
      target ∈ held.targets := by
  by_cases other : move.slot? = some (id, target)
  · cases move with
    | call asked operation =>
        rcases Option.map_eq_some_iff.mp other with ⟨about, aimed, same⟩
        obtain ⟨rfl, rfl⟩ := Prod.mk.inj same
        by_cases offered : world.offers asked operation = true
        · rcases found_of_offers offered with ⟨held', found', offers⟩
          obtain rfl := Option.some.inj (found.symm.trans found')
          right
          simpa [Operation.isOffered, aimed] using offers
        · simp only [step, offered, Bool.false_eq_true, if_false] at running
          exact .inl ⟨run, running⟩
    | _ => contradiction
  · rcases (sound.carries move).1.running? (sound.deed?_ne_start found unbypassed other) running
      with ⟨earlier, ran, _⟩
    exact .inl ⟨earlier, ran⟩

/-- Every scan of a device that is started through the device alone is on one of its targets. -/
theorem offered_of_running (moves : List Move)
    (found : (World.initial.run moves).devices.get? id = some held)
    (unbypassed : ∀ move ∈ moves, ∀ target, move.bypass? ≠ some (.start held.handle target))
    (running : (World.initial.run moves).bench.running? held.handle target = some run) :
    target ∈ held.targets := by
  induction moves using List.reverseRecOn generalizing held run with
  | nil => contradiction
  | append_singleton moves move ih =>
      rw [run_concat] at found running
      rw [List.forall_mem_append, List.forall_mem_singleton] at unbypassed
      have sound := sound_run moves
      have follows := (sound.carries move).1
      cases before : (World.initial.run moves).devices.get? id with
      | none =>
          -- The handle is new, and no scan has been started on it.
          have handle := (follows.fresh id held before found).handle
          rw [handle] at unbypassed running
          rcases follows.running? (sound.deed?_ne_start_of_fresh (unbypassed.2 target)) running with
            ⟨earlier, ran, _⟩
          rcases Option.bind_eq_some_iff.mp ran with ⟨device, there, _⟩
          exact absurd (sound.reachable.issued there) (Int.lt_irrefl _)
      | some earlier =>
          rcases follows.present id earlier before with ⟨later, now, remains, _⟩
          obtain rfl := Option.some.inj (now.symm.trans found)
          rw [remains.handle] at unbypassed running
          have same : later.targets = earlier.targets := by
            rw [Device.targets, remains.parts, Device.targets]
          rw [same]
          rcases offered_of_step sound before (unbypassed.2 target) running with ⟨run', ran⟩ | offered
          · exact ih before unbypassed.1 ran
          · exact offered

/-! ## What is behind the handle of a device -/

/-- Taking down whatever device has a handle changes nothing, or releases the device. -/
theorem retires_of_teardown (sound : world.Sound) (found : world.devices.get? id = some held)
    {other : DeviceId}
    (does : (world.devices.get? other).map (fun held => Deed.release held.handle) =
      some (.release held.handle)) :
    ((Act.teardown other).on world).2 = world ∨
      ∃ calls, world.Retires id held.handle calls ((Act.teardown other).on world).2 := by
  rcases Option.map_eq_some_iff.mp does with ⟨held', found', same⟩
  obtain rfl := sound.apart found' found (Deed.release.inj same)
  obtain rfl := Option.some.inj (found'.symm.trans found)
  rcases teardown_cases sound other with ⟨answer, same⟩ | ⟨_, _, calls, after, there, taken, retires⟩
  · exact .inl (by rw [same])
  · obtain rfl := Option.some.inj (there.symm.trans found)
    exact .inr ⟨calls, by rwa [taken]⟩

/-- An operation that may give the handle of a device back changes nothing, or releases the
device. -/
theorem retires_of_perform {α : Type} {operation : Operation α} (sound : world.Sound)
    (found : world.devices.get? id = some held) {other : DeviceId}
    (does : (Move.call other operation).deed? world = some (.release held.handle)) :
    ((operation.perform other).on world).2 = world ∨
      ∃ calls, world.Retires id held.handle calls ((operation.perform other).on world).2 := by
  rcases Option.bind_eq_some_iff.mp does with ⟨held', found', does⟩
  cases released : operation.isRelease with
  | false =>
      rw [Operation.deed?, released] at does
      rcases Option.map_eq_some_iff.mp does with ⟨_, _, same⟩
      cases same
  | true =>
      cases operation with
      | release =>
          obtain rfl := sound.apart found' found (Deed.release.inj (Option.some.inj does))
          obtain rfl := Option.some.inj (found'.symm.trans found)
          rw [Operation.perform]
          rcases release_cases sound other with ⟨error, same⟩ | ⟨_, after, there, taken, retires⟩
          · exact .inl (by rw [same])
          · obtain rfl := Option.some.inj (there.symm.trans found)
            exact .inr ⟨_, by rwa [taken]⟩
      | _ => contradiction

/-- A move that may give the handle of a device back does so at the driver, or changes nothing,
or releases the device. -/
theorem release_of_deed? (sound : world.Sound) (found : world.devices.get? id = some held)
    (does : move.deed? world = some (.release held.handle)) :
    move.bypass? = some (.release held.handle) ∨ world.step move = world ∨
      ∃ calls, world.Retires id held.handle calls (world.step move) := by
  cases move with
  | take descriptor =>
      have same := Deed.release.inj (Option.some.inj does)
      exact absurd same.symm (Int.ne_of_lt (sound.issued found))
  | call other operation =>
      right
      simp only [step]
      split
      · exact retires_of_perform sound found does
      · exact .inl rfl
  | close other =>
      simp only [step, close_eq_teardown sound]
      exact .inr (retires_of_teardown sound found does)
  | drop other =>
      simp only [step, Act.on_drop]
      exact .inr (retires_of_teardown sound found does)
  | request | stimulus | edit => exact .inl does

/-- Something stays behind the handle of a device that is not released as long as the handle is
not given back past the device. -/
theorem found_of_step (sound : world.Sound) (found : world.devices.get? id = some held)
    {device : Instrument} (there : world.bench.driver.instruments.get? held.handle = some device)
    (unreturned : move.bypass? ≠ some (.release held.handle))
    (now : (world.step move).devices.get? id = some later) (kept : later.isReleased = false) :
    ∃ device, (world.step move).bench.driver.instruments.get? held.handle = some device := by
  by_cases does : move.deed? world = some (.release held.handle)
  · rcases release_of_deed? sound found does with bypass | same | ⟨calls, retires⟩
    · exact absurd bypass unreturned
    · exact ⟨device, by rw [same, there]⟩
    · rcases retires.isReleased found with ⟨last, here, _, released⟩
      obtain rfl := Option.some.inj (here.symm.trans now)
      rw [kept] at released
      contradiction
  · exact (sound.carries move).1.found does there

/-- Something is behind the handle of a device that was not released, unless the handle was
given back past the device. -/
theorem found_of_kept (moves : List Move)
    (found : (World.initial.run moves).devices.get? id = some held)
    (kept : held.isReleased = false)
    (unreturned : ∀ move ∈ moves, move.bypass? ≠ some (.release held.handle)) :
    ∃ device, (World.initial.run moves).bench.driver.instruments.get? held.handle =
      some device := by
  induction moves using List.reverseRecOn generalizing held with
  | nil => contradiction
  | append_singleton moves move ih =>
      rw [run_concat] at found ⊢
      rw [List.forall_mem_append, List.forall_mem_singleton] at unreturned
      have sound := sound_run moves
      have follows := (sound.carries move).1
      cases before : (World.initial.run moves).devices.get? id with
      | none =>
          rcases (follows.fresh id held before found).behind with ⟨device, there, _⟩
          exact ⟨device, there⟩
      | some earlier =>
          rcases follows.present id earlier before with ⟨later, now, remains, released⟩
          obtain rfl := Option.some.inj (now.symm.trans found)
          rw [remains.handle] at unreturned ⊢
          have unreleased : earlier.isReleased = false := by
            cases marked : earlier.isReleased with
            | false => rfl
            | true => rw [released marked] at kept; contradiction
          rcases ih before unreleased unreturned.1 with ⟨device, there⟩
          exact found_of_step sound before there unreturned.2 now kept

end World

/-! ## Closing -/

namespace Device

/-- The calls that closing a device comes to while something is behind its handle: the stops of
the running scans, in order, and the disconnect, if it is connected, and the release. -/
def closingCalls (device : Instrument) : List LifecycleCall :=
  if device.isConnected then
    (ScanTarget.all.filter device.isRunning).map .scanStop ++ [.disconnect false, .release]
  else [.release]

/-- What closing a device answers, and the calls that it comes to, with what is behind the
handle of the device. -/
def closing (held : Device) (behind : Option Instrument) :
    Except Error Unit × List LifecycleCall :=
  if held.isReleased then (.ok (), [])
  else
    match behind with
    | some device => (.ok (), closingCalls device)
    | none => (.error .badDevHandle, [])

end Device

namespace World

variable {world after : World} {id : DeviceId} {held : Device}

/-- When every running scan is on a target of the device, taking the device down stops all
running scans, and none is left when it is disconnected. -/
theorem teardownCalls_eq {device stopped : Instrument} {targets : List ScanTarget}
    (ordered : targets.Sublist ScanTarget.all) (single : device.scans.IsSingle)
    (offered : ∀ target, device.isRunning target = true → target ∈ targets)
    (done : Act.Stopped device targets stopped) :
    Act.teardownCalls device stopped targets = Device.closingCalls device := by
  have calm : stopped.isBusy = false := by
    apply Instrument.isBusy_eq_false (done.single single)
    intro target
    rw [done.isRunning]
    cases running : device.isRunning target with
    | false => rfl
    | true => simp [offered target running]
  have same : targets.filter device.isRunning = ScanTarget.all.filter device.isRunning := by
    have distinct : ScanTarget.all.Nodup := by decide
    apply (ordered.filter device.isRunning).eq_of_length_le
    apply (List.subperm_of_subset (distinct.filter _) _).length_le
    intro target member
    have running := (List.mem_filter.mp member).2
    exact List.mem_filter.mpr ⟨offered target running, running⟩
  unfold Act.teardownCalls Device.closingCalls Act.stopCalls
  rw [calm, same]
  simp

/-- A handle that was handed out and that nothing is behind has been released once. -/
theorem releases_of_gone (sound : world.Sound) {handle : Handle} (positive : 0 < handle)
    (issued : handle < world.bench.driver.nextHandle)
    (gone : world.bench.driver.instruments.get? handle = none) :
    world.bench.driver.isReleased handle = true ∧
      (world.bench.driver.callsOn handle).count .release = 1 := by
  have released : world.bench.driver.isReleased handle = true := by
    simp [Driver.isReleased, positive, issued, Table.contains, gone]
  refine ⟨released, ?_⟩
  have logged := sound.reachable.releaseLogged handle
  rwa [Bench.ReleaseLogged, released] at logged

/-- What is gone stays gone. -/
theorem Sound.gone_run (sound : world.Sound) {handle : Handle}
    (issued : handle < world.bench.driver.nextHandle)
    (gone : world.bench.driver.instruments.get? handle = none) (moves : List Move) :
    handle < (world.run moves).bench.driver.nextHandle ∧
      (world.run moves).bench.driver.instruments.get? handle = none := by
  induction moves generalizing world with
  | nil => exact ⟨issued, gone⟩
  | cons move rest ih =>
      rcases (sound.carries move).1.bench with ⟨commands, _, reached⟩
      apply ih (sound.carries move).2
      · rw [reached]
        exact Int.lt_of_lt_of_le issued (Bench.nextHandle_le_run _ commands)
      · rw [reached]
        exact Bench.absent_of_run issued gone

/-- Taking a device down answers and logs what closing it comes to, leaves nothing behind the
handle and marks the device. -/
theorem on_teardown_of_run (moves : List Move)
    (found : (World.initial.run moves).devices.get? id = some held)
    (unbypassed : ∀ move ∈ moves, ∀ target, move.bypass? ≠ some (.start held.handle target)) :
    ∃ after, (Act.teardown id).on (World.initial.run moves) =
        ((held.closing
          ((World.initial.run moves).bench.driver.instruments.get? held.handle)).1, after) ∧
      after.bench.driver.lifecycle = (World.initial.run moves).bench.driver.lifecycle ++
        (held.closing ((World.initial.run moves).bench.driver.instruments.get? held.handle)).2.map
          (Prod.mk held.handle) ∧
      after.bench.driver.instruments.get? held.handle = none ∧
      ∃ later, after.devices.get? id = some later ∧ later.isReleased = true := by
  have sound := sound_run moves
  unfold Device.closing
  cases released : held.isReleased with
  | true =>
      refine ⟨_, Act.on_teardown_of_released found released, (List.append_nil _).symm, ?_, held,
        found, released⟩
      exact sound.released found released
  | false =>
      simp only [Bool.false_eq_true, if_false]
      cases there : (World.initial.run moves).bench.driver.instruments.get? held.handle with
      | none =>
          rcases Act.on_teardown_of_lost sound.direct found released there with
            ⟨after, taken, retires⟩
          rcases retires.isReleased found with ⟨later, now, _, marked⟩
          exact ⟨after, taken, retires.log, retires.gone, later, now, marked⟩
      | some device =>
          rcases Act.on_teardown sound.direct found released there (sound.targets_nodup found) with
            ⟨after, stopped, taken, retires, done⟩
          rcases retires.isReleased found with ⟨later, now, _, marked⟩
          have single := Instrument.single_invariant.holds sound.reachable there
          have offered : ∀ target, device.isRunning target = true → target ∈ held.targets := by
            intro target running
            rcases Option.isSome_iff_exists.mp running with ⟨run, ran⟩
            rw [← Bench.running?_of_found there] at ran
            exact offered_of_running moves found unbypassed ran
          rw [teardownCalls_eq (sound.targets found) single offered done] at retires
          exact ⟨after, taken, retires.log, retires.gone, later, now, marked⟩

/-- While the handle is not given back past a device, closing the device succeeds. -/
theorem closing_eq_ok (moves : List Move)
    (found : (World.initial.run moves).devices.get? id = some held)
    (unreturned : ∀ move ∈ moves, move.bypass? ≠ some (.release held.handle)) :
    (held.closing ((World.initial.run moves).bench.driver.instruments.get? held.handle)).1 =
      .ok () := by
  unfold Device.closing
  cases released : held.isReleased with
  | true => rfl
  | false =>
      rcases found_of_kept moves found released unreturned with ⟨device, there⟩
      rw [there]
      rfl

/-- However a device got where it is, closing it and letting go of it both lead to a device
that is not live and whose release is in the log once, whatever comes after.  On the way the
running scans are stopped in order, and none is running when the device is disconnected.
Closing succeeds unless the handle was given back past the device: then there is nothing left
to do, and the handle is reported to be bad. -/
theorem closes (moves : List Move)
    (found : (World.initial.run moves).devices.get? id = some held)
    (unbypassed : ∀ move ∈ moves, ∀ target, move.bypass? ≠ some (.start held.handle target)) :
    ∃ after,
      (Act.close id).on (World.initial.run moves) =
        ((held.closing
          ((World.initial.run moves).bench.driver.instruments.get? held.handle)).1, after) ∧
      (Act.drop id).on (World.initial.run moves) = (.ok (), after) ∧
      after.bench.driver.lifecycle = (World.initial.run moves).bench.driver.lifecycle ++
        (held.closing ((World.initial.run moves).bench.driver.instruments.get? held.handle)).2.map
          (Prod.mk held.handle) ∧
      (Act.live id).on after = (.error .badDevHandle, after) ∧
      (∀ rest, (after.run rest).bench.driver.isReleased held.handle = true ∧
        ((after.run rest).bench.driver.callsOn held.handle).count .release = 1) ∧
      ((∀ move ∈ moves, move.bypass? ≠ some (.release held.handle)) →
        (held.closing ((World.initial.run moves).bench.driver.instruments.get? held.handle)).1 =
          .ok ()) := by
  have sound := sound_run moves
  rcases on_teardown_of_run moves found unbypassed with
    ⟨after, taken, logged, gone, later, now, released⟩
  have closed : (World.initial.run moves).step (.close id) = after := by
    simp only [step, close_eq_teardown sound, taken]
  have reached : after.Sound := closed ▸ (sound.carries (.close id)).2
  have issued : held.handle < after.bench.driver.nextHandle := by
    rcases (sound.carries (.close id)).1.present id held found with ⟨last, there, remains, _⟩
    rw [closed] at there
    exact remains.handle ▸ reached.issued there
  refine ⟨after, ?_, ?_, logged, Act.on_live_of_released now released, ?_, closing_eq_ok moves found⟩
  · rw [close_eq_teardown sound, taken]
  · rw [Act.on_drop, taken]
  · intro rest
    rcases reached.gone_run issued gone rest with ⟨issued, gone⟩
    exact releases_of_gone (reached.run rest) (sound.positive found) issued gone

/-- On a connected device two scans are running and one has finished. -/
def scanning : List Move :=
  connected ++ [.edit (.allocateReals #[0, 0]), .edit (.allocateWords #[0, 0]),
    .call 0 (.scanDigitalIn .auxPort .auxPort 2 1000 ScanOption.continuous .empty ⟨0, 1⟩),
    .call 0 (.scanAnalogOut 0 0 .bip10Volts 2 1000 .empty .empty ⟨0, 1⟩),
    .stimulus (.advance 1 .analogOut 2),
    .call 0 (.scanAnalogIn 0 0 .singleEnded .bip10Volts 2 1000 ScanOption.continuous .empty ⟨0, 1⟩)]

theorem closes_scanning :
    ∃ held after, (World.initial.run scanning).devices.get? 0 = some held ∧ held.handle = 1 ∧
      (∀ move ∈ scanning, ∀ target, move.bypass? ≠ some (.start held.handle target)) ∧
      (Act.close 0).on (World.initial.run scanning) = (.ok (), after) ∧
      after.bench.driver.lifecycle =
        [(1, .scanStop .analogIn), (1, .scanStop .digitalIn), (1, .disconnect false),
          (1, .release)] ∧
      ∀ rest, ((after.run rest).bench.driver.callsOn 1).count .release = 1 := by
  have there : ((World.initial.run scanning).devices.get? 0).map
      (fun held => (held.handle, held.isReleased)) = some (1, false) := by
    decide +kernel
  have calls : ((World.initial.run scanning).bench.driver.instruments.get? 1).map
      Device.closingCalls =
        some [.scanStop .analogIn, .scanStop .digitalIn, .disconnect false, .release] := by
    decide +kernel
  have silent : (World.initial.run scanning).bench.driver.lifecycle = [] := by decide +kernel
  have unbypassed : ∀ move ∈ scanning, move.bypass? = none := by decide +kernel
  rcases Option.map_eq_some_iff.mp there with ⟨held, found, same⟩
  obtain ⟨handle, kept⟩ := Prod.mk.inj same
  rcases Option.map_eq_some_iff.mp calls with ⟨device, behind, calls⟩
  have facades : ∀ move ∈ scanning, ∀ target, move.bypass? ≠ some (.start held.handle target) := by
    intro move member
    simp [unbypassed move member]
  rcases closes scanning found facades with ⟨after, closed, _, logged, _, lasting, _⟩
  rw [handle] at closed logged lasting
  refine ⟨held, after, found, handle, facades, ?_, ?_, fun rest => (lasting rest).2⟩
  · simpa [Device.closing, kept, behind] using closed
  · simpa [Device.closing, kept, behind, calls, silent] using logged

/-- The handle of a connected device is given back at the driver. -/
def givenBack : List Move :=
  connected ++ [.request (.release 1)]

theorem not_closes_ok_given_back :
    ¬∀ (moves : List Move) (id : DeviceId) (held : Device),
      (World.initial.run moves).devices.get? id = some held →
      (∀ move ∈ moves, ∀ target, move.bypass? ≠ some (.start held.handle target)) →
      ((Act.close id).on (World.initial.run moves)).1 = .ok () := by
  intro claim
  have there : ((World.initial.run givenBack).devices.get? 0).isSome = true := by decide +kernel
  rcases Option.isSome_iff_exists.mp there with ⟨held, found⟩
  have bypasses : ∀ move ∈ givenBack,
      move.bypass? = none ∨ move.bypass? = some (.release 1) := by decide +kernel
  have facades : ∀ move ∈ givenBack, ∀ target,
      move.bypass? ≠ some (.start held.handle target) := by
    intro move member target
    rcases bypasses move member with none | release
    · simp [none]
    · simp [release]
  have refused : ((Act.close 0).on (World.initial.run givenBack)).1 = .error .badDevHandle := by
    decide +kernel
  have closed := refused.symm.trans (claim givenBack 0 held found facades)
  cases closed

end World

end Acquisition
