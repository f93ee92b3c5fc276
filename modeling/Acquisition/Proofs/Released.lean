import Acquisition.Proofs.Session

/-!
# Devices that were released

A device that was released stays so, and every operation on it is refused before anything
reaches the driver (`Operation.on_of_released`).  What starts a scan looks at the number of
samples first, and a number that no request can carry is the reason for the refusal then.
What reads memory sets the bytes aside first, and breaks down if there are too many.

Main statement: `World.refuses_after_release`.
-/

namespace Acquisition

namespace Operation

variable {α : Type}

/-- How many samples per channel a start of a scan asks for. -/
def samples? : Operation α → Option Nat
  | .scanAnalogIn _ _ _ _ samples .. | .scanAnalogOut _ _ _ samples ..
  | .scanDigitalIn _ _ samples .. | .scanDigitalOut _ _ samples ..
  | .scanCounters _ _ samples .. | .scanSyncIn _ samples .. | .scanSyncOut _ samples .. =>
      some samples
  | _ => none

/-- Whether a scan is started over more samples than a request can carry. -/
def isOversized (operation : Operation α) : Bool :=
  operation.samples?.any fun samples => maxSampleCount < samples

/-- Whether more memory is read than can be set aside. -/
def isBoundless : Operation α → Bool
  | .readMemory _ _ length => maxAllocation < length
  | _ => false

/-- What a released device answers. -/
def refusal (operation : Operation α) : Error :=
  if operation.isOversized then .badSampleCount
  else if operation.isBoundless then .capacityOverflow
  else .badDevHandle

variable {world : World} {id : DeviceId} {held : Device}

/-- A quantity that is too large fails before anything else. -/
theorem on_bounded_bind {β : Type} {amount most : Nat} {given : β} {error : Error}
    {next : β → Act α} (refused : (next given).on world = (.error .badDevHandle, world)) :
    (Act.resume (if amount ≤ most then .ok given else .error error) >>= next).on world =
      (.error (if most < amount then error else .badDevHandle), world) := by
  by_cases fits : amount ≤ most
  · rw [if_pos fits, if_neg (Nat.not_lt.mpr fits), Act.on_bind_ok (Act.on_resume world _)]
    exact refused
  · rw [if_neg fits, if_pos (Nat.not_le.mp fits)]
    exact Act.on_bind_error (Act.on_resume world _)

theorem refusal_of_samples? {operation : Operation α} {samples : Nat}
    (scans : operation.samples? = some samples) : operation.refusal =
      if maxSampleCount < samples then .badSampleCount else .badDevHandle := by
  have bounded : operation.isBoundless = false := by
    cases operation <;> first | rfl | contradiction
  simp [refusal, isOversized, scans, bounded]

section Released

variable (found : world.devices.get? id = some held) (released : held.isReleased = true)

include found released

/-- An action that begins with the handle of a released device is refused. -/
theorem on_live_bind (next : Handle → Act α) :
    (Act.live id >>= next).on world = (.error .badDevHandle, world) :=
  Act.on_bind_error (Act.on_live_of_released found released)

theorem on_ask_of_released (property : Property α) :
    (Act.ask id property).on world = (.error .badDevHandle, world) := by
  cases property <;> exact on_live_bind found released _

theorem on_startScan_of_released (target : ScanTarget) (buffer : ScanBuffer)
    (request : Handle → Request Float) :
    (Act.startScan id target buffer request).on world = (.error .badDevHandle, world) :=
  on_live_bind found released _

/-- A released device refuses every operation, and nothing changes. -/
theorem on_of_released (operation : Operation α) :
    (operation.perform id).on world = (.error operation.refusal, world) := by
  cases operation with
  | handle => exact Act.on_live_of_released found released
  | ask property => exact on_ask_of_released found released property
  | askEach => exact Act.on_bind_error (on_ask_of_released found released _)
  | portInfo | bitDirections | directionMask =>
      -- The port is searched for first.
      exact Act.on_bind_error (Act.on_bind_error (on_ask_of_released found released _))
  | scanAnalogIn =>
      rw [refusal_of_samples? rfl]
      apply on_bounded_bind
      rw [Act.on_bind_ok (Act.on_device found)]
      exact on_startScan_of_released found released _ _ _
  | scanAnalogOut | scanDigitalIn | scanDigitalOut | scanCounters | scanSyncIn | scanSyncOut =>
      rw [refusal_of_samples? rfl]
      exact on_bounded_bind (on_startScan_of_released found released _ _ _)
  | readMemory region address length =>
      have boundless : (readMemory region address length).refusal =
          if maxAllocation < length then .capacityOverflow else .badDevHandle := by
        simp [refusal, isOversized, samples?, isBoundless]
      rw [boundless]
      exact on_bounded_bind (on_live_bind found released _)
  | descriptor | connect | disconnect | isConnected | flashLed | stopAll | release | version
  | memoryArea | writeMemory | enableEvents | disableEvents | scanStatus | stopScan
  | waitScan | setTrigger | setSyncInTrigger | setSyncOutTrigger | readAnalog | loadQueue
  | makeSetting | currentSetting | calibrationDate | calibrationText | writeAnalog
  | configurePort | configureBit | readPort | writePort | readBit | writeBit | readCounter
  | readRegister | loadRegister | clearCounter | setupCounter | startTimer | stopTimer
  | timerStatus => exact on_live_bind found released _

end Released

end Operation

namespace World

variable {world after : World} {id : DeviceId} {held : Device}

/-- Whatever happens, a device that was released stays so. -/
theorem Sound.released_run (sound : world.Sound) (found : world.devices.get? id = some held)
    (released : held.isReleased = true) (moves : List Move) :
    ∃ later, (world.run moves).devices.get? id = some later ∧ later.isReleased = true := by
  induction moves generalizing world held with
  | nil => exact ⟨held, found, released⟩
  | cons move rest ih =>
      obtain ⟨follows, next⟩ := sound.carries move
      obtain ⟨later, now, _, marked⟩ := follows.present id held found
      exact ih next now (marked released)

/-- After a device was released, whatever else happens, every operation on it fails and changes
nothing.  A start of a scan over more samples than a request can carry is refused for that,
reading more memory than can be set aside breaks down, and everything else is refused because the
handle is bad.  Closing the device has nothing left to do. -/
theorem refuses_after_release {moves : List Move}
    (done : (Act.release id).on (World.initial.run moves) = (.ok (), after))
    (rest : List Move) :
    let world := after.run rest
    (∀ {α : Type} (operation : Operation α),
      (operation.perform id).on world = (.error operation.refusal, world)) ∧
    (Act.close id).on world = (.ok (), world) := by
  intro world
  have sound := sound_run moves
  rcases release_cases sound id with ⟨error, refused⟩ | ⟨held, last, found, taken, retires⟩
  · cases refused.symm.trans done
  · obtain ⟨_, rfl⟩ := Prod.mk.inj (taken.symm.trans done)
    have reached := retires.sound sound found
    obtain ⟨released, there, _, marked⟩ := retires.isReleased found
    obtain ⟨later, now, still⟩ := reached.released_run there marked rest
    constructor
    · exact fun operation => Operation.on_of_released now still operation
    · rw [close_eq_teardown (reached.run rest)]
      exact Act.on_teardown_of_released now still

/-- A connected device is released. -/
def afterRelease : World :=
  ((Act.release 0).on (World.initial.run connected)).2

theorem on_release_connected :
    (Act.release 0).on (World.initial.run connected) = (.ok (), afterRelease) := by
  have accepted : ((Act.release 0).on (World.initial.run connected)).1 = .ok () := by
    decide +kernel
  rw [afterRelease, ← accepted]

/-- The unit of a released device is opened anew, which is of no use to the first device. -/
theorem refuses_after_release_reopened :
    let world := afterRelease.run connected
    (Act.release 0).on (World.initial.run connected) = (.ok (), afterRelease) ∧
    (Operation.connect.perform 0).on world = (.error .badDevHandle, world) ∧
    (Act.close 0).on world = (.ok (), world) := by
  obtain ⟨refuses, closed⟩ := refuses_after_release on_release_connected connected
  exact ⟨on_release_connected, refuses .connect, closed⟩

/-- A scan over more samples than a request can carry is refused for another reason. -/
theorem not_badDevHandle_oversized :
    ¬∀ (moves rest : List Move) (id : DeviceId) (after : World),
      (Act.release id).on (World.initial.run moves) = (.ok (), after) →
      ∀ operation : Operation Float,
        ((operation.perform id).on (after.run rest)).1 = .error .badDevHandle := by
  intro claim
  have refused := claim connected [] 0 afterRelease on_release_connected
    (.scanAnalogIn 0 0 .singleEnded .bip10Volts (maxSampleCount + 1) 1000 .empty .empty ⟨0, 1⟩)
  revert refused
  decide +kernel

end World

end Acquisition
