import Acquisition.Proofs.Slots

/-!
# The routine of a device

Apart from binding events, loading the channel-gain queue, making settings and setting triggers,
whatever a caller does with a device is put together from requests that are quiet, that start a scan
or that give the handle back, from notices, and from changes of what is kept of the device that keep
the rest of it (`Device.Carries`).  So a relation that allows these allows every operation and every way to the
end of a device (`Act.Routine`).
-/

namespace Acquisition

/-- What is kept of a device is as it was, apart from its slots, or the device has been
released. -/
structure Device.Carries (before after : Device) : Prop where
  handle : after.handle = before.handle := by rfl
  queueLength : after.queueLength = before.queueLength := by rfl
  isReleased : before.isReleased = true → after.isReleased = true := by exact fun released => released
  subscriptions : after.isReleased = true ∨ after.subscriptions = before.subscriptions := by
    exact .inr rfl

namespace Act

/-- A relation between worlds that allows the routine of a device. -/
structure Routine (R : World → World → Prop) (id : DeviceId) : Prop extends Frame R id where
  start : ∀ {α : Type} {request : Request α} {asked : Handle × ScanStart},
    request.start? = some asked → Obeys R (Act.send request)
  giveBack : ∀ handle, Obeys R (Act.send (.release handle))
  update : ∀ {change : Device → Device}, (∀ held : Device, held.Carries (change held)) →
    Obeys R (updateDevice id change)

namespace Routine

variable {α : Type} {R : World → World → Prop} {id : DeviceId} (routine : Routine R id)

include routine

/-! ## Scans -/

theorem startScan {target : ScanTarget} (start : SlotStart target) :
    Obeys R (Act.startScan id target start.buffer start.request) := by
  apply routine.live
  intro handle
  obtain ⟨_, starts, _⟩ := start.asks handle
  apply routine.bind (routine.start starts)
  intro rate
  have pins : Obeys R (pin id target start.buffer rate) :=
    routine.bind (routine.update fun _ => {}) fun _ =>
      routine.bind (routine.looks fun _ => rfl) fun _ => routine.note _
  exact routine.bind pins fun _ => routine.looks (looks_pure _)

theorem query (target : ScanTarget) (asked : Query) : Obeys R (Act.query id target asked) := by
  have leads : Obeys R (lead id target asked) := by
    cases asked with
    | status => exact routine.looks (looks_pure _)
    | stop => exact routine.call_bind (fun _ => rfl) fun _ => routine.note _
    | wait => exact routine.call fun _ => rfl
  have settles : ∀ generation status, Obeys R (settle id target generation status) := fun _ _ =>
    routine.bind (routine.looks (looks_device id)) fun _ =>
      routine.bind (routine.update fun _ => {}) fun _ => routine.note _
  apply routine.bind leads
  intro _
  apply routine.live
  intro _
  apply routine.bind (routine.looks (looks_device id))
  intro _
  exact routine.bind (routine.askStatus _ _) fun _ => routine.bind (settles _ _) fun _ =>
    routine.looks (looks_pure _)

/-! ## Operations -/

theorem release : Obeys R (Act.release id) := by
  apply routine.live
  intro handle
  exact routine.bind (routine.giveBack handle) fun _ =>
    routine.bind (routine.update fun _ =>
      { isReleased := fun _ => rfl, subscriptions := .inl rfl }) fun _ => routine.note _

/-- An operation is routine when it is about no event and about no queue, makes no setting and sets
no trigger. -/
theorem performs {operation : Operation α} (unbinding : operation.bindsEvents = false)
    (unloading : operation.loadsQueue = false) (untuned : operation.tuner? = none) :
    Obeys R (operation.perform id) := by
  intro world
  cases starts : operation.start? with
  | some start =>
      rcases Operation.isStart_of_start? starts id world with ⟨error, refused⟩ | ⟨start, _, same, _⟩
      · rw [refused]
        exact routine.refl world
      · rw [same]
        exact routine.startScan start world
  | none =>
      cases asks : operation.query? with
      | some asked =>
          rw [(Operation.perform_of_query? asks id world).1]
          exact routine.query asked.1 asked.2 world
      | none =>
          have unscanned : operation.target? = none := by simp [Operation.target?, starts, asks]
          cases kept : operation.isRelease with
          | false => exact routine.perform unscanned kept unbinding unloading untuned world
          | true =>
              cases operation with
              | release => exact routine.release world
              | _ => contradiction

/-! ## The end of a device -/

theorem takeSteps (steps : List TeardownStep) : Obeys R (Act.takeSteps id steps) := by
  have takes : ∀ step, Obeys R (takeStep id step) := by
    intro step
    cases step with
    | stopScans => exact routine.stopAll
    | disconnect => exact routine.disconnect
    | release => exact routine.release
  induction steps with
  | nil => exact routine.looks (looks_pure _)
  | cons step rest ih =>
      apply routine.bind (show Obeys R (attempt (takeStep id step)) from takes step)
      rintro (error | answer)
      · exact routine.bind (routine.looks (looks_device id)) fun _ =>
          routine.bind (routine.note _) fun _ => routine.bind ih fun _ => routine.looks (looks_pure _)
      · exact ih

theorem teardown : Obeys R (Act.teardown id) := by
  have connected : Obeys R (isConnected id) := routine.call fun _ => rfl
  have marks : Obeys R (updateDevice id fun device => { device with isReleased := true }) :=
    routine.update fun _ => { isReleased := fun _ => rfl }
  apply routine.bind (routine.looks (looks_device id))
  intro held
  cases released : held.isReleased with
  | true => exact routine.looks (looks_pure _)
  | false =>
      apply routine.bind (show Obeys R (attempt (isConnected id)) from connected)
      intro answer
      apply routine.bind (routine.takeSteps _)
      intro failures
      apply routine.bind marks
      intro _
      cases failures with
      | nil => exact routine.looks (looks_pure _)
      | cons error _ => exact routine.looks (looks_throw error)

theorem drop : Obeys R (Act.drop id) :=
  routine.bind (show Obeys R (attempt (Act.teardown id)) from routine.teardown) fun _ =>
    routine.looks (looks_pure _)

theorem close : Obeys R (Act.close id) :=
  routine.bind (show Obeys R (attempt (Act.teardown id)) from routine.teardown) fun answer =>
    routine.bind routine.drop fun _ => routine.looks (looks_resume answer)

end Routine

end Act

end Acquisition
