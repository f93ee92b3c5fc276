import Acquisition.Proofs.Events
import Acquisition.Proofs.Sound

/-!
# Opening a device

A device that is opened comes under the next number, behind the next handle, with the parts
that it reports, with empty slots and without events (`World.Takes`).  If it cannot be opened,
its handle is given back (`World.openDevice_cases`).
-/

namespace Acquisition

namespace World

variable {before middle after world : World} {id : DeviceId} {held : Device}

theorem findParts_sublist {handle : Handle} {among parts : List Part} {world after : World}
    (asked : (Act.findParts handle among).on world = (.ok parts, after)) :
    parts.Sublist among := by
  induction among generalizing parts world after with
  | nil =>
      obtain rfl := Except.ok.inj (Prod.mk.inj asked).1
      exact .slnil
  | cons part rest ih =>
      rw [Act.findParts, Act.on_bind_eq_ok_iff] at asked
      rcases asked with ⟨present, middle, _, asked⟩
      rcases Act.on_bind_eq_ok_iff.mp asked with ⟨others, last, found, chosen⟩
      obtain rfl := Except.ok.inj (Prod.mk.inj chosen).1
      split
      · exact (ih found).cons_cons part
      · exact (ih found).cons part

theorem keeps_findParts (handle : Handle) (among : List Part) :
    Act.Keeps none none (Act.findParts handle among) :=
  (Act.keeps_frame 0).findParts handle among

/-- A device without bindings has none after it has been asked for its parts. -/
theorem unbound_of_findParts {handle : Handle} {device : Instrument} (direct : world.IsDirect)
    (issued : handle < world.bench.driver.nextHandle)
    (behind : world.bench.driver.instruments.get? handle = some device)
    (unbound : device.bindings = []) (among : List Part) :
    ∃ later, ((Act.findParts handle among).on world).2.bench.driver.instruments.get? handle =
      some later ∧ later.bindings = [] := by
  have tame : world.bench.IsTame handle := by
    refine ⟨issued, ?_⟩
    rintro found there handler ⟨binding, member, _⟩
    obtain rfl := Option.some.inj (there.symm.trans behind)
    simp [unbound] at member
  have spares := (Act.leavesEvents_routine 0 handle 0).findParts handle among world direct tame
  rcases (keeps_findParts handle among world direct).bench with ⟨commands, quiet, reached⟩
  have stays : ∃ later, ((Act.findParts handle among).on world).2.bench.driver.instruments.get?
      handle = some later := by
    rw [reached]
    apply Bench.found_of_run_of_kept behind
    intro command member
    rcases quiet command member with none | none <;> simp [none]
  obtain ⟨later, now⟩ := stays
  obtain ⟨first, there, same⟩ := spares.bench.bound later now
  obtain rfl := Option.some.inj (there.symm.trans behind)
  refine ⟨later, now, ?_⟩
  simpa [Instrument.bound, unbound] using same

theorem keeps_abandon (handle : Handle) :
    Act.Keeps (some (.release handle)) none (Act.abandon handle) := by
  have sent : Act.Keeps (some (.release handle)) none (Act.send (.release handle)) :=
    .send (.inr rfl)
  apply Act.Keeps.bind sent.attempt
  rintro (error | answer)
  · exact .note _
  · exact .pure _

/-- A device has been put under the next number, behind the next handle. -/
structure Takes (before after : World) (middle : World) (held : Device) : Prop where
  leads : before.Leads none none middle
  fresh : before.IsFresh middle held
  issued : held.handle < middle.bench.driver.nextHandle
  isReleased : held.isReleased = false
  parts : held.parts.Sublist Part.all
  taken : after = { middle with
    nextDevice := middle.nextDevice + 1
    devices := middle.devices.set middle.nextDevice held }

/-- A device that the driver opens is behind the next handle, without bindings, and the one after
that is larger. -/
theorem opened_of_serve {bench : Bench} {descriptor : Descriptor} {outcome : Outcome Handle}
    (served : (Request.create descriptor).serve bench = .ok outcome) :
    outcome.answer = bench.driver.nextHandle ∧
      outcome.bench.driver.nextHandle = bench.driver.nextHandle + 1 ∧
      (∃ device, outcome.bench.driver.instruments.get? outcome.answer = some device ∧
        device.bindings = []) ∧ outcome.due = [] := by
  simp only [Request.serve, bind_eq_ok_iff, pure_eq_ok_iff, Driver.create] at served
  rcases served with ⟨created, found, rfl⟩
  split at found
  · obtain rfl := Except.ok.inj found
    exact ⟨rfl, rfl, ⟨_, Table.get?_set_self _ _ _, rfl⟩, rfl⟩
  · contradiction

/-- Opening a device fails, and then no device is taken, or it takes one. -/
theorem openDevice_cases (direct : world.IsDirect) (descriptor : Descriptor) :
    world.Leads (some (.release world.bench.driver.nextHandle)) none
      ((Act.openDevice descriptor).on world).2 ∨
    ∃ middle held, world.Takes ((Act.openDevice descriptor).on world).2 middle held := by
  unfold Act.openDevice
  rw [Act.on_bind]
  cases served : (Request.create descriptor).serve world.bench with
  | error error =>
      have refused : (Act.send (.create descriptor)).on world = (.error error, world) := by
        rw [Act.on_send direct, Act.on_perform_of_refused served]
      rw [refused]
      exact .inl (.refl direct)
  | ok outcome =>
      rcases opened_of_serve served with ⟨handle, next, ⟨device, behind, unbound⟩, silent⟩
      have issued : outcome.answer < outcome.bench.driver.nextHandle := by
        rw [handle, next]
        exact Int.lt_succ _
      have sent := (Act.on_send direct _).trans (Act.on_perform served silent)
      have leads : world.Leads none none (world.served (.create descriptor) outcome) :=
        .of_step ⟨direct.faults, direct.rival⟩ (.request (.create descriptor)) (.inl rfl)
          (Bench.step_request served).symm rfl rfl
      have noted := leads.trans (Act.Keeps.note [.deviceOpened outcome.answer descriptor] _
        leads.direct)
      have found := keeps_findParts outcome.answer Part.all _ noted.direct
      have bare := unbound_of_findParts noted.direct issued behind unbound Part.all
      rw [Act.on_note] at noted found bare
      rw [sent]
      simp only []
      rw [Act.on_bind_ok (Act.on_note _ _), Act.on_bind_ok (Act.on_attempt _ _)]
      rcases told : (Act.findParts outcome.answer Part.all).on _ with ⟨error | parts, middle⟩
      · rw [told] at found
        have closed := Act.Keeps.bind (keeps_abandon outcome.answer)
          (fun _ => Act.Keeps.throw (α := DeviceId) error) _ found.direct
        rw [← handle]
        exact .inl (((noted.trans found).mono (.inl rfl) (.inl rfl)).trans closed)
      · rw [told] at found bare
        rcases found.bench with ⟨commands, quiet, reached⟩
        refine .inr ⟨middle, .initial outcome.answer descriptor parts, ?_⟩
        constructor
        · exact noted.trans found
        · exact ⟨rfl, rfl, handle, bare⟩
        · exact Int.lt_of_lt_of_le issued (reached ▸ Bench.nextHandle_le_run _ commands)
        · rfl
        · exact findParts_sublist told
        · rfl

/-- The device that was taken is under the number of its own, and the others are unaffected. -/
theorem Takes.get?_cases (takes : before.Takes after middle held) {id : DeviceId} {later : Device}
    (now : after.devices.get? id = some later) :
    (id = middle.nextDevice ∧ later = held) ∨
    (id ≠ middle.nextDevice ∧ middle.devices.get? id = some later) := by
  rw [takes.taken] at now
  by_cases same : id = middle.nextDevice
  · subst same
    exact .inl ⟨rfl, (Option.some.inj ((Table.get?_set_self _ _ _).symm.trans now)).symm⟩
  · exact .inr ⟨same, (Table.get?_set_of_ne _ same _).symm.trans now⟩

theorem Takes.follows {deed : Option Deed}
    {slot : Option (DeviceId × ScanTarget)} (sound : before.Sound)
    (takes : before.Takes after middle held) : before.Follows deed slot after where
  bench := by
    rcases takes.leads.bench with ⟨commands, spared, reached⟩
    refine ⟨commands, ?_, takes.taken ▸ reached⟩
    intro command member
    rcases spared command member with quiet | quiet <;> exact .inl quiet
  present id earlier found := by
    rcases takes.leads.present id earlier found with ⟨later, now, keeps⟩
    have other : id ≠ middle.nextDevice := by
      rw [takes.leads.nextDevice]
      exact Nat.ne_of_lt (sound.numbered found)
    refine ⟨later, ?_, { keeps.toRemains with slots := fun target _ => keeps.slots target (by simp) },
      fun released => keeps.isReleased.trans released⟩
    rw [takes.taken]
    exact (Table.get?_set_of_ne _ other _).trans now
  fresh id later absent now := by
    rcases takes.get?_cases now with ⟨_, rfl⟩ | ⟨_, there⟩
    · exact { takes.fresh with behind := takes.taken ▸ takes.fresh.behind }
    · rw [takes.leads.absent id absent] at there
      contradiction

/-- The new handle is not that of a device that was there. -/
theorem Takes.handle_ne (sound : before.Sound) (takes : before.Takes after middle held)
    {id : DeviceId} {later : Device} (there : middle.devices.get? id = some later) :
    later.handle ≠ held.handle := by
  cases found : before.devices.get? id with
  | none =>
      rw [takes.leads.absent id found] at there
      contradiction
  | some earlier =>
      rcases takes.leads.present id earlier found with ⟨last, now, keeps⟩
      obtain rfl := Option.some.inj (now.symm.trans there)
      rw [keeps.handle, takes.fresh.handle]
      exact Int.ne_of_lt (sound.issued found)

theorem Takes.sound (sound : before.Sound) (takes : before.Takes after middle held) :
    after.Sound := by
  have reached := takes.leads.sound sound
  have bench : after.bench = middle.bench := by rw [takes.taken]
  have nextDevice : after.nextDevice = middle.nextDevice + 1 := by rw [takes.taken]
  constructor
  · rw [takes.taken]
    exact ⟨reached.direct.faults, reached.direct.rival⟩
  · exact bench ▸ reached.reachable
  · intro id later now
    rw [nextDevice]
    rcases takes.get?_cases now with ⟨rfl, _⟩ | ⟨_, there⟩
    · exact Nat.lt_succ_self _
    · exact Nat.lt_succ_of_lt (reached.numbered there)
  · intro id later now
    rcases takes.get?_cases now with ⟨_, rfl⟩ | ⟨_, there⟩
    · rw [takes.fresh.handle]
      exact sound.reachable.positive.1
    · exact reached.positive there
  · intro id later now
    rw [bench]
    rcases takes.get?_cases now with ⟨_, rfl⟩ | ⟨_, there⟩
    · exact takes.issued
    · exact reached.issued there
  · intro id other later later' now now' same
    rcases takes.get?_cases now with ⟨rfl, rfl⟩ | ⟨_, there⟩ <;>
      rcases takes.get?_cases now' with ⟨rfl, rfl⟩ | ⟨_, there'⟩
    · rfl
    · exact absurd same.symm (takes.handle_ne sound there')
    · exact absurd same (takes.handle_ne sound there)
    · exact reached.apart there there' same
  · intro id later now marked
    rw [bench]
    rcases takes.get?_cases now with ⟨_, rfl⟩ | ⟨_, there⟩
    · rw [takes.isReleased] at marked
      contradiction
    · exact reached.released there marked
  · intro id later now
    rcases takes.get?_cases now with ⟨_, rfl⟩ | ⟨_, there⟩
    · exact takes.parts
    · exact reached.parts there

end World

end Acquisition
