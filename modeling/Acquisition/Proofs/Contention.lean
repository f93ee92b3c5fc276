import Acquisition.Proofs.Traffic

/-!
# Contention for a slot

Starts are accepted by the driver in one order and pin their buffers in another.  While
none is between the two, a running scan uses the buffer that was accepted last, and the
slot pins the buffer that was pinned last (`Contention.pinned_last`); these are the same
when no start is accepted before the one before it has pinned.  An answer that a scan is
idle lets go of no buffer whose own scan is running, however old the answer is
(`Contention.unpinned_idle`).
-/

namespace Acquisition

namespace Traffic

variable {target : ScanTarget} {traffic later : Traffic target} {handle : Handle}
  {slot slot' : Slot} {running running' : Option ScanBuffer} {party : Nat}
  {phase next : Phase target} {after : World}

/-! ## What holds of a traffic -/

/-- The start of a party has been accepted and has not pinned its buffer. -/
def IsPending (traffic : Traffic target) (start : Nat × ScanBuffer) : Prop :=
  (traffic.phases[start.1]?).bind Phase.buffer? = some start.2

/-- The start that was accepted last has not pinned its buffer. -/
def IsAhead (traffic : Traffic target) : Prop :=
  ∃ newest, traffic.accepted.getLast? = some newest ∧ traffic.IsPending newest

/-- What a call has found out fits the slot: a generation that it has read is not to come, and
if the scan was idle in the generation that is current, none was started since, but for one
whose buffer has not been pinned. -/
def Fits (traffic : Traffic target) (handle : Handle) (slot : Slot)
    (running : Option ScanBuffer) : Phase target → Prop
  | .asking asker generation => asker = handle ∧ generation ≤ slot.generation
  | .settling generation status =>
      generation ≤ slot.generation ∧
        (status = .idle → generation = slot.generation → running ≠ none → traffic.IsAhead)
  | _ => True

/-- The slot and the buffer of the running scan agree with how far the calls have got. -/
structure Coherent (traffic : Traffic target) (handle : Handle) (slot : Slot)
    (running : Option ScanBuffer) : Prop where
  fits : ∀ phase ∈ traffic.phases, traffic.Fits handle slot running phase
  runs : ∀ buffer, running = some buffer → ∃ newest, traffic.accepted.getLast? = some newest ∧
    newest.2 = buffer ∧ (traffic.IsPending newest ∨
      ∃ last, traffic.pins.getLast? = some last ∧ slot.pinned = some last.2)
  kept : ∀ buffer, slot.pinned = some buffer →
    ∃ last, traffic.pins.getLast? = some last ∧ last.2 = buffer
  done : ∀ start ∈ traffic.pins, traffic.phases[start.1]? = some .finished

/-! ## The party that takes a step -/

theorem get?_pass_of_ne {other : Nat} (ne : other ≠ party) :
    (traffic.pass party phase next after).phases[other]? = traffic.phases[other]? :=
  List.getElem?_set_ne (Ne.symm ne)

theorem get?_pass_self (taken : traffic.phases[party]? = some phase) :
    (traffic.pass party phase next after).phases[party]? = some next := by
  rcases List.getElem?_eq_some_iff.mp taken with ⟨bound, _⟩
  exact List.getElem?_set_self bound

/-- A party that has a buffer to pin is not one that has none. -/
theorem IsPending.ne {start : Nat × ScanBuffer} (pending : traffic.IsPending start)
    (taken : traffic.phases[party]? = some phase) (unpinned : phase.buffer? = none) :
    start.1 ≠ party := by
  rintro rfl
  rw [IsPending, taken, Option.bind_some, unpinned] at pending
  contradiction

theorem IsPending.pass {start : Nat × ScanBuffer} (pending : traffic.IsPending start)
    (taken : traffic.phases[party]? = some phase) (unpinned : phase.buffer? = none) :
    (traffic.pass party phase next after).IsPending start := by
  rw [IsPending, get?_pass_of_ne (pending.ne taken unpinned)]
  exact pending

/-- What fits goes on to fit while the generation stays and no scan is started but by a start
whose buffer has not been pinned. -/
theorem Fits.mono (fits : traffic.Fits handle slot running phase)
    (same : slot'.generation = slot.generation)
    (ahead : running' ≠ none → (running ≠ none → traffic.IsAhead) → later.IsAhead) :
    later.Fits handle slot' running' phase := by
  cases phase with
  | asking asker generation => exact ⟨fits.1, same ▸ fits.2⟩
  | settling generation status =>
      refine ⟨same ▸ fits.1, ?_⟩
      intro idle current started
      exact ahead started (fits.2 idle (current.trans same))
  | _ => trivial

/-! ## One step -/

/-- A scan may end at any time. -/
theorem Coherent.calm (coherent : traffic.Coherent handle slot running)
    (ran : ∀ buffer, running' = some buffer → running = some buffer) :
    traffic.Coherent handle slot running' where
  fits phase member := by
    apply (coherent.fits phase member).mono rfl
    intro started ahead
    rcases Option.ne_none_iff_exists'.mp started with ⟨buffer, runs⟩
    exact ahead (by simp [ran buffer runs])
  runs buffer runs := coherent.runs buffer (ran buffer runs)
  kept := coherent.kept
  done := coherent.done

theorem get?_enter_of_some (taken : traffic.phases[party]? = some phase) :
    (traffic.enter next).phases[party]? = some phase := by
  rcases List.getElem?_eq_some_iff.mp taken with ⟨bound, _⟩
  exact (List.getElem?_append_left bound).trans taken

/-- A call that begins has no buffer to pin. -/
theorem isPending_enter (unpinned : phase.buffer? = none) (start : Nat × ScanBuffer) :
    (traffic.enter phase).IsPending start ↔ traffic.IsPending start := by
  unfold IsPending enter
  rw [List.getElem?_append]
  split
  · rfl
  · next bound =>
      rw [List.getElem?_eq_none (Nat.le_of_not_lt bound), List.getElem?_singleton]
      split <;> simp [unpinned]

/-- A call begins. -/
theorem Coherent.enter (coherent : traffic.Coherent handle slot running)
    (unpinned : phase.buffer? = none)
    (fits : ∀ traffic : Traffic target, traffic.Fits handle slot running phase) :
    (traffic.enter phase).Coherent handle slot running where
  fits phase' member := by
    rcases List.mem_append.mp member with earlier | new
    · apply (coherent.fits phase' earlier).mono rfl
      intro started ahead
      rcases ahead started with ⟨newest, accepted, pending⟩
      exact ⟨newest, accepted, (isPending_enter unpinned newest).mpr pending⟩
    · obtain rfl := List.mem_singleton.mp new
      exact fits _
  runs buffer runs := by
    rcases coherent.runs buffer runs with ⟨newest, accepted, same, pending | pinned⟩
    · exact ⟨newest, accepted, same, .inl ((isPending_enter unpinned newest).mpr pending)⟩
    · exact ⟨newest, accepted, same, .inr pinned⟩
  kept := coherent.kept
  done start member := get?_enter_of_some (coherent.done start member)

/-- A call takes a step that neither starts a scan nor pins a buffer.  It may let go of a buffer
that no running scan needs, but for a start that will pin its own. -/
theorem Coherent.pass (coherent : traffic.Coherent handle slot running)
    (taken : traffic.phases[party]? = some phase) (unpinned : phase.buffer? = none)
    (unaccepted : next.buffer? = none) (finished : phase = .finished → next = .finished)
    (fits : traffic.Fits handle slot running next) (same : slot'.generation = slot.generation)
    (pinned : slot'.pinned = slot.pinned ∨
      slot'.pinned = none ∧ (running ≠ none → traffic.IsAhead)) :
    (traffic.pass party phase next after).Coherent handle slot' running := by
  have accepted : (traffic.pass party phase next after).accepted = traffic.accepted := by
    simp [Traffic.pass, unaccepted]
  have pins : (traffic.pass party phase next after).pins = traffic.pins := by
    simp [Traffic.pass, unpinned]
  constructor
  · intro phase' member
    have fitted : traffic.Fits handle slot running phase' := by
      rcases List.mem_or_eq_of_mem_set member with earlier | rfl
      · exact coherent.fits phase' earlier
      · exact fits
    apply fitted.mono same
    intro started ahead
    rcases ahead started with ⟨newest, there, pending⟩
    exact ⟨newest, accepted ▸ there, pending.pass taken unpinned⟩
  · intro buffer runs
    rcases coherent.runs buffer runs with ⟨newest, there, uses, pending | ⟨last, pinning, holds⟩⟩
    · exact ⟨newest, accepted ▸ there, uses, .inl (pending.pass taken unpinned)⟩
    · rcases pinned with kept | ⟨_, ahead⟩
      · exact ⟨newest, accepted ▸ there, uses, .inr ⟨last, pins ▸ pinning, kept.trans holds⟩⟩
      · rcases ahead (by simp [runs]) with ⟨first, here, pending⟩
        obtain rfl := Option.some.inj (here.symm.trans there)
        exact ⟨first, accepted ▸ there, uses, .inl (pending.pass taken unpinned)⟩
  · intro buffer holds
    rw [pins]
    rcases pinned with kept | ⟨none, _⟩
    · exact coherent.kept buffer (kept.symm.trans holds)
    · rw [none] at holds
      contradiction
  · intro start member
    rw [pins] at member
    have ended := coherent.done start member
    by_cases mine : start.1 = party
    · rw [mine] at ended ⊢
      rw [get?_pass_self taken, finished (Option.some.inj (taken.symm.trans ended))]
    · rw [get?_pass_of_ne mine, ended]

/-- The driver accepts a start. -/
theorem Coherent.accept (coherent : traffic.Coherent handle slot running)
    {start : SlotStart target} {rate : Float}
    (taken : traffic.phases[party]? = some (.accepting start)) :
    (traffic.pass party (.accepting start) (.pinning start.buffer rate) after).Coherent handle slot
      (some start.buffer) := by
  have newest : (traffic.pass party (.accepting start) (.pinning start.buffer rate)
      after).accepted.getLast? = some (party, start.buffer) := by
    simp [Traffic.pass, Phase.buffer?]
  have pending : (traffic.pass party (.accepting start) (.pinning start.buffer rate)
      after).IsPending (party, start.buffer) := by
    rw [IsPending, get?_pass_self taken]
    rfl
  have pins : (traffic.pass party (.accepting start) (.pinning start.buffer rate) after).pins =
      traffic.pins := by
    simp [Traffic.pass, Phase.buffer?]
  constructor
  · intro phase' member
    rcases List.mem_or_eq_of_mem_set member with earlier | rfl
    · exact (coherent.fits phase' earlier).mono rfl fun _ _ => ⟨_, newest, pending⟩
    · trivial
  · intro buffer runs
    exact ⟨_, newest, Option.some.inj runs, .inl pending⟩
  · exact pins ▸ coherent.kept
  · intro earlier member
    rw [pins] at member
    have ended := coherent.done earlier member
    rw [get?_pass_of_ne, ended]
    rintro mine
    rw [mine, taken] at ended
    cases ended

/-- A start pins its buffer, and the generations that were read before are outdated. -/
theorem Coherent.pin (coherent : traffic.Coherent handle slot running)
    {buffer : ScanBuffer} {rate : Float}
    (taken : traffic.phases[party]? = some (.pinning buffer rate)) :
    (traffic.pass party (.pinning buffer rate) .finished after).Coherent handle (slot.pin buffer)
      running := by
  have accepted : (traffic.pass party (.pinning buffer rate) .finished after).accepted =
      traffic.accepted := by
    simp [Traffic.pass, Phase.buffer?]
  have pins : (traffic.pass party (.pinning buffer rate) .finished after).pins =
      traffic.pins ++ [(party, buffer)] := by
    simp [Traffic.pass, Phase.buffer?]
  have newest : (traffic.pass party (.pinning buffer rate) .finished after).pins.getLast? =
      some (party, buffer) := by
    simp [pins]
  constructor
  · intro phase' member
    rcases List.mem_or_eq_of_mem_set member with earlier | rfl
    · have fits := coherent.fits phase' earlier
      cases phase' with
      | asking asker generation => exact ⟨fits.1, Nat.le_succ_of_le fits.2⟩
      | settling generation status =>
          refine ⟨Nat.le_succ_of_le fits.1, ?_⟩
          intro _ current
          exact absurd (current ▸ fits.1) (Nat.not_succ_le_self _)
      | _ => trivial
    · trivial
  · intro used runs
    rcases coherent.runs used runs with ⟨last, there, uses, _⟩
    exact ⟨last, accepted ▸ there, uses, .inr ⟨_, newest, rfl⟩⟩
  · intro held holds
    exact ⟨_, newest, Option.some.inj holds⟩
  · intro start member
    rw [pins] at member
    rcases List.mem_append.mp member with earlier | new
    · by_cases mine : start.1 = party
      · rw [mine, get?_pass_self taken]
      · rw [get?_pass_of_ne mine, coherent.done start earlier]
    · obtain rfl := List.mem_singleton.mp new
      exact get?_pass_self taken

/-! ## Whole runs -/

/-- The buffer that the running scan uses on the target of a device. -/
def inUse? (traffic : Traffic target) (handle : Handle) : Option ScanBuffer :=
  (traffic.world.bench.running? handle target).map ScanRun.buffer

/-- In a sound world, what the calls have found out agrees with the device. -/
structure Steady (traffic : Traffic target) (id : DeviceId) (held : Device) : Prop where
  sound : traffic.world.Sound
  found : traffic.world.devices.get? id = some held
  coherent : traffic.Coherent held.handle (held.slot target) (traffic.inUse? held.handle)

variable {id : DeviceId} {held : Device}

/-- A scan that may be running with a buffer after something else has happened was running
with it before. -/
theorem inUse?_of_follows {deed : Option Deed} {touched : Option (DeviceId × ScanTarget)}
    (follows : traffic.world.Follows deed touched later.world)
    (unstarted : deed ≠ some (.start handle target)) (buffer : ScanBuffer)
    (uses : later.inUse? handle = some buffer) : traffic.inUse? handle = some buffer := by
  rcases Option.map_eq_some_iff.mp uses with ⟨run, runs, rfl⟩
  rcases follows.running? unstarted runs with ⟨earlier, ran, same⟩
  rw [inUse?, ran, Option.map_some, same]

/-- What starts no scan and changes no slot leaves a traffic steady. -/
theorem Steady.of_leads (steady : traffic.Steady id held)
    (leads : traffic.world.Leads none none later.world)
    (coherent : later.Coherent held.handle (held.slot target) (traffic.inUse? held.handle)) :
    ∃ device, device.handle = held.handle ∧ later.Steady id device := by
  rcases leads.present id held steady.found with ⟨device, now, keeps⟩
  refine ⟨device, keeps.handle, leads.sound steady.sound, now, ?_⟩
  rw [keeps.handle, keeps.slots target (by simp)]
  exact coherent.calm (inUse?_of_follows leads.follows (by simp))

/-- What changes the slot alone leaves a traffic steady if it agrees with the new slot. -/
theorem Steady.of_sets (steady : traffic.Steady id held)
    (sets : traffic.world.Sets id target held slot later.world)
    (coherent : later.Coherent held.handle slot (traffic.inUse? held.handle)) :
    ∃ device, device.handle = held.handle ∧ later.Steady id device := by
  have leads : traffic.world.Leads none (some (id, target)) later.world := sets.leads steady.found
  have same : later.inUse? held.handle = traffic.inUse? held.handle := by
    rw [inUse?, inUse?, sets.bench]
  refine ⟨held.putSlot target slot, rfl, leads.sound steady.sound, sets.found, ?_⟩
  rw [Device.slot_putSlot_self]
  exact same ▸ coherent

/-- A step of a call leaves the traffic steady. -/
theorem Steady.advance (steady : traffic.Steady id held)
    (taken : traffic.phases[party]? = some phase)
    (passes : Phase.Passes id held traffic.world phase next after) :
    ∃ device, device.handle = held.handle ∧
      (traffic.pass party phase next after).Steady id device := by
  have coherent := steady.coherent
  have fits := coherent.fits phase (List.mem_of_getElem? taken)
  cases passes with
  | refused unpinned leads =>
      apply steady.of_leads leads
      exact coherent.pass taken unpinned rfl (fun _ => rfl) trivial rfl (.inl rfl)
  | led leads =>
      apply steady.of_leads leads
      exact coherent.pass taken rfl rfl (by simp) trivial rfl (.inl rfl)
  | read =>
      refine steady.of_leads (.refl steady.sound.direct) ?_
      exact coherent.pass taken rfl rfl (by simp) ⟨rfl, Nat.le_refl _⟩ rfl (.inl rfl)
  | told idle =>
      refine steady.of_leads (.refl steady.sound.direct) ?_
      apply coherent.pass taken rfl rfl (by simp) _ rfl (.inl rfl)
      refine ⟨fits.2, ?_⟩
      intro seen _ started
      rw [← fits.1, inUse?, idle seen] at started
      contradiction
  | @accepted start rate after accepts =>
      rcases accepts.running with ⟨run, runs, uses⟩
      refine ⟨held, rfl, accepts.leads.sound steady.sound, accepts.devices ▸ steady.found, ?_⟩
      have now : (traffic.pass party (.accepting start) (.pinning start.buffer rate)
          after).inUse? held.handle = some run.buffer :=
        Option.map_eq_some_iff.mpr ⟨run, runs, rfl⟩
      rw [now, uses]
      exact coherent.accept taken
  | pinned sets => exact steady.of_sets sets (coherent.pin taken)
  | @settled generation status after sets =>
      apply steady.of_sets sets
      refine coherent.pass taken rfl rfl (fun _ => rfl) trivial ?_ ?_
      · unfold Slot.settle
        split <;> rfl
      · unfold Slot.settle
        split
        · next idle => exact .inr ⟨rfl, fits.2 idle.1 idle.2.symm⟩
        · exact .inl rfl

/-- A party that is not there takes no step. -/
theorem step_advance (taken : traffic.phases[party]? = some phase) :
    traffic.step id (.advance party) =
      traffic.pass party phase (phase.next id traffic.world).1 (phase.next id traffic.world).2 := by
  simp only [step, taken]

theorem step_advance_of_absent (absent : traffic.phases[party]? = none) :
    traffic.step id (.advance party) = traffic := by
  simp only [step, absent]

/-- Whatever happens apart from the slot leaves the traffic steady. -/
theorem Steady.step (steady : traffic.Steady id held) {event : Event target}
    (apart : event.IsApart id held.handle) :
    ∃ device, device.handle = held.handle ∧ (traffic.step id event).Steady id device := by
  cases event with
  | start | query =>
      exact ⟨held, rfl, steady.sound, steady.found, steady.coherent.enter rfl fun _ => trivial⟩
  | advance party =>
      cases taken : traffic.phases[party]? with
      | none =>
          rw [step_advance_of_absent taken]
          exact ⟨held, rfl, steady⟩
      | some phase =>
          rw [step_advance taken]
          exact steady.advance taken (phase.passes steady.sound.direct steady.found)
  | move move =>
      have carries := steady.sound.carries move
      rcases carries.1.present id held steady.found with ⟨device, now, remains, _⟩
      refine ⟨device, remains.handle, carries.2, now, ?_⟩
      rw [remains.handle, remains.slots target apart.1]
      have coherent : (traffic.step id (.move move)).Coherent held.handle (held.slot target)
          (traffic.inUse? held.handle) :=
        { fits := steady.coherent.fits, runs := steady.coherent.runs,
          kept := steady.coherent.kept, done := steady.coherent.done }
      exact coherent.calm (inUse?_of_follows carries.1
        (steady.sound.deed?_ne_start steady.found apart.2 apart.1))

/-- A slot that lets go of its buffer was told that the scan of its generation is idle. -/
theorem current_of_unpinned {buffer : ScanBuffer} {asked : Nat} {status : ScanStatus}
    (pinned : slot.pinned = some buffer) (dropped : (slot.settle asked status).pinned = none) :
    status = .idle ∧ asked = slot.generation := by
  unfold Slot.settle at dropped
  split at dropped
  · next current => exact ⟨current.1, current.2.symm⟩
  · rw [pinned] at dropped
    contradiction

/-- What the slot pins after a call has settled it. -/
theorem Steady.pinned_settle (steady : traffic.Steady id held) {asked : Nat} {status : ScanStatus}
    (taken : traffic.phases[party]? = some (.settling asked status)) :
    (traffic.step id (.advance party)).pinned id =
      ((held.slot target).settle asked status).pinned := by
  rcases Act.on_settle steady.sound.direct steady.found target asked status with
    ⟨after, settled, sets⟩
  rw [step_advance taken, Phase.next_of_ok (Act.on_bind_ok settled)]
  simp only [pinned, pass, sets.found, Option.bind_some, Device.slot_putSlot_self]

theorem Steady.run (steady : traffic.Steady id held) (schedule : List (Event target))
    (apart : ∀ event ∈ schedule, event.IsApart id held.handle) :
    ∃ device, device.handle = held.handle ∧ (traffic.run id schedule).Steady id device := by
  induction schedule generalizing traffic held with
  | nil => exact ⟨held, rfl, steady⟩
  | cons event rest ih =>
      rw [List.forall_mem_cons] at apart
      rcases steady.step apart.1 with ⟨between, same, reached⟩
      rcases ih reached (same ▸ apart.2) with ⟨device, handle, ended⟩
      exact ⟨device, handle.trans same, ended⟩

/-! ## Starts that do not overlap -/

/-- The starts were accepted in the order in which they pinned, but for one that has not. -/
def InOrder (traffic : Traffic target) : Prop :=
  ∃ pending : Option (Nat × ScanBuffer), traffic.accepted = traffic.pins ++ pending.toList ∧
    ∀ start, traffic.IsPending start ↔ pending = some start

theorem IsQuiet.not_pending (quiet : traffic.IsQuiet) (start : Nat × ScanBuffer) :
    ¬traffic.IsPending start := by
  intro pending
  rcases Option.bind_eq_some_iff.mp pending with ⟨phase, taken, buffer⟩
  rw [quiet phase (List.mem_of_getElem? taken)] at buffer
  contradiction

theorem IsQuiet.accepted_eq_pins (quiet : traffic.IsQuiet) (order : traffic.InOrder) :
    traffic.accepted = traffic.pins := by
  rcases order with ⟨pending | start, accepted, pends⟩
  · exact accepted.trans (List.append_nil _)
  · exact absurd ((pends start).mpr rfl) (quiet.not_pending start)

theorem isPending_pass_of_ne {start : Nat × ScanBuffer} (ne : start.1 ≠ party) :
    (traffic.pass party phase next after).IsPending start ↔ traffic.IsPending start := by
  rw [IsPending, get?_pass_of_ne ne, IsPending]

theorem isPending_pass_self (taken : traffic.phases[party]? = some phase) (buffer : ScanBuffer) :
    (traffic.pass party phase next after).IsPending (party, buffer) ↔
      next.buffer? = some buffer := by
  rw [IsPending, get?_pass_self taken, Option.bind_some]

/-- The start that pins is the one that was pending, and none is any more. -/
theorem InOrder.pin (order : traffic.InOrder) (taken : traffic.phases[party]? = some phase)
    {buffer : ScanBuffer} (pinning : phase.buffer? = some buffer)
    (unaccepted : next.buffer? = none) : (traffic.pass party phase next after).InOrder := by
  rcases order with ⟨pending, accepted, pends⟩
  have mine : traffic.IsPending (party, buffer) := by
    rw [IsPending, taken, Option.bind_some, pinning]
  obtain rfl := (pends _).mp mine
  refine ⟨none, ?_, ?_⟩
  · simp [Traffic.pass, unaccepted, pinning, accepted]
  · intro start
    by_cases same : start.1 = party
    · subst same
      rw [isPending_pass_self taken, unaccepted]
      simp
    · rw [isPending_pass_of_ne same, pends]
      simp only [Option.some.injEq, reduceCtorEq, iff_false]
      rintro rfl
      exact same rfl

/-- A start that is accepted while nothing is pending is pending then. -/
theorem InOrder.accept (order : traffic.InOrder) (taken : traffic.phases[party]? = some phase)
    {buffer : ScanBuffer} (accepting : next.buffer? = some buffer) (quiet : traffic.IsQuiet) :
    (traffic.pass party phase next after).InOrder := by
  have unpinned := quiet phase (List.mem_of_getElem? taken)
  refine ⟨some (party, buffer), ?_, ?_⟩
  · simp [Traffic.pass, accepting, unpinned, quiet.accepted_eq_pins order]
  · rintro ⟨other, used⟩
    by_cases mine : other = party
    · subst mine
      rw [isPending_pass_self taken, accepting]
      simp
    · rw [isPending_pass_of_ne mine, iff_false_left (quiet.not_pending _)]
      simp [Ne.symm mine]

/-- A step that neither accepts nor pins leaves what is pending. -/
theorem InOrder.skip (order : traffic.InOrder) (taken : traffic.phases[party]? = some phase)
    (unpinned : phase.buffer? = none) (unaccepted : next.buffer? = none) :
    (traffic.pass party phase next after).InOrder := by
  rcases order with ⟨pending, accepted, pends⟩
  refine ⟨pending, ?_, ?_⟩
  · simp [Traffic.pass, unaccepted, unpinned, accepted]
  · intro start
    rw [← pends]
    by_cases same : start.1 = party
    · subst same
      rw [isPending_pass_self taken, unaccepted, IsPending, taken, Option.bind_some, unpinned]
    · exact isPending_pass_of_ne same

/-- A step of a call keeps the order if no start is accepted before the last one has pinned. -/
theorem InOrder.pass (order : traffic.InOrder) (taken : traffic.phases[party]? = some phase)
    (orderly : (traffic.pass party phase next after).accepted = traffic.accepted ∨
      traffic.IsQuiet) :
    (traffic.pass party phase next after).InOrder := by
  cases accepting : next.buffer? with
  | some buffer =>
      apply order.accept taken accepting
      exact orderly.resolve_left (by simp [Traffic.pass, accepting])
  | none =>
      cases pinning : phase.buffer? with
      | some buffer => exact order.pin taken pinning accepting
      | none => exact order.skip taken pinning accepting

theorem InOrder.step (order : traffic.InOrder) {event : Event target}
    (orderly : (traffic.step id event).accepted = traffic.accepted ∨ traffic.IsQuiet) :
    (traffic.step id event).InOrder := by
  cases event with
  | start | query =>
      rcases order with ⟨pending, accepted, pends⟩
      exact ⟨pending, accepted, fun start => (isPending_enter rfl start).trans (pends start)⟩
  | advance party =>
      cases taken : traffic.phases[party]? with
      | none =>
          rw [step_advance_of_absent taken]
          exact order
      | some phase =>
          rw [step_advance taken] at orderly ⊢
          exact order.pass taken orderly
  | move move => exact order

/-- An orderly schedule keeps the order. -/
theorem InOrder.run (order : traffic.InOrder) {schedule : List (Event target)}
    (orderly : traffic.IsOrderly id schedule) : (traffic.run id schedule).InOrder := by
  induction schedule generalizing traffic with
  | nil => exact order
  | cons event rest ih => exact ih (order.step orderly.1) orderly.2

end Traffic

/-! ## Contentions -/

/-- In a session, calls about a slot that was not used before are under way, among other moves. -/
structure Contention (target : ScanTarget) where
  session : List Move
  id : DeviceId
  held : Device
  found : (World.initial.run session).devices.get? id = some held
  unused : held.slot target = .initial
  idle : (World.initial.run session).bench.running? held.handle target = none
  schedule : List (Event target)
  apart : ∀ event ∈ schedule, event.IsApart id held.handle

namespace Contention

variable {target : ScanTarget} (contention : Contention target)

/-- The traffic before any call. -/
def opening : Traffic target :=
  { world := World.initial.run contention.session }

/-- How far the calls have got. -/
def traffic : Traffic target :=
  contention.opening.run contention.id contention.schedule

/-- The buffer that the slot pins. -/
def pinned : Option ScanBuffer :=
  contention.traffic.pinned contention.id

/-- The scan that is running. -/
def running? : Option ScanRun :=
  contention.traffic.world.bench.running? contention.held.handle target

/-- The scan of the start of a party is running: no start was accepted after it. -/
def IsRunning (party : Nat) : Prop :=
  contention.running?.isSome ∧ contention.traffic.accepted.getLast?.map Prod.fst = some party

/-- No start was accepted while another had not pinned its buffer. -/
def IsOrderly : Prop :=
  contention.opening.IsOrderly contention.id contention.schedule

/-- The traffic is steady all along. -/
theorem steady : ∃ device, device.handle = contention.held.handle ∧
    contention.traffic.Steady contention.id device := by
  have opened : contention.opening.Steady contention.id contention.held := by
    refine ⟨World.sound_run _, contention.found, ?_⟩
    rw [Traffic.inUse?, opening, contention.idle, contention.unused]
    constructor <;> simp [Slot.initial]
  exact opened.run contention.schedule contention.apart

theorem inOrder (orderly : contention.IsOrderly) : contention.traffic.InOrder := by
  have opened : contention.opening.InOrder := ⟨none, rfl, by simp [opening, Traffic.IsPending]⟩
  exact opened.run orderly

theorem pinned_eq {device : Device} (steady : contention.traffic.Steady contention.id device) :
    contention.pinned = (device.slot target).pinned := by
  rw [pinned, Traffic.pinned, steady.found, Option.bind_some]

theorem inUse?_of_running {run : ScanRun} (running : contention.running? = some run) :
    contention.traffic.inUse? contention.held.handle = some run.buffer :=
  Option.map_eq_some_iff.mpr ⟨run, running, rfl⟩

/-- A device is connected, and there are two buffers. -/
def prepared : List Move :=
  World.connected ++ [.edit (.allocateReals #[0, 0]), .edit (.allocateReals #[0, 0])]

/-- No call is under way on the prepared device. -/
def prepared.traffic : Traffic .analogIn :=
  { world := World.initial.run prepared }

/-- A start of an analog input scan of two samples. -/
def begun (storage : Nat) : Event .analogIn :=
  .start ⟨.reals ⟨storage, 1⟩, fun handle =>
    .scanAnalogIn handle ⟨0, 0, 2, 1000, .empty⟩ .singleEnded .bip10Volts .empty ⟨storage, 1⟩,
    fun _ => ⟨_, rfl, rfl, rfl⟩⟩

/-- Every schedule that keeps to the slot is that of a contention on the prepared device. -/
theorem exists_of_schedule (schedule : List (Event .analogIn))
    (apart : ∀ event ∈ schedule, event.IsApart 0 1) :
    ∃ contention : Contention .analogIn, contention.schedule = schedule ∧ contention.id = 0 ∧
      contention.held.handle = 1 ∧ contention.traffic = prepared.traffic.run 0 schedule ∧
      (contention.IsOrderly ↔ prepared.traffic.IsOrderly 0 schedule) := by
  have there : ((World.initial.run prepared).devices.get? 0).map
      (fun held => (held.handle, held.slot .analogIn)) = some (1, .initial) := by decide +kernel
  have idle : (World.initial.run prepared).bench.running? 1 .analogIn = none := by decide +kernel
  rcases Option.map_eq_some_iff.mp there with ⟨held, found, same⟩
  obtain ⟨handle, unused⟩ := Prod.mk.inj same
  exact ⟨⟨prepared, 0, held, found, unused, handle ▸ idle, schedule, handle ▸ apart⟩, rfl, rfl,
    handle, rfl, .rfl⟩

/-! ## What is pinned -/

/-- While no start is between its acceptance and its pin, a running scan uses the buffer that
was accepted last, and the slot pins the buffer that was pinned last.  So the memory of the
running scan is pinned if and only if these share their storage.  They are of the same start
when the starts did not overlap. -/
theorem pinned_last (quiet : contention.traffic.IsQuiet) {run : ScanRun}
    (running : contention.running? = some run) :
    ∃ newest last, contention.traffic.accepted.getLast? = some newest ∧
      contention.traffic.pins.getLast? = some last ∧
      run.buffer = newest.2 ∧ contention.pinned = some last.2 ∧
      ((∃ buffer, contention.pinned = some buffer ∧ buffer.sharesStorage run.buffer = true) ↔
        last.2.sharesStorage newest.2 = true) ∧
      (contention.IsOrderly → last = newest) := by
  rcases contention.steady with ⟨device, handle, steady⟩
  have uses := handle ▸ contention.inUse?_of_running running
  rcases steady.coherent.runs run.buffer uses with ⟨newest, accepted, same, pending | pinning⟩
  · exact absurd pending (quiet.not_pending newest)
  · rcases pinning with ⟨last, pins, holds⟩
    have pinned := (contention.pinned_eq steady).trans holds
    refine ⟨newest, last, accepted, pins, same.symm, pinned, ?_, ?_⟩
    · rw [pinned, ← same]
      simp
    · intro orderly
      rw [quiet.accepted_eq_pins (contention.inOrder orderly), pins] at accepted
      exact Option.some.inj accepted

/-- A scan is stopped, the next one starts before the answer about the first is settled. -/
def inTurn : List (Event .analogIn) :=
  [begun 0, .advance 0, .advance 0, .query .stop, .advance 1, .advance 1, .advance 1,
    begun 1, .advance 2, .advance 2, .advance 1]

theorem pinned_last_inTurn :
    ∃ contention : Contention .analogIn, contention.schedule = inTurn ∧
      contention.traffic.IsQuiet ∧ contention.IsOrderly ∧
      ∃ run, contention.running? = some run ∧ contention.pinned = some run.buffer ∧
        run.buffer = .reals ⟨1, 1⟩ := by
  rcases exists_of_schedule inTurn (by decide +kernel) with
    ⟨contention, same, id, handle, traffic, orderly⟩
  have quiet : contention.traffic.IsQuiet := by
    rw [traffic]
    decide +kernel
  have orderly : contention.IsOrderly := by
    rw [orderly]
    decide +kernel
  have runs : contention.running?.map ScanRun.buffer = some (.reals ⟨1, 1⟩) := by
    rw [running?, traffic, handle]
    decide +kernel
  rcases Option.map_eq_some_iff.mp runs with ⟨run, running, buffer⟩
  rcases contention.pinned_last quiet running with
    ⟨newest, last, _, _, uses, pinned, _, ordered⟩
  refine ⟨contention, same, quiet, orderly, run, running, ?_, buffer⟩
  rw [pinned, ordered orderly, uses]

/-- The first start pins its buffer after the second one, whose scan is running. -/
def crossed : List (Event .analogIn) :=
  [begun 0, begun 1, .advance 0, .move (.stimulus (.advance 1 .analogIn 2)), .advance 1,
    .advance 1, .advance 0]

theorem not_pinned_running_crossed :
    ¬∀ contention : Contention .analogIn, contention.traffic.IsQuiet →
      ∀ run, contention.running? = some run →
        ∃ buffer, contention.pinned = some buffer ∧ buffer.sharesStorage run.buffer = true := by
  intro claim
  rcases exists_of_schedule crossed (by decide +kernel) with
    ⟨contention, same, id, handle, traffic, orderly⟩
  have quiet : contention.traffic.IsQuiet := by
    rw [traffic]
    decide +kernel
  have runs : contention.running?.map ScanRun.buffer = some (.reals ⟨1, 1⟩) := by
    rw [running?, traffic, handle]
    decide +kernel
  have pins : contention.pinned = some (.reals ⟨0, 1⟩) := by
    rw [pinned, traffic, id]
    decide +kernel
  rcases Option.map_eq_some_iff.mp runs with ⟨run, running, buffer⟩
  rcases claim contention quiet run running with ⟨held, pinned, shares⟩
  obtain rfl := Option.some.inj (pins.symm.trans pinned)
  rw [buffer] at shares
  cases shares

/-- When an answer lets go of a buffer, the scan of the start that pinned it is not running,
though the scan of a start that has not pinned its own buffer may be. -/
theorem unpinned_idle {party asked : Nat} {status : ScanStatus} {buffer : ScanBuffer}
    (settles : contention.traffic.phases[party]? = some (.settling asked status))
    (pinned : contention.pinned = some buffer)
    (dropped : (contention.traffic.step contention.id (.advance party)).pinned contention.id =
      none) :
    ∃ last, contention.traffic.pins.getLast? = some last ∧ last.2 = buffer ∧
      ¬contention.IsRunning last.1 := by
  rcases contention.steady with ⟨device, handle, steady⟩
  have holds := (contention.pinned_eq steady).symm.trans pinned
  rcases steady.coherent.kept buffer holds with ⟨last, pins, same⟩
  refine ⟨last, pins, same, ?_⟩
  rintro ⟨running, newest⟩
  -- The answer is of the current generation, so only a pending start can have a scan running.
  rw [steady.pinned_settle settles] at dropped
  have current := Traffic.current_of_unpinned holds dropped
  rcases Option.isSome_iff_exists.mp running with ⟨run, runs⟩
  have uses := handle ▸ contention.inUse?_of_running runs
  have fits := steady.coherent.fits _ (List.mem_of_getElem? settles)
  rcases fits.2 current.1 current.2 (by simp [uses]) with ⟨ahead, accepted, pending⟩
  rw [accepted, Option.map_some, Option.some.injEq] at newest
  rw [Traffic.IsPending, newest, steady.coherent.done last (List.mem_of_getLast? pins)] at pending
  contradiction

/-- The scan is seen idle before it starts and after it has finished; the first answer comes
too late to let go of the buffer. -/
def overtaken : List (Event .analogIn) :=
  [begun 0, .query .status, .advance 1, .advance 1, .advance 1, .advance 0, .advance 0,
    .advance 1, .query (.wait .waitUntilDone 0 1), .advance 2, .advance 2, .advance 2]

theorem unpinned_idle_overtaken :
    ∃ contention : Contention .analogIn, contention.schedule = overtaken ∧
      contention.traffic.phases[2]? = some (.settling 1 .idle) ∧
      contention.pinned = some (.reals ⟨0, 1⟩) ∧
      (contention.traffic.step contention.id (.advance 2)).pinned contention.id = none ∧
      ¬contention.IsRunning 0 := by
  rcases exists_of_schedule overtaken (by decide +kernel) with
    ⟨contention, same, id, handle, traffic, orderly⟩
  have answer : (contention.traffic.phases[2]?).bind Phase.answer? = some (1, .idle) := by
    rw [traffic]
    decide +kernel
  rcases Option.bind_eq_some_iff.mp answer with ⟨phase, settles, told⟩
  obtain rfl := Phase.answer?_eq_some_iff.mp told
  have pins : contention.pinned = some (.reals ⟨0, 1⟩) := by
    rw [pinned, traffic, id]
    decide +kernel
  have dropped : (contention.traffic.step contention.id (.advance 2)).pinned contention.id =
      none := by
    rw [traffic, id]
    decide +kernel
  have last : contention.traffic.pins.getLast? = some (0, .reals ⟨0, 1⟩) := by
    rw [traffic]
    decide +kernel
  rcases contention.unpinned_idle settles pins dropped with ⟨start, there, _, ended⟩
  obtain rfl := Option.some.inj (last.symm.trans there)
  exact ⟨contention, same, settles, pins, dropped, ended⟩

end Contention

end Acquisition
