import Acquisition.Proofs.Session

/-!
# Calls in step with each other

Several parties may call about one slot at the same time.  Each call takes the steps that
the operations on a scan are put together from (`Phase.act`), one at a time, and anything
may come in between: a step of another call, or a move elsewhere in the session
(`Traffic.step`).  A call whose steps nothing comes between is the operation itself
(`Phase.alone_start`, `Phase.alone_query`).
-/

namespace Acquisition

/-! ## The steps of a call -/

/-- How far a call about a slot has got: what it does next. -/
inductive Phase (target : ScanTarget) where
  | accepting (start : SlotStart target)
  /-- The driver has accepted the scan, and its buffer is not pinned yet. -/
  | pinning (buffer : ScanBuffer) (rate : Float)
  | leading (query : Query)
  | reading
  | asking (handle : Handle) (generation : Nat)
  | settling (generation : Nat) (status : ScanStatus)
  | finished

namespace Phase

variable {target : ScanTarget}

/-- Take the next step of a call. -/
def act (id : DeviceId) : Phase target → Act (Phase target)
  | accepting start => return .pinning start.buffer (← Act.accept id start)
  | pinning buffer rate => do
      Act.pin id target buffer rate
      return .finished
  | leading query => do
      Act.lead id target query
      return .reading
  | reading => do
      let (handle, generation) ← Act.readGeneration id target
      return .asking handle generation
  | asking handle generation => do
      let (status, _) ← Act.askStatus handle target
      return .settling generation status
  | settling generation status => do
      Act.settle id target generation status
      return .finished
  | finished => return .finished

/-- How far a call has got after its next step, and the world then.  A call that is refused
something is finished. -/
def next (id : DeviceId) (phase : Phase target) (world : World) : Phase target × World :=
  let (answer, after) := (phase.act id).on world
  (answer.toOption.getD .finished, after)

/-- The buffer that is to be pinned. -/
def buffer? : Phase target → Option ScanBuffer
  | pinning buffer _ => some buffer
  | _ => none

/-- The answer that the slot is to be settled with, and the generation in which it was asked for. -/
def answer? : Phase target → Option (Nat × ScanStatus)
  | settling generation status => some (generation, status)
  | _ => none

theorem answer?_eq_some_iff {phase : Phase target} {generation : Nat} {status : ScanStatus} :
    phase.answer? = some (generation, status) ↔ phase = .settling generation status := by
  cases phase <;> simp [answer?]

section Next

variable {id : DeviceId} {world after : World} {phase later : Phase target}

theorem next_of_ok (taken : (phase.act id).on world = (.ok later, after)) :
    phase.next id world = (later, after) := by
  rw [next, taken]
  rfl

theorem next_of_error {error : Error} (refused : (phase.act id).on world = (.error error, after)) :
    phase.next id world = (.finished, after) := by
  rw [next, refused]
  rfl

end Next

/-! ## Calls that nothing comes between -/

/-- Take some steps of a call, one right after the other. -/
def alone (id : DeviceId) : Nat → Phase target → World → World
  | 0, _, world => world
  | count + 1, phase, world =>
      let (later, after) := phase.next id world
      later.alone id count after

theorem alone_finished (id : DeviceId) (count : Nat) (world : World) :
    (finished : Phase target).alone id count world = world := by
  induction count with
  | zero => rfl
  | succ count ih => exact ih

section Alone

variable {α : Type} {id : DeviceId} {phase : Phase target} {act : Act α} {next : α → Phase target}
  {world after : World}

/-- The steps of a call go on from where the last one led. -/
theorem alone_of_ok {answer : α} (same : phase.act id = do return next (← act))
    (taken : act.on world = (.ok answer, after)) (count : Nat) :
    phase.alone id (count + 1) world = (next answer).alone id count after := by
  have stepped : phase.next id world = (next answer, after) :=
    next_of_ok (same ▸ Act.on_bind_ok taken)
  rw [alone, stepped]

theorem alone_of_error {error : Error} (same : phase.act id = do return next (← act))
    (refused : act.on world = (.error error, after)) (count : Nat) :
    phase.alone id (count + 1) world = after := by
  have stepped : phase.next id world = (.finished, after) :=
    next_of_error (same ▸ Act.on_bind_error refused)
  rw [alone, stepped]
  exact alone_finished id count after

end Alone

theorem alone_start (id : DeviceId) (start : SlotStart target) (world : World) :
    (accepting start).alone id 2 world =
      ((Act.startScan id target start.buffer start.request).on world).2 := by
  rw [Act.startScan_eq]
  rcases accepted : (Act.accept id start).on world with ⟨error | rate, middle⟩
  · rw [Act.on_bind_error accepted, alone_of_error rfl accepted]
  · rw [Act.on_bind_ok accepted, alone_of_ok rfl accepted]
    rcases pinned : (Act.pin id target start.buffer rate).on middle with ⟨error | answer, after⟩
    · rw [Act.on_bind_error pinned, alone_of_error rfl pinned]
    · rw [Act.on_bind_ok pinned, alone_of_ok rfl pinned]
      rfl

theorem alone_status (id : DeviceId) (world : World) :
    (reading : Phase target).alone id 3 world = ((Act.scanStatus id target).on world).2 := by
  rw [Act.scanStatus_eq]
  rcases read : (Act.readGeneration id target).on world with ⟨error | ⟨handle, asked⟩, first⟩
  · rw [Act.on_bind_error read, alone_of_error rfl read]
  · rw [Act.on_bind_ok read, alone_of_ok rfl read]
    rcases told : (Act.askStatus handle target).on first with ⟨error | ⟨status, transfer⟩, second⟩
    · rw [Act.on_bind_error told, alone_of_error rfl told]
    · rw [Act.on_bind_ok told, alone_of_ok rfl told]
      rcases settled : (Act.settle id target asked status).on second with ⟨error | answer, after⟩
      · rw [Act.on_bind_error settled, alone_of_error rfl settled]
      · rw [Act.on_bind_ok settled, alone_of_ok rfl settled]
        rfl

theorem alone_query (id : DeviceId) (query : Query) (world : World) :
    (leading query : Phase target).alone id 4 world =
      ((Act.query id target query).on world).2 := by
  rw [Act.query]
  rcases led : (Act.lead id target query).on world with ⟨error | answer, middle⟩
  · rw [Act.on_bind_error led, alone_of_error rfl led]
  · rw [Act.on_bind_ok led, alone_of_ok rfl led]
    exact alone_status id middle

end Phase

/-! ## What a step does -/

/-- A call has taken a step, in a world that has a device and may have changed. -/
inductive Phase.Passes {target : ScanTarget} (id : DeviceId) (held : Device) (world : World) :
    Phase target → Phase target → World → Prop where
  | refused {phase after} (unpinned : phase.buffer? = none) (leads : world.Leads none none after) :
      Passes id held world phase .finished after
  | accepted {start rate after} (accepts : world.Accepts held.handle start after) :
      Passes id held world (.accepting start) (.pinning start.buffer rate) after
  | pinned {buffer rate after}
      (sets : world.Sets id target held ((held.slot target).pin buffer) after) :
      Passes id held world (.pinning buffer rate) .finished after
  | led {query after} (leads : world.Leads none none after) :
      Passes id held world (.leading query) .reading after
  | read : Passes id held world .reading
      (.asking held.handle (held.slot target).generation) world
  | told {handle generation status}
      (idle : status = .idle → world.bench.running? handle target = none) :
      Passes id held world (.asking handle generation) (.settling generation status) world
  | settled {generation status after}
      (sets : world.Sets id target held ((held.slot target).settle generation status) after) :
      Passes id held world (.settling generation status) .finished after

/-- What a step of a call may do is what the operations on a scan do in their steps. -/
theorem Phase.passes {target : ScanTarget} {id : DeviceId} {held : Device} {world : World}
    (direct : world.IsDirect) (found : world.devices.get? id = some held) (phase : Phase target) :
    Phase.Passes id held world phase (phase.next id world).1 (phase.next id world).2 := by
  have unmoved : world.Leads none none world := .refl direct
  cases phase with
  | accepting start =>
      rcases Act.on_accept_cases direct id start with
        ⟨error, refused⟩ | ⟨held', rate, after, found', _, accepted, accepts⟩
      · rw [next_of_error (Act.on_bind_error refused)]
        exact .refused rfl unmoved
      · obtain rfl := Option.some.inj (found.symm.trans found')
        rw [next_of_ok (Act.on_bind_ok accepted)]
        exact .accepted accepts
  | pinning buffer rate =>
      rcases Act.on_pin direct found target buffer rate with ⟨after, pinned, sets⟩
      rw [next_of_ok (Act.on_bind_ok pinned)]
      exact .pinned sets
  | leading query =>
      have leads := Act.keeps_lead id target query world direct
      rcases led : (Act.lead id target query).on world with ⟨error | answer, after⟩
      · rw [led] at leads
        rw [next_of_error (Act.on_bind_error led)]
        exact .refused rfl leads
      · rw [led] at leads
        rw [next_of_ok (Act.on_bind_ok led)]
        exact .led leads
  | reading =>
      rcases Act.on_readGeneration_cases world id target with
        ⟨error, refused⟩ | ⟨held', found', _, read⟩
      · rw [next_of_error (Act.on_bind_error refused)]
        exact .refused rfl unmoved
      · obtain rfl := Option.some.inj (found.symm.trans found')
        rw [next_of_ok (Act.on_bind_ok read)]
        exact .read
  | asking handle generation =>
      rcases Act.on_askStatus_cases direct handle target with
        ⟨error, refused⟩ | ⟨answer, told, idle⟩
      · rw [next_of_error (Act.on_bind_error refused)]
        exact .refused rfl unmoved
      · rw [next_of_ok (Act.on_bind_ok told)]
        exact .told idle
  | settling generation status =>
      rcases Act.on_settle direct found target generation status with ⟨after, settled, sets⟩
      rw [next_of_ok (Act.on_bind_ok settled)]
      exact .settled sets
  | finished => exact .refused rfl unmoved

/-! ## Traffic -/

/-- What can happen while calls about a slot are under way. -/
inductive Event (target : ScanTarget) : Type 1 where
  | start (start : SlotStart target)
  | query (query : Query)
  /-- A party takes the next step of its call. -/
  | advance (party : Nat)
  | move (move : Move)

/-- A move does not use the slot, and starts no scan on its target past the device. -/
def Event.IsApart {target : ScanTarget} (id : DeviceId) (handle : Handle) : Event target → Prop
  | .move other =>
      other.slot? ≠ some (id, target) ∧ other.bypass? ≠ some (.start handle target)
  | _ => True

instance {target : ScanTarget} (id : DeviceId) (handle : Handle) (event : Event target) :
    Decidable (event.IsApart id handle) :=
  match event with
  | .move other => inferInstanceAs (Decidable (other.slot? ≠ some (id, target) ∧
      other.bypass? ≠ some (.start handle target)))
  | .start _ | .query _ | .advance _ => isTrue trivial

/-- The world, how far the calls about a slot have got, one of each party, and in order the
starts that the driver accepted and the ones whose buffers were pinned, by party and buffer. -/
structure Traffic (target : ScanTarget) where
  world : World
  phases : List (Phase target) := []
  accepted : List (Nat × ScanBuffer) := []
  pins : List (Nat × ScanBuffer) := []

namespace Traffic

variable {target : ScanTarget}

/-- A call begins. -/
def enter (traffic : Traffic target) (phase : Phase target) : Traffic target :=
  { traffic with phases := traffic.phases ++ [phase] }

/-- A party has taken a step. -/
def pass (traffic : Traffic target) (party : Nat) (phase next : Phase target) (after : World) :
    Traffic target where
  world := after
  phases := traffic.phases.set party next
  accepted := traffic.accepted ++ next.buffer?.toList.map (Prod.mk party)
  pins := traffic.pins ++ phase.buffer?.toList.map (Prod.mk party)

/-- The traffic after an event. -/
def step (id : DeviceId) (traffic : Traffic target) : Event target → Traffic target
  | .start start => traffic.enter (.accepting start)
  | .query query => traffic.enter (.leading query)
  | .advance party =>
      match traffic.phases[party]? with
      | some phase =>
          let (next, after) := phase.next id traffic.world
          traffic.pass party phase next after
      | none => traffic
  | .move move => { traffic with world := traffic.world.step move }

/-- The traffic after some events. -/
def run (id : DeviceId) (traffic : Traffic target) (schedule : List (Event target)) :
    Traffic target :=
  schedule.foldl (step id) traffic

/-- What the slot pins. -/
def pinned (id : DeviceId) (traffic : Traffic target) : Option ScanBuffer :=
  (traffic.world.devices.get? id).bind fun held => (held.slot target).pinned

/-- No start is between its acceptance and its pin. -/
def IsQuiet (traffic : Traffic target) : Prop :=
  ∀ phase ∈ traffic.phases, phase.buffer? = none

instance (traffic : Traffic target) : Decidable traffic.IsQuiet :=
  inferInstanceAs (Decidable (∀ phase ∈ traffic.phases, phase.buffer? = none))

/-- No start is accepted in a schedule while another is between its acceptance and its pin. -/
def IsOrderly (id : DeviceId) (traffic : Traffic target) : List (Event target) → Prop
  | [] => True
  | event :: rest =>
      ((traffic.step id event).accepted = traffic.accepted ∨ traffic.IsQuiet) ∧
        (traffic.step id event).IsOrderly id rest

instance decidableIsOrderly (id : DeviceId) (traffic : Traffic target) :
    (schedule : List (Event target)) → Decidable (traffic.IsOrderly id schedule)
  | [] => isTrue trivial
  | event :: rest =>
      have := decidableIsOrderly id (traffic.step id event) rest
      inferInstanceAs (Decidable
        (((traffic.step id event).accepted = traffic.accepted ∨ traffic.IsQuiet) ∧
          (traffic.step id event).IsOrderly id rest))

end Traffic

end Acquisition
