import Acquisition.Proofs.Runs
import Acquisition.Proofs.Session
import Acquisition.Proofs.Tuning

/-!
# What no one asks for

Settings are made and triggers are set only by those who ask for it, so moves that do not ask run
only commands that do not (`World.bench_of_unasked`).  A command that does not ask for a kind of
tuning leaves alone what only tunings of that kind change (`Bench.part_of_step`).
-/

namespace Acquisition

/-- Whether a tuning makes no setting and sets no trigger. -/
def Tuning.isPlain (tuning : Tuning) : Bool :=
  !tuning.isSetting && !tuning.isTrigger

/-- Tunings of a kind make a setting or set a trigger. -/
def Tuning.IsAskedFor (kind : Tuning → Bool) : Prop :=
  ∀ tuning, tuning.isPlain = true → kind tuning = false

/-! ## Commands -/

/-- Whether a command asks neither for a setting nor for a trigger. -/
def Command.isPlain (command : Command) : Bool :=
  command.tuning?.all fun asked => asked.2.isPlain

/-- The handle of the device that a command asks to take a tuning of a kind. -/
def Command.asks? (kind : Tuning → Bool) (command : Command) : Option Handle :=
  command.tuning?.bind fun (handle, tuning) => if kind tuning then some handle else none

/-- The handle of the device that a move asks to take a tuning of a kind past the device. -/
def Move.asks? (kind : Tuning → Bool) : Move → Option Handle
  | .request asked => (Command.request asked).asks? kind
  | _ => none

variable {kind : Tuning → Bool} {handle : Handle}

namespace Command

theorem unasked_of_eq_none {command : Command} (none : command.asks? kind = none) :
    command.asks? kind ≠ some handle := by
  simp [none]

theorem unasked_of_plain (askedFor : Tuning.IsAskedFor kind) {command : Command}
    (plain : command.isPlain = true) : command.asks? kind ≠ some handle := by
  apply unasked_of_eq_none
  cases wants : command.tuning? with
  | none => simp [asks?, wants]
  | some asked =>
      rw [isPlain, wants, Option.all_some] at plain
      simp [asks?, wants, askedFor asked.2 plain]

theorem eq_false_of_unasked {command : Command} {tuning : Tuning}
    (wants : command.tuning? = some (handle, tuning)) (unasked : command.asks? kind ≠ some handle) :
    kind tuning = false := by
  cases own : kind tuning with
  | false => rfl
  | true => exact absurd (by simp [asks?, wants, own]) unasked

end Command

namespace Bench

variable {β : Type} {part : Instrument → β} {bench : Bench} {command : Command}
  {device after : Instrument}

/-- A command that does not ask a device for a kind of tuning leaves alone what actions do not
change, and what no other tuning does. -/
theorem part_of_step
    (acted : ∀ {action : Action} {instrument : Instrument} {store : Store}
      {result : Instrument × Store × List Firing}, action.act instrument store = .ok result →
      part result.1 = part instrument)
    (tuned : ∀ {tuning : Tuning} {before after : Instrument}, kind tuning = false →
      tuning.change before = .ok after → part after = part before)
    (unasked : command.asks? kind ≠ some handle) (issued : handle < bench.driver.nextHandle)
    (found : bench.driver.instruments.get? handle = some device)
    (still : (bench.step command).1.driver.instruments.get? handle = some after) :
    part after = part device := by
  cases taken : bench.taken? handle command with
  | some action =>
      obtain ⟨before, result, there, done, acts, _⟩ := step_of_taken? taken
      obtain rfl := Option.some.inj (found.symm.trans there)
      obtain rfl := Option.some.inj (acts.get?_self.symm.trans still)
      exact acted done
  | none =>
      rcases tuned_or_same found still taken issued with ⟨_, rfl⟩ | ⟨tuning, takes, done⟩
      · rfl
      · exact tuned (Command.eq_false_of_unasked (tuned?_eq_some_iff.mp takes).1 unasked)
          (Tuning.act_eq_ok_iff.mp done).2

end Bench

section Plain

variable {α : Type}

theorem Request.plain_of_isQuiet {request : Request α} (quiet : request.isQuiet = true) :
    (Command.request request).isPlain = true := by
  cases request <;> first | rfl | contradiction

theorem Request.plain_of_start? {request : Request α} {asked : Handle × ScanStart}
    (starts : request.start? = some asked) : (Command.request request).isPlain = true := by
  cases request <;> first | rfl | contradiction

theorem Stimulus.plain (stimulus : Stimulus α) : (Command.stimulus stimulus).isPlain = true := by
  cases stimulus <;> rfl

end Plain

/-! ## Operations and moves -/

/-- An operation asks a device for no tuning of a kind. -/
def Operation.Spares {α : Type} (kind : Tuning → Bool) (operation : Operation α) : Prop :=
  ∀ request, operation.tuner? = some request →
    ∀ handle, (Command.request (request handle)).asks? kind = none

theorem Operation.Spares.of_untuned {α : Type} {operation : Operation α}
    (untuned : operation.tuner? = none) : operation.Spares kind := by
  intro request comes
  rw [untuned] at comes
  contradiction

variable (askedFor : Tuning.IsAskedFor kind)

include askedFor

namespace Act

/-- Whatever is ordinary asks a device for no setting and for no trigger. -/
theorem ordinary_unasked (handle : Handle) :
    Ordinary (fun command => command.asks? kind ≠ some handle) Device.handle where
  quiet quiet := Command.unasked_of_plain askedFor (Request.plain_of_isQuiet quiet)
  start starts := Command.unasked_of_plain askedFor (Request.plain_of_start? starts)
  release _ := Command.unasked_of_eq_none rfl
  enable _ _ _ _ := Command.unasked_of_eq_none rfl
  disable _ _ := Command.unasked_of_eq_none rfl
  stimulus stimulus := Command.unasked_of_plain askedFor stimulus.plain
  carries carries := carries.handle
  subscribe _ _ := rfl
  unsubscribe _ _ := rfl

theorem unasked_loadQueue (handle : Handle) (id : DeviceId) (queue : List QueueElement) :
    Runs (fun command => command.asks? kind ≠ some handle) Device.handle
      ((Operation.loadQueue queue).perform id) :=
  Runs.bind (.of_looks (looks_live id)) fun _ =>
    .bind ((ordinary_unasked askedFor handle).send (Command.unasked_of_eq_none rfl)) fun _ =>
      .bind (.updateDevice id fun _ => rfl) fun _ => .note _

theorem unasked_perform {α : Type} {operation : Operation α} (spares : operation.Spares kind)
    (handle : Handle) (id : DeviceId) :
    Runs (fun command => command.asks? kind ≠ some handle) Device.handle (operation.perform id) := by
  have ordinary := ordinary_unasked askedFor handle
  cases tunes : operation.tuner? with
  | some request =>
      exact ordinary.tunes tunes (fun asked => Command.unasked_of_eq_none (spares _ tunes asked)) id
  | none =>
      cases loads : operation.loadsQueue with
      | false => exact ordinary.performs id loads tunes
      | true =>
          cases operation with
          | loadQueue queue => exact unasked_loadQueue askedFor handle id queue
          | _ => contradiction

end Act

/-- A move that does not ask a device for a kind of tuning runs no command on the bench that
does. -/
theorem World.bench_of_unasked {world : World} (sound : world.Sound) {move : Move}
    (unbypassed : move.asks? kind ≠ some handle)
    (spares : ∀ {α : Type} (id : DeviceId) (operation : Operation α),
      move = .call id operation → operation.Spares kind) :
    ∃ commands : List Command, (∀ command ∈ commands, command.asks? kind ≠ some handle) ∧
      (world.step move).bench = (world.bench.run commands).1 := by
  have ordinary := Act.ordinary_unasked askedFor handle
  cases move with
  | take descriptor =>
      obtain ⟨middle, runs, led | ⟨held, _, _, led⟩⟩ :=
        ordinary.openDevice sound.direct descriptor
      · rw [step, led]
        exact runs.bench
      · rw [step, led]
        exact runs.bench
  | call id operation =>
      simp only [step]
      split
      · have performs := Act.unasked_perform askedFor (spares id operation rfl) handle id
        exact (performs world sound.direct).bench
      · exact ⟨[], List.forall_mem_nil _, rfl⟩
  | close id => exact ((ordinary.routine id).close world sound.direct).bench
  | drop id => exact ((ordinary.routine id).drop world sound.direct).bench
  | request asked => exact (ordinary.request unbypassed world sound.direct).bench
  | stimulus stimulus => exact (ordinary.stimulate stimulus world sound.direct).bench
  | edit edit =>
      exact ⟨[.edit edit], List.forall_mem_singleton.mpr (Command.unasked_of_eq_none rfl), rfl⟩

end Acquisition
