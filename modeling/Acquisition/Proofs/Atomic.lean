import Acquisition.Proofs.Conduct
import Acquisition.Proofs.ReadBack

/-!
# Refused requests

A request that is refused has changed nothing that a caller can see: neither the driver, nor
any device or buffer, nor what was noted, and no handler has run.  The request itself is
executed in place (`Request.execute`), and the handlers that it makes due run after it and
are never refused, whatever becomes of what they ask for.

Main statement: `Act.eq_of_perform_refused`.
-/

namespace Acquisition.Act

variable {α β : Type}

/-- An action that answers in every world. -/
def Answers (act : Act α) : Prop :=
  ∀ world, ∃ answer after, act.on world = (.ok answer, after)

theorem answers_pure (answer : α) : (pure answer : Act α).Answers :=
  fun world => ⟨answer, world, rfl⟩

theorem answers_attempt (act : Act α) : (attempt act).Answers :=
  fun world => ⟨_, _, on_attempt world act⟩

theorem answers_note (notices : List Notice) : (note notices).Answers :=
  fun world => ⟨_, _, on_note world notices⟩

theorem answers_report (occurrence : Occurrence) : (report occurrence).Answers :=
  fun _ => ⟨_, _, rfl⟩

theorem Answers.bind {act : Act α} {next : α → Act β} (first : act.Answers)
    (rest : ∀ answer, (next answer).Answers) : (act >>= next).Answers := by
  intro world
  obtain ⟨answer, middle, did⟩ := first world
  obtain ⟨last, after, ended⟩ := rest answer middle
  exact ⟨last, after, (on_bind_ok did).trans ended⟩

/-- A reaction that is refused is a finding of the handler, not a refusal. -/
theorem answers_react (handle : Handle) (reaction : Reaction) : (react handle reaction).Answers := by
  cases reaction with
  | record | breakDown => exact answers_pure _
  | stop | disable | status => exact (answers_attempt _).bind fun _ => answers_pure _

theorem answers_handle (due : Due) : (Act.handle due).Answers := by
  refine (answers_note _).bind fun _ => (answers_react _ _).bind fun _ =>
    (answers_report _).bind fun _ => ?_
  split
  · exact answers_note _
  · exact answers_pure _

/-- Running handlers, however many, is not refused. -/
theorem answers_handleAll (dues : List Due) : (handleAll dues).Answers := by
  induction dues with
  | nil => exact answers_pure ()
  | cons due rest ih => exact (answers_handle due).bind fun _ => ih

/-- A request that is refused leaves the whole world as it was. -/
theorem eq_of_perform_refused {world after : World} {request : Request α} {error : Error}
    (refused : (perform request).on world = (.error error, after)) : after = world := by
  cases served : request.serve world.bench with
  | error _ =>
      rw [on_perform_of_refused served] at refused
      exact (Prod.mk.inj refused).2.symm
  | ok outcome =>
      obtain ⟨_, handled, did⟩ := answers_handleAll outcome.due (world.served request outcome)
      unfold perform at refused
      rw [on_bind_ok (on_serve served), on_bind_ok did] at refused
      simp at refused

/-- A ring scan that has moved a row and fired a handler, and a counter that is not zero. -/
def ringWorld : World :=
  { World.initial with
    bench := ((Bench.withCells #[0, 0]).run
      [.request (.enableEvents 1 EventKind.dataAvailable 1 ⟨"scan", .record⟩),
       .stimulus (.presetCounter 1 0 7), Bench.startRing,
       .stimulus (.advance 1 .analogIn 1)]).1 }

/-- Starting the scan again while it runs is refused, and changes nothing. -/
theorem eq_of_restart_refused :
    let restart := Request.scanAnalogIn 1 ⟨0, 0, 2, 1000, ScanOption.continuous⟩ .singleEnded
      .bip10Volts .empty ⟨0, 1⟩
    ringWorld.bench.isRunning 1 .analogIn = true ∧
    (perform restart).on ringWorld = (.error .alreadyActive, ringWorld) := by
  intro restart
  have running : ringWorld.bench.isRunning 1 .analogIn = true := by decide +kernel
  have turned : (match ((perform restart).on ringWorld).1 with
      | .error error => some error
      | .ok _ => none) = some .alreadyActive := by decide +kernel
  rcases ended : (perform restart).on ringWorld with ⟨error | rate, after⟩
  · rw [ended] at turned
    obtain rfl := Option.some.inj turned
    obtain rfl := eq_of_perform_refused ended
    exact ⟨running, rfl⟩
  · rw [ended] at turned
    cases turned

end Acquisition.Act
