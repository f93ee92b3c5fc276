import Acquisition.Error

/-!
# Procedures

A procedure works on a state in place.  A refusal ends it, and what was changed before the
refusal stays changed: nothing is undone.  A procedure can work on a part of a larger state
(`Procedure.within`), and then a refusal leaves the part as the work on it left it.
-/

namespace Acquisition

/-- Work on a state in place.  A refusal does not undo the changes before it. -/
abbrev Procedure (σ : Type) :=
  ExceptT Error (StateM σ)

namespace Procedure

variable {σ τ α : Type}

/-- Have an answer or a refusal. -/
def resume (answer : Except Error α) : Procedure σ α :=
  match answer with
  | .ok answer => return answer
  | .error error => throw error

/-- Ask something of the state. -/
def ask (question : σ → Except Error α) : Procedure σ α := do
  resume (question (← get))

/-- Refuse in a state that meets a condition. -/
def refuse (condition : σ → Prop) [DecidablePred condition] (refusal : Error) :
    Procedure σ Unit := do
  if condition (← get) then throw refusal else return ()

/-- Work on a part of the state.  The part is put back as the work has left it, also when
the work was refused. -/
def within (part : σ → Except Error τ) (put : σ → τ → σ) (work : Procedure τ α) :
    Procedure σ α := do
  let (answer, left) := (work.run.run (← ask part)).run
  modify fun state => put state left
  resume answer

end Procedure

end Acquisition
