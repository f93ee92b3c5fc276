import Acquisition.Procedure

/-!
# Procedures that do an operation

An operation on a state refuses without a state of its own, so a refused one has changed
nothing.  A procedure does an operation (`Procedure.Does`) when it ends as the operation does
and leaves the state alone where it is refused.

Questions and refusals may stand before any procedure (`Does.ask_bind`, `Does.refuse_bind`),
but only what refuses nothing may stand after a change (`Does.bind_total`).
-/

namespace Acquisition.Procedure

variable {σ τ α β : Type}

/-- The answer of a procedure on a state, and the state that it leaves. -/
def on (procedure : Procedure σ α) (state : σ) : Except Error α × σ :=
  procedure.run.run state

/-- How an operation ends on a state, and the state afterwards. -/
def settle (operation : σ → Except Error (α × σ)) (state : σ) : Except Error α × σ :=
  match operation state with
  | .ok (answer, after) => (.ok answer, after)
  | .error error => (.error error, state)

/-- A procedure ends as an operation does, and where it is refused it changes nothing. -/
def Does (procedure : Procedure σ α) (operation : σ → Except Error (α × σ)) : Prop :=
  ∀ state, procedure.on state = settle operation state

/-- A procedure without an answer ends as a change does, and where it is refused it changes
nothing. -/
def Makes (procedure : Procedure σ Unit) (change : σ → Except Error σ) : Prop :=
  procedure.Does fun state => do return ((), ← change state)

variable {operation : σ → Except Error (α × σ)} {state : σ}

theorem settle_of_ok {answer : α} {after : σ} (accepted : operation state = .ok (answer, after)) :
    settle operation state = (.ok answer, after) := by
  rw [settle, accepted]

theorem settle_of_error {error : Error} (refused : operation state = .error error) :
    settle operation state = (.error error, state) := by
  rw [settle, refused]

theorem Does.congr {procedure : Procedure σ α} {first second : σ → Except Error (α × σ)}
    (does : procedure.Does first) (same : ∀ state, first state = second state) :
    procedure.Does second := by
  rwa [← funext same]

/-! ## Single steps -/

/-- What a sequence comes to on a state. -/
theorem on_bind (first : Procedure σ α) (next : α → Procedure σ β) (state : σ) :
    (first >>= next).on state =
      match first.on state with
      | (.ok answer, after) => (next answer).on after
      | (.error error, after) => (.error error, after) := by
  simp only [on, ExceptT.run_bind, StateT.run_bind]
  rcases first.run.run state with ⟨answer | answer, after⟩ <;> rfl

theorem on_resume (answer : Except Error α) (state : σ) :
    (resume answer : Procedure σ α).on state = (answer, state) := by
  cases answer <;> rfl

theorem on_ask (question : σ → Except Error α) (state : σ) :
    (ask question).on state = (question state, state) :=
  on_resume (question state) state

theorem on_refuse (condition : σ → Prop) [DecidablePred condition] (refusal : Error) (state : σ) :
    (refuse condition refusal).on state =
      if condition state then (.error refusal, state) else (.ok (), state) := by
  show (if condition state then throw refusal else pure () : Procedure σ Unit).on state = _
  split <;> rfl

/-- Work on a part leaves the part as the work left it, also when the work was refused. -/
theorem on_within (part : σ → Except Error τ) (put : σ → τ → σ) (work : Procedure τ α)
    (state : σ) :
    (within part put work).on state =
      match part state with
      | .ok piece => ((work.on piece).1, put state (work.on piece).2)
      | .error error => (.error error, state) := by
  rw [within, on_bind, on_ask]
  cases part state with
  | error error => rfl
  | ok piece => exact on_resume (work.on piece).1 (put state (work.on piece).2)

theorem does_pure (answer : α) :
    (pure answer : Procedure σ α).Does fun state => .ok (answer, state) :=
  fun _ => rfl

theorem does_modify (change : σ → σ) :
    (modify change : Procedure σ Unit).Does fun state => .ok ((), change state) :=
  fun _ => rfl

/-! ## Sequences -/

/-- A question may stand before any procedure. -/
theorem Does.ask_bind {question : σ → Except Error α} {next : α → Procedure σ β}
    {rest : α → σ → Except Error (β × σ)} (does : ∀ answer, (next answer).Does (rest answer)) :
    (ask question >>= next).Does fun state =>
      question state >>= fun answer => rest answer state := by
  intro state
  rw [on_bind, on_ask]
  cases asked : question state with
  | error error => exact (settle_of_error (by rw [asked]; rfl)).symm
  | ok answer =>
      rw [settle, asked]
      exact does answer state

/-- Looking at the state may stand before any procedure. -/
theorem Does.get_bind {next : σ → Procedure σ α}
    (does : ∀ state, (next state).on state = settle operation state) :
    (get >>= next).Does operation :=
  does

/-- A refusal may stand before any procedure. -/
theorem Does.refuse_bind {condition : σ → Prop} [DecidablePred condition] {refusal : Error}
    {next : Procedure σ β} {rest : σ → Except Error (β × σ)} (does : next.Does rest) :
    (refuse condition refusal >>= fun _ => next).Does fun state =>
      if condition state then .error refusal else rest state := by
  intro state
  rw [on_bind, on_refuse]
  by_cases meets : condition state
  · simp only [settle, meets, if_true]
  · simp only [settle, meets, if_false]
    exact does state

/-- Only what refuses nothing may stand after a procedure that may have changed something. -/
theorem Does.bind_total {first : Procedure σ α} {next : α → Procedure σ β}
    {rest : α → σ → β × σ} (does : first.Does operation)
    (total : ∀ answer, (next answer).Does fun state => .ok (rest answer state)) :
    (first >>= next).Does fun state => do
      let (answer, after) ← operation state
      return rest answer after := by
  intro state
  rw [on_bind, does state]
  cases done : operation state with
  | error error =>
      rw [settle_of_error done]
      exact (settle_of_error (by rw [done]; rfl)).symm
  | ok ended =>
      rw [settle_of_ok done]
      exact (total ended.1 ended.2).trans (settle_of_ok (by rw [done]; rfl)).symm

/-- What refuses nothing may stand after a change. -/
theorem Does.modify_bind {change : σ → σ} {next : Procedure σ β} {rest : σ → β × σ}
    (total : next.Does fun state => .ok (rest state)) :
    (modify change >>= fun _ => next).Does fun state => .ok (rest (change state)) :=
  (does_modify change).bind_total fun _ => total

/-- What is done on a part is done on the whole, if putting a part back unchanged changes
nothing. -/
theorem Does.within {part : σ → Except Error τ} {put : σ → τ → σ} {work : Procedure τ α}
    {operation : τ → Except Error (α × τ)} (does : work.Does operation)
    (back : ∀ {state piece}, part state = .ok piece → put state piece = state) :
    (Procedure.within part put work).Does fun state => do
      let (answer, left) ← operation (← part state)
      return (answer, put state left) := by
  intro state
  rw [on_within]
  cases taken : part state with
  | error error => exact (settle_of_error (by rw [taken]; rfl)).symm
  | ok piece =>
      show ((work.on piece).1, put state (work.on piece).2) = _
      rw [does piece]
      cases done : operation piece with
      | error error =>
          rw [settle_of_error done, back taken]
          exact (settle_of_error (by simp [taken, done, bind, Except.bind])).symm
      | ok ended =>
          rw [settle_of_ok done]
          exact (settle_of_ok (by simp [taken, done, bind, Except.bind, pure, Except.pure])).symm

/-! ## Changes without an answer -/

theorem Makes.congr {procedure : Procedure σ Unit} {first second : σ → Except Error σ}
    (makes : procedure.Makes first) (same : ∀ state, first state = second state) :
    procedure.Makes second := by
  rwa [← funext same]

theorem makes_modify (change : σ → σ) :
    (modify change : Procedure σ Unit).Makes fun state => .ok (change state) :=
  does_modify change

theorem Makes.ask_bind {question : σ → Except Error α} {next : α → Procedure σ Unit}
    {rest : α → σ → Except Error σ} (makes : ∀ answer, (next answer).Makes (rest answer)) :
    (ask question >>= next).Makes fun state =>
      question state >>= fun answer => rest answer state :=
  (Does.ask_bind makes).congr fun _ => (bind_assoc _ _ _).symm

theorem Makes.refuse_bind {condition : σ → Prop} [DecidablePred condition] {refusal : Error}
    {next : Procedure σ Unit} {rest : σ → Except Error σ} (makes : next.Makes rest) :
    (refuse condition refusal >>= fun _ => next).Makes fun state =>
      if condition state then .error refusal else rest state :=
  (Does.refuse_bind makes).congr fun state => by
    show _ = (if condition state then .error refusal else rest state) >>= fun left => pure ((), left)
    split <;> rfl

theorem Makes.modify_bind {change : σ → σ} {next : Procedure σ Unit} {rest : σ → σ}
    (total : next.Makes fun state => .ok (rest state)) :
    (modify change >>= fun _ => next).Makes fun state => .ok (rest (change state)) :=
  Does.modify_bind (total : next.Does fun state => .ok ((), rest state))

theorem Makes.within {part : σ → Except Error τ} {put : σ → τ → σ} {work : Procedure τ Unit}
    {change : τ → Except Error τ} (makes : work.Makes change)
    (back : ∀ {state piece}, part state = .ok piece → put state piece = state) :
    (Procedure.within part put work).Makes fun state => do
      return put state (← change (← part state)) :=
  (Does.within makes back).congr fun state => by simp only [bind_assoc, pure_bind]

end Acquisition.Procedure
