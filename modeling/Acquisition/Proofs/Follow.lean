import Acquisition.Proofs.Effect
import Acquisition.Proofs.Plain

/-!
# Following one device

A command makes the device behind a handle take at most one action (`taken?`), and only
then a handler of the device can be due (`taken?_of_due`).  `Change` lists what can
become of the device, and `change_of_step` says that nothing else does.
-/

namespace Acquisition.Bench

variable {bench : Bench} {handle : Handle} {command : Command} {action : Action}
  {device after : Instrument}

/-! ## The action that a device takes -/

/-- The action that a command makes the device behind a handle take. -/
def taken? (bench : Bench) (handle : Handle) (command : Command) : Option Action := do
  let (asked, action) ← command.action?
  let device ← bench.driver.instruments.get? handle
  if asked = handle ∧ (action.act device bench.store).isOk then some action else none

theorem taken?_eq_some_iff :
    bench.taken? handle command = some action ↔
      command.action? = some (handle, action) ∧
      ∃ device result, bench.driver.instruments.get? handle = some device ∧
        action.act device bench.store = .ok result := by
  simp only [taken?, Option.bind_eq_bind, Option.bind_eq_some_iff]
  constructor
  · rintro ⟨⟨asked, wanted⟩, asks, device, found, accepted⟩
    split at accepted
    · next holds =>
        rcases holds with ⟨rfl, answers⟩
        obtain rfl := Option.some.inj accepted
        refine ⟨asks, device, ?_⟩
        cases done : wanted.act device bench.store with
        | error error => simp [done, Except.isOk, Except.toBool] at answers
        | ok result => exact ⟨result, found, rfl⟩
    · contradiction
  · rintro ⟨asks, device, result, found, done⟩
    exact ⟨(handle, action), asks, device, found, by simp [done, Except.isOk, Except.toBool]⟩

/-- A device takes the action that a command asks it for, if it takes one at all. -/
theorem taken?_of_isSome (asks : command.action? = some (handle, action))
    (takes : (bench.taken? handle command).isSome = true) :
    bench.taken? handle command = some action := by
  rcases Option.isSome_iff_exists.mp takes with ⟨other, taken⟩
  have same := asks.symm.trans (taken?_eq_some_iff.mp taken).1
  rw [taken, (Prod.mk.inj (Option.some.inj same)).2]

/-- What a command does when the device behind a handle takes an action. -/
theorem step_of_taken? (taken : bench.taken? handle command = some action) :
    ∃ device result, bench.driver.instruments.get? handle = some device ∧
      action.act device bench.store = .ok result ∧
      bench.Acted (bench.step command).1 handle result.1 result.2.1 ∧
      (bench.step command).2 = result.2.2.map (Due.mk handle) := by
  rcases taken?_eq_some_iff.mp taken with ⟨asks, device, result, found, done⟩
  exact ⟨device, result, found, done, step_acted asks found done⟩

/-- The device that has taken an action is behind its handle. -/
theorem Acted.get?_self {before : Bench} {store : Store}
    (acted : before.Acted bench handle device store) :
    bench.driver.instruments.get? handle = some device := by
  rw [acted.instruments, Table.get?_set_self]

/-- Handlers are due only on a device that has taken an action. -/
theorem taken?_of_due {due : Due} (member : due ∈ (bench.step command).2) :
    ∃ action, bench.taken? due.handle command = some action := by
  cases asks : command.action? with
  | none =>
      rw [(Command.plain_of_action?_eq_none asks).due_eq_nil bench] at member
      contradiction
  | some asked =>
      rcases step_cases asks bench with ⟨device, result, found, done, _, due⟩ | unchanged
      · rw [due] at member
        rcases List.mem_map.mp member with ⟨firing, _, rfl⟩
        exact ⟨asked.2, taken?_eq_some_iff.mpr ⟨asks, device, result, found, done⟩⟩
      · rw [unchanged] at member
        contradiction

/-! ## What becomes of a device -/

/-- What a command can make of the device behind a handle. -/
inductive Change (bench : Bench) (command : Command) (handle : Handle) : Prop
  | kept
      (unchanged : (bench.step command).1.driver.instruments.get? handle =
        bench.driver.instruments.get? handle)
  | acted {action : Action} {device : Instrument} {result : Instrument × Store × List Firing}
      (taken : bench.taken? handle command = some action)
      (found : bench.driver.instruments.get? handle = some device)
      (done : action.act device bench.store = .ok result)
      (now : (bench.step command).1.driver.instruments.get? handle = some result.1)
      (store : (bench.step command).1.store = result.2.1)
  | tuned {device adjusted : Instrument}
      (found : bench.driver.instruments.get? handle = some device)
      (now : (bench.step command).1.driver.instruments.get? handle = some adjusted)
      (adjustment : device.Adjustment adjusted)
  | opened (descriptor : Descriptor) (profile : Profile)
      (next : handle = bench.driver.nextHandle)
      (counted : (bench.step command).1.driver.nextHandle = bench.driver.nextHandle + 1)
      (now : (bench.step command).1.driver.instruments.get? handle =
        some (.initial descriptor profile))
  | closed (asks : command = .request (.release handle))
      (now : (bench.step command).1.driver.instruments.get? handle = none)

theorem change_of_step (bench : Bench) (command : Command) (handle : Handle) :
    bench.Change command handle := by
  cases asks : command.action? with
  | some asked =>
      rcases step_cases asks bench with ⟨device, result, found, done, acted, _⟩ | unchanged
      · by_cases same : handle = asked.1
        · subst same
          have taken := taken?_eq_some_iff.mpr ⟨asks, device, result, found, done⟩
          exact .acted taken found done acted.get?_self acted.store
        · exact .kept (acted.instruments ▸ Table.get?_set_of_ne _ same _)
      · exact .kept (by rw [unchanged])
  | none =>
      cases Command.plain_of_action?_eq_none asks with
      | create descriptor =>
          rcases bench.step_create descriptor with ⟨known, profile, _, opened⟩ | ⟨_, unchanged⟩
          · by_cases same : handle = bench.driver.nextHandle
            · subst same
              refine .opened known profile rfl ?_ ?_
              · rw [opened]; rfl
              · rw [opened]; exact Table.get?_set_self _ _ _
            · exact .kept (by rw [opened]; exact Table.get?_set_of_ne _ same _)
          · exact .kept (by rw [unchanged])
      | release released =>
          rcases bench.step_release released with ⟨_, _, closed⟩ | ⟨_, unchanged⟩
          · by_cases same : handle = released
            · subst same
              exact .closed rfl (by rw [closed]; exact Table.get?_erase_self _ _)
            · exact .kept (by rw [closed]; exact Table.get?_erase_of_ne _ same)
          · exact .kept (by rw [unchanged])
      | attach descriptor profile => exact .kept rfl
      | edit edit => exact .kept rfl
      | tune tunes =>
          rcases (tunes bench).1.devices handle with unchanged | ⟨_, _, found, now, adjustment⟩
          · exact .kept unchanged
          · exact .tuned found now adjustment

/-- No command changes the size of a storage that has cells. -/
theorem extends_step (bench : Bench) (command : Command) :
    bench.store.Extends (bench.step command).1.store := by
  cases asks : command.action? with
  | some asked =>
      rcases step_cases asks bench with ⟨_, _, _, done, acted, _⟩ | unchanged
      · rw [acted.store]
        exact .of_shape_eq (Action.shape_of_act done)
      · rw [unchanged]
        exact .of_shape_eq rfl
  | none =>
      have plain := Command.plain_of_action?_eq_none asks
      cases command with
      | edit edit => exact Store.extends_edit _ edit
      | request | stimulus =>
          exact .of_shape_eq (congrArg Store.shape (plain.store_eq nofun bench))

/-- A device that takes no action keeps what scans and events depend on. -/
theorem alike_of_taken?_eq_none (idle : bench.taken? handle command = none)
    (found : bench.driver.instruments.get? handle = some device)
    (still : (bench.step command).1.driver.instruments.get? handle = some after)
    (issued : handle < bench.driver.nextHandle) : device.Alike after := by
  cases bench.change_of_step command handle with
  | kept unchanged =>
      obtain rfl := Option.some.inj (found.symm.trans (unchanged.symm.trans still))
      exact .refl device
  | acted taken =>
      rw [idle] at taken
      contradiction
  | tuned lookup now adjustment =>
      obtain rfl := Option.some.inj (found.symm.trans lookup)
      obtain rfl := Option.some.inj (now.symm.trans still)
      exact adjustment.alike
  | opened descriptor profile next => exact absurd next (Int.ne_of_lt issued)
  | closed asks now =>
      rw [now] at still
      contradiction

end Acquisition.Bench
