import Acquisition.Profile.Multifunction
import Acquisition.Proofs.Follow

/-!
# Reachable benches

A bench is reachable when some commands lead to it from a driver without devices.
What holds of a device that has just been opened and is kept by adjustments, by
actions and by the growth of the store holds of every device of a reachable bench
(`Invariant.holds`).  Handles are never handed out twice, so a device that is there
after some commands was there before each of them (`found_of_run`).
-/

namespace Acquisition

namespace Bench

/-! ## Reachability -/

/-- Some commands lead to the bench from a driver without devices. -/
inductive Reachable : Bench → Prop
  | initial : Reachable .initial
  | step {bench : Bench} (reachable : Reachable bench) (command : Command) :
      Reachable (bench.step command).1

/-- The bench after some commands, with the handlers that were due on the way. -/
def run (bench : Bench) : List Command → Bench × List Due
  | [] => (bench, [])
  | command :: rest =>
      let (next, first) := bench.step command
      let (last, others) := next.run rest
      (last, first ++ others)

@[simp]
theorem run_nil (bench : Bench) : bench.run [] = (bench, []) :=
  rfl

theorem run_cons (bench : Bench) (command : Command) (rest : List Command) :
    bench.run (command :: rest) =
      (((bench.step command).1.run rest).1,
        (bench.step command).2 ++ ((bench.step command).1.run rest).2) :=
  rfl

theorem run_append (bench : Bench) (first rest : List Command) :
    (bench.run (first ++ rest)).1 = ((bench.run first).1.run rest).1 := by
  induction first generalizing bench with
  | nil => rfl
  | cons command first ih => exact ih _

/-- Commands lead from reachable benches to reachable ones. -/
theorem Reachable.run {bench : Bench} (reachable : bench.Reachable) (commands : List Command) :
    (bench.run commands).1.Reachable := by
  induction commands generalizing bench with
  | nil => exact reachable
  | cons command rest ih => exact ih (reachable.step command)

/-- Along some commands no storage that has cells changes its size. -/
theorem extends_run (bench : Bench) (commands : List Command) :
    bench.store.Extends (bench.run commands).1.store := by
  induction commands generalizing bench with
  | nil => exact .of_shape_eq rfl
  | cons command rest ih => exact (bench.extends_step command).trans (ih _)

/-! ## Handles -/

section Handles

variable {bench : Bench} {handle : Handle} {device after : Instrument}

/-- A handle that leads to a device after a command but not before it is the one that the
command handed out. -/
theorem eq_nextHandle_of_step {command : Command}
    (absent : bench.driver.instruments.get? handle = none)
    (found : (bench.step command).1.driver.instruments.get? handle = some device) :
    handle = bench.driver.nextHandle ∧
      (bench.step command).1.driver.nextHandle = bench.driver.nextHandle + 1 := by
  cases bench.change_of_step command handle with
  | opened descriptor profile next counted => exact ⟨next, counted⟩
  | kept unchanged => simp [unchanged, absent] at found
  | acted taken lookup | tuned lookup => simp [absent] at lookup
  | closed asks now => simp [now] at found

/-- A device that is there after a command but not before it has just been opened. -/
theorem initial_of_step {command : Command}
    (absent : bench.driver.instruments.get? handle = none)
    (found : (bench.step command).1.driver.instruments.get? handle = some device) :
    ∃ descriptor profile, device = .initial descriptor profile := by
  cases bench.change_of_step command handle with
  | opened descriptor profile next counted now =>
      exact ⟨descriptor, profile, Option.some.inj (found.symm.trans now)⟩
  | kept unchanged => simp [unchanged, absent] at found
  | acted taken lookup | tuned lookup => simp [absent] at lookup
  | closed asks now => simp [now] at found

/-- Only opening a device hands out a handle. -/
theorem nextHandle_step {command : Command}
    (opens : ∀ descriptor, command ≠ .request (.create descriptor)) :
    (bench.step command).1.driver.nextHandle = bench.driver.nextHandle := by
  cases asks : command.action? with
  | some asked =>
      rcases step_cases asks bench with ⟨_, _, _, _, acted, _⟩ | unchanged
      · exact acted.nextHandle
      · rw [unchanged]
  | none =>
      cases Command.plain_of_action?_eq_none asks with
      | create descriptor => exact absurd rfl (opens descriptor)
      | release released =>
          rcases bench.step_release released with ⟨_, _, closed⟩ | ⟨_, unchanged⟩
          · rw [closed]
            rfl
          · rw [unchanged]
      | attach descriptor profile => rfl
      | edit edit => rfl
      | tune tunes => exact (tunes bench).1.nextHandle

/-- The next handle never goes back. -/
theorem nextHandle_le_step (bench : Bench) (command : Command) :
    bench.driver.nextHandle ≤ (bench.step command).1.driver.nextHandle := by
  by_cases opens : ∃ descriptor, command = .request (.create descriptor)
  · rcases opens with ⟨descriptor, rfl⟩
    rcases bench.step_create descriptor with ⟨_, _, _, opened⟩ | ⟨_, unchanged⟩
    · rw [opened]
      exact Int.le_add_one (Int.le_refl _)
    · exact Int.le_of_eq (by rw [unchanged])
  · exact Int.le_of_eq (nextHandle_step fun descriptor same => opens ⟨descriptor, same⟩).symm

/-- Every device of a reachable bench is behind a handle that has been handed out. -/
theorem Reachable.issued (reachable : bench.Reachable)
    (found : bench.driver.instruments.get? handle = some device) :
    handle < bench.driver.nextHandle := by
  induction reachable generalizing device with
  | initial => simp [Bench.initial, Driver.initial] at found
  | @step bench reachable command ih =>
      cases before : bench.driver.instruments.get? handle with
      | some earlier => exact Int.lt_of_lt_of_le (ih before) (bench.nextHandle_le_step command)
      | none =>
          rcases eq_nextHandle_of_step before found with ⟨rfl, counted⟩
          rw [counted]
          exact Int.lt_succ _

/-- A device that is there after some commands was there before them. -/
theorem found_of_run {commands : List Command} (issued : handle < bench.driver.nextHandle)
    (found : (bench.run commands).1.driver.instruments.get? handle = some after) :
    ∃ device, bench.driver.instruments.get? handle = some device := by
  induction commands generalizing bench with
  | nil => exact ⟨after, found⟩
  | cons command rest ih =>
      obtain ⟨middle, later⟩ :=
        ih (Int.lt_of_lt_of_le issued (bench.nextHandle_le_step command)) found
      cases before : bench.driver.instruments.get? handle with
      | some device => exact ⟨device, rfl⟩
      | none =>
          rcases eq_nextHandle_of_step before later with ⟨same, _⟩
          exact absurd same (Int.ne_of_lt issued)

end Handles

/-! ## Scan records -/

/-- The record of the scan on a target of the device behind a handle. -/
def scan? (bench : Bench) (handle : Handle) (target : ScanTarget) : Option ScanRun :=
  (bench.driver.instruments.get? handle).bind fun device => device.scans.get? target

theorem scan?_eq_some_iff {bench : Bench} {handle : Handle} {target : ScanTarget}
    {run : ScanRun} :
    bench.scan? handle target = some run ↔
      ∃ device, bench.driver.instruments.get? handle = some device ∧
        device.scans.get? target = some run :=
  Option.bind_eq_some_iff

end Bench

namespace Command

/-- Attach a multifunction device, open it behind the handle 1 and connect to it. -/
def opening : List Command :=
  let device := Descriptor.ofIdentity "USB-1808X" 317 (.named ["USB"]) "01D97CFA"
  [.stimulus (.attach device .multifunction), .request (.create device), .request (.connect 1)]

end Command

namespace Instrument

/-- A property of a device and the storages that nothing on a bench breaks. -/
structure Invariant (P : Instrument → Store → Prop) : Prop where
  opened : ∀ descriptor profile store, P (.initial descriptor profile) store
  adjusted : ∀ {before after store}, before.Adjustment after → P before store → P after store
  acted : ∀ {action before store result}, Action.act before store action = .ok result →
    P before store → P result.1 result.2.1
  grown : ∀ {device before after}, before.Extends after → P device before → P device after

namespace Invariant

variable {P : Instrument → Store → Prop}

/-- One command keeps an invariant of all devices. -/
theorem step (invariant : Invariant P) {bench : Bench}
    (holds : ∀ {handle device}, bench.driver.instruments.get? handle = some device →
      P device bench.store) (command : Command) {handle : Handle} {device : Instrument}
    (found : (bench.step command).1.driver.instruments.get? handle = some device) :
    P device (bench.step command).1.store := by
  have growth := bench.extends_step command
  cases bench.change_of_step command handle with
  | kept unchanged => exact invariant.grown growth (holds (unchanged.symm.trans found))
  | acted taken lookup done now store =>
      rw [now, Option.some.injEq] at found
      rw [store]
      exact found ▸ invariant.acted done (holds lookup)
  | tuned lookup now adjustment =>
      rw [now, Option.some.injEq] at found
      exact invariant.grown growth (found ▸ invariant.adjusted adjustment (holds lookup))
  | opened descriptor profile next counted now =>
      rw [now, Option.some.injEq] at found
      exact found ▸ invariant.opened descriptor profile _
  | closed asks now =>
      rw [now] at found
      contradiction

/-- An invariant holds of every device of a reachable bench. -/
theorem holds (invariant : Invariant P) {bench : Bench} (reachable : bench.Reachable)
    {handle : Handle} {device : Instrument}
    (found : bench.driver.instruments.get? handle = some device) : P device bench.store := by
  induction reachable generalizing handle device with
  | initial => simp [Bench.initial, Driver.initial] at found
  | step reachable command ih => exact invariant.step ih command found

end Invariant

end Instrument

end Acquisition
