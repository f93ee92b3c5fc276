import Acquisition.Proofs.Reachable
import Mathlib.Data.List.Forall2

/-!
# The ports of a device

A command leaves the list of ports what it is: a request or a level from outside gives one port
a turn (`Port.Turn`), and only an output scan that moves rows does more, to the latches of the
ports among its columns.  `Port.Retained` and `Port.Driven` say what becomes of each port.  So
the ports of a device are always those that its profile reports (`forms_invariant`).
-/

namespace Acquisition

/-! ## Lists of ports -/

namespace Port

variable {R : Port → Port → Prop}

theorem forall₂_trans (trans : ∀ {first middle last}, R first middle → R middle last → R first last)
    {first middle last : List Port} (left : List.Forall₂ R first middle)
    (right : List.Forall₂ R middle last) : List.Forall₂ R first last := by
  induction left generalizing last with
  | nil => exact right
  | cons head _ ih =>
      cases right with
      | cons next rest => exact .cons (trans head next) (ih rest)

/-- Changing the first port of a kind changes no other one. -/
theorem forall₂_updateFirst [Std.Refl R] {kind : PortKind} {change : Port → Except Error Port}
    (turns : ∀ ⦃port changed : Port⦄, port.kind = kind → change port = .ok changed →
      R port changed)
    {ports changed : List Port} (done : updateFirst kind change ports = .ok changed) :
    List.Forall₂ R ports changed := by
  induction ports generalizing changed with
  | nil => simp [updateFirst] at done
  | cons port rest ih =>
      by_cases hit : port.kind = kind
      · simp only [updateFirst, hit, if_true, bind_eq_ok_iff, pure_eq_ok_iff] at done
        rcases done with ⟨replaced, accepted, rfl⟩
        exact .cons (turns hit accepted) (List.forall₂_refl rest)
      · simp only [updateFirst, hit, if_false, bind_eq_ok_iff, pure_eq_ok_iff] at done
        rcases done with ⟨others, accepted, rfl⟩
        exact .cons (Std.Refl.refl port) (ih accepted)

/-- What is said of each port holds of the one at a position. -/
theorem getElem?_of_forall₂ {before after : List Port} (each : List.Forall₂ R before after)
    {index : Nat} {port : Port} (listed : before[index]? = some port) :
    ∃ later, after[index]? = some later ∧ R port later := by
  induction each generalizing index with
  | nil => contradiction
  | cons head _ ih =>
      cases index with
      | zero =>
          obtain rfl := Option.some.inj listed
          exact ⟨_, rfl, head⟩
      | succ index => exact ih listed

/-- Ports that each keep their form have the same forms. -/
theorem forms_of_forall₂ {before after : List Port}
    (each : List.Forall₂ (fun port later => later.form = port.form) before after) :
    after.map form = before.map form := by
  induction each with
  | nil => rfl
  | cons head _ ih => rw [List.map_cons, List.map_cons, head, ih]

instance : Std.Refl Retained :=
  ⟨fun _ => {}⟩

/-- A port to which some columns may have been put out: nothing but its latch has changed, and
that only if the port is among the columns. -/
structure Driven (columns : List Column) (before after : Port) : Prop where
  same : after = { before with latch := after.latch } := by rfl
  latch : .port before.kind ∉ columns → after.latch = before.latch

instance (columns : List Column) : Std.Refl (Driven columns) :=
  ⟨fun _ => { latch := fun _ => rfl }⟩

theorem Driven.kind {columns : List Column} {before after : Port}
    (driven : before.Driven columns after) : after.kind = before.kind := by
  rw [driven.same]

theorem Driven.form {columns : List Column} {before after : Port}
    (driven : before.Driven columns after) : after.form = before.form := by
  rw [driven.same]
  rfl

theorem Driven.trans {columns : List Column} {first middle last : Port}
    (left : first.Driven columns middle) (right : middle.Driven columns last) :
    first.Driven columns last where
  same := by
    rw [right.same, left.same]
  latch outside := by
    rw [right.latch (left.kind ▸ outside), left.latch outside]

/-- What is put out to fewer columns changes no more. -/
theorem Driven.mono {columns others : List Column} {before after : Port}
    (driven : before.Driven columns after) (within : columns ⊆ others) :
    before.Driven others after where
  same := driven.same
  latch outside := driven.latch fun member => outside (within member)

end Port

namespace Instrument

variable {instrument : Instrument} {store : Store} {target : ScanTarget} {run : ScanRun}

/-! ## Rows -/

theorem ports_sample (column : Column) : (instrument.sample column).2.ports = instrument.ports := by
  cases column with
  | analog channel => rfl
  | counter counter => rfl
  | port kind =>
      simp only [sample]
      split <;> rfl

theorem ports_acquire (buffer : ScanBuffer) (columns : List Column) (index : Nat)
    (instrument : Instrument) (store : Store) :
    (acquire buffer columns index instrument store).1.ports = instrument.ports := by
  induction columns generalizing index instrument store with
  | nil => rfl
  | cons column rest ih => exact (ih _ _ _).trans (ports_sample column)

theorem ports_drive (value : Float) (column : Column) (instrument : Instrument) :
    List.Forall₂ (Port.Driven [column]) instrument.ports (instrument.drive value column).ports := by
  cases column with
  | analog channel => exact List.forall₂_refl _
  | counter counter => exact List.forall₂_refl _
  | port kind =>
      simp only [drive]
      split
      · next ports updated =>
          refine Port.forall₂_updateFirst ?_ updated
          rintro port changed rfl accepted
          obtain rfl := Except.ok.inj accepted
          exact { latch := fun outside => absurd (List.mem_singleton_self _) outside }
      · exact List.forall₂_refl _

theorem ports_generate (buffer : ScanBuffer) (store : Store) (columns : List Column)
    (index : Nat) (instrument : Instrument) :
    List.Forall₂ (Port.Driven columns) instrument.ports
      (generate buffer store columns index instrument).ports := by
  induction columns generalizing index instrument with
  | nil => exact List.forall₂_refl _
  | cons column rest ih =>
      have later (after : Instrument) : List.Forall₂ (Port.Driven (column :: rest)) after.ports
          (generate buffer store rest (index + 1) after).ports :=
        (ih (index + 1) after).imp fun _ _ driven => driven.mono (List.subset_cons_self _ _)
      simp only [generate]
      split
      · next value _ =>
          have first := (ports_drive value column instrument).imp fun _ _ driven =>
            driven.mono (List.cons_subset_cons column (List.nil_subset rest))
          exact Port.forall₂_trans .trans first (later _)
      · exact later _

theorem ports_moveRow_of_input (input : target.isInput = true) (instrument : Instrument)
    (store : Store) (run : ScanRun) :
    (instrument.moveRow store target run).1.ports = instrument.ports := by
  simp only [moveRow, moveSamples, input, if_true]
  exact ports_acquire _ _ _ _ _

theorem ports_moveRow (target : ScanTarget) (instrument : Instrument) (store : Store)
    (run : ScanRun) :
    List.Forall₂ (Port.Driven run.columns) instrument.ports
      (instrument.moveRow store target run).1.ports := by
  cases input : target.isInput with
  | true =>
      rw [ports_moveRow_of_input input]
      exact List.forall₂_refl _
  | false =>
      simp only [moveRow, moveSamples, input, Bool.false_eq_true, if_false]
      exact ports_generate _ _ _ _ _

/-- An input scan that advances leaves the ports alone. -/
theorem ports_advance_of_input (input : target.isInput = true) (rows : Nat)
    (instrument : Instrument) (store : Store) :
    (advance target rows instrument store).1.ports = instrument.ports := by
  refine advance_induction (P := fun later _ => later.ports = instrument.ports) ?_ rows rfl
  intro later store run kept _
  rw [ports_moveRow_of_input input, kept]

/-- A scan that advances changes nothing of the ports but the latches of those among its
columns. -/
theorem ports_advance (running : instrument.running? target = some run) (rows : Nat)
    (store : Store) :
    List.Forall₂ (Port.Driven run.columns) instrument.ports
      (advance target rows instrument store).1.ports := by
  induction rows generalizing instrument store run with
  | zero => exact List.forall₂_refl _
  | succ rows ih =>
      have first := ports_moveRow target instrument store run
      rw [advance_succ running]
      cases still : (instrument.moveRow store target run).1.running? target with
      | none =>
          simp only [advance_of_not_running still]
          exact first
      | some next =>
          have rest := ih still (instrument.moveRow store target run).2.1
          rw [running?_moveRow] at still
          split at still
          · obtain rfl := Option.some.inj still
            exact Port.forall₂_trans .trans first rest
          · contradiction

/-! ## Actions and adjustments -/

theorem ports_settle (instrument : Instrument) (scan : ScanStart) :
    (scan.settle instrument).ports = instrument.ports := by
  have cleared (low : Int) (count : Nat) (instrument : Instrument) :
      (clearCounters low count instrument).ports = instrument.ports := by
    induction count generalizing low instrument with
    | zero => rfl
    | succ count ih => exact ih _ _
  cases scan with
  | counters request flags buffer =>
      simp only [ScanStart.settle]
      split
      · rfl
      · exact cleared _ _ _
  | _ => rfl

/-- An action that moves no scan leaves the ports alone. -/
theorem ports_of_unmoved {action : Action} {result : Instrument × Store × List Firing}
    (done : action.act instrument store = .ok result) (unmoved : action.moved? = none) :
    result.1.ports = instrument.ports := by
  cases started : action.started? with
  | some target =>
      obtain ⟨scan, rfl, _⟩ := Action.start_of_started? started
      obtain ⟨_, columns, rate, _, _, rfl⟩ := Action.act_start_eq_ok_iff.mp done
      exact ports_settle _ scan
  | none =>
      obtain ⟨_, _, _, _, _, same⟩ := Action.eq_of_still done started unmoved
      rw [same]

/-- An adjustment gives one port a turn at most. -/
theorem Adjustment.ports {before after : Instrument} (adjustment : before.Adjustment after) :
    List.Forall₂ Port.Retained before.ports after.ports := by
  rcases adjustment.cases with ⟨_, same⟩ | ⟨kind, change, turns, done⟩
  · rw [same]
    exact List.forall₂_refl _
  · simp only [updatePort, bind_eq_ok_iff, pure_eq_ok_iff] at done
    rcases done with ⟨changed, updated, rfl⟩
    exact Port.forall₂_updateFirst (fun _ _ _ accepted => (turns accepted).retained) updated

/-! ## What the profile reports -/

/-- The ports of a device are those that its profile reports. -/
def HasForms (instrument : Instrument) : Prop :=
  instrument.ports.map Port.form = (portsOf instrument.profile).map Port.form

theorem HasForms.kinds {instrument : Instrument} (forms : instrument.HasForms) :
    instrument.ports.map Port.kind = (portsOf instrument.profile).map Port.kind := by
  have firsts := congrArg (List.map Prod.fst) forms
  rwa [List.map_map, List.map_map] at firsts

theorem HasForms.of_ports {before after : Instrument} (forms : before.HasForms)
    (ports : List.Forall₂ (fun port later => later.form = port.form) before.ports after.ports)
    (profile : after.profile = before.profile) : after.HasForms := by
  rw [HasForms, Port.forms_of_forall₂ ports, profile]
  exact forms

/-- No action changes what a device reports. -/
theorem profile_of_act {action : Action} {result : Instrument × Store × List Firing}
    (done : action.act instrument store = .ok result) :
    result.1.profile = instrument.profile := by
  obtain ⟨_, _, _, _, _, _, _, _, rest⟩ := Action.rest_of_act done
  rw [rest]

theorem HasForms.act {action : Action} {result : Instrument × Store × List Firing}
    (forms : instrument.HasForms) (done : action.act instrument store = .ok result) :
    result.1.HasForms := by
  refine forms.of_ports ?_ (profile_of_act done)
  cases moved : action.moved? with
  | none =>
      rw [ports_of_unmoved done moved]
      exact List.forall₂_same.mpr fun _ _ => rfl
  | some target =>
      obtain ⟨rows, rfl⟩ := Action.advance_of_act moved done
      cases running : instrument.running? target with
      | none =>
          rw [advance_of_not_running running]
          exact List.forall₂_same.mpr fun _ _ => rfl
      | some run =>
          exact (ports_advance running rows store).imp fun _ _ driven => driven.form

theorem HasForms.adjust {before after : Instrument} (forms : before.HasForms)
    (adjustment : before.Adjustment after) : after.HasForms :=
  forms.of_ports (adjustment.ports.imp fun _ _ retained => retained.form)
    adjustment.alike.profile

/-- Nothing on a bench changes which ports a device has. -/
theorem forms_invariant : Invariant fun instrument _ => instrument.HasForms where
  opened _ _ _ := rfl
  adjusted adjustment forms := forms.adjust adjustment
  acted done forms := forms.act done
  grown _ forms := forms

end Instrument

namespace Bench

variable {bench : Bench} {handle : Handle} {device after : Instrument}

/-- No command changes what a device reports. -/
theorem profile_of_step {command : Command}
    (found : bench.driver.instruments.get? handle = some device)
    (still : (bench.step command).1.driver.instruments.get? handle = some after)
    (issued : handle < bench.driver.nextHandle) : after.profile = device.profile := by
  cases bench.change_of_step command handle with
  | kept unchanged =>
      obtain rfl := Option.some.inj (found.symm.trans (unchanged.symm.trans still))
      rfl
  | acted taken there done now =>
      obtain rfl := Option.some.inj (found.symm.trans there)
      obtain rfl := Option.some.inj (now.symm.trans still)
      exact Instrument.profile_of_act done
  | tuned there now adjustment =>
      obtain rfl := Option.some.inj (found.symm.trans there)
      obtain rfl := Option.some.inj (now.symm.trans still)
      exact adjustment.alike.profile
  | opened descriptor profile next => exact absurd next (Int.ne_of_lt issued)
  | closed asks now =>
      rw [now] at still
      contradiction

theorem profile_of_run {commands : List Command}
    (found : bench.driver.instruments.get? handle = some device)
    (still : (bench.run commands).1.driver.instruments.get? handle = some after)
    (issued : handle < bench.driver.nextHandle) : after.profile = device.profile := by
  induction commands generalizing bench device with
  | nil =>
      obtain rfl := Option.some.inj (found.symm.trans still)
      rfl
  | cons command rest ih =>
      have later := Int.lt_of_lt_of_le issued (bench.nextHandle_le_step command)
      obtain ⟨middle, between⟩ := found_of_run later still
      exact (ih between still later).trans (profile_of_step found between issued)

end Bench

end Acquisition
