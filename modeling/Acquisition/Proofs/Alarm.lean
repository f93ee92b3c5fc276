import Acquisition.Proofs.Bits
import Acquisition.Proofs.Effect
import Acquisition.Proofs.Reachable

/-!
# Alarms for available data

Of the bindings of a device, the events for available data depend only on the alarms:
the period, the threshold and the handler of each binding for that kind of event.
An input scan rearms the alarms when it starts and passes them with every row; nothing
else touches a threshold.
-/

namespace Acquisition

/-- What a binding for available data waits for. -/
structure Alarm where
  period : Nat
  threshold : Nat
  handler : Handler
  deriving DecidableEq, Repr

namespace Alarm

/-- Wait for the first period of a new input scan. -/
def rearm (alarm : Alarm) : Alarm :=
  { alarm with threshold := alarm.period }

/-- Move the threshold on if a scan count has reached it. -/
def pass (alarm : Alarm) (count : Nat) : Alarm :=
  if alarm.threshold ≤ count then { alarm with threshold := alarm.threshold + alarm.period }
  else alarm

/-- The firing of an alarm whose threshold has been reached. -/
def firing? (alarm : Alarm) (transfer : Transfer) : Option Firing :=
  if alarm.threshold ≤ transfer.scanCount then
    some ⟨alarm.handler, EventKind.dataAvailable, transfer.totalCount⟩
  else none

end Alarm

namespace Binding

/-- The alarm of a binding, if it is for available data. -/
def alarm? (binding : Binding) : Option Alarm :=
  if binding.kinds.contains EventKind.dataAvailable then
    some ⟨binding.period, binding.threshold, binding.handler⟩
  else none

variable (binding : Binding)

theorem alarm?_rearm : binding.rearm.alarm? = binding.alarm?.map Alarm.rearm := by
  cases waits : binding.kinds.contains EventKind.dataAvailable <;>
    simp [alarm?, rearm, waits, Alarm.rearm]

theorem alarm?_pass (transfer : Transfer) :
    (binding.pass transfer).alarm? =
      binding.alarm?.map fun alarm => alarm.pass transfer.scanCount := by
  cases waits : binding.kinds.contains EventKind.dataAvailable with
  | false => simp [pass, isDue, alarm?, waits]
  | true =>
      by_cases due : binding.threshold ≤ transfer.scanCount
      · simp [pass, isDue, alarm?, Alarm.pass, waits, due]
      · simp [pass, isDue, alarm?, Alarm.pass, waits, due]

theorem dataFiring?_eq (transfer : Transfer) :
    binding.dataFiring? transfer = binding.alarm?.bind fun alarm => alarm.firing? transfer := by
  cases waits : binding.kinds.contains EventKind.dataAvailable with
  | false => simp [dataFiring?, isDue, alarm?, waits]
  | true => simp [dataFiring?, isDue, alarm?, Alarm.firing?, waits]

theorem alarm?_without (kinds : Flags .event) :
    (binding.without kinds).alarm? =
      if kinds.intersects EventKind.dataAvailable then none else binding.alarm? := by
  simp only [alarm?, without, Flags.contains_remove]
  cases kinds.intersects EventKind.dataAvailable <;> simp

theorem kind_of_dataFiring? {transfer : Transfer} {firing : Firing}
    (fires : binding.dataFiring? transfer = some firing) :
    firing.kind = EventKind.dataAvailable := by
  unfold dataFiring? at fires
  split at fires
  · exact (Option.some.inj fires) ▸ rfl
  · contradiction

/-- A binding that has an alarm has kinds left. -/
theorem isEmpty_of_alarm? {alarm : Alarm} (waits : binding.alarm? = some alarm) :
    binding.kinds.isEmpty = false := by
  cases empty : binding.kinds.isEmpty with
  | false => rfl
  | true =>
      have none : binding.kinds.bits = 0 := by simpa [Flags.isEmpty] using empty
      simp [alarm?, Flags.contains, none, EventKind.dataAvailable] at waits

end Binding

/-- The firings for available data. -/
def dataFirings (firings : List Firing) : List Firing :=
  firings.filter fun firing => firing.kind = EventKind.dataAvailable

@[simp]
theorem dataFirings_append (left right : List Firing) :
    dataFirings (left ++ right) = dataFirings left ++ dataFirings right :=
  List.filter_append _ _

theorem dataFirings_firing? (bindings : List Binding) {kind : Flags .event} (data : Nat)
    (other : kind ≠ EventKind.dataAvailable) :
    dataFirings (Binding.firing? bindings kind data).toList = [] := by
  unfold Binding.firing?
  cases bindings.find? fun binding => binding.kinds.contains kind <;> simp [dataFirings, other]

namespace Instrument

/-- The alarms of a device. -/
def alarms (instrument : Instrument) : List Alarm :=
  instrument.bindings.filterMap Binding.alarm?

/-! ## Rows -/

section Row

variable (instrument : Instrument) (store : Store) (target : ScanTarget) (run : ScanRun)

/-- A row of an input scan passes the alarms. -/
theorem alarms_moveRow :
    (instrument.moveRow store target run).1.alarms =
      if target.isInput then
        instrument.alarms.map fun alarm => alarm.pass run.next.transfer.scanCount
      else instrument.alarms := by
  unfold alarms
  rw [moveRow_bindings]
  split
  · rw [List.filterMap_map, List.map_filterMap]
    exact congrArg (List.filterMap · _) (funext fun binding => binding.alarm?_pass _)
  · rfl

/-- A row of an input scan fires the alarms that it reaches, and one of an output scan
fires none. -/
theorem dataFirings_moveRow :
    dataFirings (instrument.moveRow store target run).2.2 =
      if target.isInput then
        instrument.alarms.filterMap fun alarm => alarm.firing? run.next.transfer
      else [] := by
  rw [moveRow_firings, rowFirings, dataFirings_append]
  have complete : dataFirings (if run.next.isRunning then none else
      Binding.firing? instrument.bindings (EventKind.completion target)
        run.next.transfer.totalCount).toList = [] := by
    split
    · rfl
    · exact dataFirings_firing? _ _ (by cases target <;> decide)
  rw [complete, List.append_nil]
  split
  · rw [alarms, List.filterMap_filterMap]
    have same : dataFirings (instrument.bindings.filterMap fun binding =>
        binding.dataFiring? run.next.transfer) =
          instrument.bindings.filterMap fun binding => binding.dataFiring? run.next.transfer := by
      apply List.filter_eq_self.mpr
      intro firing member
      rcases List.mem_filterMap.mp member with ⟨binding, _, fired⟩
      exact decide_eq_true (binding.kind_of_dataFiring? fired)
    rw [same]
    exact congrArg (List.filterMap · _) (funext fun binding => binding.dataFiring?_eq _)
  · rfl

end Row

end Instrument

/-! ## Actions -/

namespace Action

/-- What an action that moves no scan makes of the alarms. -/
def realarm (alarms : List Alarm) : Action → List Alarm
  | enableEvents kinds period handler =>
      if kinds.contains EventKind.dataAvailable then alarms ++ [⟨period, period, handler⟩]
      else alarms
  | disableEvents kinds => if kinds.intersects EventKind.dataAvailable then [] else alarms
  | start scan => if scan.target.isInput then alarms.map Alarm.rearm else alarms
  | _ => alarms

theorem filterMap_alarm?_rebind (bindings : List Binding) (action : Action) :
    (action.rebind bindings).filterMap Binding.alarm? =
      action.realarm (bindings.filterMap Binding.alarm?) := by
  cases action with
  | enableEvents kinds period handler =>
      cases waits : kinds.contains EventKind.dataAvailable <;>
        simp [rebind, realarm, waits, Binding.alarm?]
  | disableEvents kinds =>
      have kept : (fun binding : Binding =>
          if !binding.kinds.isEmpty then binding.alarm? else none) = Binding.alarm? := by
        funext binding
        cases waits : binding.alarm? with
        | none => simp
        | some alarm => simp [binding.isEmpty_of_alarm? waits]
      have told : Binding.alarm? ∘ (Binding.without · kinds) = fun binding =>
          if kinds.intersects EventKind.dataAvailable then none else binding.alarm? :=
        funext fun binding => binding.alarm?_without kinds
      simp only [rebind, realarm, List.filterMap_filter, kept, List.filterMap_map, told]
      split
      · exact List.filterMap_eq_nil_iff.mpr fun _ _ => rfl
      · rfl
  | start scan =>
      cases input : scan.target.isInput
      · simp [rebind, realarm, input]
      · simp only [rebind, realarm, input, if_true, List.filterMap_map, List.map_filterMap]
        exact congrArg (List.filterMap · _) (funext fun binding => binding.alarm?_rearm)
  | _ => rfl

variable {action : Action} {instrument : Instrument} {store : Store}
  {result : Instrument × Store × List Firing}

theorem alarms_of_act (done : action.act instrument store = .ok result)
    (unmoved : action.moved? = none) :
    result.1.alarms = action.realarm instrument.alarms := by
  rw [Instrument.alarms, bindings_of_act done unmoved, filterMap_alarm?_rebind]
  rfl

/-- Only a scan that moves fires for available data. -/
theorem dataFirings_of_act (done : action.act instrument store = .ok result)
    (unmoved : action.moved? = none) : dataFirings result.2.2 = [] := by
  cases action with
  | connect | enableEvents =>
      simp only [act, bind_eq_ok_iff, pure_eq_ok_iff] at done
      rcases done with ⟨_, _, rfl⟩
      rfl
  | loadQueue | start =>
      simp only [act, bind_eq_ok_iff, pure_eq_ok_iff] at done
      rcases done with ⟨_, _, _, _, rfl⟩
      rfl
  | disconnect | unplug | disableEvents | halt =>
      obtain rfl := Except.ok.inj done
      rfl
  | abort other error =>
      obtain rfl := Except.ok.inj done
      change dataFirings (instrument.abortScan other error).2 = []
      unfold Instrument.abortScan
      split
      · exact dataFirings_firing? _ _ (by cases other <;> decide)
      · rfl
  | advance | finish => simp [moved?] at unmoved

end Action

namespace Instrument

/-- An output scan that advances fires nothing for available data and keeps the alarms. -/
theorem advance_of_output {target : ScanTarget} (output : target.isInput = false) (rows : Nat)
    (instrument : Instrument) (store : Store) :
    dataFirings (advance target rows instrument store).2.2 = [] ∧
      (advance target rows instrument store).1.alarms = instrument.alarms := by
  refine ⟨?_, congrArg (List.filterMap _) (advance_bindings_of_output output rows _ _)⟩
  induction rows generalizing instrument store with
  | zero => rfl
  | succ rows ih =>
      cases running : instrument.running? target with
      | none => rw [advance_of_not_running running]; rfl
      | some run =>
          rw [advance_succ running, dataFirings_append, dataFirings_moveRow, output, ih]
          rfl

/-! ## One alarm -/

/-- At most one binding of a device is for available data, and its period is positive. -/
structure Singular (instrument : Instrument) : Prop where
  one : instrument.alarms.length ≤ 1
  period_pos : ∀ alarm ∈ instrument.alarms, 0 < alarm.period

theorem Singular.of_alarms_eq {before after : Instrument} (singular : before.Singular)
    (same : after.alarms = before.alarms) : after.Singular :=
  ⟨same ▸ singular.one, same ▸ singular.period_pos⟩

theorem Singular.of_alarms_eq_map {before after : Instrument} (singular : before.Singular)
    {change : Alarm → Alarm} (same : after.alarms = before.alarms.map change)
    (keeps : ∀ alarm, (change alarm).period = alarm.period) : after.Singular where
  one := by
    rw [same, List.length_map]
    exact singular.one
  period_pos := by
    rw [same]
    intro alarm member
    rcases List.mem_map.mp member with ⟨earlier, found, rfl⟩
    exact keeps earlier ▸ singular.period_pos earlier found

/-- Kinds that are bound anew with available data among them find no alarm yet. -/
theorem alarms_eq_nil_of_checkBinding {instrument : Instrument} {kinds : Flags .event}
    {period : Nat} {answer : Unit} (checked : instrument.checkBinding kinds period = .ok answer)
    (waits : kinds.contains EventKind.dataAvailable = true) :
    instrument.alarms = [] ∧ 0 < period := by
  unfold checkBinding at checked
  split at checked
  · contradiction
  · split at checked
    · contradiction
    · next positive =>
        split at checked
        · contradiction
        · next free =>
            refine ⟨?_, Nat.pos_of_ne_zero fun zero => positive ⟨waits, zero⟩⟩
            apply List.filterMap_eq_nil_iff.mpr
            intro binding member
            cases held : binding.kinds.contains EventKind.dataAvailable with
            | false => simp [Binding.alarm?, held]
            | true =>
                have meets := Flags.intersects_of_contains held waits (by decide)
                exact (free (List.any_eq_true.mpr ⟨binding, member, meets⟩)).elim

theorem Singular.moveRow {instrument : Instrument} (singular : instrument.Singular)
    (store : Store) (target : ScanTarget) (run : ScanRun) :
    (instrument.moveRow store target run).1.Singular := by
  have alarms := instrument.alarms_moveRow store target run
  cases input : target.isInput with
  | false => exact singular.of_alarms_eq (by rw [alarms, input]; rfl)
  | true =>
      rw [input, if_pos rfl] at alarms
      apply singular.of_alarms_eq_map alarms
      intro alarm
      unfold Alarm.pass
      split <;> rfl

theorem Singular.act {action : Action} {instrument : Instrument} {store : Store}
    {result : Instrument × Store × List Firing} (done : action.act instrument store = .ok result)
    (singular : instrument.Singular) : result.1.Singular := by
  cases moved : action.moved? with
  | some target =>
      rcases Action.advance_of_act moved done with ⟨rows, rfl⟩
      refine advance_induction (P := fun later _ => later.Singular) ?_ rows singular
      exact fun later store run kept _ => kept.moveRow store target run
  | none =>
      have alarms := Action.alarms_of_act done moved
      cases action with
      | enableEvents kinds period handler =>
          simp only [Action.act, bind_eq_ok_iff, enableEvents] at done
          rcases done with ⟨_, ⟨_, checked, _⟩, _⟩
          cases waits : kinds.contains EventKind.dataAvailable with
          | false => exact singular.of_alarms_eq (by simp [alarms, Action.realarm, waits])
          | true =>
              rcases alarms_eq_nil_of_checkBinding checked waits with ⟨nil, positive⟩
              simp only [Action.realarm, waits, if_true, nil, List.nil_append] at alarms
              constructor
              · simp [alarms]
              · simpa [alarms] using positive
      | disableEvents kinds =>
          simp only [Action.realarm] at alarms
          split at alarms
          · constructor <;> simp [alarms]
          · exact singular.of_alarms_eq alarms
      | start scan =>
          simp only [Action.realarm] at alarms
          split at alarms
          · exact singular.of_alarms_eq_map alarms fun _ => rfl
          · exact singular.of_alarms_eq alarms
      | _ => exact singular.of_alarms_eq alarms

/-- Nothing on a bench makes a second binding for available data. -/
theorem singular_invariant : Invariant fun instrument _ => instrument.Singular where
  opened _ _ _ := ⟨Nat.zero_le _, by simp [alarms, initial]⟩
  adjusted adjustment singular :=
    singular.of_alarms_eq (congrArg (List.filterMap _) adjustment.alike.bindings)
  acted done singular := singular.act done
  grown _ singular := singular

end Instrument

namespace Bench

/-! ## Every second row -/

/-- A connected device that calls a handler for every second row, and two buffers of four
cells. -/
def everySecondRow : Bench :=
  (Bench.initial.run (Command.opening ++
    [.edit (.allocateReals #[0, 0, 0, 0]), .edit (.allocateWords #[0, 0, 0, 0]),
     .request (.enableEvents 1 EventKind.dataAvailable 2 ⟨"data", .record⟩)])).1

theorem everySecondRow_reachable : everySecondRow.Reachable :=
  .run .initial _

/-- A scan of two analog inputs over a ring of two rows. -/
def pairScan : ScanStart :=
  .analogIn ⟨0, 1, 2, 1000, ScanOption.continuous⟩ .singleEnded .bip10Volts ⟨0, 2⟩

/-- Start the scan of two analog inputs. -/
def startPairs : Command :=
  .request (.scanAnalogIn 1 ⟨0, 1, 2, 1000, ScanOption.continuous⟩ .singleEnded .bip10Volts
    .empty ⟨0, 2⟩)

end Bench

end Acquisition
