import Acquisition.Proofs.Bits
import Acquisition.Proofs.Effect

/-!
# What a device has bound

Of its bindings, an action that binds and unbinds nothing keeps the event kinds and the handlers
(`Instrument.bound_of_act`), and only handlers that the device has come due (`binds_of_act`).
Enabling adds to the set of the kinds that are bound, and disabling takes from it bit by bit
(`boundKinds_enableEvents`, `boundKinds_disableEvents`).
-/

namespace Acquisition

namespace Binding

theorem pass_keeps (binding : Binding) (transfer : Transfer) :
    (binding.pass transfer).kinds = binding.kinds ∧
      (binding.pass transfer).handler = binding.handler := by
  unfold pass
  split <;> exact ⟨rfl, rfl⟩

theorem has_boundKinds (bindings : List Binding) (bit : Nat) :
    (boundKinds bindings).has bit = bindings.any fun binding => binding.kinds.has bit := by
  rw [boundKinds, Flags.has_unionAll, List.any_map]
  rfl

/-- Some binding meets a set of kinds when what is bound does. -/
theorem any_intersects (bindings : List Binding) (kinds : Flags .event) :
    (bindings.any fun binding => binding.kinds.intersects kinds) =
      (boundKinds bindings).intersects kinds := by
  rw [Bool.eq_iff_iff, List.any_eq_true, Flags.intersects_iff]
  simp only [Flags.intersects_iff, has_boundKinds, List.any_eq_true]
  constructor
  · rintro ⟨binding, there, bit, bound, shared⟩
    exact ⟨bit, ⟨binding, there, bound⟩, shared⟩
  · rintro ⟨bit, ⟨binding, there, bound⟩, shared⟩
    exact ⟨binding, there, bit, bound, shared⟩

theorem boundKinds_enableEvents (bindings : List Binding) (kinds : Flags .event) (period : Nat)
    (handler : Handler) :
    boundKinds ((Action.enableEvents kinds period handler).rebind bindings) =
      (boundKinds bindings).union kinds := by
  apply Flags.ext_has
  intro bit
  simp [Action.rebind, has_boundKinds]

theorem boundKinds_disableEvents (bindings : List Binding) (kinds : Flags .event) :
    boundKinds ((Action.disableEvents kinds).rebind bindings) =
      (boundKinds bindings).remove kinds := by
  apply Flags.ext_has
  intro bit
  rw [Flags.has_remove, has_boundKinds, has_boundKinds, Bool.eq_iff_iff, Bool.and_eq_true,
    List.any_eq_true, List.any_eq_true]
  constructor
  · rintro ⟨left, there, bound⟩
    obtain ⟨binding, member, rfl⟩ := List.mem_map.mp (List.mem_filter.mp there).1
    rw [without, Flags.has_remove, Bool.and_eq_true] at bound
    exact ⟨⟨binding, member, bound.1⟩, bound.2⟩
  · rintro ⟨⟨binding, member, bound⟩, kept⟩
    have left : (binding.without kinds).kinds.has bit = true := by
      rw [without, Flags.has_remove, bound, kept]
      rfl
    have nonempty := Flags.isEmpty_eq_false_iff.mpr ⟨bit, left⟩
    exact ⟨binding.without kinds, List.mem_filter.mpr
      ⟨List.mem_map.mpr ⟨binding, member, rfl⟩, by simp [nonempty]⟩, left⟩

end Binding

/-- Whether an action enables or disables events. -/
def Action.rebinds : Action → Bool
  | .enableEvents .. | .disableEvents .. => true
  | _ => false

namespace Instrument

variable {instrument : Instrument} {store : Store} {target : ScanTarget} {run : ScanRun}
  {firing : Firing} {action : Action} {result : Instrument × Store × List Firing}

/-- The event kinds of each binding with their handler. -/
def bound (instrument : Instrument) : List (Flags .event × Handler) :=
  instrument.bindings.map fun binding => (binding.kinds, binding.handler)

/-- The handler is one that the device has. -/
def Binds (instrument : Instrument) (handler : Handler) : Prop :=
  ∃ binding ∈ instrument.bindings, binding.handler = handler

theorem binds_iff {handler : Handler} :
    instrument.Binds handler ↔ ∃ kinds, (kinds, handler) ∈ instrument.bound := by
  constructor
  · rintro ⟨binding, there, rfl⟩
    exact ⟨binding.kinds, List.mem_map.mpr ⟨binding, there, rfl⟩⟩
  · rintro ⟨kinds, there⟩
    obtain ⟨binding, member, same⟩ := List.mem_map.mp there
    exact ⟨binding, member, (Prod.mk.inj same).2⟩

/-- Devices that have bound the same have the same handlers. -/
theorem Binds.congr {other : Instrument} {handler : Handler} (same : other.bound = instrument.bound)
    (binds : other.Binds handler) : instrument.Binds handler := by
  rw [binds_iff, ← same, ← binds_iff]
  exact binds

theorem boundKinds_of_bound {other : Instrument} (same : other.bound = instrument.bound) :
    Binding.boundKinds other.bindings = Binding.boundKinds instrument.bindings := by
  have kinds := congrArg (List.map Prod.fst) same
  simp only [bound, List.map_map] at kinds
  exact congrArg Flags.unionAll kinds

/-! ## Moving a scan -/

/-- What fires in a row is a handler of the device. -/
theorem exists_binding_of_mem_rowFirings {bindings : List Binding}
    (fires : firing ∈ rowFirings bindings target run) :
    ∃ binding ∈ bindings, binding.handler = firing.handler := by
  rcases List.mem_append.mp fires with data | completion
  · split at data
    · obtain ⟨binding, bound, fired⟩ := List.mem_filterMap.mp data
      refine ⟨binding, bound, ?_⟩
      unfold Binding.dataFiring? at fired
      split at fired
      · exact Option.some.inj fired ▸ rfl
      · contradiction
    · contradiction
  · rw [Option.mem_toList] at completion
    split at completion
    · contradiction
    · obtain ⟨binding, found, rfl⟩ := Option.map_eq_some_iff.mp completion
      exact ⟨binding, List.mem_of_find?_eq_some found, rfl⟩

/-- To move a row binds and unbinds nothing. -/
theorem bound_moveRow : (instrument.moveRow store target run).1.bound = instrument.bound := by
  rw [bound, moveRow_bindings]
  split
  · rw [List.map_map]
    apply List.map_congr_left
    intro binding _
    obtain ⟨kinds, handler⟩ := binding.pass_keeps run.next.transfer
    exact Prod.ext kinds handler
  · rfl

theorem bound_advance (rows : Nat) :
    (advance target rows instrument store).1.bound = instrument.bound := by
  refine advance_induction (P := fun later _ => later.bound = instrument.bound) ?_ rows rfl
  intro later store run kept _
  exact bound_moveRow.trans kept

theorem binds_of_advance {rows : Nat}
    (fires : firing ∈ (advance target rows instrument store).2.2) :
    instrument.Binds firing.handler := by
  induction rows generalizing instrument store with
  | zero => contradiction
  | succ rows ih =>
      cases running : instrument.running? target with
      | none =>
          rw [advance_of_not_running running] at fires
          contradiction
      | some run =>
          rw [advance_succ running] at fires
          rcases List.mem_append.mp fires with first | later
          · rw [moveRow_firings] at first
            exact exists_binding_of_mem_rowFirings first
          · exact (ih later).congr bound_moveRow

/-! ## Actions -/

/-- An action that neither enables nor disables events keeps what is bound. -/
theorem bound_of_act (done : action.act instrument store = .ok result)
    (unbound : action.rebinds = false) : result.1.bound = instrument.bound := by
  cases moved : action.moved? with
  | some target =>
      obtain ⟨rows, rfl⟩ := Action.advance_of_act moved done
      exact bound_advance rows
  | none =>
      rw [bound, Action.bindings_of_act done moved]
      cases action with
      | start scan =>
          rw [Action.rebind]
          split
          · exact List.map_map
          · rfl
      | enableEvents | disableEvents => contradiction
      | _ => rfl

/-- Only handlers of the device come due. -/
theorem binds_of_act (done : action.act instrument store = .ok result)
    (fires : firing ∈ result.2.2) : instrument.Binds firing.handler := by
  cases action with
  | connect | enableEvents =>
      simp only [Action.act, bind_eq_ok_iff, pure_eq_ok_iff] at done
      rcases done with ⟨_, _, rfl⟩
      contradiction
  | loadQueue | start =>
      simp only [Action.act, bind_eq_ok_iff, pure_eq_ok_iff] at done
      rcases done with ⟨_, _, _, _, rfl⟩
      contradiction
  | disconnect | unplug | disableEvents | halt =>
      obtain rfl := Except.ok.inj done
      contradiction
  | advance target rows =>
      obtain rfl := Except.ok.inj done
      exact binds_of_advance fires
  | finish target =>
      obtain ⟨rows, rfl⟩ := advance_of_finishScan done
      exact binds_of_advance fires
  | abort target error =>
      obtain rfl := Except.ok.inj done
      change firing ∈ (instrument.abortScan target error).2 at fires
      unfold abortScan at fires
      split at fires
      · obtain ⟨binding, found, rfl⟩ := Option.map_eq_some_iff.mp (Option.mem_toList.mp fires)
        exact ⟨binding, List.mem_of_find?_eq_some found, rfl⟩
      · contradiction

end Instrument

end Acquisition
