import Acquisition.Proofs.Bound
import Acquisition.Proofs.Ports

/-!
# The table of bindings

No two bindings of a device share an event kind, none is without kinds, and none is for a kind that
the device does not report (`Instrument.WellBound`).  Disabling may take some kinds of a binding and
leave the others.  So the binding of a kind is found wherever it stands in the table, and it stays
the same until its own kind is disabled.

Main statement: `Bench.Reachable.binding_unique`.
-/

namespace Acquisition

/-! ## Single kinds -/

namespace Flags

variable {family : Family} {flags left right : Flags family} {bit : Nat}

/-- The set with one bit. -/
def single (bit : Nat) : Flags family :=
  ⟨1 <<< bit.toUInt32⟩

theorem has_single {place : Nat} (inside : place < 32) :
    (single place : Flags family).has bit = decide (bit = place) := by
  have small : 2 ^ place < 2 ^ 32 := Nat.pow_lt_pow_right (by decide) inside
  have power : (single place : Flags family).bits.toNat = 2 ^ place := by
    rw [single, UInt32.toNat_shiftLeft, Nat.toUInt32_eq, UInt32.toNat_ofNat', UInt32.toNat_one,
      Nat.one_shiftLeft, Nat.mod_eq_of_lt (Nat.lt_trans inside (by decide)),
      Nat.mod_eq_of_lt inside, Nat.mod_eq_of_lt small]
  change (single place : Flags family).bits.toNat.testBit bit = _
  rw [power, Nat.testBit_two_pow, Bool.eq_iff_iff, decide_eq_true_iff, decide_eq_true_iff, eq_comm]

/-- A set contains a single bit where it has it. -/
theorem contains_single (inside : bit < 32) : flags.contains (single bit) = flags.has bit := by
  rw [Bool.eq_iff_iff, contains_iff]
  simp only [has_single inside, decide_eq_true_eq, forall_eq]

theorem intersects_eq_false_iff :
    left.intersects right = false ↔ ∀ bit, left.has bit = true → right.has bit = false := by
  rw [← Bool.not_eq_true, intersects_iff]
  simp only [not_exists, not_and, Bool.not_eq_true]

end Flags

/-! ## Bindings -/

namespace Binding

variable {supported kinds : Flags .event} {binding : Binding} {bindings : List Binding} {bit : Nat}

/-- A binding is for some kinds that the device reports, and for available data it waits for a
positive number of samples. -/
structure Fits (supported : Flags .event) (binding : Binding) : Prop where
  nonempty : binding.kinds.isEmpty = false
  supported : supported.contains binding.kinds = true
  armed : binding.kinds.contains EventKind.dataAvailable = true →
    0 < binding.period ∧ 0 < binding.threshold

theorem Fits.rearm (fits : binding.Fits supported) : binding.rearm.Fits supported where
  nonempty := fits.nonempty
  supported := fits.supported
  armed waits := ⟨(fits.armed waits).1, (fits.armed waits).1⟩

theorem Fits.pass (fits : binding.Fits supported) (transfer : Transfer) :
    (binding.pass transfer).Fits supported := by
  unfold Binding.pass
  split
  · exact {
      nonempty := fits.nonempty
      supported := fits.supported
      armed := fun waits => ⟨(fits.armed waits).1, Nat.add_pos_left (fits.armed waits).2 _⟩ }
  · exact fits

/-- What is left of a binding fits if something is left. -/
theorem Fits.without (fits : binding.Fits supported)
    (left : (binding.without kinds).kinds.isEmpty = false) :
    (binding.without kinds).Fits supported where
  nonempty := left
  supported := by
    rw [Flags.contains_iff]
    intro bit there
    rw [Binding.without, Flags.has_remove, Bool.and_eq_true] at there
    exact Flags.contains_iff.mp fits.supported bit there.1
  armed waits := by
    rw [Binding.without, Flags.contains_remove, Bool.and_eq_true] at waits
    exact fits.armed waits.1

/-- Two bindings share no kind. -/
def Apart (left right : Binding) : Prop :=
  left.kinds.intersects right.kinds = false

/-- Bindings with fewer kinds are apart if the whole ones are. -/
theorem Apart.mono {left right first second : Binding} (apart : left.Apart right)
    (within : ∀ bit, first.kinds.has bit = true → left.kinds.has bit = true)
    (inside : ∀ bit, second.kinds.has bit = true → right.kinds.has bit = true) :
    first.Apart second := by
  refine Flags.intersects_eq_false_iff.mpr fun bit there => ?_
  have free := Flags.intersects_eq_false_iff.mp apart bit (within bit there)
  rw [← Bool.not_eq_true]
  intro shared
  rw [inside bit shared] at free
  contradiction

/-! ## The binding of a kind -/

/-- The first binding for a kind. -/
def holder? (bindings : List Binding) (bit : Nat) : Option Binding :=
  bindings.find? fun binding => binding.kinds.has bit

/-- The firing for a single kind is that of the handler that is bound to it. -/
theorem firing?_single (bindings : List Binding) (inside : bit < 32) (data : Nat) :
    firing? bindings (.single bit) data =
      (holder? bindings bit).map fun binding => ⟨binding.handler, .single bit, data⟩ := by
  simp only [firing?, holder?, Flags.contains_single inside]

theorem isSome_holder? (bindings : List Binding) (bit : Nat) :
    (holder? bindings bit).isSome = (boundKinds bindings).has bit := by
  rw [holder?, List.isSome_find?, has_boundKinds]

/-- Of bindings that are apart, at most one is for a kind. -/
theorem countP_has_le_one (apart : bindings.Pairwise Apart) (bit : Nat) :
    (bindings.countP fun binding => binding.kinds.has bit) ≤ 1 := by
  induction apart with
  | nil => exact Nat.zero_le 1
  | @cons binding rest away _ ih =>
      rw [List.countP_cons]
      cases there : binding.kinds.has bit with
      | false => exact ih
      | true =>
          have others : (rest.countP fun binding => binding.kinds.has bit) = 0 := by
            refine List.countP_eq_zero.mpr fun other member shared => ?_
            have free := Flags.intersects_eq_false_iff.mp (away other member) bit there
            exact Bool.false_ne_true (free.symm.trans shared)
          rw [others]
          exact Nat.le_refl 1

/-- Of bindings that are apart, the one for a kind is found wherever it stands. -/
theorem holder?_of_mem (apart : bindings.Pairwise Apart) (member : binding ∈ bindings)
    (there : binding.kinds.has bit = true) : holder? bindings bit = some binding := by
  induction apart with
  | nil => contradiction
  | @cons first rest away _ ih =>
      rcases List.mem_cons.mp member with rfl | later
      · exact List.find?_cons_of_pos there
      · rw [holder?, List.find?_cons_of_neg]
        · exact ih later
        · intro shared
          have clear := Flags.intersects_eq_false_iff.mp (away binding later) bit shared
          exact Bool.false_ne_true (clear.symm.trans there)

/-! ## Disabling -/

/-- After kinds have been disabled, the binding for another kind is what is left of the one
before. -/
theorem holder?_disableEvents (bindings : List Binding) (kept : kinds.has bit = false) :
    holder? ((Action.disableEvents kinds).rebind bindings) bit =
      (holder? bindings bit).map fun binding => binding.without kinds := by
  have same (binding : Binding) : (binding.without kinds).kinds.has bit =
      binding.kinds.has bit := by
    rw [without, Flags.has_remove, kept, Bool.not_false, Bool.and_true]
  induction bindings with
  | nil => rfl
  | cons binding rest ih =>
      cases there : binding.kinds.has bit with
      | true =>
          have left := (same binding).trans there
          have nonempty := Flags.isEmpty_eq_false_iff.mpr ⟨bit, left⟩
          simp only [holder?, Action.rebind, List.map_cons, List.filter_cons, nonempty,
            Bool.not_false, if_true, List.find?_cons, left, there, Option.map_some]
      | false =>
          have gone := (same binding).trans there
          simp only [holder?, Action.rebind, List.map_cons, List.filter_cons, List.find?_cons,
            there] at ih ⊢
          split
          · rw [List.find?_cons, gone]
            exact ih
          · exact ih

end Binding

namespace Instrument

variable {instrument : Instrument} {store : Store}

/-! ## Well-bound devices -/

/-- Every binding fits the device, and no two share a kind. -/
structure WellBound (instrument : Instrument) : Prop where
  fits : ∀ binding ∈ instrument.bindings, binding.Fits instrument.supportedEvents
  apart : instrument.bindings.Pairwise Binding.Apart

/-- Bindings that are changed one by one, and keep their kinds, stay well bound. -/
theorem WellBound.of_map {before after : Instrument} (bound : before.WellBound)
    (profile : after.profile = before.profile) {change : Binding → Binding}
    (same : after.bindings = before.bindings.map change)
    (kinds : ∀ binding, (change binding).kinds = binding.kinds)
    (keeps : ∀ binding supported, binding.Fits supported → (change binding).Fits supported) :
    after.WellBound where
  fits := by
    rw [same, supportedEvents, profile]
    intro binding member
    obtain ⟨earlier, there, rfl⟩ := List.mem_map.mp member
    exact keeps earlier _ (bound.fits earlier there)
  apart := by
    rw [same, List.pairwise_map]
    refine bound.apart.imp fun {left right} apart => ?_
    rw [Binding.Apart, kinds, kinds]
    exact apart

theorem WellBound.of_same {before after : Instrument} (bound : before.WellBound)
    (profile : after.profile = before.profile) (same : after.bindings = before.bindings) :
    after.WellBound :=
  bound.of_map profile (same.trans (List.map_id _).symm) (fun _ => rfl) fun _ _ fits => fits

/-- Kinds are accepted if there are some, the device reports them and none is bound, and if the
period for available data is positive. -/
theorem checkBinding_eq_ok_iff {kinds : Flags .event} {period : Nat} {answer : Unit} :
    instrument.checkBinding kinds period = .ok answer ↔
      kinds.isEmpty = false ∧ instrument.supportedEvents.contains kinds = true ∧
      (kinds.contains EventKind.dataAvailable = true → 0 < period) ∧
      ∀ binding ∈ instrument.bindings, binding.kinds.intersects kinds = false := by
  unfold checkBinding
  split
  · next unknown =>
      refine iff_of_false (by rintro ⟨⟩) ?_
      rintro ⟨nonempty, supported, _⟩
      simp [nonempty, supported] at unknown
  · next known =>
      rw [Bool.or_eq_true, not_or, Bool.not_eq_true, Bool.not_eq_true', Bool.not_eq_false] at known
      split
      · next unset =>
          refine iff_of_false (by rintro ⟨⟩) ?_
          rintro ⟨_, _, positive, _⟩
          exact absurd unset.2 (Nat.ne_of_gt (positive unset.1))
      · next positive =>
          split
          · next shared =>
              obtain ⟨binding, member, meets⟩ := List.any_eq_true.mp shared
              refine iff_of_false (by rintro ⟨⟩) ?_
              rintro ⟨_, _, _, free⟩
              exact Bool.false_ne_true ((free binding member).symm.trans meets)
          · next free =>
              refine iff_of_true rfl ⟨known.1, known.2, ?_, ?_⟩
              · exact fun waits => Nat.pos_of_ne_zero fun zero => positive ⟨waits, zero⟩
              · intro binding member
                rw [← Bool.not_eq_true]
                exact fun meets => free (List.any_eq_true.mpr ⟨binding, member, meets⟩)

/-- Kinds that are accepted come with a binding that fits and shares nothing with the others. -/
theorem WellBound.enable (bound : instrument.WellBound) {kinds : Flags .event} {period : Nat}
    {answer : Unit} (checked : instrument.checkBinding kinds period = .ok answer)
    (handler : Handler) :
    WellBound { instrument with
      bindings := instrument.bindings ++ [⟨kinds, period, period, handler⟩] } := by
  obtain ⟨nonempty, supported, positive, free⟩ := checkBinding_eq_ok_iff.mp checked
  constructor
  · intro binding member
    rcases List.mem_append.mp member with earlier | new
    · exact bound.fits binding earlier
    · obtain rfl := List.mem_singleton.mp new
      exact ⟨nonempty, supported, fun waits => ⟨positive waits, positive waits⟩⟩
  · refine List.pairwise_append.mpr
      ⟨bound.apart, List.pairwise_singleton _ _, fun earlier there new member => ?_⟩
    obtain rfl := List.mem_singleton.mp member
    exact free earlier there

theorem WellBound.disable (bound : instrument.WellBound) (kinds : Flags .event) :
    (instrument.disableEvents kinds).WellBound where
  fits := by
    intro binding member
    obtain ⟨there, left⟩ := List.mem_filter.mp member
    obtain ⟨earlier, listed, rfl⟩ := List.mem_map.mp there
    exact (bound.fits earlier listed).without (by simpa using left)
  apart := by
    refine List.Pairwise.filter _ (List.pairwise_map.mpr (bound.apart.imp fun apart => ?_))
    have within (binding : Binding) (bit : Nat)
        (there : (binding.without kinds).kinds.has bit = true) : binding.kinds.has bit = true := by
      rw [Binding.without, Flags.has_remove, Bool.and_eq_true] at there
      exact there.1
    exact apart.mono (within _) (within _)

theorem WellBound.moveRow (bound : instrument.WellBound) (store : Store) (target : ScanTarget)
    (run : ScanRun) : (instrument.moveRow store target run).1.WellBound := by
  have profile := (instrument.moveRow_alike store target run).profile
  have bindings := instrument.moveRow_bindings store target run
  split at bindings
  · exact bound.of_map profile bindings (fun binding => (binding.pass_keeps _).1)
      fun _ _ fits => fits.pass _
  · exact bound.of_same profile bindings

theorem WellBound.act {action : Action} {result : Instrument × Store × List Firing}
    (bound : instrument.WellBound) (done : action.act instrument store = .ok result) :
    result.1.WellBound := by
  have profile := profile_of_act done
  cases moved : action.moved? with
  | some target =>
      obtain ⟨rows, rfl⟩ := Action.advance_of_act moved done
      refine advance_induction (P := fun later _ => later.WellBound) ?_ rows bound
      intro later store run kept _
      exact kept.moveRow store target run
  | none =>
      have bindings := Action.bindings_of_act done moved
      cases action with
      | enableEvents kinds period handler =>
          simp only [Action.act, bind_eq_ok_iff, pure_eq_ok_iff, enableEvents] at done
          obtain ⟨_, ⟨_, checked, rfl⟩, rfl⟩ := done
          exact bound.enable checked handler
      | disableEvents kinds =>
          obtain rfl := Except.ok.inj done
          exact bound.disable kinds
      | start scan =>
          rw [Action.rebind] at bindings
          split at bindings
          · exact bound.of_map profile bindings (fun _ => rfl) fun _ _ fits => fits.rearm
          · exact bound.of_same profile bindings
      | _ => exact bound.of_same profile bindings

theorem wellBound_invariant : Invariant fun instrument _ => instrument.WellBound where
  opened _ _ _ := ⟨fun _ member => absurd member List.not_mem_nil, .nil⟩
  adjusted adjustment bound :=
    bound.of_same adjustment.alike.profile adjustment.alike.bindings
  acted done bound := bound.act done
  grown _ bound := bound

/-- Some kinds have been disabled, and nothing else: their bits are free, and each other kind has
the binding that it had, with its handler, period and threshold. -/
structure Unbinds (kinds : Flags .event) (before after : Instrument) : Prop where
  freed : ∀ bit, kinds.has bit = true → ∀ binding ∈ after.bindings, binding.kinds.has bit = false
  kept : ∀ bit, kinds.has bit = false → Binding.holder? after.bindings bit =
    (Binding.holder? before.bindings bit).map fun binding => binding.without kinds

theorem unbinds_disableEvents (instrument : Instrument) (kinds : Flags .event) :
    instrument.Unbinds kinds (instrument.disableEvents kinds) where
  freed bit disabled binding member := by
    obtain ⟨there, _⟩ := List.mem_filter.mp member
    obtain ⟨earlier, _, rfl⟩ := List.mem_map.mp there
    rw [Binding.without, Flags.has_remove, disabled, Bool.not_true, Bool.and_false]
  kept _ free := Binding.holder?_disableEvents instrument.bindings free

end Instrument

namespace Bench

variable {bench : Bench} {handle : Handle} {device : Instrument}

/-- The bindings of a device are well bound, so each kind has one handler at most, and the driver
finds it exactly where it shows the kind as enabled.  Disabling kinds frees them and leaves every
other kind its binding. -/
theorem Reachable.binding_unique (reachable : bench.Reachable)
    (found : bench.driver.instruments.get? handle = some device) :
    device.WellBound ∧
    (∀ bit, (device.bindings.countP fun binding => binding.kinds.has bit) ≤ 1) ∧
    (∀ bit < 32, ∀ data,
      (∀ binding ∈ device.bindings, binding.kinds.has bit = true →
        Binding.firing? device.bindings (.single bit) data =
          some ⟨binding.handler, .single bit, data⟩) ∧
      ((Binding.firing? device.bindings (.single bit) data).isSome = true ↔
        ∃ kinds, bench.driver.enabledEvents handle = .ok kinds ∧ kinds.has bit = true)) ∧
    ∀ kinds, ∃ after,
      (Request.disableEvents handle kinds).serve bench = .ok ⟨(), bench.put handle after, []⟩ ∧
      device.Unbinds kinds after := by
  have bound : device.WellBound := Instrument.wellBound_invariant.holds reachable found
  refine ⟨bound, Binding.countP_has_le_one bound.apart, ?_, ?_⟩
  · intro bit inside data
    constructor
    · intro binding member there
      rw [Binding.firing?_single _ inside, Binding.holder?_of_mem bound.apart member there]
      rfl
    · have enabled : bench.driver.enabledEvents handle =
          .ok (Binding.boundKinds device.bindings) := by
        rw [Driver.enabledEvents, Driver.instrument_eq_ok_iff.mpr found]
        rfl
      rw [Binding.firing?_single _ inside, Option.isSome_map, Binding.isSome_holder?, enabled]
      simp
  · intro kinds
    refine ⟨device.disableEvents kinds, ?_, device.unbinds_disableEvents kinds⟩
    exact adjust_eq_ok_iff.mpr ⟨device, _, found, rfl, rfl⟩

/-- One binding is for data of an input scan and for its end, another one for the end of output
scans. -/
def twoHandlers : Bench :=
  (Bench.initial.run (Command.opening ++
    [.request (.enableEvents 1 (EventKind.dataAvailable.union EventKind.endOfInputScan) 3
       ⟨"input", .record⟩),
     .request (.enableEvents 1 EventKind.endOfOutputScan 0 ⟨"output", .record⟩)])).1

/-- After the data of input scans has been disabled, their end is still bound to its handler. -/
theorem binding_unique_split :
    ∃ device after, twoHandlers.driver.instruments.get? 1 = some device ∧ device.WellBound ∧
      (Request.disableEvents 1 EventKind.dataAvailable).serve twoHandlers =
        .ok ⟨(), twoHandlers.put 1 after, []⟩ ∧
      (∀ binding ∈ after.bindings, binding.kinds.has 0 = false) ∧
      Binding.holder? after.bindings 2 =
        some ⟨EventKind.endOfInputScan, 3, 3, ⟨"input", .record⟩⟩ := by
  have reachable : twoHandlers.Reachable := .run .initial _
  have there : (twoHandlers.driver.instruments.get? 1).map (fun device =>
      (Binding.holder? device.bindings 2).map fun binding =>
        binding.without EventKind.dataAvailable) =
      some (some ⟨EventKind.endOfInputScan, 3, 3, ⟨"input", .record⟩⟩) := by decide +kernel
  obtain ⟨device, found, held⟩ := Option.map_eq_some_iff.mp there
  obtain ⟨bound, _, _, disables⟩ := reachable.binding_unique found
  obtain ⟨after, served, unbinds⟩ := disables EventKind.dataAvailable
  exact ⟨device, after, found, bound, served, unbinds.freed 0 (by decide),
    (unbinds.kept 2 (by decide)).trans held⟩

end Bench

end Acquisition
