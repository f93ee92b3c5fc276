import Acquisition.Proofs.Action

/-!
# What an action does to a scan

An action starts a scan, moves rows of one, or at most stops some.  So the record
of a scan that an action neither starts nor moves is afterwards what it was, or
that record halted (`get?_scans_of_act`).  Bindings change only when events are
bound or unbound and when an input scan starts or moves.  The settings, the inputs,
the timers and the memory of a device no action changes (`rest_of_act`).
-/

namespace Acquisition

/-- The record that an accepted plan starts with. -/
def ScanPlan.opening (plan : ScanPlan) : ScanRun where
  status := .running
  options := plan.options
  columns := plan.columns
  samples := plan.samples.toNat
  buffer := plan.buffer
  transfer := .initial

namespace Instrument

/-- Halting the scan on one target halts that one only. -/
theorem get?_haltScan (instrument : Instrument) (target other : ScanTarget) :
    (instrument.haltScan target).scans.get? other =
      if other = target then (instrument.scans.get? other).map ScanRun.halt
      else instrument.scans.get? other := by
  by_cases same : other = target
  · subst same
    simp only [haltScan, if_true]
    cases found : instrument.scans.get? other with
    | none => simp [found]
    | some run => simp
  · simp only [haltScan, same, if_false]
    split
    · exact Table.get?_set_of_ne _ same _
    · rfl

@[simp]
theorem haltScan_bindings (instrument : Instrument) (target : ScanTarget) :
    (instrument.haltScan target).bindings = instrument.bindings := by
  unfold haltScan
  split <;> rfl

theorem abortScan_fst (instrument : Instrument) (target : ScanTarget) (error : Error) :
    (instrument.abortScan target error).1 =
      if instrument.isRunning target then instrument.haltScan target else instrument := by
  unfold abortScan
  split <;> rfl

/-- A scan that is launched has a new record; the others keep theirs. -/
theorem get?_launch_of_ne (instrument : Instrument) {target other : ScanTarget}
    (ne : other ≠ target) (plan : ScanPlan) :
    (instrument.launch target plan).scans.get? other = instrument.scans.get? other :=
  Table.get?_set_of_ne _ ne _

end Instrument

namespace Action

/-- The target that an action starts a scan on. -/
def started? : Action → Option ScanTarget
  | start scan => some scan.target
  | _ => none

/-- The action halts the scan on a target if it is running. -/
def Halts (target : ScanTarget) : Action → Prop
  | disconnect | unplug => True
  | halt other | abort other _ => other = target
  | _ => False

/-- The target whose scan an action moves. -/
def moved? : Action → Option ScanTarget
  | advance target _ => some target
  | finish target => some target
  | _ => none

section Act

variable {action : Action} {instrument : Instrument} {store : Store}
  {result : Instrument × Store × List Firing}

/-- A connected device takes the start of a scan whose columns it has and whose plan it
accepts. -/
theorem act_start_eq_ok_iff {scan : ScanStart} :
    (start scan).act instrument store = .ok result ↔
      instrument.isConnected = true ∧ ∃ columns rate, scan.columns instrument = .ok columns ∧
        instrument.checkPlan store scan.target (scan.plan columns) = .ok rate ∧
        result =
          (scan.settle (instrument.launch scan.target (scan.plan columns)), store, []) := by
  simp only [act, bind_eq_ok_iff, pure_eq_ok_iff, checkConnected_eq_ok_iff]
  constructor
  · rintro ⟨_, connected, ⟨rate, after⟩, performed, rfl⟩
    rcases ScanStart.perform_eq_ok_iff.mp performed with ⟨columns, found, accepted, rfl⟩
    exact ⟨connected, columns, rate, found, accepted, rfl⟩
  · rintro ⟨connected, columns, rate, found, accepted, rfl⟩
    refine ⟨(), connected, (rate, _), ?_, rfl⟩
    exact ScanStart.perform_eq_ok_iff.mpr ⟨columns, found, accepted, rfl⟩

/-- A scan that a device has started is recorded with an accepted plan. -/
theorem opening_of_start {scan : ScanStart}
    (done : (start scan).act instrument store = .ok result) :
    ∃ columns, scan.columns instrument = .ok columns ∧
      instrument.Accepted store scan.target (scan.plan columns) ∧ result.2 = (store, []) ∧
      result.1.scans.get? scan.target = some (scan.plan columns).opening := by
  rcases act_start_eq_ok_iff.mp done with ⟨_, columns, rate, asked, checked, rfl⟩
  refine ⟨columns, asked, Instrument.accepted_of_checkPlan checked, rfl, ?_⟩
  rw [(Instrument.settle_alike _ scan).scans, Instrument.launch, Table.get?_set_self]
  rfl

/-- Moving a scan is advancing it by some number of rows. -/
theorem advance_of_act {target : ScanTarget} (moved : action.moved? = some target)
    (done : action.act instrument store = .ok result) :
    ∃ rows, result = Instrument.advance target rows instrument store := by
  cases action with
  | advance other rows =>
      obtain rfl := Option.some.inj moved
      exact ⟨rows, (Except.ok.inj done).symm⟩
  | finish other =>
      obtain rfl := Option.some.inj moved
      exact Instrument.advance_of_finishScan done
  | _ => simp [moved?] at moved

theorem start_of_started? {target : ScanTarget} (started : action.started? = some target) :
    ∃ scan, action = .start scan ∧ scan.target = target := by
  cases action with
  | start scan => exact ⟨scan, rfl, Option.some.inj started⟩
  | _ => simp [started?] at started

/-- Only moving a scan writes to a storage. -/
theorem store_of_unmoved (unmoved : action.moved? = none)
    (done : action.act instrument store = .ok result) : result.2.1 = store := by
  cases action with
  | advance | finish => simp [moved?] at unmoved
  | disconnect | unplug | disableEvents | halt | abort =>
      obtain rfl := Except.ok.inj done
      rfl
  | connect | enableEvents =>
      simp only [act, bind_eq_ok_iff, pure_eq_ok_iff] at done
      rcases done with ⟨_, _, rfl⟩
      rfl
  | loadQueue | start =>
      simp only [act, bind_eq_ok_iff, pure_eq_ok_iff] at done
      rcases done with ⟨_, _, _, _, rfl⟩
      rfl

/-- An action that neither starts nor moves a scan changes the connection, the queue, the
records of scans and the bindings at most. -/
theorem eq_of_still (done : action.act instrument store = .ok result)
    (unstarted : action.started? = none) (unmoved : action.moved? = none) :
    ∃ isPresent isConnected queue scans bindings,
      result.1 = { instrument with isPresent, isConnected, queue, scans, bindings } := by
  have halted (target : ScanTarget) : ∃ isPresent isConnected queue scans bindings,
      instrument.haltScan target =
        { instrument with isPresent, isConnected, queue, scans, bindings } := by
    unfold Instrument.haltScan
    split <;> exact ⟨_, _, _, _, _, rfl⟩
  cases action with
  | start => simp [started?] at unstarted
  | advance | finish => simp [moved?] at unmoved
  | connect =>
      simp only [act, bind_eq_ok_iff, pure_eq_ok_iff, Instrument.connect] at done
      rcases done with ⟨after, connected, rfl⟩
      split at connected
      · exact ⟨_, _, _, _, _, (Except.ok.inj connected).symm⟩
      · contradiction
  | loadQueue queue =>
      simp only [act, bind_eq_ok_iff, pure_eq_ok_iff, Instrument.loadQueue] at done
      rcases done with ⟨_, _, after, ⟨_, _, rfl⟩, rfl⟩
      exact ⟨_, _, _, _, _, rfl⟩
  | enableEvents kinds period handler =>
      simp only [act, bind_eq_ok_iff, pure_eq_ok_iff, Instrument.enableEvents] at done
      rcases done with ⟨after, ⟨_, _, rfl⟩, rfl⟩
      exact ⟨_, _, _, _, _, rfl⟩
  | disconnect | unplug | disableEvents =>
      obtain rfl := Except.ok.inj done
      exact ⟨_, _, _, _, _, rfl⟩
  | halt other =>
      obtain rfl := Except.ok.inj done
      exact halted other
  | abort other error =>
      obtain rfl := Except.ok.inj done
      change ∃ isPresent isConnected queue scans bindings,
        (instrument.abortScan other error).1 = _
      rw [Instrument.abortScan_fst]
      split
      · exact halted other
      · exact ⟨_, _, _, _, _, rfl⟩

/-- A scan that an action neither starts nor moves is left alone, unless the action is one
that halts it. -/
theorem get?_scans_cases {target : ScanTarget}
    (done : action.act instrument store = .ok result)
    (unstarted : action.started? ≠ some target) (unmoved : action.moved? ≠ some target) :
    result.1.scans.get? target = instrument.scans.get? target ∨
    action.Halts target ∧
      result.1.scans.get? target = (instrument.scans.get? target).map ScanRun.halt := by
  cases action with
  | connect =>
      simp only [act, bind_eq_ok_iff, pure_eq_ok_iff, Instrument.connect] at done
      rcases done with ⟨after, connected, rfl⟩
      split at connected
      · exact .inl ((Except.ok.inj connected) ▸ rfl)
      · contradiction
  | disconnect | unplug =>
      obtain rfl := Except.ok.inj done
      exact .inr ⟨trivial, Table.get?_map _ _ _⟩
  | loadQueue queue =>
      simp only [act, bind_eq_ok_iff, pure_eq_ok_iff, Instrument.loadQueue] at done
      rcases done with ⟨_, _, after, ⟨_, _, rfl⟩, rfl⟩
      exact .inl rfl
  | enableEvents kinds period handler =>
      simp only [act, bind_eq_ok_iff, pure_eq_ok_iff, Instrument.enableEvents] at done
      rcases done with ⟨after, ⟨_, _, rfl⟩, rfl⟩
      exact .inl rfl
  | disableEvents kinds =>
      obtain rfl := Except.ok.inj done
      exact .inl rfl
  | start scan =>
      rcases act_start_eq_ok_iff.mp done with ⟨_, columns, rate, _, _, rfl⟩
      have ne : target ≠ scan.target := fun same => unstarted (congrArg some same.symm)
      refine .inl ?_
      rw [(Instrument.settle_alike _ scan).scans, Instrument.get?_launch_of_ne _ ne]
  | halt other =>
      obtain rfl := Except.ok.inj done
      rw [Instrument.get?_haltScan]
      split
      · next same => exact .inr ⟨same.symm, rfl⟩
      · exact .inl rfl
  | advance other rows =>
      obtain rfl := Except.ok.inj done
      have ne : target ≠ other := fun same => unmoved (congrArg some same.symm)
      exact .inl (Instrument.get?_advance_of_ne ne rows instrument store)
  | finish other =>
      rcases Instrument.advance_of_finishScan done with ⟨rows, rfl⟩
      have ne : target ≠ other := fun same => unmoved (congrArg some same.symm)
      exact .inl (Instrument.get?_advance_of_ne ne rows instrument store)
  | abort other error =>
      obtain rfl := Except.ok.inj done
      change (instrument.abortScan other error).1.scans.get? target = _ ∨
        _ ∧ (instrument.abortScan other error).1.scans.get? target = _
      rw [Instrument.abortScan_fst]
      split
      · rw [Instrument.get?_haltScan]
        split
        · next same => exact .inr ⟨same.symm, rfl⟩
        · exact .inl rfl
      · exact .inl rfl

/-- A scan that an action neither starts nor moves is left alone or halted. -/
theorem get?_scans_of_act {target : ScanTarget}
    (done : action.act instrument store = .ok result)
    (unstarted : action.started? ≠ some target) (unmoved : action.moved? ≠ some target) :
    result.1.scans.get? target = instrument.scans.get? target ∨
    result.1.scans.get? target = (instrument.scans.get? target).map ScanRun.halt :=
  (get?_scans_cases done unstarted unmoved).imp id And.right

/-- A record that is there after an action goes on from the one before it, or is the opening of
the start that the action is. -/
theorem record_of_act {target : ScanTarget} {run : ScanRun}
    (done : action.act instrument store = .ok result)
    (found : result.1.scans.get? target = some run) :
    (∃ earlier, instrument.scans.get? target = some earlier ∧ earlier.Continues run) ∨
    ∃ scan columns, action = .start scan ∧ scan.target = target ∧
      scan.columns instrument = .ok columns ∧ run = (scan.plan columns).opening := by
  by_cases moved : action.moved? = some target
  · obtain ⟨rows, rfl⟩ := advance_of_act moved done
    cases before : instrument.scans.get? target with
    | none =>
        have idle : instrument.running? target = none := by rw [Instrument.running?, before]; rfl
        rw [Instrument.advance_of_not_running idle, before] at found
        contradiction
    | some earlier =>
        obtain ⟨later, now, continues⟩ := Instrument.continues_advance before rows store
        obtain rfl := Option.some.inj (now.symm.trans found)
        exact .inl ⟨earlier, rfl, continues⟩
  by_cases started : action.started? = some target
  · obtain ⟨scan, rfl, aimed⟩ := start_of_started? started
    obtain ⟨columns, asked, _, _, recorded⟩ := opening_of_start done
    rw [aimed] at recorded
    exact .inr ⟨scan, columns, rfl, aimed, asked, Option.some.inj (found.symm.trans recorded)⟩
  · rcases get?_scans_of_act done started moved with kept | halted
    · exact .inl ⟨run, kept.symm.trans found, {}⟩
    · obtain ⟨record, before, rfl⟩ := Option.map_eq_some_iff.mp (halted.symm.trans found)
      exact .inl ⟨record, before, {}⟩

/-! ## Bindings -/

/-- What an action that moves no scan makes of the bindings. -/
def rebind (bindings : List Binding) : Action → List Binding
  | enableEvents kinds period handler => bindings ++ [⟨kinds, period, period, handler⟩]
  | disableEvents kinds =>
      (bindings.map fun binding => binding.without kinds).filter fun binding =>
        !binding.kinds.isEmpty
  | start scan => if scan.target.isInput then bindings.map Binding.rearm else bindings
  | _ => bindings

theorem bindings_of_act (done : action.act instrument store = .ok result)
    (unmoved : action.moved? = none) :
    result.1.bindings = action.rebind instrument.bindings := by
  cases action with
  | connect =>
      simp only [act, bind_eq_ok_iff, pure_eq_ok_iff, Instrument.connect] at done
      rcases done with ⟨after, connected, rfl⟩
      split at connected
      · exact (Except.ok.inj connected) ▸ rfl
      · contradiction
  | loadQueue queue =>
      simp only [act, bind_eq_ok_iff, pure_eq_ok_iff, Instrument.loadQueue] at done
      rcases done with ⟨_, _, after, ⟨_, _, rfl⟩, rfl⟩
      rfl
  | enableEvents kinds period handler =>
      simp only [act, bind_eq_ok_iff, pure_eq_ok_iff, Instrument.enableEvents] at done
      rcases done with ⟨after, ⟨_, _, rfl⟩, rfl⟩
      rfl
  | start scan =>
      rcases act_start_eq_ok_iff.mp done with ⟨_, columns, rate, _, _, rfl⟩
      exact (Instrument.settle_alike _ scan).bindings
  | disconnect | unplug | disableEvents =>
      obtain rfl := Except.ok.inj done
      rfl
  | halt other =>
      obtain rfl := Except.ok.inj done
      exact Instrument.haltScan_bindings instrument other
  | abort other error =>
      obtain rfl := Except.ok.inj done
      change (instrument.abortScan other error).1.bindings = instrument.bindings
      rw [Instrument.abortScan_fst]
      split
      · exact Instrument.haltScan_bindings instrument other
      · rfl
  | advance | finish => simp [moved?] at unmoved

end Act

end Action

namespace Instrument

/-- An output scan that advances leaves the bindings alone. -/
theorem advance_bindings_of_output {target : ScanTarget} (output : target.isInput = false)
    (rows : Nat) (instrument : Instrument) (store : Store) :
    (advance target rows instrument store).1.bindings = instrument.bindings := by
  refine advance_induction (P := fun later _ => later.bindings = instrument.bindings) ?_ rows rfl
  intro later store run kept _
  rw [moveRow_bindings, output, if_neg Bool.false_ne_true, kept]

/-! ## What no action touches -/

theorem sample_rest (instrument : Instrument) (column : Column) :
    ∃ registers, (instrument.sample column).2 = { instrument with registers } := by
  cases column with
  | analog | counter => exact ⟨_, rfl⟩
  | port kind =>
      simp only [sample]
      split <;> exact ⟨_, rfl⟩

theorem drive_rest (instrument : Instrument) (value : Float) (column : Column) :
    ∃ outputs ports, instrument.drive value column = { instrument with outputs, ports } := by
  cases column with
  | analog | counter => exact ⟨_, _, rfl⟩
  | port kind =>
      simp only [drive]
      split <;> exact ⟨_, _, rfl⟩

theorem acquire_rest (buffer : ScanBuffer) (columns : List Column) (index : Nat)
    (instrument : Instrument) (store : Store) :
    ∃ registers, (acquire buffer columns index instrument store).1 =
      { instrument with registers } := by
  induction columns generalizing index instrument store with
  | nil => exact ⟨_, rfl⟩
  | cons column rest ih =>
      obtain ⟨sampled, first⟩ := instrument.sample_rest column
      obtain ⟨registers, others⟩ := ih (index + 1) (instrument.sample column).2
        (buffer.put store index (instrument.sample column).1)
      refine ⟨registers, others.trans ?_⟩
      rw [first]

theorem generate_rest (buffer : ScanBuffer) (store : Store) (columns : List Column) (index : Nat)
    (instrument : Instrument) :
    ∃ outputs ports, generate buffer store columns index instrument =
      { instrument with outputs, ports } := by
  induction columns generalizing index instrument with
  | nil => exact ⟨_, _, rfl⟩
  | cons column rest ih =>
      rw [generate]
      split
      · next value _ =>
          obtain ⟨_, _, first⟩ := instrument.drive_rest value column
          obtain ⟨outputs, ports, others⟩ := ih (index + 1) (instrument.drive value column)
          refine ⟨outputs, ports, others.trans ?_⟩
          rw [first]
      · exact ih _ _

theorem moveRow_rest (instrument : Instrument) (store : Store) (target : ScanTarget)
    (run : ScanRun) :
    ∃ outputs ports registers scans bindings, (instrument.moveRow store target run).1 =
      { instrument with outputs, ports, registers, scans, bindings } := by
  simp only [moveRow, moveSamples]
  split
  · obtain ⟨registers, acquired⟩ :=
      acquire_rest run.buffer run.columns run.position instrument store
    exact ⟨_, _, _, _, _, by rw [acquired]⟩
  · obtain ⟨outputs, ports, generated⟩ :=
      generate_rest run.buffer store run.columns run.position instrument
    exact ⟨_, _, _, _, _, by rw [generated]⟩

theorem advance_rest (target : ScanTarget) (rows : Nat) (instrument : Instrument)
    (store : Store) :
    ∃ outputs ports registers scans bindings, (advance target rows instrument store).1 =
      { instrument with outputs, ports, registers, scans, bindings } := by
  refine advance_induction (P := fun later _ => ∃ outputs ports registers scans bindings,
    later = { instrument with outputs, ports, registers, scans, bindings }) ?_ rows
    ⟨_, _, _, _, _, rfl⟩
  rintro later store run ⟨_, _, _, _, _, kept⟩ _
  obtain ⟨outputs, ports, registers, scans, bindings, moved⟩ := later.moveRow_rest store target run
  exact ⟨outputs, ports, registers, scans, bindings, moved.trans (by rw [kept])⟩

theorem clearCounters_rest (low : Int) (count : Nat) (instrument : Instrument) :
    ∃ registers, clearCounters low count instrument = { instrument with registers } := by
  induction count generalizing low instrument with
  | zero => exact ⟨_, rfl⟩
  | succ count ih => exact ih _ _

theorem settle_rest (instrument : Instrument) (start : ScanStart) :
    ∃ registers, start.settle instrument = { instrument with registers } := by
  cases start with
  | counters request flags buffer =>
      simp only [ScanStart.settle]
      split
      · exact ⟨_, rfl⟩
      · exact clearCounters_rest _ _ _
  | _ => exact ⟨_, rfl⟩

end Instrument

/-- Whatever an action does, it leaves the settings and the inputs of a device alone, and what else
only adjustments change. -/
theorem Action.rest_of_act {action : Action} {instrument : Instrument} {store : Store}
    {result : Instrument × Store × List Firing} (done : action.act instrument store = .ok result) :
    ∃ isPresent isConnected outputs ports registers queue scans bindings, result.1 =
      { instrument with
        isPresent, isConnected, outputs, ports, registers, queue, scans, bindings } := by
  cases moved : action.moved? with
  | some target =>
      obtain ⟨rows, rfl⟩ := Action.advance_of_act moved done
      obtain ⟨outputs, ports, registers, scans, bindings, rest⟩ :=
        Instrument.advance_rest target rows instrument store
      exact ⟨_, _, outputs, ports, registers, _, scans, bindings, rest⟩
  | none =>
      cases started : action.started? with
      | some target =>
          obtain ⟨scan, rfl, _⟩ := Action.start_of_started? started
          obtain ⟨_, columns, rate, _, _, rfl⟩ := Action.act_start_eq_ok_iff.mp done
          obtain ⟨registers, rest⟩ := Instrument.settle_rest
            (instrument.launch scan.target (scan.plan columns)) scan
          exact ⟨_, _, _, _, registers, _, _, _, rest⟩
      | none =>
          obtain ⟨isPresent, isConnected, queue, scans, bindings, rest⟩ :=
            Action.eq_of_still done started moved
          exact ⟨isPresent, isConnected, _, _, _, queue, scans, bindings, rest⟩

end Acquisition
