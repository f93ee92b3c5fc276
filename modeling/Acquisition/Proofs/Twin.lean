import Acquisition.Proofs.Effect

/-!
# Devices that a scan cannot tell apart

Two states of a device are twins for a target when they agree in the scan there and in
what starting it depends on, and their bindings agree but for the thresholds.  Scans on
other targets make a twin of a device (`twin_of_isForeign`), and any other action takes
twins to twins (`Twin.act`).
-/

namespace Acquisition

namespace Binding

variable (binding : Binding)

@[simp]
theorem rearm_rearm : binding.rearm.rearm = binding.rearm :=
  rfl

@[simp]
theorem rearm_pass (transfer : Transfer) : (binding.pass transfer).rearm = binding.rearm := by
  unfold pass
  split <;> rfl

end Binding

namespace Instrument

/-- Two states of a device that the scan on a target cannot tell apart, apart from the
thresholds of the bindings. -/
structure Twin (target : ScanTarget) (left right : Instrument) : Prop where
  profile : right.profile = left.profile
  isPresent : right.isPresent = left.isPresent
  isConnected : right.isConnected = left.isConnected
  queue : right.queue = left.queue
  portKinds : right.ports.map Port.kind = left.ports.map Port.kind
  scan : right.scans.get? target = left.scans.get? target
  bindings : right.bindings.map Binding.rearm = left.bindings.map Binding.rearm

variable {target other : ScanTarget} {left right last : Instrument}

theorem Twin.refl (target : ScanTarget) (instrument : Instrument) :
    Twin target instrument instrument :=
  ⟨rfl, rfl, rfl, rfl, rfl, rfl, rfl⟩

theorem Twin.symm (twin : Twin target left right) : Twin target right left where
  profile := twin.profile.symm
  isPresent := twin.isPresent.symm
  isConnected := twin.isConnected.symm
  queue := twin.queue.symm
  portKinds := twin.portKinds.symm
  scan := twin.scan.symm
  bindings := twin.bindings.symm

theorem Twin.trans (first : Twin target left right) (second : Twin target right last) :
    Twin target left last where
  profile := second.profile.trans first.profile
  isPresent := second.isPresent.trans first.isPresent
  isConnected := second.isConnected.trans first.isConnected
  queue := second.queue.trans first.queue
  portKinds := second.portKinds.trans first.portKinds
  scan := second.scan.trans first.scan
  bindings := second.bindings.trans first.bindings

theorem Alike.twin (alike : left.Alike right) (target : ScanTarget) : Twin target left right where
  profile := alike.profile
  isPresent := alike.isPresent
  isConnected := alike.isConnected
  queue := alike.queue
  portKinds := alike.portKinds
  scan := congrArg (Table.get? · target) alike.scans
  bindings := congrArg (List.map Binding.rearm) alike.bindings

theorem Twin.running? (twin : Twin target left right) :
    right.running? target = left.running? target := by
  simp only [Instrument.running?, twin.scan]

/-! ## What starting a scan depends on -/

section Columns

theorem checkAnalogIn_congr (same : right.profile = left.profile) :
    right.checkAnalogIn = left.checkAnalogIn := by
  funext channel mode range
  have count : right.channelCount mode = left.channelCount mode := by
    simp only [channelCount, same]
  have ranges : right.inputRanges mode = left.inputRanges mode := by
    simp only [inputRanges, same]
  simp only [checkAnalogIn, count, ranges]

theorem checkCounter_congr (same : right.profile = left.profile) :
    right.checkCounter = left.checkCounter := by
  funext counter
  simp only [checkCounter, same]

/-- Whether there is a port for a column depends on the kinds of the ports. -/
theorem portColumn_eq (instrument : Instrument) (code : Int) :
    instrument.portColumn code =
      match (Coded.ofCode? code : Option PortKind) with
      | some kind =>
          if kind ∈ instrument.ports.map Port.kind then .ok (.port kind) else .error .badPortType
      | none => .error .badPortType := by
  unfold portColumn
  cases (Coded.ofCode? code : Option PortKind) with
  | none => rfl
  | some kind =>
      simp only [port]
      cases found : instrument.ports.find? fun port => port.kind = kind with
      | none =>
          have absent : kind ∉ instrument.ports.map Port.kind := by
            simpa [List.find?_eq_none] using found
          rw [if_neg absent]
          rfl
      | some port =>
          have same : port.kind = kind := by simpa using List.find?_some found
          have present : kind ∈ instrument.ports.map Port.kind :=
            List.mem_map.mpr ⟨port, List.mem_of_find?_eq_some found, same⟩
          rw [if_pos present]
          rfl

/-- Which ports there are in a range depends on the kinds of the ports. -/
theorem portColumns_eq (instrument : Instrument) (low high : Int) :
    instrument.portColumns low high =
      let inside := (instrument.ports.map Port.kind).filter fun kind =>
        low ≤ (Coded.code kind : Int) && (Coded.code kind : Int) ≤ high
      if inside.isEmpty then .error .badPortType else .ok (inside.map Column.port) := by
  simp only [portColumns, List.filter_map, List.isEmpty_map, List.map_map]
  rfl

theorem Twin.columns (twin : Twin target left right) {scan : ScanStart}
    (input : scan.target.isInput = true) : scan.columns right = scan.columns left := by
  cases scan with
  | analogIn request mode range buffer =>
      simp only [ScanStart.columns, analogInColumns, twin.queue, checkAnalogIn_congr twin.profile]
  | digitalIn request buffer =>
      simp only [ScanStart.columns, portColumns_eq, twin.portKinds]
  | counters request flags buffer =>
      simp only [ScanStart.columns, checkCounter_congr twin.profile]
  | syncIn channels samples rate options buffer =>
      have column : right.syncInColumn = left.syncInColumn := by
        funext channel
        simp only [syncInColumn, twin.profile, checkAnalogIn_congr twin.profile,
          portColumn_eq, twin.portKinds, checkCounter_congr twin.profile]
      simp only [ScanStart.columns, column]
  | analogOut | digitalOut | syncOut => contradiction

theorem Twin.checkPlan (twin : Twin target left right) {before after : Store}
    (shape : after.shape = before.shape) (plan : ScanPlan) :
    right.checkPlan after target plan = left.checkPlan before target plan := by
  simp only [Instrument.checkPlan, isRunning, twin.running?, Store.size_eq_of_shape_eq shape,
    acceptRate, twin.profile]

end Columns

/-! ## Moving and halting -/

/-- A row on another target makes a twin. -/
theorem twin_moveRow_of_ne (ne : target ≠ other) (instrument : Instrument) (store : Store)
    (run : ScanRun) : Twin target instrument (instrument.moveRow store other run).1 where
  profile := (instrument.moveRow_alike store other run).profile
  isPresent := (instrument.moveRow_alike store other run).isPresent
  isConnected := (instrument.moveRow_alike store other run).isConnected
  queue := (instrument.moveRow_alike store other run).queue
  portKinds := (instrument.moveRow_alike store other run).portKinds
  scan := instrument.get?_moveRow_of_ne store other run ne
  bindings := by
    rw [moveRow_bindings]
    split
    · simp
    · rfl

theorem twin_advance_of_ne (ne : target ≠ other) (rows : Nat) (instrument : Instrument)
    (store : Store) : Twin target instrument (advance other rows instrument store).1 := by
  refine advance_induction (P := fun later _ => Twin target instrument later) ?_ rows
    (.refl target instrument)
  exact fun later store run twin _ => twin.trans (twin_moveRow_of_ne ne later store run)

/-- The same row of twins leaves twins. -/
theorem Twin.moveRow (twin : Twin target left right) (before after : Store) (run : ScanRun) :
    Twin target (left.moveRow before target run).1 (right.moveRow after target run).1 := by
  have first := left.moveRow_alike before target run
  have second := right.moveRow_alike after target run
  exact {
    profile := second.profile.trans (twin.profile.trans first.profile.symm)
    isPresent := second.isPresent.trans (twin.isPresent.trans first.isPresent.symm)
    isConnected := second.isConnected.trans (twin.isConnected.trans first.isConnected.symm)
    queue := second.queue.trans (twin.queue.trans first.queue.symm)
    portKinds := second.portKinds.trans (twin.portKinds.trans first.portKinds.symm)
    scan := by rw [moveRow_scans, moveRow_scans, Table.get?_set_self, Table.get?_set_self]
    bindings := by
      rw [moveRow_bindings, moveRow_bindings]
      split
      · simpa [Function.comp_def] using twin.bindings
      · exact twin.bindings }

theorem Twin.advance (twin : Twin target left right) (rows : Nat) (before after : Store) :
    Twin target (Instrument.advance target rows left before).1
      (Instrument.advance target rows right after).1 := by
  induction rows generalizing left right before after with
  | zero => exact twin
  | succ rows ih =>
      cases running : left.running? target with
      | none =>
          rw [advance_of_not_running running,
            advance_of_not_running (twin.running?.trans running)]
          exact twin
      | some run =>
          rw [advance_succ running, advance_succ (twin.running?.trans running)]
          exact ih (twin.moveRow before after run) _ _

theorem twin_haltScan_of_ne (ne : target ≠ other) (instrument : Instrument) :
    Twin target instrument (instrument.haltScan other) := by
  unfold haltScan
  split
  · exact { Twin.refl target instrument with scan := Table.get?_set_of_ne _ ne _ }
  · exact .refl target instrument

theorem Twin.haltScan (twin : Twin target left right) :
    Twin target (left.haltScan target) (right.haltScan target) := by
  unfold Instrument.haltScan
  rw [twin.scan]
  split
  · exact { twin with scan := by rw [Table.get?_set_self, Table.get?_set_self] }
  · exact twin

end Instrument

namespace Action

/-- Whether an action starts, moves or stops the scan on another target. -/
def isForeign (target : ScanTarget) : Action → Bool
  | start scan => scan.target ≠ target
  | advance other _ => other ≠ target
  | finish other => other ≠ target
  | halt other => other ≠ target
  | _ => false

variable {action : Action} {target : ScanTarget} {left right : Instrument}
  {before after : Store} {result : Instrument × Store × List Firing}

/-- Whatever is done to scans on other targets makes a twin. -/
theorem twin_of_isForeign (foreign : action.isForeign target = true)
    (done : action.act left before = .ok result) :
    Instrument.Twin target left result.1 := by
  cases action with
  | start scan =>
      have ne : target ≠ scan.target := (of_decide_eq_true foreign).symm
      rcases act_start_eq_ok_iff.mp done with ⟨_, columns, rate, _, _, rfl⟩
      have settled := (Instrument.settle_alike
        (left.launch scan.target (scan.plan columns)) scan).twin target
      refine Instrument.Twin.trans ?_ settled
      refine { Instrument.Twin.refl target left with
        scan := left.get?_launch_of_ne ne _
        bindings := ?_ }
      simp only [Instrument.launch]
      split
      · simp
      · rfl
  | advance other rows =>
      have ne : target ≠ other := (of_decide_eq_true foreign).symm
      obtain rfl := Except.ok.inj done
      exact Instrument.twin_advance_of_ne ne rows left before
  | finish other =>
      have ne : target ≠ other := (of_decide_eq_true foreign).symm
      rcases Instrument.advance_of_finishScan done with ⟨rows, rfl⟩
      exact Instrument.twin_advance_of_ne ne rows left before
  | halt other =>
      have ne : target ≠ other := (of_decide_eq_true foreign).symm
      obtain rfl := Except.ok.inj done
      exact Instrument.twin_haltScan_of_ne ne left
  | _ => contradiction

/-- A connected twin is connected. -/
theorem checkConnected_congr (twin : Instrument.Twin target left right) :
    checkConnected right = checkConnected left := by
  simp only [checkConnected, twin.isConnected]

/-- What is unbound depends on the kinds of the bindings alone. -/
theorem rearm_disable (bindings : List Binding) (kinds : Flags .event) :
    ((bindings.map fun binding => binding.without kinds).filter fun binding =>
        !binding.kinds.isEmpty).map Binding.rearm =
      ((bindings.map Binding.rearm).map fun binding => binding.without kinds).filter
        fun binding => !binding.kinds.isEmpty := by
  simp only [List.filter_map, List.map_map]
  rfl

/-- What is bound already depends on the kinds of the bindings alone. -/
theorem Twin.checkBinding (twin : Instrument.Twin target left right) (kinds : Flags .event)
    (period : Nat) : right.checkBinding kinds period = left.checkBinding kinds period := by
  have mapped := congrArg (fun bindings : List Binding =>
    bindings.any fun binding => binding.kinds.intersects kinds) twin.bindings
  have any : (right.bindings.any fun binding => binding.kinds.intersects kinds) =
      left.bindings.any fun binding => binding.kinds.intersects kinds := by
    simpa [List.any_map, Function.comp_def, Binding.rearm] using mapped
  have supported : right.supportedEvents = left.supportedEvents := by
    simp only [Instrument.supportedEvents, twin.profile]
  simp only [Instrument.checkBinding, supported, any]

theorem Twin.checkQueue (twin : Instrument.Twin target left right) (queue : List QueueElement) :
    right.checkQueue queue = left.checkQueue queue := by
  have elements (queue : List QueueElement) :
      right.checkElements queue = left.checkElements queue := by
    induction queue with
    | nil => rfl
    | cons element rest ih =>
        simp only [Instrument.checkElements, ih, Instrument.checkAnalogIn_congr twin.profile]
  have lengths : right.maxQueueLength = left.maxQueueLength := by
    funext mode
    simp only [Instrument.maxQueueLength, twin.profile]
  simp only [Instrument.checkQueue, lengths, elements]

/-- An action that is not foreign is taken by a twin as well, and leaves twins. -/
theorem Twin.act (input : target.isInput = true) (twin : Instrument.Twin target left right)
    (shape : after.shape = before.shape) (native : action.isForeign target = false)
    (done : action.act left before = .ok result) :
    ∃ other, action.act right after = .ok other ∧ Instrument.Twin target result.1 other.1 := by
  cases action with
  | connect =>
      simp only [Action.act, bind_eq_ok_iff, pure_eq_ok_iff] at done ⊢
      rcases done with ⟨connected, accepted, rfl⟩
      unfold Instrument.connect at accepted
      split at accepted
      · next present =>
          obtain rfl := Except.ok.inj accepted
          exact ⟨_, ⟨_, if_pos (twin.isPresent.trans present), rfl⟩,
            { twin with isConnected := rfl }⟩
      · contradiction
  | disconnect =>
      obtain rfl := Except.ok.inj done
      refine ⟨_, rfl, { twin with isConnected := rfl, scan := ?_ }⟩
      simp [Instrument.disconnect, Instrument.haltAll, twin.scan]
  | unplug =>
      obtain rfl := Except.ok.inj done
      refine ⟨_, rfl, { twin with isPresent := rfl, isConnected := rfl, scan := ?_ }⟩
      simp [Instrument.unplug, Instrument.haltAll, twin.scan]
  | loadQueue queue =>
      simp only [Action.act, bind_eq_ok_iff, pure_eq_ok_iff, Instrument.loadQueue,
        checkConnected_congr twin, Twin.checkQueue twin] at done ⊢
      rcases done with ⟨answer, connected, _, ⟨checks, checked, rfl⟩, rfl⟩
      exact ⟨_, ⟨answer, connected, _, ⟨checks, checked, rfl⟩, rfl⟩, { twin with queue := rfl }⟩
  | enableEvents kinds period handler =>
      simp only [Action.act, bind_eq_ok_iff, pure_eq_ok_iff, Instrument.enableEvents,
        Twin.checkBinding twin] at done ⊢
      rcases done with ⟨_, ⟨answer, checked, rfl⟩, rfl⟩
      refine ⟨_, ⟨_, ⟨answer, checked, rfl⟩, rfl⟩, { twin with bindings := ?_ }⟩
      simp only [List.map_append, twin.bindings]
  | disableEvents kinds =>
      obtain rfl := Except.ok.inj done
      refine ⟨_, rfl, { twin with bindings := ?_ }⟩
      simp only [Instrument.disableEvents, rearm_disable, twin.bindings]
  | start scan =>
      have same : scan.target = target := by simpa [isForeign] using native
      rcases act_start_eq_ok_iff.mp done with ⟨connected, columns, rate, asked, checked, rfl⟩
      rw [same] at checked
      have accepted := (twin.checkPlan shape (scan.plan columns)).trans checked
      refine ⟨_, act_start_eq_ok_iff.mpr ⟨twin.isConnected.trans connected, columns, rate,
        (twin.columns (same ▸ input)).trans asked, same ▸ accepted, rfl⟩, ?_⟩
      have first := (Instrument.settle_alike
        (left.launch scan.target (scan.plan columns)) scan).twin target
      have second := (Instrument.settle_alike
        (right.launch scan.target (scan.plan columns)) scan).twin target
      refine first.symm.trans (Instrument.Twin.trans ?_ second)
      refine { twin with scan := ?_, bindings := ?_ }
      · simp only [Instrument.launch, same, Table.get?_set_self]
      · simpa [Instrument.launch, same, input, Function.comp_def] using twin.bindings
  | halt other =>
      have same : other = target := by simpa [isForeign] using native
      obtain rfl := Except.ok.inj done
      exact ⟨_, rfl, same ▸ twin.haltScan⟩
  | advance other rows =>
      have same : other = target := by simpa [isForeign] using native
      subst same
      obtain rfl := Except.ok.inj done
      exact ⟨_, rfl, twin.advance rows before after⟩
  | finish other =>
      have same : other = target := by simpa [isForeign] using native
      subst same
      rcases Instrument.finishScan_eq_ok_iff.mp done with ⟨idle, rfl⟩ | ⟨run, running, limited, rfl⟩
      · refine ⟨_, Instrument.finishScan_eq_ok_iff.mpr (.inl ⟨?_, rfl⟩), twin⟩
        exact twin.running?.trans idle
      · refine ⟨_, Instrument.finishScan_eq_ok_iff.mpr (.inr ⟨run, ?_, limited, rfl⟩),
          twin.advance _ before after⟩
        exact twin.running?.trans running
  | abort other error =>
      obtain rfl := Except.ok.inj done
      refine ⟨_, rfl, ?_⟩
      change Instrument.Twin target (left.abortScan other error).1 (right.abortScan other error).1
      rw [Instrument.abortScan_fst, Instrument.abortScan_fst]
      by_cases same : other = target
      · subst same
        rw [Instrument.isRunning, Instrument.isRunning, twin.running?]
        split
        · exact twin.haltScan
        · exact twin
      · have ne : target ≠ other := fun equal => same equal.symm
        have halting (instrument : Instrument) : Instrument.Twin target instrument
            (if instrument.isRunning other then instrument.haltScan other else instrument) := by
          split
          · exact Instrument.twin_haltScan_of_ne ne instrument
          · exact .refl target instrument
        exact (halting left).symm.trans (twin.trans (halting right))

/-- Twins that move their scan by one action move it by the same number of rows. -/
theorem Twin.advance_of_act (twin : Instrument.Twin target left right)
    (moved : action.moved? = some target) {other : Instrument × Store × List Firing}
    (done : action.act left before = .ok result) (also : action.act right after = .ok other) :
    ∃ rows, result = Instrument.advance target rows left before ∧
      other = Instrument.advance target rows right after := by
  cases action with
  | advance elsewhere rows =>
      obtain rfl := Option.some.inj moved
      exact ⟨rows, (Except.ok.inj done).symm, (Except.ok.inj also).symm⟩
  | finish elsewhere =>
      obtain rfl := Option.some.inj moved
      rcases Instrument.finishScan_eq_ok_iff.mp done with ⟨idle, first⟩ | ⟨run, running, _, first⟩
      · rcases Instrument.finishScan_eq_ok_iff.mp also with ⟨_, second⟩ | ⟨_, running, _⟩
        · exact ⟨0, first, second⟩
        · rw [twin.running?, idle] at running
          contradiction
      · rcases Instrument.finishScan_eq_ok_iff.mp also with ⟨idle, _⟩ | ⟨same, again, _, second⟩
        · rw [twin.running?, running] at idle
          contradiction
        · rw [twin.running?, running, Option.some.injEq] at again
          exact ⟨run.remaining, first, again ▸ second⟩
  | _ => simp [moved?] at moved

end Action

end Acquisition
