import Acquisition.Proofs.Endings
import Acquisition.Proofs.Integers
import Acquisition.Proofs.Queue
import Acquisition.Proofs.QueueLimits
import Acquisition.Proofs.Twin

/-!
# Samples and single readings

A single reading of an analog input is bounded by its range, and it is turned into a count of the
converter if the caller wants no volts.  A scan samples the same inputs, but neither the ranges of
its columns nor its flags have a part in what it stores.  So the two agree on a voltage within the
range that is read in volts, and on a voltage that happens to be its own count.

Main statement: `Bench.Reachable.stored_eq_reading_iff`.
-/

namespace Acquisition

/-! ## Voltages within a range -/

namespace Range

variable {range : Range} {volts : Float}

/-- The voltage of a range that is nearest to a voltage. -/
def bounded (range : Range) (volts : Float) : Float :=
  Number.clamp volts range.limits.1 range.limits.2

/-- A voltage that is not outside of a range.  What is no number is not. -/
def Holds (range : Range) (volts : Float) : Prop :=
  ¬ volts < range.limits.1 ∧ ¬ range.limits.2 < volts

instance (range : Range) (volts : Float) : Decidable (range.Holds volts) :=
  inferInstanceAs (Decidable (_ ∧ _))

theorem limits_ordered (range : Range) :
    ¬ range.limits.1 < range.limits.1 ∧ ¬ range.limits.2 < range.limits.2 ∧
      ¬ range.limits.2 < range.limits.1 := by
  cases range <;> decide +kernel

/-- Bounding leaves just the voltages of the range alone. -/
theorem bounded_eq_self_iff : range.bounded volts = volts ↔ range.Holds volts := by
  obtain ⟨low, high, order⟩ := range.limits_ordered
  unfold bounded Number.clamp Holds
  by_cases below : volts < range.limits.1
  · rw [if_pos below, if_neg order]
    exact iff_of_false (fun same => low (same ▸ below)) fun holds => holds.1 below
  · rw [if_neg below]
    by_cases above : range.limits.2 < volts
    · rw [if_pos above]
      exact iff_of_false (fun same => high (same ▸ above)) fun holds => holds.2 above
    · rw [if_neg above]
      exact iff_of_true rfl ⟨below, above⟩

end Range

namespace Instrument

variable {instrument : Instrument} {request : ScanRequest} {mode : InputMode} {range : Range}
  {element : QueueElement} {index : Nat}

/-! ## Single readings -/

/-- The count of the converter for a voltage bounded by a range. -/
def counted (instrument : Instrument) (range : Range) (volts : Float) : Float :=
  toCount (range.bounded volts) range.limits.1 range.limits.2
    (fullCount (instrument.profile.integerD .analogIn Item.AnalogIn.resolution 0 16))

/-- A channel that is accepted with its mode and range is read as volts or as a count. -/
theorem readAnalog_of_accepts (accepts : instrument.Accepts element)
    (flags : Flags .analogInRead) :
    let volts := instrument.inputs.getD element.channel 0
    instrument.readAnalog element.channel element.mode element.range flags =
      .ok (if flags.contains DataFlag.unscaledRead then instrument.counted element.range volts
        else element.range.bounded volts) := by
  intro volts
  refine bind_eq_ok_iff.mpr ⟨(), accepts, ?_⟩
  cases flags.contains DataFlag.unscaledRead <;> rfl

/-! ## Columns and their settings -/

theorem accepts_congr {other : Instrument} (same : other.profile = instrument.profile) :
    other.Accepts element ↔ instrument.Accepts element := by
  rw [Accepts, Accepts, checkAnalogIn_congr same]

/-- The elements of a queue stay accepted. -/
theorem accepted_invariant : Invariant fun instrument _ =>
    ∀ element ∈ instrument.queue, instrument.Accepts element where
  opened _ _ _ := nofun
  adjusted adjustment accepted element there :=
    (accepts_congr adjustment.alike.profile).mpr
      (accepted element (adjustment.alike.queue ▸ there))
  acted {action _ _ _} done accepted element there := by
    refine (accepts_congr (profile_of_act done)).mpr ?_
    cases loads : action.loads with
    | false => exact accepted element (queue_of_act done loads ▸ there)
    | true =>
        cases action with
        | loadQueue queue =>
            simp only [Action.act, bind_eq_ok_iff, pure_eq_ok_iff] at done
            obtain ⟨_, _, after, loaded, rfl⟩ := done
            obtain ⟨takes, rfl⟩ := loadQueue_eq_ok_iff.mp loaded
            exact takes.accepted element there
        | _ => cases loads
  grown _ accepted := accepted

/-- How a column of an analog input scan is to be read: as the queue has it or, without a queue,
as the call has it for the channels from the lowest one on. -/
def setting? (instrument : Instrument) (request : ScanRequest) (mode : InputMode) (range : Range)
    (index : Nat) : Option QueueElement :=
  if instrument.queue.isEmpty then
    if index < request.span then some ⟨request.low + index, mode, range⟩ else none
  else instrument.queue[index]?

theorem source?_analogIn (buffer : Buffer Float) :
    (ScanStart.analogIn request mode range buffer).source? instrument index =
      (instrument.setting? request mode range index).map fun element =>
        .analog element.channel := by
  simp only [ScanStart.source?, setting?]
  split
  · split <;> rfl
  · rfl

/-- Each column of an accepted scan has a setting, and the device accepts it. -/
theorem exists_setting {columns : List Column} {column : Column}
    (accepted : ∀ element ∈ instrument.queue, instrument.Accepts element)
    (asked : instrument.analogInColumns request mode range = .ok columns)
    (listed : columns[index]? = some column) :
    ∃ element, instrument.setting? request mode range index = some element ∧
      column = .analog element.channel ∧ instrument.Accepts element := by
  have asks : (ScanStart.analogIn request mode range ⟨0, 0⟩).columns instrument = .ok columns :=
    asked
  have source := ScanStart.getElem?_columns (.inl rfl) asks index
  rw [listed, source?_analogIn] at source
  obtain ⟨element, there, rfl⟩ := Option.map_eq_some_iff.mp source.symm
  refine ⟨element, there, rfl, ?_⟩
  unfold analogInColumns columnsBetween at asked
  unfold setting? at there
  split at there
  · next empty =>
      rw [if_pos empty] at asked
      split at there
      · obtain rfl := Option.some.inj there
        split at asked
        · contradiction
        obtain ⟨channel, _, placed⟩ := mem_columnsFrom asked (List.mem_of_getElem? listed)
        obtain ⟨⟨⟩, checked, same⟩ := bind_eq_ok_iff.mp placed
        have named : channel = request.low + index := Column.analog.inj (pure_eq_ok_iff.mp same)
        change instrument.checkAnalogIn (request.low + index) mode range = .ok ()
        rw [← named, checked]
      · contradiction
  · exact accepted element (List.mem_of_getElem? there)

end Instrument

namespace Bench

variable {bench : Bench} {handle : Handle} {target : ScanTarget} {device : Instrument}
  {run : ScanRun}

/-! ## A scan that runs on -/

/-- A scan that is running after commands that start none on its target ran before them. -/
theorem running?_of_unrestarted {commands : List Command}
    (unrestarted : Unrestarted handle target bench commands)
    (running : (bench.run commands).1.running? handle target = some run) :
    ∃ earlier, bench.running? handle target = some earlier ∧ earlier.Continues run := by
  induction commands generalizing bench with
  | nil => exact ⟨run, running, {}⟩
  | cons command rest ih =>
      obtain ⟨unstarted, unrestarted⟩ := unrestarted
      obtain ⟨middle, between, continues⟩ := ih unrestarted running
      obtain ⟨earlier, before, continued⟩ := running?_of_unstarted unstarted between
      exact ⟨earlier, before, continued.trans continues⟩

/-- Moving rows starts no scan. -/
theorem running?_of_afterRows {rows : Nat}
    (running : (bench.afterRows handle target rows).running? handle target = some run) :
    ∃ earlier, bench.running? handle target = some earlier ∧ earlier.Continues run := by
  refine running?_of_unstarted (fun started => ?_) running
  obtain ⟨action, taken, starts⟩ := Option.bind_eq_some_iff.mp started
  obtain rfl : Action.advance target rows = action :=
    congrArg Prod.snd (Option.some.inj (taken?_eq_some_iff.mp taken).1)
  cases starts

/-- An analog input scan that runs on has the columns and the buffer that it was started with, and
the device still reports the same profile. -/
theorem Reachable.columns_kept (reachable : bench.Reachable) {command : Command}
    {scan : ScanStart} (accepted : bench.taken? handle command = some (.start scan))
    {commands : List Command}
    (unrestarted : Unrestarted handle scan.target (bench.step command).1 commands) {rows : Nat}
    (found : (((bench.step command).1.run commands).1.afterRows handle scan.target
      rows).driver.instruments.get? handle = some device)
    (running : device.running? scan.target = some run) :
    ∃ opened, bench.driver.instruments.get? handle = some opened ∧
      scan.columns opened = .ok run.columns ∧ run.buffer = scan.buffer ∧
      device.profile = opened.profile := by
  obtain ⟨opened, result, before, done, acted, _⟩ := step_of_taken? accepted
  obtain ⟨columns, asked, _, _, recorded⟩ := Action.opening_of_start done
  obtain ⟨middle, between, later⟩ :=
    running?_of_afterRows ((running?_of_found found).trans running)
  obtain ⟨first, started, continues⟩ := running?_of_unrestarted unrestarted between
  rw [running?_of_found acted.get?_self] at started
  obtain rfl := Option.some.inj
    (recorded.symm.trans (Instrument.running?_eq_some_iff.mp started).1)
  refine ⟨opened, before, ?_, ?_, ?_⟩
  · rw [asked, later.columns, continues.columns]
    exact congrArg Except.ok (scan.plan_columns columns).symm
  · rw [later.buffer, continues.buffer]
    exact scan.plan_buffer columns
  · have last : (bench.run (command :: (commands ++
        [.stimulus (.advance handle scan.target rows)]))).1.driver.instruments.get? handle =
        some device := by
      rw [run_cons, run_append]
      exact found
    exact profile_of_run before last (reachable.issued before)

/-! ## Samples and readings -/

/-- A row of an accepted analog input scan stores the voltage of the channel in each column.  A
single reading of the channel in the same state, with the mode and range of the column and the
flags of the scan, answers as well.  In volts it is what has been stored exactly if the range
holds the voltage, and as a count exactly if the voltage is its own count. -/
theorem Reachable.stored_eq_reading_iff (reachable : bench.Reachable) {request : ScanRequest}
    {mode : InputMode} {range : Range} {flags : Flags .analogInRead} {buffer : Buffer Float}
    {outcome : Outcome Float}
    (served : (Request.scanAnalogIn handle request mode range ⟨flags.bits⟩ buffer).serve bench =
      .ok outcome) {commands : List Command}
    (unrestarted : Unrestarted handle .analogIn outcome.bench commands) {rows : Nat}
    (found : ((outcome.bench.run commands).1.afterRows handle .analogIn
      rows).driver.instruments.get? handle = some device)
    (running : device.running? .analogIn = some run) :
    let before := (outcome.bench.run commands).1.afterRows handle .analogIn rows
    let after := (outcome.bench.run commands).1.afterRows handle .analogIn (rows + 1)
    ∃ opened, bench.driver.instruments.get? handle = some opened ∧
      ∀ index < run.width, ∃ element value,
        opened.setting? request mode range index = some element ∧
        (Request.readAnalog handle element.channel element.mode element.range flags).serve before =
          .ok (before.reply value) ∧
        let volts := device.inputs.getD element.channel 0
        let stored := (buffer.view after.store).get? (run.position + index)
        stored = some volts ∧
        (flags.contains DataFlag.unscaledRead = false →
          (stored = some value ↔ element.range.Holds volts)) ∧
        (flags.contains DataFlag.unscaledRead = true →
          (stored = some value ↔ device.counted element.range volts = volts)) := by
  intro before after
  let start := Request.scanAnalogIn handle request mode range ⟨flags.bits⟩ buffer
  obtain ⟨first, result, there, done, _⟩ := performs_of_serve rfl served
  have accepted : bench.taken? handle (.request start) =
      some (.start (.analogIn request mode range buffer)) :=
    taken?_eq_some_iff.mpr ⟨rfl, first, result, there, done⟩
  have stepped : (bench.step (.request start)).1 = outcome.bench := step_request served
  rw [← stepped] at unrestarted
  have reached : before.Reachable :=
    ((stepped ▸ reachable.step (.request start) : outcome.bench.Reachable).run commands).step _
  obtain ⟨opened, opens, asked, reals, profile⟩ :=
    reachable.columns_kept accepted unrestarted (stepped ▸ found) running
  refine ⟨opened, opens, fun index inside => ?_⟩
  have listed : run.columns[index]? = some run.columns[index] := List.getElem?_eq_getElem inside
  obtain ⟨element, setting, channel, accepts⟩ := Instrument.exists_setting
    (Instrument.accepted_invariant.holds reachable opens) asked listed
  rw [channel] at listed
  have stored : (buffer.view after.store).get? (run.position + index) =
      some (device.inputs.getD element.channel 0) := by
    obtain ⟨_, moved⟩ := afterRows_succ found running
    have consistent := Instrument.consistent_invariant.holds reached found _ run
      (Instrument.running?_eq_some_iff.mp running).1
    have input : ScanTarget.analogIn.isInput = true := rfl
    rw [moved]
    exact Instrument.getElem?_moveRow_of_puts input (fun _ _ _ => by rw [reals]; rfl)
      (by rw [reals]; rfl) consistent listed
  have reads := Instrument.readAnalog_of_accepts ((Instrument.accepts_congr profile).mpr accepts)
    flags
  refine ⟨element, _, setting, (askConnected_eq_ok_iff_of_found found
    (reached.connected found running)).mpr ⟨_, reads, rfl⟩, stored, ?_, ?_⟩
  · intro scaled
    rw [stored, scaled, Option.some.injEq, eq_comm]
    exact Range.bounded_eq_self_iff
  · intro unscaled
    rw [stored, unscaled, Option.some.injEq, eq_comm]
    rfl

/-- A connected device with two inputs in its queue, and a buffer of two cells. -/
def twoQueued : Bench :=
  ((withCells #[0, 0]).run [.request (.loadQueue 1
    [⟨3, .singleEnded, .bip5Volts⟩, ⟨0, .differential, .uni5Volts⟩])]).1

/-- Scan the inputs of the queue. -/
def scanQueued (flags : Flags .analogInRead) : Request Float :=
  .scanAnalogIn 1 ⟨0, 1, 1, 1000, .empty⟩ .singleEnded .bip10Volts ⟨flags.bits⟩ ⟨0, 2⟩

/-- Voltages within the ranges of the two inputs. -/
def withinRanges : List Command :=
  [.stimulus (.setInput 1 3 (-2.5)), .stimulus (.setInput 1 0 1.25)]

/-- The queue decides what the columns are read with, and its voltages are stored as they read. -/
theorem stored_eq_reading_queued : ∃ outcome, (scanQueued .empty).serve twoQueued = .ok outcome ∧
    let before := (outcome.bench.run withinRanges).1.afterRows 1 .analogIn 0
    let after := (outcome.bench.run withinRanges).1.afterRows 1 .analogIn 1
    let cells := (Buffer.view (⟨0, 2⟩ : Buffer Float) after.store)
    (∃ value, (Request.readAnalog 1 3 .singleEnded .bip5Volts .empty).serve before =
      .ok (before.reply value) ∧ cells.get? 0 = some value) ∧
    ∃ value, (Request.readAnalog 1 0 .differential .uni5Volts .empty).serve before =
      .ok (before.reply value) ∧ cells.get? 1 = some value := by
  have accepted : ((scanQueued .empty).serve twoQueued).isOk = true := by decide +kernel
  obtain ⟨outcome, served⟩ := isOk_iff.mp accepted
  have stepped : (twoQueued.step (.request (scanQueued .empty))).1 = outcome.bench :=
    step_request served
  have unrestarted : Unrestarted 1 .analogIn outcome.bench withinRanges := by
    rw [← stepped]
    decide +kernel
  have next : ((outcome.bench.run withinRanges).1.afterRows 1 .analogIn 0).nextRow? 1 .analogIn =
      some ([.analog 3, .analog 0], .reals ⟨0, 2⟩, 0) := by
    rw [← stepped]
    decide +kernel
  have cells : let after := (outcome.bench.run withinRanges).1.afterRows 1 .analogIn 1
      (Buffer.view (⟨0, 2⟩ : Buffer Float) after.store).get? 0 = some (-2.5) ∧
      (Buffer.view (⟨0, 2⟩ : Buffer Float) after.store).get? 1 = some 1.25 := by
    rw [← stepped]
    decide +kernel
  have queue : (twoQueued.driver.instruments.get? 1).map Instrument.queue =
      some [⟨3, .singleEnded, .bip5Volts⟩, ⟨0, .differential, .uni5Volts⟩] := by decide +kernel
  obtain ⟨device, run, found, running, columns, _, position⟩ := exists_running next
  have reachable : twoQueued.Reachable := (withCells_reachable #[0, 0]).run _
  obtain ⟨opened, opens, agree⟩ :=
    reachable.stored_eq_reading_iff served unrestarted found running
  obtain ⟨same, there, loaded⟩ := Option.map_eq_some_iff.mp queue
  obtain rfl := Option.some.inj (opens.symm.trans there)
  simp only [ScanRun.width, columns, position, Nat.zero_add] at agree
  refine ⟨outcome, served, ?_, ?_⟩
  · obtain ⟨element, value, setting, reads, stored, volts, _⟩ := agree 0 (by decide)
    rw [Instrument.setting?, loaded] at setting
    obtain rfl := Option.some.inj setting
    refine ⟨value, reads, (volts (by decide)).mpr ?_⟩
    rw [Option.some.inj (stored.symm.trans cells.1)]
    decide +kernel
  · obtain ⟨element, value, setting, reads, stored, volts, _⟩ := agree 1 (by decide)
    rw [Instrument.setting?, loaded] at setting
    obtain rfl := Option.some.inj setting
    refine ⟨value, reads, (volts (by decide)).mpr ?_⟩
    rw [Option.some.inj (stored.symm.trans cells.2)]
    decide +kernel

/-- An input at twelve volts. -/
def beyondRange : Bench :=
  ((withCells #[0]).run [.stimulus (.setInput 1 0 12)]).1

/-- A scan of one sample stores twelve volts, with either setting of the flag, where a single
reading on a range of ten volts answers ten, and the largest count where no volts are wanted. -/
theorem not_stored_eq_reading_outside :
    let start (flags : Flags .analogInRead) : Request Float :=
      .scanAnalogIn 1 ⟨0, 0, 1, 1000, .empty⟩ .singleEnded .bip10Volts ⟨flags.bits⟩ ⟨0, 1⟩
    let started flags := (beyondRange.step (.request (start flags))).1
    let accepts flags := ((start flags).serve beyondRange).isOk
    let reads flags := ((Request.readAnalog 1 0 .singleEnded .bip10Volts flags).serve
      (started flags)).map Outcome.answer
    let stores flags := ((⟨0, 1⟩ : Buffer Float).view
      ((started flags).afterRows 1 .analogIn 1).store).get? 0
    beyondRange.Reachable ∧
    (accepts .empty = true ∧ reads .empty = .ok 10 ∧ stores .empty = some 12) ∧
    (accepts DataFlag.unscaledRead = true ∧ reads DataFlag.unscaledRead = .ok 262143 ∧
      stores DataFlag.unscaledRead = some 12) := by
  intro start started accepts reads stores
  have reachable : beyondRange.Reachable := (withCells_reachable #[0]).run _
  have volts : accepts .empty = true ∧ reads .empty = .ok 10 ∧ stores .empty = some 12 := by
    decide +kernel
  have counts : accepts DataFlag.unscaledRead = true ∧
      reads DataFlag.unscaledRead = .ok 262143 ∧ stores DataFlag.unscaledRead = some 12 := by
    decide +kernel
  exact ⟨reachable, volts, counts⟩

end Bench

end Acquisition
