import Acquisition.Proofs.Expansion
import Acquisition.Proofs.PortViews

/-!
# What a device advertises

A caller asks a device for its scan options, rates, channels and ranges one property at a time.
The driver looks the same items up on its own when it accepts a start, a reading or a write.  The
two agree: what is advertised is accepted, and anything else is refused with the error that
belongs to it.

Main statement: `World.Reaches.advertised_enforced`.
-/

namespace Acquisition

/-! ## Sets of named flags -/

namespace Flags

variable {family : Family} {flags requested flag item : Flags family} {mask : Int}

/-- The items of a set without nameless bits are named. -/
theorem mem_toList_iff (known : requested.isKnown = true) :
    item ∈ requested.toList ↔ item ∈ declared family ∧ requested.contains item = true := by
  have whole : requested.unnamed.isEmpty = true := by
    refine isEmpty_iff.mpr fun bit => ?_
    rw [unnamed, has_remove, has_unionAll, Bool.and_eq_false_imp]
    intro there
    have named := contains_iff.mp known bit there
    rw [all, has_unionAll] at named
    obtain ⟨flag, listed, has⟩ := List.any_eq_true.mp named
    have contained := (intersects_iff_contains listed).mp (intersects_iff.mpr ⟨bit, has, there⟩)
    obtain ⟨member, among, rfl⟩ := List.mem_map.mp listed
    rw [Bool.not_eq_false', List.any_map]
    exact List.any_eq_true.mpr ⟨member, List.mem_filter.mpr ⟨among, contained⟩, has⟩
  rw [toList, whole, if_pos rfl, List.append_nil, membersIn, declared, List.mem_map, List.mem_map]
  simp only [List.mem_filter]
  constructor
  · rintro ⟨member, ⟨among, contained⟩, rfl⟩
    exact ⟨⟨member, among, rfl⟩, contained⟩
  · rintro ⟨⟨member, among, rfl⟩, contained⟩
    exact ⟨member, ⟨among, contained⟩, rfl⟩

/-- A mask supports a set of named flags exactly when each of them is among those that the mask
expands into. -/
theorem contains_ofInt_iff (known : requested.isKnown = true) :
    (ofInt mask).contains requested = true ↔
      ∀ flag ∈ requested.toList, flag ∈ (ofMask mask : List (Flags family)) := by
  constructor
  · intro supported flag listed
    obtain ⟨named, contained⟩ := (mem_toList_iff known).mp listed
    refine mem_ofMask_iff.mpr ⟨named, contains_iff.mpr fun bit has => ?_⟩
    exact contains_iff.mp supported bit (contains_iff.mp contained bit has)
  · intro each
    refine contains_iff.mpr fun bit there => ?_
    rw [← unionAll_toList requested, has_unionAll] at there
    obtain ⟨flag, listed, has⟩ := List.any_eq_true.mp there
    exact contains_iff.mp (mem_ofMask_iff.mp (each flag listed)).2 bit has

end Flags

/-! ## Properties -/

/-- A property as a profile has it. -/
def Property.read {α : Type} (profile : Profile) : Property α → Except Error α
  | .integer place understand =>
      profile.integer place.subject place.item place.index >>= understand
  | .real place understand =>
      understand <$> profile.real place.subject place.item place.index

section Asking

variable {α : Type} {world : World} {id : DeviceId} {held : Device} {device : Instrument}
  (reaches : world.Reaches id held device)

include reaches

theorem Act.on_ask (property : Property α) :
    (ask id property).on world = (property.read device.profile, world) := by
  cases property with
  | integer place understand => exact on_ask_integer reaches place understand
  | real place understand =>
      have sent := on_question reaches
        (fun handle => .realItem handle place.subject place.item place.index) rfl fun _ => rfl
      have told := on_bind_told sent fun reading => on_pure world (understand reading)
      rw [bind_assoc] at told
      refine told.trans (congrArg (·, world) ?_)
      rw [Property.read]
      cases device.profile.real place.subject place.item place.index <;> rfl

theorem Act.mem_of_askFrom {property : Nat → Property α} {position count : Nat} {values : List α}
    {after : World} (told : (askFrom id property position count).on world = (.ok values, after))
    (value : α) :
    value ∈ values ↔
      ∃ index < count, (property (position + index)).read device.profile = .ok value := by
  induction count generalizing position values with
  | zero =>
      obtain rfl := Except.ok.inj (Prod.mk.inj told).1
      simp
  | succ count ih =>
      obtain ⟨first, middle, asked, told⟩ := on_bind_eq_ok_iff.mp told
      obtain ⟨read, rfl⟩ := Prod.mk.inj ((on_ask reaches _).symm.trans asked)
      obtain ⟨rest, last, listed, done⟩ := on_bind_eq_ok_iff.mp told
      obtain ⟨same, rfl⟩ := Prod.mk.inj done
      obtain rfl := Except.ok.inj same
      rw [List.mem_cons, ih listed]
      constructor
      · rintro (rfl | ⟨index, inside, there⟩)
        · exact ⟨0, Nat.succ_pos _, read⟩
        · refine ⟨index + 1, Nat.succ_lt_succ inside, ?_⟩
          rwa [Nat.add_comm index, ← Nat.add_assoc]
      · rintro ⟨index, inside, there⟩
        cases index with
        | zero => exact .inl (Except.ok.inj (there.symm.trans read))
        | succ index =>
            refine .inr ⟨index, Nat.lt_of_succ_lt_succ inside, ?_⟩
            rwa [Nat.add_assoc, Nat.add_comm 1]

namespace World.Reaches

theorem answer_ask (property : Property α) :
    world.answer id (.ask property) = property.read device.profile :=
  congrArg Prod.fst (Act.on_ask reaches property)

/-- A list that is told has what its positions have. -/
theorem mem_of_askEach {count : Property Nat} {property : Nat → Property α} {values : List α}
    (told : world.answer id (.askEach count property) = .ok values) :
    ∃ length, count.read device.profile = .ok length ∧
      ∀ value, value ∈ values ↔
        ∃ index < length, (property index).read device.profile = .ok value := by
  unfold answer at told
  rcases performed : ((Operation.askEach count property).perform id).on world with ⟨result, after⟩
  rw [performed] at told
  subst told
  obtain ⟨length, middle, asked, listed⟩ := Act.on_bind_eq_ok_iff.mp performed
  obtain ⟨read, rfl⟩ := Prod.mk.inj ((Act.on_ask reaches _).symm.trans asked)
  refine ⟨length, read, fun value => ?_⟩
  rw [Act.mem_of_askFrom reaches listed]
  simp only [Nat.zero_add]

end World.Reaches

end Asking

/-! ## Refusals -/

theorem error_eq_error_iff {α β : Type} {first second : Error} :
    (.error first : Except Error α) = .error second ↔
      (.error first : Except Error β) = .error second := by
  rw [Except.error.injEq, Except.error.injEq]

theorem ok_eq_error_iff {α β : Type} {value : α} {other : β} {error : Error} :
    (.ok value : Except Error α) = .error error ↔ (.ok other : Except Error β) = .error error := by
  simp only [reduceCtorEq]

theorem bind_pure_eq_error_iff {α β : Type} {first : Except Error α} {next : α → β}
    {error : Error} :
    (do return next (← first)) = (.error error : Except Error β) ↔ first = .error error := by
  cases first with
  | error other => exact error_eq_error_iff
  | ok value => exact ok_eq_error_iff

/-! ## Channels and ranges -/

/-- A range is found again by its code. -/
theorem Range.ofCode?_code (range : Range) :
    Coded.ofCode? (Coded.code range : Int) = some range := by
  cases range <;> decide

theorem Coded.ofCode_eq_ok_iff {α : Type} [Coded α] {reading : Int} {value : α} :
    ofCode reading = .ok value ↔ ofCode? reading = some value := by
  refine ⟨ofCode?_of_ofCode, fun known => ?_⟩
  rw [ofCode, known]

namespace Instrument

variable {device : Instrument} {mode : InputMode} {range : Range} {count : Nat}

theorem coded_read_eq_ok_iff {subject : Subject} {item : Int} {index : Nat} {α : Type} [Coded α]
    {value : α} :
    (Property.coded α subject item index).read device.profile = .ok value ↔
      ((device.profile.integer subject item index).toOption.bind Coded.ofCode?) = some value := by
  rw [Property.coded, Property.read]
  cases device.profile.integer subject item index with
  | error error => simp [Except.toOption, bind, Except.bind]
  | ok reading => exact Coded.ofCode_eq_ok_iff

theorem indexCount_of_indices {subject : Subject} {item : Int}
    (counted : (Property.indices subject item).read device.profile = .ok count) :
    device.profile.indexCount subject item = count := by
  obtain ⟨reading, read, same⟩ := bind_eq_ok_iff.mp counted
  rw [Profile.indexCount_of_integer read]
  exact Except.ok.inj same

/-- A range is accepted in a mode exactly when it is at one of the positions that a caller asks
for. -/
theorem mem_inputRanges_iff (counted : (AnalogIn.rangeCount mode).read device.profile = .ok count) :
    range ∈ device.inputRanges mode ↔
      ∃ index < count, (AnalogIn.rangeAt mode index).read device.profile = .ok range := by
  have items : AnalogIn.rangeCount mode = .indices .analogIn (rangeItems mode).1 ∧
      ∀ index, AnalogIn.rangeAt mode index = .coded Range .analogIn (rangeItems mode).2 index := by
    cases mode <;> exact ⟨rfl, fun _ => rfl⟩
  rw [items.1] at counted
  rw [inputRanges, List.mem_filterMap]
  simp only [List.mem_range, indexCount_of_indices counted, items.2, coded_read_eq_ok_iff]

theorem hasOutputRange_iff (counted : AnalogOut.rangeCount.read device.profile = .ok count) :
    device.hasOutputRange range = true ↔
      ∃ index < count, (AnalogOut.rangeAt index).read device.profile = .ok range := by
  rw [hasOutputRange, List.any_eq_true]
  simp only [List.mem_range, indexCount_of_indices counted, AnalogOut.rangeAt,
    coded_read_eq_ok_iff, decide_eq_true_eq]
  refine exists_congr fun index => and_congr_right fun _ => ?_
  rw [Profile.integer]
  cases device.profile.integers.get? ⟨.analogOut, Item.AnalogOut.range, index⟩ with
  | none => simp [Except.toOption]
  | some reading =>
      change some reading = some _ ↔ Coded.ofCode? reading = some range
      rw [Option.some.injEq]
      constructor
      · rintro rfl
        exact range.ofCode?_code
      · exact fun known => (Coded.code_eq_of_ofCode? known).symm

theorem checkAnalogIn_eq_ok_iff {channel : Int} :
    device.checkAnalogIn channel mode range = .ok () ↔
      ∃ most, device.channelCount mode = .ok most ∧
        0 ≤ channel ∧ channel < most ∧ range ∈ device.inputRanges mode := by
  rw [checkAnalogIn, bind_eq_ok_iff]
  refine exists_congr fun most => and_congr_right fun _ => ?_
  split
  · next outside => exact iff_of_false nofun (by omega)
  · next inside =>
      split
      · next listed => exact iff_of_true rfl ⟨by omega, by omega, List.contains_iff_mem.mp listed⟩
      · next unlisted =>
          exact iff_of_false nofun fun found => unlisted (List.contains_iff_mem.mpr found.2.2)

/-- A value that is refused is not refused for its channel or its range. -/
theorem writeAnalog_eq_error_iff {channel : Int} {flags : Flags .analogOutWrite} {value : Float}
    {error : Error} (other : error ≠ .badDaVal) :
    device.writeAnalog channel range flags value = .error error ↔
      device.checkAnalogOut channel range = .error error := by
  have volts : device.outputVolts range flags value ≠ .error error := by
    unfold outputVolts
    dsimp only
    split <;> split <;> simp [other.symm]
  rw [writeAnalog]
  cases device.checkAnalogOut channel range with
  | error refusal => exact error_eq_error_iff
  | ok _ =>
      simp only [reduceCtorEq, iff_false]
      exact fun refused => volts (bind_pure_eq_error_iff.mp refused)

end Instrument

/-! ## Starts -/

/-- The scan that the driver is asked for by an operation. -/
def Operation.scan? {α : Type} (held : Device) : Operation α → Option ScanStart
  | .scanAnalogIn low high mode range samples rate options _ buffer =>
      let channels := Act.queuedChannels held low high
      some (.analogIn ⟨channels.1, channels.2, samples, rate, options⟩ mode range buffer)
  | .scanAnalogOut low high range samples rate options _ buffer =>
      some (.analogOut ⟨low, high, samples, rate, options⟩ range buffer)
  | .scanDigitalIn low high samples rate options _ buffer =>
      some (.digitalIn ⟨Coded.code low, Coded.code high, samples, rate, options⟩ buffer)
  | .scanDigitalOut low high samples rate options _ buffer =>
      some (.digitalOut ⟨Coded.code low, Coded.code high, samples, rate, options⟩ buffer)
  | .scanCounters low high samples rate options flags buffer =>
      some (.counters ⟨low, high, samples, rate, options⟩ flags buffer)
  | .scanSyncIn channels samples rate options _ buffer =>
      some (.syncIn channels samples rate options buffer)
  | .scanSyncOut channels samples rate options _ buffer =>
      some (.syncOut channels samples rate options buffer)
  | _ => none

namespace ScanStart

/-- A start passes every check but those of its options and its rate. -/
structure Fits (start : ScanStart) (device : Instrument) (store : Store) : Prop where
  isIdle : device.isRunning start.target = false
  samples_pos : 0 < start.samples
  samples_le : start.samples ≤ maxSampleCount
  hasColumns : ∃ columns, start.columns device = .ok columns ∧ columns ≠ [] ∧
    columns.length * start.samples.toNat ≤ start.buffer.size store

variable {start : ScanStart} {device : Instrument} {store : Store}

/-- The options and the rate of a start that fits decide about it. -/
theorem perform_eq_error_iff (fits : start.Fits device store) {error : Error} :
    start.perform device store = .error error ↔
      (if !(device.profile.scanOptions start.target).contains start.options then .error .badOption
        else device.acceptRate start.target start.options start.rate) = .error error := by
  obtain ⟨columns, found, nonempty, large⟩ := fits.hasColumns
  have checked : device.checkPlan store start.target (start.plan columns) =
      if !(device.profile.scanOptions start.target).contains start.options then .error .badOption
        else device.acceptRate start.target start.options start.rate := by
    have positive := fits.samples_pos
    unfold Instrument.checkPlan
    rw [fits.isIdle, if_neg Bool.false_ne_true, plan_samples, if_neg (by omega), plan_columns,
      if_neg (by simpa using nonempty), plan_buffer, if_neg (by omega), plan_options, plan_rate]
  rw [perform_eq, found]
  change (device.checkPlan store start.target (start.plan columns) >>= _) = _ ↔ _
  rw [checked]
  exact bind_pure_eq_error_iff

end ScanStart

section Answers

variable {α : Type} {world : World} {id : DeviceId} {held : Device} {device : Instrument}
  (reaches : world.Reaches id held device)

include reaches

/-- A start at the link answers what the device does. -/
theorem Act.startScan_eq_error_iff {target : ScanTarget} (slot : SlotStart target)
    {start : ScanStart}
    (asks : (slot.request held.handle).serve world.bench =
      world.bench.exchange held.handle fun device => start.perform device world.bench.store)
    {error : Error} :
    ((startScan id target slot.buffer slot.request).on world).1 = .error error ↔
      start.perform device world.bench.store = .error error := by
  have served : (slot.request held.handle).serve world.bench =
      (start.perform device world.bench.store >>= fun result =>
        return ⟨result.1, world.bench.put held.handle result.2, []⟩) := by
    rw [asks, Bench.exchange,
      Driver.connected_eq_ok_iff.mpr ⟨reaches.there, reaches.connected⟩]
    rfl
  cases performed : start.perform device world.bench.store with
  | error other =>
      rw [performed] at served
      rw [on_startScan_of_refused reaches.direct reaches.found reaches.kept served]
      exact error_eq_error_iff
  | ok result =>
      rw [performed] at served
      obtain ⟨after, started, _⟩ :=
        on_startScan_of_served reaches.direct reaches.found reaches.kept served
      rw [started]
      exact ok_eq_error_iff

/-- A start whose samples can be counted is refused when the device refuses the scan. -/
theorem Act.counted_eq_error_iff {target : ScanTarget} (slot : Int → SlotStart target)
    (start : Int → ScanStart) {samples : Nat}
    (asks : ∀ count, ((slot count).request held.handle).serve world.bench =
      world.bench.exchange held.handle fun device => (start count).perform device world.bench.store)
    (few : (samples : Int) ≤ maxSampleCount) {error : Error} :
    ((do
      let count ← resume (sampleCount samples)
      startScan id target (slot count).buffer (slot count).request : Act Float).on world).1 =
        .error error ↔
      (start samples).perform device world.bench.store = .error error := by
  rw [sampleCount, if_pos (Int.ofNat_le.mp few), on_bind_ok (on_resume world _)]
  exact startScan_eq_error_iff reaches (slot samples) (asks samples)

namespace World.Reaches

/-- An operation that starts a scan is refused when the device refuses the scan. -/
theorem answer_eq_error_iff {operation : Operation α} {start : ScanStart}
    (scans : operation.scan? held = some start) (few : start.samples ≤ maxSampleCount)
    {error : Error} :
    world.answer id operation = .error error ↔
      start.perform device world.bench.store = .error error := by
  cases operation with
  | scanAnalogIn low high mode range samples rate options flags buffer =>
      obtain rfl := Option.some.inj scans
      let channels := Act.queuedChannels held low high
      have counted : sampleCount samples = .ok samples := if_pos (Int.ofNat_le.mp few)
      rw [answer, Operation.perform, Act.startAnalogIn, counted,
        Act.on_bind_ok (Act.on_resume world _), Act.on_bind_ok (Act.on_device reaches.found)]
      exact Act.startScan_eq_error_iff reaches ⟨.reals buffer, fun handle =>
        .scanAnalogIn handle ⟨channels.1, channels.2, samples, rate, options⟩ mode range flags
          buffer, fun _ => ⟨_, rfl, rfl, rfl⟩⟩ rfl
  | scanAnalogOut low high range samples rate options flags buffer =>
      obtain rfl := Option.some.inj scans
      exact Act.counted_eq_error_iff reaches (fun count => ⟨.reals buffer,
        fun handle => .scanAnalogOut handle ⟨low, high, count, rate, options⟩ range flags buffer,
        fun _ => ⟨_, rfl, rfl, rfl⟩⟩)
        (fun count => .analogOut ⟨low, high, count, rate, options⟩ range buffer)
        (fun _ => rfl) few
  | scanDigitalIn low high samples rate options flags buffer =>
      obtain rfl := Option.some.inj scans
      exact Act.counted_eq_error_iff reaches (fun count => ⟨.words buffer,
        fun handle => .scanDigitalIn handle
          ⟨Coded.code low, Coded.code high, count, rate, options⟩ flags buffer,
        fun _ => ⟨_, rfl, rfl, rfl⟩⟩)
        (fun count =>
          .digitalIn ⟨Coded.code low, Coded.code high, count, rate, options⟩ buffer)
        (fun _ => rfl) few
  | scanDigitalOut low high samples rate options flags buffer =>
      obtain rfl := Option.some.inj scans
      exact Act.counted_eq_error_iff reaches (fun count => ⟨.words buffer,
        fun handle => .scanDigitalOut handle
          ⟨Coded.code low, Coded.code high, count, rate, options⟩ flags buffer,
        fun _ => ⟨_, rfl, rfl, rfl⟩⟩)
        (fun count =>
          .digitalOut ⟨Coded.code low, Coded.code high, count, rate, options⟩ buffer)
        (fun _ => rfl) few
  | scanCounters low high samples rate options flags buffer =>
      obtain rfl := Option.some.inj scans
      exact Act.counted_eq_error_iff reaches (fun count => ⟨.words buffer,
        fun handle => .scanCounters handle ⟨low, high, count, rate, options⟩ flags buffer,
        fun _ => ⟨_, rfl, rfl, rfl⟩⟩)
        (fun count => .counters ⟨low, high, count, rate, options⟩ flags buffer)
        (fun _ => rfl) few
  | scanSyncIn channels samples rate options flags buffer =>
      obtain rfl := Option.some.inj scans
      exact Act.counted_eq_error_iff reaches (fun count => ⟨.reals buffer,
        fun handle => .scanSyncIn handle channels count rate options flags buffer,
        fun _ => ⟨_, rfl, rfl, rfl⟩⟩)
        (fun count => .syncIn channels count rate options buffer) (fun _ => rfl) few
  | scanSyncOut channels samples rate options flags buffer =>
      obtain rfl := Option.some.inj scans
      exact Act.counted_eq_error_iff reaches (fun count => ⟨.reals buffer,
        fun handle => .scanSyncOut handle channels count rate options flags buffer,
        fun _ => ⟨_, rfl, rfl, rfl⟩⟩)
        (fun count => .syncOut channels count rate options buffer) (fun _ => rfl) few
  | _ => cases scans

/-- A start that passes every check is accepted. -/
theorem accepts {operation : Operation Float}
    {start : ScanStart} (scans : operation.scan? held = some start)
    (fits : start.Fits device world.bench.store)
    (plain : (device.profile.scanOptions start.target).contains start.options = true)
    (paced : (device.acceptRate start.target start.options start.rate).isOk = true) :
    ∃ answer after, (operation.perform id).on world = (.ok answer, after) := by
  cases performed : (operation.perform id).on world with
  | mk answer after =>
  cases answer with
  | ok answer => exact ⟨answer, after, rfl⟩
  | error error =>
      have refused := (reaches.answer_eq_error_iff scans fits.samples_le).mp
        (congrArg Prod.fst performed)
      rw [ScanStart.perform_eq_error_iff fits, plain, Bool.not_true,
        if_neg Bool.false_ne_true] at refused
      rw [refused] at paced
      cases paced

end World.Reaches

end Answers

/-! ## What is advertised is what is enforced -/

namespace World

variable {world : World} {id : DeviceId} {held : Device} {device : Instrument}

/-- What a caller is told about the scans of a target. -/
structure Advertises (world : World) (id : DeviceId) (target : ScanTarget)
    (options : List (Flags .scanOption)) (low high : Float) : Prop where
  options : world.answer id (.ask (Scanning.options target)) = .ok options
  minRate : world.answer id (.ask (Scanning.minRate target)) = .ok low
  maxRate : world.answer id (.ask (Scanning.maxRate target)) = .ok high

section Told

variable {target : ScanTarget} {options : List (Flags .scanOption)} {low high : Float}
  (reaches : world.Reaches id held device)

include reaches

theorem Advertises.contains_iff (advertises : world.Advertises id target options low high)
    {requested : Flags .scanOption} (known : requested.isKnown = true) :
    (device.profile.scanOptions target).contains requested = true ↔
      ∀ flag ∈ requested.toList, flag ∈ options := by
  have told := advertises.options
  rw [reaches.answer_ask] at told
  obtain ⟨mask, read, expanded⟩ := bind_eq_ok_iff.mp told
  obtain rfl := Except.ok.inj expanded
  have supported : device.profile.scanOptions target = Flags.ofInt mask := by
    rw [Profile.scanOptions, Facility.optionsItem_eq, Profile.mask,
      Profile.integerD_of_integer read]
  rw [supported]
  exact Flags.contains_ofInt_iff known

theorem Advertises.rateLimits_eq (advertises : world.Advertises id target options low high) :
    device.profile.rateLimits target = .ok (low, high) := by
  have least := advertises.minRate
  have most := advertises.maxRate
  obtain ⟨lowest, highest⟩ := Facility.rates_eq target
  rw [reaches.answer_ask, Scanning.minRate, Scanning.rate, Property.rate, Property.read,
    id_map, lowest] at least
  rw [reaches.answer_ask, Scanning.maxRate, Scanning.rate, Property.rate, Property.read,
    id_map, highest] at most
  simp only [Profile.rateLimits, Facility.optionsItem_eq, least, most]
  rfl

theorem Advertises.acceptRate_eq (advertises : world.Advertises id target options low high)
    (requested : Flags .scanOption) (rate : Float) :
    device.acceptRate target requested rate =
      if requested.contains ScanOption.externalClock then .ok rate
      else if low ≤ rate ∧ rate ≤ high then .ok (device.profile.snapRate rate low high)
      else .error .badRate := by
  rw [Instrument.acceptRate, advertises.rateLimits_eq reaches]
  rfl

/-- A start that fits is refused for its options exactly when it asks for one that is not
advertised, and else for its rate exactly when the device paces it and the rate is not within the
advertised ones. -/
theorem Advertises.answer_scan {α : Type} {operation : Operation α} {start : ScanStart}
    (scans : operation.scan? held = some start) (fits : start.Fits device world.bench.store)
    (known : start.options.isKnown = true)
    (advertises : world.Advertises id start.target options low high) :
    (world.answer id operation = .error .badOption ↔
      ∃ flag ∈ start.options.toList, flag ∉ options) ∧
    (world.answer id operation = .error .badRate ↔
      (∀ flag ∈ start.options.toList, flag ∈ options) ∧
        start.options.contains ScanOption.externalClock = false ∧
        ¬(low ≤ start.rate ∧ start.rate ≤ high)) ∧
    ((world.answer id operation).isOk = true ↔
      (∀ flag ∈ start.options.toList, flag ∈ options) ∧
        (start.options.contains ScanOption.externalClock = true ∨
          low ≤ start.rate ∧ start.rate ≤ high)) := by
  have refused : ∀ error, world.answer id operation = .error error ↔
      (if !(device.profile.scanOptions start.target).contains start.options then .error .badOption
        else device.acceptRate start.target start.options start.rate) = .error error :=
    fun error => (reaches.answer_eq_error_iff scans fits.samples_le).trans
      (ScanStart.perform_eq_error_iff fits)
  have accepted : (world.answer id operation).isOk = true ↔
      ∀ error, world.answer id operation ≠ .error error := by
    cases world.answer id operation with
    | error error => exact iff_of_false Bool.false_ne_true fun free => free error rfl
    | ok value => exact iff_of_true rfl nofun
  simp only [accepted, Ne, refused]
  have supported := advertises.contains_iff reaches known
  by_cases each : ∀ flag ∈ start.options.toList, flag ∈ options
  · have none : ¬∃ flag ∈ start.options.toList, flag ∉ options :=
      fun ⟨flag, listed, missing⟩ => missing (each flag listed)
    rw [supported.mpr each, Bool.not_true, if_neg Bool.false_ne_true,
      advertises.acceptRate_eq reaches]
    by_cases external : start.options.contains ScanOption.externalClock = true
    · rw [if_pos external]
      refine ⟨iff_of_false nofun none, iff_of_false nofun ?_,
        iff_of_true nofun ⟨each, .inl external⟩⟩
      rw [external]
      exact fun paced => Bool.noConfusion paced.2.1
    · have paced := Bool.eq_false_iff.mpr external
      rw [if_neg external]
      by_cases within : low ≤ start.rate ∧ start.rate ≤ high
      · rw [if_pos within]
        exact ⟨iff_of_false nofun none, iff_of_false nofun fun outside => outside.2.2 within,
          iff_of_true nofun ⟨each, .inr within⟩⟩
      · rw [if_neg within]
        exact ⟨iff_of_false nofun none, iff_of_true rfl ⟨each, paced, within⟩,
          iff_of_false (fun free => free _ rfl) fun admitted => admitted.2.elim external within⟩
  · rw [Bool.eq_false_iff.mpr (mt supported.mp each), Bool.not_false, if_pos rfl]
    refine ⟨iff_of_true rfl ?_, iff_of_false nofun fun paced => each paced.1,
      iff_of_false (fun free => free _ rfl) fun admitted => each admitted.1⟩
    push Not at each
    exact each

/-- A reading succeeds exactly for the channels and the ranges that are advertised in its mode. -/
theorem Reaches.readAnalog_isOk_iff {mode : InputMode} {count : Nat} {ranges : List Range}
    (counted : world.answer id (.ask (AnalogIn.channelCountIn mode)) = .ok count)
    (listed : world.answer id (.askEach (AnalogIn.rangeCount mode) (AnalogIn.rangeAt mode)) =
      .ok ranges) (channel : Int) (range : Range) (flags : Flags .analogInRead) :
    (world.answer id (.readAnalog channel mode range flags)).isOk = true ↔
      0 ≤ channel ∧ channel < count ∧ range ∈ ranges := by
  have told : world.answer id (.readAnalog channel mode range flags) =
      device.readAnalog channel mode range flags :=
    congrArg Prod.fst (Act.on_questionConnected reaches
      (fun handle => .readAnalog handle channel mode range flags) rfl fun _ => rfl)
  have checked : (device.readAnalog channel mode range flags).isOk = true ↔
      device.checkAnalogIn channel mode range = .ok () := by
    rw [Instrument.readAnalog]
    cases device.checkAnalogIn channel mode range with
    | error error => exact iff_of_false Bool.false_ne_true nofun
    | ok _ =>
        refine iff_of_true ?_ rfl
        change Except.isOk (if _ then pure _ else pure _) = true
        split <;> rfl
  rw [reaches.answer_ask] at counted
  obtain ⟨most, read, same⟩ := bind_eq_ok_iff.mp counted
  have channels : device.channelCount mode = .ok most := by
    rw [Instrument.channelCount, read]
  obtain rfl : most.toNat = count := Except.ok.inj same
  obtain ⟨length, positions, member⟩ := reaches.mem_of_askEach listed
  rw [told, checked, Instrument.checkAnalogIn_eq_ok_iff, channels,
    Instrument.mem_inputRanges_iff positions, ← member]
  constructor
  · rintro ⟨_, ⟨⟩, low, high, there⟩
    exact ⟨low, by omega, there⟩
  · rintro ⟨low, high, there⟩
    exact ⟨most, rfl, low, by omega, there⟩

/-- A request that changes a device is refused when the change is. -/
theorem Reaches.adjust_eq_error_iff {operation : Operation Unit} (request : Handle → Request Unit)
    {change : Instrument → Except Error Instrument}
    (performs : operation.perform id = (do Act.send (request (← Act.live id))))
    (asks : (request held.handle).serve world.bench =
      world.bench.adjustConnected held.handle change) {error : Error} :
    world.answer id operation = .error error ↔ change device = .error error := by
  rw [reaches.answer_adjust request performs asks]
  cases change device <;> simp [Except.map]

/-- A write is refused for its channel or its range exactly when that is not advertised. -/
theorem Reaches.writeAnalog_refused_iff {count : Nat} {ranges : List Range}
    (counted : world.answer id (.ask AnalogOut.channelCount) = .ok count)
    (listed : world.answer id (.askEach AnalogOut.rangeCount AnalogOut.rangeAt) = .ok ranges)
    (channel : Int) (range : Range) (flags : Flags .analogOutWrite) (value : Float) :
    (world.answer id (.writeAnalog channel range flags value) = .error .badAoChan ↔
      ¬(0 ≤ channel ∧ channel < count)) ∧
    (world.answer id (.writeAnalog channel range flags value) = .error .badRange ↔
      (0 ≤ channel ∧ channel < count) ∧ range ∉ ranges) := by
  have refused : ∀ error, error ≠ .badDaVal →
      (world.answer id (.writeAnalog channel range flags value) = .error error ↔
        device.checkAnalogOut channel range = .error error) := fun error other =>
    (reaches.adjust_eq_error_iff (fun handle => .writeAnalog handle channel range flags value)
      rfl rfl).trans (Instrument.writeAnalog_eq_error_iff other)
  rw [reaches.answer_ask] at counted
  obtain ⟨most, read, same⟩ := bind_eq_ok_iff.mp counted
  obtain rfl : most.toNat = count := Except.ok.inj same
  obtain ⟨length, positions, member⟩ := reaches.mem_of_askEach listed
  have ranged : device.hasOutputRange range = true ↔ range ∈ ranges :=
    (Instrument.hasOutputRange_iff positions).trans (member range).symm
  rw [refused .badAoChan nofun, refused .badRange nofun, Instrument.checkAnalogOut,
    Profile.integerD_of_integer read]
  split
  · next outside => exact ⟨iff_of_true rfl (by omega), iff_of_false nofun (by omega)⟩
  · next inside =>
      have within : 0 ≤ channel ∧ channel < most.toNat := by omega
      split
      · next there =>
          exact ⟨iff_of_false nofun fun outside => outside within,
            iff_of_false nofun fun missing => missing.2 (ranged.mp there)⟩
      · next missing =>
          exact ⟨iff_of_false nofun fun outside => outside within,
            iff_of_true rfl ⟨within, mt ranged.mpr missing⟩⟩

/-- What a device advertises is what it enforces.  A start that fits on a target whose options and
rates are told is refused for its options exactly when one of them is not told, else for its rate
exactly when no external clock is asked for and the rate is not within those told, and is accepted
otherwise.  A reading succeeds exactly for the channels and ranges that are told in its mode, and a
write is refused for its channel or its range exactly when they are not told. -/
theorem Reaches.advertised_enforced :
    (∀ {α : Type} (operation : Operation α) (start : ScanStart)
        (options : List (Flags .scanOption)) (low high : Float),
      operation.scan? held = some start → start.Fits device world.bench.store →
      start.options.isKnown = true → world.Advertises id start.target options low high →
      (world.answer id operation = .error .badOption ↔
        ∃ flag ∈ start.options.toList, flag ∉ options) ∧
      (world.answer id operation = .error .badRate ↔
        (∀ flag ∈ start.options.toList, flag ∈ options) ∧
          start.options.contains ScanOption.externalClock = false ∧
          ¬(low ≤ start.rate ∧ start.rate ≤ high)) ∧
      ((world.answer id operation).isOk = true ↔
        (∀ flag ∈ start.options.toList, flag ∈ options) ∧
          (start.options.contains ScanOption.externalClock = true ∨
            low ≤ start.rate ∧ start.rate ≤ high))) ∧
    (∀ (mode : InputMode) (count : Nat) (ranges : List Range),
      world.answer id (.ask (AnalogIn.channelCountIn mode)) = .ok count →
      world.answer id (.askEach (AnalogIn.rangeCount mode) (AnalogIn.rangeAt mode)) = .ok ranges →
      ∀ channel range flags,
        (world.answer id (.readAnalog channel mode range flags)).isOk = true ↔
          0 ≤ channel ∧ channel < count ∧ range ∈ ranges) ∧
    (∀ (count : Nat) (ranges : List Range),
      world.answer id (.ask AnalogOut.channelCount) = .ok count →
      world.answer id (.askEach AnalogOut.rangeCount AnalogOut.rangeAt) = .ok ranges →
      ∀ channel range flags value,
        (world.answer id (.writeAnalog channel range flags value) = .error .badAoChan ↔
          ¬(0 ≤ channel ∧ channel < count)) ∧
        (world.answer id (.writeAnalog channel range flags value) = .error .badRange ↔
          (0 ≤ channel ∧ channel < count) ∧ range ∉ ranges)) := by
  refine ⟨?_, ?_, ?_⟩
  · intro α operation start options low high scans fits known advertises
    exact advertises.answer_scan reaches scans fits known
  · intro mode count ranges counted listed
    exact reaches.readAnalog_isOk_iff counted listed
  · intro count ranges counted listed
    exact reaches.writeAnalog_refused_iff counted listed

end Told

/-- A device is connected, and there is a buffer for two samples of two channels. -/
def buffered : List Move :=
  connected ++ [.edit (.allocateReals #[0, 0, 0, 0])]

/-- A scan of two channels into the buffer. -/
def pairScan (rate : Float) (options : Flags .scanOption) : Operation Float :=
  .scanAnalogIn 0 1 .singleEnded .bip10Volts 2 rate options .empty ⟨0, 2⟩

/-- What the driver is asked for by the scan while no queue is loaded. -/
def pairStart (rate : Float) (options : Flags .scanOption) : ScanStart :=
  .analogIn ⟨0, 1, 2, rate, options⟩ .singleEnded .bip10Volts ⟨0, 2⟩

/-- A scan in bursts is refused for its options, a fast one for its rate, and a slow one is
accepted; the last input can be read, and behind the last output nothing can be written. -/
theorem advertised_enforced_buffered :
    ∃ held device, (initial.run buffered).Reaches 0 held device ∧
      (initial.run buffered).answer 0 (pairScan 1000 ⟨4⟩) = .error .badOption ∧
      (initial.run buffered).answer 0 (pairScan 1000000 ⟨2⟩) = .error .badRate ∧
      ((initial.run buffered).answer 0 (pairScan 1000 ⟨2⟩)).isOk = true ∧
      ((initial.run buffered).answer 0 (.readAnalog 7 .singleEnded .uni5Volts .empty)).isOk =
        true ∧
      (initial.run buffered).answer 0 (.writeAnalog 2 .bip10Volts .empty 1) =
        .error .badAoChan := by
  have holds : ((initial.run buffered).devices.get? 0).map (fun held =>
      (held.handle, held.isReleased, held.queueLength)) = some (1, false, 0) := by decide +kernel
  have keeps : ((initial.run buffered).bench.driver.instruments.get? 1).map (fun device =>
      (device.isConnected, device.isRunning .analogIn, device.queue.isEmpty,
        (Instrument.columnsBetween .badAiChan (fun channel => do
          device.checkAnalogIn channel .singleEnded .bip10Volts
          return .analog channel) 0 1).toOption)) =
      some (true, false, true, some [.analog 0, .analog 1]) := by decide +kernel
  obtain ⟨held, found, parts⟩ := Option.map_eq_some_iff.mp holds
  obtain ⟨handle, released, length⟩ : held.handle = 1 ∧ held.isReleased = false ∧
    held.queueLength = 0 := by simpa using parts
  obtain ⟨device, there, state⟩ := Option.map_eq_some_iff.mp keeps
  simp only [Prod.mk.injEq] at state
  obtain ⟨connected, idle, unqueued, channels⟩ := state
  have reaches : (initial.run buffered).Reaches 0 held device :=
    ⟨(sound_run buffered).direct, found, released, handle ▸ there, connected⟩
  have told : (initial.run buffered).Advertises 0 .analogIn
      [⟨0x1⟩, ⟨0x2⟩, ⟨0x8⟩, ⟨0x10⟩, ⟨0x20⟩, ⟨0x40⟩, ⟨0x100⟩] 0.0149 200000 :=
    ⟨by decide +kernel, by decide +kernel, by decide +kernel⟩
  have room : (ScanBuffer.reals ⟨0, 2⟩).size (initial.run buffered).bench.store = 4 := by
    decide +kernel
  obtain ⟨scans, reads, writes⟩ := reaches.advertised_enforced
  have listed : Instrument.columnsBetween .badAiChan (fun channel => do
      device.checkAnalogIn channel .singleEnded .bip10Volts
      return .analog channel) 0 1 = .ok [.analog 0, .analog 1] := by
    rcases searched : Instrument.columnsBetween .badAiChan (fun channel => do
      device.checkAnalogIn channel .singleEnded .bip10Volts
      return .analog channel) 0 1 with error | columns
    · rw [searched] at channels
      cases channels
    · rw [searched] at channels
      exact congrArg Except.ok (Option.some.inj channels)
  have asks : ∀ rate options,
      (pairScan rate options).scan? held = some (pairStart rate options) := by
    intro rate options
    rw [pairScan, Operation.scan?, Act.queuedChannels, length]
    rfl
  have fits : ∀ rate options, (pairStart rate options).Fits device
      (initial.run buffered).bench.store := fun rate options =>
    { isIdle := idle
      samples_pos := (by decide : (0 : Int) < 2)
      samples_le := (by decide : (2 : Int) ≤ maxSampleCount)
      hasColumns := ⟨_, (if_pos unqueued).trans listed, nofun, Nat.le_of_eq room.symm⟩ }
  have decided := fun rate options known =>
    scans (pairScan rate options) (pairStart rate options) _ _ _ (asks rate options)
      (fits rate options) known told
  refine ⟨held, device, reaches, ?_, ?_, ?_, ?_, ?_⟩
  · exact (decided 1000 ⟨4⟩ (by decide)).1.mpr (by decide +kernel)
  · exact (decided 1000000 ⟨2⟩ (by decide)).2.1.mpr (by decide +kernel)
  · exact (decided 1000 ⟨2⟩ (by decide)).2.2.mpr (by decide +kernel)
  · exact (reads .singleEnded 8 [.bip10Volts, .bip5Volts, .uni10Volts, .uni5Volts]
      (by decide +kernel) (by decide +kernel) 7 .uni5Volts .empty).mpr (by decide)
  · exact (writes 2 [.bip10Volts] (by decide +kernel) (by decide +kernel) 2 .bip10Volts .empty
      1).1.mpr (by decide)

end World

end Acquisition
