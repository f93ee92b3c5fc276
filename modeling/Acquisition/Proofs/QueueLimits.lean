import Acquisition.Proofs.Advertised

/-!
# Which queues are taken

A device accepts the elements of a channel-gain queue one by one, as it accepts single readings.
How long the queue may be it looks up once, in the mode of the first element.  A caller is told a
longest queue for every mode, so a queue fits when no mode in it has a shorter one.  On queues of
one mode the two agree.  `Bench.loadQueue_exact` says on which queues of several modes they differ,
and which queues are taken in one order and refused in another.
-/

namespace Acquisition

namespace Instrument

variable {device : Instrument} {queue other : List QueueElement} {mode : InputMode} {length : Nat}

/-! ## Elements and modes -/

/-- The device accepts the channel of an element with its mode and range. -/
def Accepts (device : Instrument) (element : QueueElement) : Prop :=
  device.checkAnalogIn element.channel element.mode element.range = .ok ()

/-- A caller is told that queues in a mode may have a length. -/
def Allows (device : Instrument) (mode : InputMode) (length : Nat) : Prop :=
  ∃ most, (AnalogIn.maxQueueLength mode).read device.profile = .ok most ∧ length ≤ most

theorem checkElements_eq_ok_iff :
    device.checkElements queue = .ok () ↔ ∀ element ∈ queue, device.Accepts element := by
  induction queue with
  | nil => simp [checkElements]
  | cons element rest ih =>
      rw [List.forall_mem_cons, ← ih, checkElements, bind_eq_ok_iff]
      exact ⟨fun ⟨_, accepted, others⟩ => ⟨accepted, others⟩, fun both => ⟨(), both⟩⟩

/-- A mode without a reported limit allows no element, as a limit of zero. -/
theorem allows_iff (positive : 0 < length) :
    device.Allows mode length ↔ (length : Int) ≤ device.maxQueueLength mode := by
  have read : (AnalogIn.maxQueueLength mode).read device.profile =
      (device.profile.integer .analogIn Item.AnalogIn.maxQueueLength (Coded.code mode) >>=
        fun limit => .ok limit.toNat) := rfl
  rw [Allows, read, maxQueueLength, Profile.integer, Profile.integerD, Table.getD]
  cases device.profile.integers.get? ⟨.analogIn, Item.AnalogIn.maxQueueLength, Coded.code mode⟩ with
  | none =>
      refine iff_of_false ?_ (Int.not_le.mpr (Int.natCast_pos.mpr positive))
      rintro ⟨_, ⟨⟩, _⟩
  | some limit =>
      change _ ↔ (length : Int) ≤ limit
      constructor
      · rintro ⟨_, ⟨⟩, within⟩
        omega
      · intro within
        exact ⟨limit.toNat, rfl, by omega⟩

/-! ## Queues -/

/-- A queue of accepted elements that no mode in it is too short for. -/
structure Fits (device : Instrument) (queue : List QueueElement) : Prop where
  accepted : ∀ element ∈ queue, device.Accepts element
  allowed : ∀ element ∈ queue, device.Allows element.mode queue.length

/-- A queue of accepted elements whose first mode is not too short for it. -/
structure Takes (device : Instrument) (queue : List QueueElement) : Prop where
  accepted : ∀ element ∈ queue, device.Accepts element
  allowed : ∀ first ∈ queue.head?, device.Allows first.mode queue.length

/-- If the first mode allows a queue, all modes in it do. -/
def DecidedByFirst (device : Instrument) (queue : List QueueElement) : Prop :=
  ∀ first ∈ queue.head?, device.Allows first.mode queue.length →
    ∀ element ∈ queue, device.Allows element.mode queue.length

/-- If one mode in a queue allows it, all modes in it do. -/
def Unanimous (device : Instrument) (queue : List QueueElement) : Prop :=
  ∀ one ∈ queue, device.Allows one.mode queue.length →
    ∀ element ∈ queue, device.Allows element.mode queue.length

theorem checkQueue_eq_ok_iff : device.checkQueue queue = .ok () ↔ device.Takes queue := by
  cases queue with
  | nil => exact iff_of_true rfl ⟨nofun, nofun⟩
  | cons first rest =>
      have allows : device.Allows first.mode (first :: rest).length ↔
          ¬ device.maxQueueLength first.mode < (first :: rest).length :=
        (allows_iff (Nat.succ_pos _)).trans Int.not_lt.symm
      rw [checkQueue]
      split
      · next short =>
          exact iff_of_false nofun fun takes => allows.mp (takes.allowed first rfl) short
      · next long =>
          rw [checkElements_eq_ok_iff]
          constructor
          · intro accepted
            exact ⟨accepted, fun _ head => Option.some.inj head ▸ allows.mpr long⟩
          · exact Takes.accepted

theorem loadQueue_eq_ok_iff {after : Instrument} :
    device.loadQueue queue = .ok after ↔
      device.Takes queue ∧ after = { device with queue := queue } := by
  rw [loadQueue, bind_eq_ok_iff, ← checkQueue_eq_ok_iff]
  constructor
  · rintro ⟨_, checked, loaded⟩
    exact ⟨checked, (pure_eq_ok_iff.mp loaded).symm⟩
  · rintro ⟨checked, rfl⟩
    exact ⟨(), checked, rfl⟩

theorem Fits.takes (fits : device.Fits queue) : device.Takes queue :=
  ⟨fits.accepted, fun first head => fits.allowed first (List.mem_of_mem_head? head)⟩

/-- Looking up the first mode is enough exactly for the queues that it decides. -/
theorem takes_iff_fits_iff :
    (device.Takes queue ↔ device.Fits queue) ↔
      ((∀ element ∈ queue, device.Accepts element) → device.DecidedByFirst queue) := by
  constructor
  · intro same accepted first head allows
    exact (same.mp ⟨accepted, fun _ other => Option.mem_unique head other ▸ allows⟩).allowed
  · refine fun decided => ⟨fun takes => ⟨takes.accepted, fun element there => ?_⟩, Fits.takes⟩
    -- A member comes with a first element, and that one is allowed.
    obtain ⟨first, head⟩ := Option.isSome_iff_exists.mp
      (List.isSome_head?.mpr (List.ne_nil_of_mem there))
    exact decided takes.accepted first head (takes.allowed first head) element there

/-- Whether a queue fits does not depend on the order of its elements. -/
theorem Fits.of_perm (fits : device.Fits queue) (perm : other.Perm queue) : device.Fits other where
  accepted element there := fits.accepted element (perm.mem_iff.mp there)
  allowed element there := perm.length_eq ▸ fits.allowed element (perm.mem_iff.mp there)

/-- An element of a queue can be put in front of the others. -/
theorem takes_front {one : QueueElement} (there : one ∈ queue) :
    device.Takes (one :: queue.erase one) ↔
      (∀ element ∈ queue, device.Accepts element) ∧ device.Allows one.mode queue.length := by
  have perm := List.perm_cons_erase there
  constructor
  · intro takes
    exact ⟨fun element among => takes.accepted element (perm.mem_iff.mp among),
      perm.length_eq ▸ takes.allowed one rfl⟩
  · rintro ⟨accepted, allows⟩
    refine ⟨fun element among => accepted element (perm.mem_iff.mpr among), fun _ head => ?_⟩
    rw [← Option.some.inj head, ← perm.length_eq]
    exact allows

/-- Looking up the first mode does not depend on the order of the elements exactly for the queues
that the modes agree on. -/
theorem takes_perm_iff :
    (∀ other, other.Perm queue → (device.Takes other ↔ device.Takes queue)) ↔
      ((∀ element ∈ queue, device.Accepts element) → device.Unanimous queue) := by
  constructor
  · intro orderless accepted one among allows element there
    have front {one : QueueElement} (there : one ∈ queue) :=
      (takes_front there).symm.trans (orderless _ (List.perm_cons_erase there).symm)
    exact ((front there).mpr ((front among).mp ⟨accepted, allows⟩)).2
  · intro unanimous other perm
    have fits {order : List QueueElement} (perm : order.Perm queue) :
        device.Takes order ↔ device.Fits order := by
      refine takes_iff_fits_iff.mpr fun accepted first head => ?_
      have agreed := unanimous fun element there => accepted element (perm.mem_iff.mpr there)
      rw [perm.length_eq]
      intro allows element there
      exact agreed first (perm.mem_iff.mp (List.mem_of_mem_head? head)) allows element
        (perm.mem_iff.mp there)
    rw [fits perm, fits (.refl queue)]
    exact ⟨fun taken => taken.of_perm perm.symm, fun taken => taken.of_perm perm⟩

end Instrument

/-! ## Loading a queue -/

namespace Bench

variable {bench : Bench} {handle : Handle} {device : Instrument}

theorem serve_loadQueue_eq_ok_iff (found : bench.driver.instruments.get? handle = some device)
    (connected : device.isConnected = true) {queue : List QueueElement} {outcome : Outcome Unit} :
    (Request.loadQueue handle queue).serve bench = .ok outcome ↔
      device.Takes queue ∧
        outcome = ⟨(), bench.put handle { device with queue := queue }, []⟩ := by
  rw [Request.serve, adjustConnected_eq_ok_iff_of_found found connected]
  constructor
  · rintro ⟨_, loaded, rfl⟩
    obtain ⟨takes, rfl⟩ := Instrument.loadQueue_eq_ok_iff.mp loaded
    exact ⟨takes, rfl⟩
  · rintro ⟨takes, rfl⟩
    exact ⟨_, Instrument.loadQueue_eq_ok_iff.mpr ⟨takes, rfl⟩, rfl⟩

/-- A queue is taken when its elements are accepted and the mode of the first allows its length;
it then replaces the queue of the device, and otherwise nothing changes.  A queue of accepted
elements is taken just if it fits exactly when its first mode decides for the others, and it is
taken in every order or in none exactly when its modes agree. -/
theorem loadQueue_exact (found : bench.driver.instruments.get? handle = some device)
    (connected : device.isConnected = true) (queue : List QueueElement) :
    let load : List QueueElement → Request Unit := .loadQueue handle
    let takes := fun queue => ((load queue).serve bench).isOk
    (takes queue = true ↔ (∀ element ∈ queue, device.Accepts element) ∧
      ∀ first ∈ queue.head?, device.Allows first.mode queue.length) ∧
    bench.step (.request (load queue)) =
      (if takes queue then bench.put handle { device with queue := queue } else bench, []) ∧
    ((takes queue = true ↔ device.Fits queue) ↔
      ((∀ element ∈ queue, device.Accepts element) → device.DecidedByFirst queue)) ∧
    ((∀ other, other.Perm queue → takes other = takes queue) ↔
      ((∀ element ∈ queue, device.Accepts element) → device.Unanimous queue)) := by
  intro load takes
  have taken (queue : List QueueElement) : takes queue = true ↔ device.Takes queue := by
    refine isOk_iff.trans ⟨?_, fun accepted => ?_⟩
    · rintro ⟨outcome, served⟩
      exact ((serve_loadQueue_eq_ok_iff found connected).mp served).1
    · exact ⟨_, (serve_loadQueue_eq_ok_iff found connected).mpr ⟨accepted, rfl⟩⟩
  refine ⟨(taken queue).trans ⟨fun all => ⟨all.accepted, all.allowed⟩, fun all => ⟨all.1, all.2⟩⟩,
    ?_, ?_, ?_⟩
  · cases served : (load queue).serve bench with
    | error error => simp [step, settled, takes, served, Except.isOk, Except.toBool]
    | ok outcome =>
        obtain ⟨-, rfl⟩ := (serve_loadQueue_eq_ok_iff found connected).mp served
        simp [step, settled, takes, served, Except.isOk, Except.toBool]
  · rw [taken queue]
    exact Instrument.takes_iff_fits_iff
  · simp only [Bool.eq_iff_iff, taken]
    exact Instrument.takes_perm_iff

/-- Three inputs, the second of them differential. -/
def mixedQueue : List QueueElement :=
  [⟨5, .singleEnded, .bip10Volts⟩, ⟨1, .differential, .bip5Volts⟩, ⟨5, .singleEnded, .uni5Volts⟩]

/-- A queue of two modes that both allow it is loaded as it is, and in every other order. -/
theorem loadQueue_exact_mixed :
    let bench := (Bench.initial.run Command.opening).1
    ∃ device, bench.driver.instruments.get? 1 = some device ∧
      bench.step (.request (.loadQueue 1 mixedQueue)) =
        (bench.put 1 { device with queue := mixedQueue }, []) ∧
      ∀ other, other.Perm mixedQueue →
        ((Request.loadQueue 1 other).serve bench).isOk = true := by
  intro bench
  have opened : (bench.driver.instruments.get? 1).map (fun device =>
      (device.isConnected, device.profile)) = some (true, .multifunction) := by rfl
  obtain ⟨device, found, same⟩ := Option.map_eq_some_iff.mp opened
  obtain ⟨connected, profile⟩ := Prod.mk.inj same
  have load : ((Request.loadQueue 1 mixedQueue).serve bench).isOk = true := by decide +kernel
  obtain ⟨-, stepped, -, orderless⟩ := loadQueue_exact found connected mixedQueue
  rw [if_pos load] at stepped
  refine ⟨device, found, stepped, fun other perm => ?_⟩
  refine (orderless.mpr (fun _ one _ _ element there => ?_) other perm).trans load
  have modes : element.mode = .singleEnded ∨ element.mode = .differential := by
    revert element
    decide
  rcases modes with mode | mode <;> rw [mode, Instrument.Allows, profile]
  · exact ⟨8, by decide +kernel, by decide⟩
  · exact ⟨4, by decide +kernel, by decide⟩

/-- Four inputs against ground and then a differential one. -/
def groundedFirst : List QueueElement :=
  List.replicate 4 ⟨0, .singleEnded, .bip10Volts⟩ ++ [⟨0, .differential, .bip10Volts⟩]

/-- Queues of differential inputs have at most four elements, and a queue of five with a
differential input in it is loaded nevertheless, unless the differential input comes first. -/
theorem not_loadQueue_fits :
    let bench := (Bench.initial.run Command.opening).1
    bench.Reachable ∧ ∃ device, bench.driver.instruments.get? 1 = some device ∧
      device.isConnected = true ∧
      (AnalogIn.maxQueueLength .singleEnded).read device.profile = .ok 8 ∧
      (AnalogIn.maxQueueLength .differential).read device.profile = .ok 4 ∧
      ((Request.loadQueue 1 groundedFirst).serve bench).isOk = true ∧
      ¬ device.Fits groundedFirst ∧
      ((Request.loadQueue 1 groundedFirst.reverse).serve bench).isOk = false := by
  intro bench
  have opened : (bench.driver.instruments.get? 1).map (fun device =>
      (device.isConnected, device.profile)) = some (true, .multifunction) := by rfl
  obtain ⟨device, found, same⟩ := Option.map_eq_some_iff.mp opened
  obtain ⟨connected, profile⟩ := Prod.mk.inj same
  have differential : (AnalogIn.maxQueueLength .differential).read device.profile = .ok 4 := by
    rw [profile]
    decide +kernel
  refine ⟨.run .initial _, device, found, connected, by rw [profile]; decide +kernel, differential,
    by decide +kernel, fun fits => ?_, by decide +kernel⟩
  obtain ⟨most, told, within⟩ := fits.allowed ⟨0, .differential, .bip10Volts⟩ (by decide)
  obtain rfl := Except.ok.inj (differential.symm.trans told)
  exact absurd within (by decide)

end Bench

end Acquisition
