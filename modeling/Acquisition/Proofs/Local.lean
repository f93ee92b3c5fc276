import Acquisition.Proofs.Agreement
import Acquisition.Proofs.Handles

/-!
# Operations on one device

Whatever is asked of the driver or happens from outside under a handle is an operation on the
device behind it (`Request.isLocal`, `Stimulus.isLocal`).  The operation is the same one under
every handle.  It sees of the bench the device and the storages, reads no buffer but those of
the device's own scans, and writes to no other (`LocalOperation.Confined`).
-/

namespace Acquisition

/-! ## Naming another handle -/

/-- The same request, for the device behind another handle. -/
def Request.readdress {α : Type} (handle : Handle) : Request α → Request α
  | .inventory transport most => .inventory transport most
  | .create identity => .create identity
  | .libraryText item index => .libraryText item index
  | .setLibrarySetting item index value => .setLibrarySetting item index value
  | .librarySetting item index => .librarySetting item index
  | .descriptor _ => .descriptor handle
  | .connect _ => .connect handle
  | .disconnect _ => .disconnect handle
  | .release _ => .release handle
  | .isConnected _ => .isConnected handle
  | .flashLed _ count => .flashLed handle count
  | .integerItem _ subject item index => .integerItem handle subject item index
  | .realItem _ subject item index => .realItem handle subject item index
  | .versionText _ item index => .versionText handle item index
  | .setSetting _ item index value => .setSetting handle item index value
  | .setting _ item index => .setting handle item index
  | .setRealSetting _ item index value => .setRealSetting handle item index value
  | .realSetting _ item index => .realSetting handle item index
  | .textSetting _ item index => .textSetting handle item index
  | .portSetting _ item index => .portSetting handle item index
  | .readAnalog _ channel mode range flags => .readAnalog handle channel mode range flags
  | .scanAnalogIn _ request mode range flags buffer =>
      .scanAnalogIn handle request mode range flags buffer
  | .loadQueue _ queue => .loadQueue handle queue
  | .writeAnalog _ channel range flags value => .writeAnalog handle channel range flags value
  | .scanAnalogOut _ request range flags buffer => .scanAnalogOut handle request range flags buffer
  | .configurePort _ port direction => .configurePort handle port direction
  | .configureBit _ port bit direction => .configureBit handle port bit direction
  | .readPort _ port => .readPort handle port
  | .writePort _ port value => .writePort handle port value
  | .readBit _ port bit => .readBit handle port bit
  | .writeBit _ port bit value => .writeBit handle port bit value
  | .scanDigitalIn _ request flags buffer => .scanDigitalIn handle request flags buffer
  | .scanDigitalOut _ request flags buffer => .scanDigitalOut handle request flags buffer
  | .readCounter _ counter => .readCounter handle counter
  | .readRegister _ counter register => .readRegister handle counter register
  | .loadRegister _ counter register value => .loadRegister handle counter register value
  | .clearCounter _ counter => .clearCounter handle counter
  | .setupCounter _ counter setup => .setupCounter handle counter setup
  | .scanCounters _ request flags buffer => .scanCounters handle request flags buffer
  | .startTimer _ timer request => .startTimer handle timer request
  | .stopTimer _ timer => .stopTimer handle timer
  | .timerStatus _ timer => .timerStatus handle timer
  | .scanSyncIn _ channels samples rate options flags buffer =>
      .scanSyncIn handle channels samples rate options flags buffer
  | .scanSyncOut _ channels samples rate options flags buffer =>
      .scanSyncOut handle channels samples rate options flags buffer
  | .scanStatus _ target => .scanStatus handle target
  | .stopScan _ target => .stopScan handle target
  | .waitScan _ target condition parameter timeout =>
      .waitScan handle target condition parameter timeout
  | .setTrigger _ target channel trigger => .setTrigger handle target channel trigger
  | .setSyncInTrigger _ channel trigger => .setSyncInTrigger handle channel trigger
  | .setSyncOutTrigger _ channel trigger => .setSyncOutTrigger handle channel trigger
  | .enableEvents _ kinds period handler => .enableEvents handle kinds period handler
  | .disableEvents _ kinds => .disableEvents handle kinds
  | .memoryArea _ region => .memoryArea handle region
  | .readMemory _ region address length => .readMemory handle region address length
  | .writeMemory _ region address data => .writeMemory handle region address data

/-- The same stimulus, for the device behind another handle. -/
def Stimulus.readdress {α : Type} (handle : Handle) : Stimulus α → Stimulus α
  | .attach descriptor profile => .attach descriptor profile
  | .advance _ target rows => .advance handle target rows
  | .abort _ target error => .abort handle target error
  | .setInput _ channel volts => .setInput handle channel volts
  | .setLevels _ port levels => .setLevels handle port levels
  | .presetCounter _ counter value => .presetCounter handle counter value
  | .unplug _ => .unplug handle

section Readdress

variable {α : Type} {named handle : Handle}

theorem Request.handle?_readdress {request : Request α} (names : request.handle? = some named) :
    (request.readdress handle).handle? = some handle := by
  cases request with
  | inventory | create | libraryText | setLibrarySetting | librarySetting => contradiction
  | _ => rfl

theorem Stimulus.handle?_readdress {stimulus : Stimulus α}
    (names : stimulus.handle? = some named) : (stimulus.readdress handle).handle? = some handle := by
  cases stimulus with
  | attach => contradiction
  | _ => rfl

/-- A request that names no other handle is left as it is. -/
theorem Request.readdress_eq_self {request : Request α}
    (names : ∀ named, request.handle? = some named → named = handle) :
    request.readdress handle = request := by
  cases request with
  | inventory | create | libraryText | setLibrarySetting | librarySetting => rfl
  | _ =>
      obtain rfl := names _ rfl
      rfl

theorem Stimulus.readdress_eq_self {stimulus : Stimulus α}
    (names : ∀ named, stimulus.handle? = some named → named = handle) :
    stimulus.readdress handle = stimulus := by
  cases stimulus with
  | attach => rfl
  | _ =>
      obtain rfl := names _ rfl
      rfl

end Readdress

/-! ## Settling what was done -/

namespace Driver

/-- Put a device back behind its handle, unless it is gone, and log the calls on it. -/
def settle (driver : Driver) (handle : Handle) (device : Option Instrument)
    (calls : List LifecycleCall) : Driver :=
  { driver with
    instruments := match device with
      | some device => driver.instruments.set handle device
      | none => driver.instruments.erase handle
    lifecycle := driver.lifecycle ++ calls.map (Prod.mk handle) }

variable (driver : Driver) (handle : Handle) (device : Option Instrument)
  (calls : List LifecycleCall)

theorem get?_settle_self :
    (driver.settle handle device calls).instruments.get? handle = device := by
  cases device with
  | none => exact Table.get?_erase_self driver.instruments handle
  | some device => exact Table.get?_set_self driver.instruments handle device

theorem get?_settle_of_ne {other : Handle} (ne : other ≠ handle) :
    (driver.settle handle device calls).instruments.get? other =
      driver.instruments.get? other := by
  cases device with
  | none => exact Table.get?_erase_of_ne driver.instruments ne
  | some device => exact Table.get?_set_of_ne driver.instruments ne device

theorem callsOn_settle_self :
    (driver.settle handle device calls).callsOn handle = driver.callsOn handle ++ calls := by
  simp [callsOn, settle, List.filter_map, Function.comp_def]

theorem callsOn_settle_of_ne {other : Handle} (ne : other ≠ handle) :
    (driver.settle handle device calls).callsOn other = driver.callsOn other := by
  simp [callsOn, settle, List.filter_map, Function.comp_def, ne.symm]

variable {driver handle}

/-- Nothing has to be settled of a device that is as it was. -/
theorem settle_of_found {device : Instrument}
    (found : driver.instruments.get? handle = some device) :
    driver.settle handle (some device) [] = driver := by
  simp only [settle, Table.set_of_get? found, List.map_nil, List.append_nil]

end Driver

/-! ## Local operations -/

/-- What comes of an operation on a device: an answer, the device unless it is gone, and the
handlers that are due and the calls that are logged on it. -/
structure LocalOutcome (α : Type) where
  answer : α
  device : Option Instrument
  due : List Firing := []
  calls : List LifecycleCall := []

/-- An operation on a device and the storages. -/
abbrev LocalOperation (α : Type) :=
  Instrument → Store → Except Error (LocalOutcome α × Store)

/-- Each buffer that a scan of the device is on is of a kind. -/
def Instrument.ScansOnly (kind : ScanBuffer → Prop) (instrument : Instrument) : Prop :=
  ∀ target run, instrument.scans.get? target = some run → kind run.buffer

namespace LocalOperation

variable {α : Type} {others : List ScanBuffer} {left right store : Store} {device : Instrument}

/-- The same refusal, or the same outcome with stores that agree. -/
inductive Agree (others : List ScanBuffer) :
    Except Error (LocalOutcome α × Store) → Except Error (LocalOutcome α × Store) → Prop
  | refused (error : Error) : Agree others (.error error) (.error error)
  | done (outcome : LocalOutcome α) {left right : Store} (stores : Store.Agree others left right) :
      Agree others (.ok (outcome, left)) (.ok (outcome, right))

/-- An operation that concerns no buffer but those that the scans of its device are on. -/
structure Confined (operation : LocalOperation α) : Prop where
  reads : ∀ {others : List ScanBuffer} {left right : Store} {device : Instrument},
    device.ScansOnly (ScanBuffer.IsApart · others) → Store.Agree others left right →
    Agree others (operation device left) (operation device right)
  writes : ∀ {others : List ScanBuffer} {store : Store} {device : Instrument}
    {result : LocalOutcome α × Store}, device.ScansOnly (· ∈ others) →
    operation device store = .ok result → Store.Agree others store result.2

/-- An operation that leaves the storages alone. -/
def still (work : Instrument → Store → Except Error (LocalOutcome α)) : LocalOperation α :=
  fun device store => do return (← work device store, store)

/-- An operation that moves scans of the device. -/
def moving (answer : Instrument → α)
    (move : Instrument → Store → Except Error (Instrument × Store × List Firing)) :
    LocalOperation α :=
  fun device store => do
    let (moved, store, due) ← move device store
    return (⟨answer moved, some moved, due, []⟩, store)

/-- An operation that depends on the shape of the store alone is confined. -/
theorem confined_still {work : Instrument → Store → Except Error (LocalOutcome α)}
    (same : ∀ device {left right : Store}, right.shape = left.shape →
      work device right = work device left) : Confined (still work) where
  reads {others left right device} _ agree := by
    simp only [still, same device agree.shape]
    cases work device left with
    | error error => exact .refused error
    | ok outcome => exact .done outcome agree
  writes {others store device result} _ done := by
    simp only [still, bind_eq_ok_iff, pure_eq_ok_iff] at done
    obtain ⟨_, _, rfl⟩ := done
    exact .refl others store

/-- To move a scan by some rows is confined. -/
theorem confined_moving {answer : Instrument → α} {target : ScanTarget}
    {move : Instrument → Store → Except Error (Instrument × Store × List Firing)}
    (moves : ∀ device, (∃ error, ∀ store, move device store = .error error) ∨
      ∃ rows, ∀ store, move device store = .ok (Instrument.advance target rows device store)) :
    Confined (moving answer move) where
  reads {others left right device} apart agree := by
    rcases moves device with ⟨error, refused⟩ | ⟨rows, advanced⟩
    · simp only [moving, refused]
      exact .refused error
    · obtain ⟨same, stores, firings⟩ := agree.advance (apart target) rows
      simp only [moving, advanced]
      generalize Instrument.advance target rows device left = first at *
      generalize Instrument.advance target rows device right = second at *
      obtain ⟨moved, store, due⟩ := first
      obtain ⟨_, other, _⟩ := second
      obtain rfl := same
      obtain rfl := firings
      exact .done _ stores
  writes {others store device result} among done := by
    rcases moves device with ⟨error, refused⟩ | ⟨rows, advanced⟩
    · simp only [moving, refused] at done
      contradiction
    · simp only [moving, advanced] at done
      obtain rfl := Except.ok.inj done
      exact Store.agree_advance (among target) rows store

end LocalOperation

/-! ## What is asked under a handle is local -/

namespace Bench

variable {α : Type}

/-- Do an operation on the device behind a handle. -/
def locally (bench : Bench) (handle : Handle) (operation : LocalOperation α) :
    Except Error (Outcome α) := do
  let device ← bench.driver.instrument handle
  let (outcome, store) ← operation device bench.store
  return ⟨outcome.answer, ⟨bench.driver.settle handle outcome.device outcome.calls, store⟩,
    outcome.due.map (Due.mk handle)⟩

/-- What is done under a handle is one and the same confined operation on the device behind
it, whichever handle it is. -/
def IsLocal (done : Bench → Handle → Except Error (Outcome α)) : Prop :=
  ∃ operation : LocalOperation α, operation.Confined ∧
    ∀ bench handle, done bench handle = bench.locally handle operation

section Local

open LocalOperation

theorem locally_of_found {bench : Bench} {handle : Handle} {device : Instrument}
    (found : bench.driver.instruments.get? handle = some device) (operation : LocalOperation α) :
    bench.locally handle operation = (do
      let (outcome, store) ← operation device bench.store
      return ⟨outcome.answer, ⟨bench.driver.settle handle outcome.device outcome.calls, store⟩,
        outcome.due.map (Due.mk handle)⟩) := by
  rw [locally, Driver.instrument_eq_ok_iff.mpr found]
  rfl

theorem locally_of_absent {bench : Bench} {handle : Handle}
    (absent : bench.driver.instruments.get? handle = none) (operation : LocalOperation α) :
    bench.locally handle operation = .error .badDevHandle := by
  rw [locally, Driver.instrument_of_absent absent]
  rfl

variable {done : Bench → Handle → Except Error (Outcome α)}

/-- An operation that leaves the storages alone is local when it does one thing to each device. -/
theorem isLocal_of_still (work : Instrument → Store → Except Error (LocalOutcome α))
    (same : ∀ device {left right : Store}, right.shape = left.shape →
      work device right = work device left)
    (absent : ∀ {bench handle}, bench.driver.instruments.get? handle = none →
      done bench handle = .error .badDevHandle)
    (present : ∀ {bench handle device}, bench.driver.instruments.get? handle = some device →
      done bench handle = (do
        let outcome ← work device bench.store
        return ⟨outcome.answer,
          bench.withDriver (bench.driver.settle handle outcome.device outcome.calls),
          outcome.due.map (Due.mk handle)⟩)) : IsLocal done := by
  refine ⟨still work, confined_still same, fun bench handle => ?_⟩
  cases found : bench.driver.instruments.get? handle with
  | none => rw [absent found, locally_of_absent found]
  | some device =>
      rw [present found, locally_of_found found, still]
      cases work device bench.store <;> rfl

theorem settle_of_no_calls (bench : Bench) (handle : Handle) (device : Instrument) :
    bench.withDriver (bench.driver.settle handle (some device) []) = bench.put handle device := by
  simp only [put, Driver.put, Driver.settle, List.map_nil, List.append_nil]

theorem isLocal_ask (question : Instrument → Except Error α) :
    IsLocal fun bench handle => bench.ask handle question := by
  refine isLocal_of_still (fun device _ => do return ⟨← question device, some device, [], []⟩)
    (fun _ _ _ _ => rfl) (fun absent => ask_of_absent absent question) ?_
  intro bench handle device found
  simp only [ask, Driver.instrument_eq_ok_iff.mpr found, bind, Except.bind, pure, Except.pure]
  cases question device with
  | error error => rfl
  | ok answer =>
      simp only [Driver.settle_of_found found]
      rfl

theorem isLocal_adjust (change : Instrument → Except Error Instrument) :
    IsLocal fun bench handle => bench.adjust handle change := by
  refine isLocal_of_still (fun device _ => do return ⟨(), some (← change device), [], []⟩)
    (fun _ _ _ _ => rfl) (fun absent => adjust_of_absent absent change) ?_
  intro bench handle device found
  simp only [adjust, Driver.instrument_eq_ok_iff.mpr found, bind, Except.bind, pure, Except.pure]
  cases change device with
  | error error => rfl
  | ok after =>
      simp only [settle_of_no_calls]
      rfl

/-- A connected device is asked as any device is that checks its connection first. -/
theorem askConnected_eq (bench : Bench) (handle : Handle)
    (question : Instrument → Except Error α) :
    bench.askConnected handle question = bench.ask handle (fun device => do
      Action.checkConnected device
      question device) := by
  simp only [askConnected, ask, Driver.connected, Action.checkConnected]
  cases bench.driver.instrument handle with
  | error error => rfl
  | ok device =>
      simp only [bind, Except.bind, pure, Except.pure]
      cases device.isConnected <;> rfl

theorem adjustConnected_eq (bench : Bench) (handle : Handle)
    (change : Instrument → Except Error Instrument) :
    bench.adjustConnected handle change = bench.adjust handle (fun device => do
      Action.checkConnected device
      change device) := by
  simp only [adjustConnected, adjust, Driver.connected, Action.checkConnected]
  cases bench.driver.instrument handle with
  | error error => rfl
  | ok device =>
      simp only [bind, Except.bind, pure, Except.pure]
      cases device.isConnected <;> rfl

theorem isLocal_askConnected (question : Instrument → Except Error α) :
    IsLocal fun bench handle => bench.askConnected handle question := by
  simpa only [askConnected_eq] using isLocal_ask _

theorem isLocal_adjustConnected (change : Instrument → Except Error Instrument) :
    IsLocal fun bench handle => bench.adjustConnected handle change := by
  simpa only [adjustConnected_eq] using isLocal_adjust _

/-- An exchange with a connected device is local when it depends on the shape of the store. -/
theorem isLocal_exchange (change : Instrument → Store → Except Error (α × Instrument))
    (same : ∀ device {left right : Store}, right.shape = left.shape →
      change device right = change device left) :
    IsLocal fun bench handle => bench.exchange handle fun device => change device bench.store := by
  refine isLocal_of_still (fun device store => do
      Action.checkConnected device
      let result ← change device store
      return ⟨result.1, some result.2, [], []⟩) ?_ (fun absent => exchange_of_absent absent _) ?_
  · intro device left right shape
    rw [same device shape]
  · intro bench handle device found
    simp only [exchange, Driver.connected, Driver.instrument_eq_ok_iff.mpr found,
      Action.checkConnected, bind, Except.bind, pure, Except.pure]
    cases device.isConnected with
    | false => rfl
    | true =>
        simp only [if_true]
        cases change device bench.store with
        | error error => rfl
        | ok answer =>
            simp only [settle_of_no_calls]
            rfl

theorem isLocal_start (scan : ScanStart) :
    IsLocal fun bench handle =>
      bench.exchange handle fun device => scan.perform device bench.store := by
  refine isLocal_exchange (fun device store => scan.perform device store) ?_
  intro device left right shape
  simp only [ScanStart.perform_eq, Instrument.checkPlan, Store.size_eq_of_shape_eq shape]

theorem isLocal_disconnect :
    IsLocal fun bench handle => bench.change fun driver => driver.disconnect handle := by
  refine isLocal_of_still
    (fun device _ => .ok ⟨(), some device.disconnect, [], [.disconnect device.isBusy]⟩)
    (fun _ _ _ _ => rfl) ?_ ?_
  · intro bench handle absent
    simp only [change, Driver.disconnect, Driver.instrument_of_absent absent]
    rfl
  · intro bench handle device found
    simp only [change, Driver.disconnect, Driver.instrument_eq_ok_iff.mpr found]
    rfl

theorem isLocal_release :
    IsLocal fun bench handle => bench.change fun driver => driver.release handle := by
  refine isLocal_of_still (fun _ _ => .ok ⟨(), none, [], [.release]⟩) (fun _ _ _ _ => rfl) ?_ ?_
  · intro bench handle absent
    simp only [change, Driver.release, Driver.instrument_of_absent absent]
    rfl
  · intro bench handle device found
    simp only [change, Driver.release, Driver.instrument_eq_ok_iff.mpr found]
    rfl

theorem isLocal_stopScan (target : ScanTarget) :
    IsLocal fun bench handle => bench.change fun driver => driver.stopScan handle target := by
  refine isLocal_of_still (fun device _ => .ok ⟨(), some (device.haltScan target), [],
    if device.isRunning target then [.scanStop target] else []⟩) (fun _ _ _ _ => rfl) ?_ ?_
  · intro bench handle absent
    simp only [change, Driver.stopScan, Driver.instrument_of_absent absent]
    rfl
  · intro bench handle device found
    simp only [change, Driver.stopScan, Driver.instrument_eq_ok_iff.mpr found]
    cases running : device.isRunning target with
    | true =>
        simp [running, Driver.settle, Driver.record, Driver.put, bind, Except.bind, pure,
          Except.pure]
    | false => simp [running, Driver.settle, Driver.put, bind, Except.bind, pure, Except.pure]

theorem isLocal_abort (target : ScanTarget) (error : Error) :
    IsLocal fun bench handle => (Stimulus.abort handle target error).apply bench := by
  refine isLocal_of_still (fun device _ => .ok ⟨(), some (device.abortScan target error).1,
    (device.abortScan target error).2, []⟩) (fun _ _ _ _ => rfl) ?_ ?_
  · intro bench handle absent
    exact apply_of_absent absent rfl
  · intro bench handle device found
    simp only [Stimulus.apply, Driver.instrument_eq_ok_iff.mpr found, bind, Except.bind, pure,
      Except.pure, settle_of_no_calls]
    rfl

/-- An operation that moves a scan by some rows, unless it is refused, is local. -/
theorem isLocal_of_moving (target : ScanTarget) (answer : Instrument → α)
    (move : Instrument → Store → Except Error (Instrument × Store × List Firing))
    (moves : ∀ device, (∃ error, ∀ store, move device store = .error error) ∨
      ∃ rows, ∀ store, move device store = .ok (Instrument.advance target rows device store)) :
    IsLocal fun bench handle => do
      let device ← bench.driver.instrument handle
      let result ← move device bench.store
      return bench.moved handle (answer result.1) result := by
  refine ⟨moving answer move, confined_moving moves, fun bench handle => ?_⟩
  dsimp only
  cases found : bench.driver.instruments.get? handle with
  | none =>
      rw [Driver.instrument_of_absent found, locally_of_absent found]
      rfl
  | some device =>
      rw [Driver.instrument_eq_ok_iff.mpr found, locally_of_found found, moving]
      simp only [bind, Except.bind, pure, Except.pure]
      cases move device bench.store with
      | error error => rfl
      | ok result => simp only [moved, Driver.put, Driver.settle, List.map_nil, List.append_nil]

theorem isLocal_waitScan (target : ScanTarget) :
    IsLocal fun bench handle => do
      let device ← bench.driver.instrument handle
      return bench.moved handle () (← device.finishScan bench.store target) := by
  refine isLocal_of_moving target (fun _ => ())
    (fun device store => device.finishScan store target) fun device => ?_
  unfold Instrument.finishScan
  cases device.running? target with
  | none => exact .inr ⟨0, fun _ => rfl⟩
  | some run =>
      cases endless : run.isContinuous with
      | true => exact .inl ⟨.timedOut, fun _ => by simp [endless]⟩
      | false => exact .inr ⟨run.remaining, fun _ => by simp [endless]⟩

theorem isLocal_advance (target : ScanTarget) (rows : Nat) :
    IsLocal fun bench handle => (Stimulus.advance handle target rows).apply bench :=
  isLocal_of_moving target (fun device => (device.scanStatus target).2)
    (fun device store => .ok (Instrument.advance target rows device store))
    fun _ => .inr ⟨rows, fun _ => rfl⟩

end Local

end Bench

section Named

variable {α : Type} {named : Handle}

open Bench

/-- A request that names a handle is an operation on the device behind it. -/
theorem Request.isLocal {request : Request α} (names : request.handle? = some named) :
    IsLocal fun bench handle => (request.readdress handle).serve bench := by
  cases request with
  | inventory | create | libraryText | setLibrarySetting | librarySetting => contradiction
  | disconnect => exact isLocal_disconnect
  | release => exact isLocal_release
  | stopScan => exact isLocal_stopScan _
  | waitScan => exact isLocal_waitScan _
  | descriptor | isConnected | integerItem | realItem | scanStatus | memoryArea =>
      exact isLocal_ask _
  | versionText | setting | realSetting | textSetting | portSetting | readAnalog | readPort
  | readBit | readCounter | readRegister | timerStatus | readMemory =>
      exact isLocal_askConnected _
  | connect | enableEvents | disableEvents => exact isLocal_adjust _
  | flashLed | setSetting | setRealSetting | loadQueue | writeAnalog | configurePort
  | configureBit | writePort | writeBit | loadRegister | clearCounter | setupCounter
  | stopTimer | setTrigger | setSyncInTrigger | setSyncOutTrigger | writeMemory =>
      exact isLocal_adjustConnected _
  | startTimer _ timer pulse =>
      exact isLocal_exchange (fun device _ => device.startTimer timer pulse) fun _ _ _ _ => rfl
  | scanAnalogIn _ request mode range _ buffer =>
      exact isLocal_start (.analogIn request mode range buffer)
  | scanAnalogOut _ request range _ buffer => exact isLocal_start (.analogOut request range buffer)
  | scanDigitalIn _ request _ buffer => exact isLocal_start (.digitalIn request buffer)
  | scanDigitalOut _ request _ buffer => exact isLocal_start (.digitalOut request buffer)
  | scanCounters _ request flags buffer => exact isLocal_start (.counters request flags buffer)
  | scanSyncIn _ channels samples rate options _ buffer =>
      exact isLocal_start (.syncIn channels samples rate options buffer)
  | scanSyncOut _ channels samples rate options _ buffer =>
      exact isLocal_start (.syncOut channels samples rate options buffer)

/-- A stimulus that names a handle is an operation on the device behind it. -/
theorem Stimulus.isLocal {stimulus : Stimulus α} (names : stimulus.handle? = some named) :
    IsLocal fun bench handle => (stimulus.readdress handle).apply bench := by
  cases stimulus with
  | attach => contradiction
  | advance => exact isLocal_advance _ _
  | abort => exact isLocal_abort _ _
  | setInput | setLevels | presetCounter | unplug => exact isLocal_adjust _

end Named

end Acquisition
