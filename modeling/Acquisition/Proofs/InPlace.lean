import Acquisition.Driver.InPlace
import Acquisition.Proofs.Answer
import Acquisition.Proofs.Procedure

/-!
# Serving in place is serving as a whole

Each procedure of the driver does one operation: what it changes step by step is what the
operation changes at once, and no refusal comes after a change that shows.  A procedure
without an answer makes a change (`makes_`), one with an answer does an operation (`does_`),
and one on the bench serves a request (`serves_`).

Main statement: `Request.execute_serves`.
-/

namespace Acquisition

open Procedure (Does Makes makes_modify does_pure does_modify)

/-! ## Ports -/

namespace Port

open InPlace (putPort)

theorem putPort_of_find? {kind : PortKind} {port : Port} {ports : List Port}
    (found : ports.find? (fun port => port.kind = kind) = some port) :
    putPort kind port ports = ports := by
  induction ports with
  | nil => simp at found
  | cons first rest ih =>
      by_cases hit : first.kind = kind
      · obtain rfl : first = port := by simpa [hit] using found
        simp [putPort, hit]
      · simp only [List.find?_cons, hit, decide_false] at found
        simp [putPort, hit, ih found]

/-- Changing the first port of a kind is finding it, changing it and putting it back. -/
theorem updateFirst_eq (kind : PortKind) (change : Port → Except Error Port) (ports : List Port) :
    updateFirst kind change ports =
      match ports.find? (fun port => port.kind = kind) with
      | some port => do return putPort kind (← change port) ports
      | none => .error .badPortType := by
  induction ports with
  | nil => rfl
  | cons first rest ih =>
      by_cases hit : first.kind = kind
      · simp [updateFirst, putPort, hit]
      · simp only [updateFirst, hit, if_false, List.find?_cons, decide_false, ih]
        cases rest.find? (fun port => port.kind = kind) with
        | none => rfl
        | some port => simp [putPort, hit]

end Port

namespace InPlace

theorem makes_configurePort (direction : Direction) :
    (configurePort direction).Makes fun port => port.configure direction := by
  refine Does.get_bind fun port => ?_
  rcases port with ⟨kind, access, width, latch, levels, outputs⟩
  cases access <;> rfl

theorem makes_configureBit (bit : Int) (direction : Direction) :
    (configureBit bit direction).Makes fun port => port.configureBit bit direction := by
  cases direction <;> exact .refuse_bind (.ask_bind fun _ => makes_modify _)

theorem makes_writePort (value : UInt64) :
    (writePort value).Makes fun port => port.write value :=
  .refuse_bind (.refuse_bind (makes_modify _))

theorem makes_writeBit (bit : Int) (value : Nat) :
    (writeBit bit value).Makes fun port => port.writeBit bit value := by
  refine .ask_bind fun _ => .refuse_bind (.refuse_bind ?_)
  by_cases high : value = 1
  · subst high
    exact makes_modify _
  · simp only [high, if_false]
    exact makes_modify _

/-- Work on a port that makes a change makes it on the instrument. -/
theorem makes_onPort {kind : PortKind} {work : Procedure Port Unit}
    {change : Port → Except Error Port} (makes : work.Makes change) :
    (onPort kind work).Makes fun device => device.updatePort kind change := by
  refine (Makes.within makes fun {device piece} found => ?_).congr fun device => ?_
  · unfold Instrument.port at found
    split at found
    · obtain rfl := Except.ok.inj found
      rw [Port.putPort_of_find? ‹_›]
    · contradiction
  · simp only [Instrument.updatePort, Instrument.port, Port.updateFirst_eq]
    cases device.ports.find? (fun port => port.kind = kind) with
    | none => rfl
    | some port =>
        exact (bind_assoc (change port) (fun changed => pure (putPort kind changed device.ports))
          fun ports => pure { device with ports := ports }).symm

/-! ## Connection and settings -/

theorem makes_connect : connect.Makes fun device => device.connect :=
  (Makes.refuse_bind (makes_modify _)).congr fun device => by
    cases present : device.isPresent <;> simp [Instrument.connect, present]

theorem makes_flashLed (count : Int) : (flashLed count).Makes fun device => device.flashLed count :=
  .refuse_bind (makes_modify _)

theorem makes_setSetting (item : Int) (index : Nat) (value : Int) :
    (setSetting item index value).Makes fun device => device.setSetting item index value :=
  .ask_bind fun _ => .ask_bind fun _ => makes_modify _

theorem makes_setRealSetting (item : Int) (index : Nat) (value : Float) :
    (setRealSetting item index value).Makes fun device =>
      device.setRealSetting item index value := by
  refine (Makes.refuse_bind (.ask_bind fun _ => .ask_bind fun _ => makes_modify _)).congr
    fun device => ?_
  unfold Instrument.setRealSetting
  cases Instrument.realSettingDefault? item <;> rfl

theorem makes_loadQueue (queue : List QueueElement) :
    (loadQueue queue).Makes fun device => device.loadQueue queue :=
  .ask_bind fun _ => makes_modify _

theorem makes_writeAnalog (channel : Int) (range : Range) (flags : Flags .analogOutWrite)
    (value : Float) :
    (writeAnalog channel range flags value).Makes fun device =>
      device.writeAnalog channel range flags value :=
  .ask_bind fun _ => .ask_bind fun _ => makes_modify _

/-! ## Counters, timers, triggers, bindings and memory -/

theorem makes_loadRegister (counter : Int) (register : Flags .register) (value : UInt64) :
    (loadRegister counter register value).Makes fun device =>
      device.loadRegister counter register value := by
  refine .ask_bind fun _ => ?_
  by_cases preset : register = CounterRegister.load
  · simp only [preset, if_true]
    exact .modify_bind (makes_modify _)
  · simp only [preset, if_false]
    exact .modify_bind (does_pure ())

theorem makes_clearCounter (counter : Int) :
    (clearCounter counter).Makes fun device => device.clearCounter counter :=
  .ask_bind fun _ => makes_modify _

/-- Clearing counters one after another refuses nothing. -/
theorem makes_clearCounters (low : Int) (count : Nat) :
    (clearCounters low count).Makes fun device =>
      .ok (Instrument.clearCounters low count device) := by
  induction count generalizing low with
  | zero => exact does_pure ()
  | succ count ih => exact .modify_bind (ih (low + 1))

theorem makes_setupCounter (counter : Int) (setup : CounterSetup) :
    (setupCounter counter setup).Makes fun device => device.setupCounter counter setup :=
  .ask_bind fun _ => makes_modify _

theorem does_startTimer (timer : Int) (request : PulseRequest) :
    (startTimer timer request).Does fun device => device.startTimer timer request := by
  exact .ask_bind fun _ => .refuse_bind (.ask_bind fun _ => .ask_bind fun _ => .ask_bind fun _ =>
    .ask_bind fun timing => .modify_bind (does_pure timing))

theorem makes_stopTimer (timer : Int) :
    (stopTimer timer).Makes fun device => device.stopTimer timer :=
  .ask_bind fun _ => makes_modify _

theorem makes_setTrigger (target : TriggerTarget) (channel : Int) (trigger : Trigger) :
    (setTrigger target channel trigger).Makes fun device =>
      device.setTrigger target channel trigger :=
  .ask_bind fun _ => makes_modify _

theorem makes_setSyncTrigger (target : ScanTarget) (channel : SyncChannel .syncInChannel)
    (trigger : Trigger) :
    (setSyncTrigger target channel trigger).Makes fun device =>
      device.setSyncTrigger target channel trigger :=
  .ask_bind fun _ => .ask_bind fun _ => makes_modify _

theorem makes_enableEvents (kinds : Flags .event) (period : Nat) (handler : Handler) :
    (enableEvents kinds period handler).Makes fun device =>
      device.enableEvents kinds period handler :=
  .ask_bind fun _ => makes_modify _

theorem makes_disableEvents (kinds : Flags .event) :
    (disableEvents kinds).Makes fun device => .ok (device.disableEvents kinds) :=
  .modify_bind (makes_modify _)

theorem makes_writeMemory (region : Flags .memoryRegion) (address : UInt32) (data : List UInt8) :
    (writeMemory region address data).Makes fun device =>
      device.writeMemory region address data := by
  refine (Makes.ask_bind fun _ => .refuse_bind (.ask_bind fun _ => makes_modify _)).congr
    fun device => ?_
  unfold Instrument.writeMemory
  cases device.locate region address data.length with
  | error error => rfl
  | ok place => cases permitted : place.1.access.contains MemoryAccess.write <;>
        simp [permitted, bind, Except.bind, pure, Except.pure]

/-! ## Starting scans -/

theorem makes_launch (target : ScanTarget) (plan : ScanPlan) :
    (launch target plan).Makes fun device => .ok (device.launch target plan) := by
  cases input : target.isInput with
  | true =>
      simp only [launch, Instrument.launch, input, if_true]
      exact .modify_bind (makes_modify _)
  | false =>
      simp only [launch, Instrument.launch, input]
      exact makes_modify _

/-- A plan is put only after it has passed every check. -/
theorem does_startScan (store : Store) (target : ScanTarget) (plan : ScanPlan) :
    (startScan store target plan).Does fun device => device.startScan store target plan :=
  .ask_bind fun rate => (makes_launch target plan).bind_total fun _ => does_pure rate

theorem does_scanAnalogIn (store : Store) (request : ScanRequest) (mode : InputMode)
    (range : Range) (buffer : Buffer Float) :
    (scanAnalogIn store request mode range buffer).Does fun device =>
      device.scanAnalogIn store request mode range buffer :=
  .ask_bind fun _ => does_startScan _ _ _

theorem does_scanAnalogOut (store : Store) (request : ScanRequest) (range : Range)
    (buffer : Buffer Float) :
    (scanAnalogOut store request range buffer).Does fun device =>
      device.scanAnalogOut store request range buffer :=
  .ask_bind fun _ => does_startScan _ _ _

theorem does_scanDigitalIn (store : Store) (request : ScanRequest) (buffer : Buffer UInt64) :
    (scanDigitalIn store request buffer).Does fun device =>
      device.scanDigitalIn store request buffer :=
  .ask_bind fun _ => does_startScan _ _ _

theorem does_scanDigitalOut (store : Store) (request : ScanRequest) (buffer : Buffer UInt64) :
    (scanDigitalOut store request buffer).Does fun device =>
      device.scanDigitalOut store request buffer :=
  .ask_bind fun _ => .refuse_bind (does_startScan _ _ _)

/-- The counters are cleared after the last check, and clearing them refuses nothing. -/
theorem does_scanCounters (store : Store) (request : ScanRequest) (flags : Flags .counterScan)
    (buffer : Buffer UInt64) :
    (scanCounters store request flags buffer).Does fun device =>
      device.scanCounters store request flags buffer := by
  cases kept : flags.contains DataFlag.keepCount with
  | true =>
      simp only [scanCounters, Instrument.scanCounters, kept]
      exact .ask_bind fun _ => (does_startScan _ _ _).bind_total fun rate => does_pure rate
  | false =>
      simp only [scanCounters, Instrument.scanCounters, kept]
      exact .ask_bind fun _ => (does_startScan _ _ _).bind_total fun rate =>
        (makes_clearCounters _ _).bind_total fun _ => does_pure rate

theorem does_scanSyncIn (store : Store) (channels : List (SyncChannel .syncInChannel))
    (samples : Int) (rate : Float) (options : Flags .scanOption) (buffer : Buffer Float) :
    (scanSyncIn store channels samples rate options buffer).Does fun device =>
      device.scanSyncIn store channels samples rate options buffer :=
  .ask_bind fun _ => does_startScan _ _ _

theorem does_scanSyncOut (store : Store) (channels : List (SyncChannel .syncOutChannel))
    (samples : Int) (rate : Float) (options : Flags .scanOption) (buffer : Buffer Float) :
    (scanSyncOut store channels samples rate options buffer).Does fun device =>
      device.scanSyncOut store channels samples rate options buffer :=
  .ask_bind fun _ => does_startScan _ _ _

/-! ## The driver -/

theorem does_onDevice {α : Type} {handle : Handle} {work : Procedure Instrument α}
    {operation : Instrument → Except Error (α × Instrument)} (does : work.Does operation) :
    (onDevice handle work).Does fun driver => do
      let (answer, instrument) ← operation (← driver.instrument handle)
      return (answer, driver.put handle instrument) :=
  .within does fun found => Driver.put_of_get? (Driver.instrument_eq_ok_iff.mp found)

theorem does_onConnected {α : Type} {handle : Handle} {work : Procedure Instrument α}
    {operation : Instrument → Except Error (α × Instrument)} (does : work.Does operation) :
    (onConnected handle work).Does fun driver => do
      let (answer, instrument) ← operation (← driver.connected handle)
      return (answer, driver.put handle instrument) :=
  .within does fun found => Driver.put_of_get? (Driver.connected_eq_ok_iff.mp found).1

theorem does_create (descriptor : Descriptor) :
    (create descriptor).Does fun driver => driver.create descriptor := by
  refine Does.get_bind fun driver => ?_
  simp only [Procedure.settle, Driver.create]
  cases driver.inventory.find? fun entry => entry.1.sameUnit descriptor <;> rfl

/-- What is dropped before the refusal was not there. -/
theorem makes_release (handle : Handle) :
    (release handle).Makes fun driver => driver.release handle := by
  refine Does.get_bind fun driver => ?_
  cases found : driver.instruments.get? handle with
  | some instrument =>
      have accepted : driver.release handle =
          .ok ({ driver with instruments := driver.instruments.erase handle }.record handle
            .release) := by
        simp only [Driver.release, Driver.instrument, found]
        rfl
      exact (Procedure.settle_of_ok (congrArg (· >>= _) accepted)).symm
  | none =>
      have refused : driver.release handle = .error .badDevHandle := by
        simp only [Driver.release, Driver.instrument, found]
        rfl
      have same : { driver with instruments := driver.instruments.erase handle } = driver := by
        rw [Table.erase_of_get?_eq_none found]
      exact (congrArg (Prod.mk _) same).trans
        (Procedure.settle_of_error (congrArg (· >>= _) refused)).symm

theorem makes_disconnect (handle : Handle) :
    (disconnect handle).Makes fun driver => driver.disconnect handle := by
  refine (Does.ask_bind fun instrument => ((does_onDevice (.modify_bind (does_modify _))).bind_total
    fun _ => does_modify _)).congr fun driver => ?_
  simp only [Driver.disconnect]
  cases driver.instrument handle <;> rfl

theorem makes_stopScan (handle : Handle) (target : ScanTarget) :
    (stopScan handle target).Makes fun driver => driver.stopScan handle target := by
  have logged (found : Bool) :
      (if found = true then record handle (.scanStop target) else pure () :
        Procedure Driver Unit).Does fun driver =>
          .ok ((), if found = true then driver.record handle (.scanStop target) else driver) := by
    cases found
    · exact does_pure ()
    · exact does_modify _
  refine (Does.ask_bind fun (instrument : Instrument) => ((does_onDevice (does_modify _)).bind_total
    fun _ => logged (instrument.isRunning target))).congr fun driver => ?_
  simp only [Driver.stopScan]
  cases driver.instrument handle <;> rfl

theorem makes_setLibrarySetting (item value : Int) :
    (setLibrarySetting item value).Makes fun driver => driver.setLibrarySetting item value :=
  (Makes.refuse_bind (.refuse_bind (makes_modify _))).congr fun driver => by
    simp only [Driver.setLibrarySetting, ite_not]

/-! ## The bench -/

/-- A procedure serves a request on the bench as an operation does, and where it is refused it
changes nothing. -/
def Serves {α : Type} (procedure : Procedure Bench (α × List Due))
    (serve : Bench → Except Error (Outcome α)) : Prop :=
  procedure.Does fun bench => do
    let outcome ← serve bench
    return ((outcome.answer, outcome.due), outcome.bench)

variable {α : Type} {handle : Handle}

theorem Serves.congr {procedure : Procedure Bench (α × List Due)}
    {first second : Bench → Except Error (Outcome α)} (serves : Serves procedure first)
    (same : ∀ bench, first bench = second bench) : Serves procedure second := by
  rwa [← funext same]

theorem serves_reply (question : Bench → Except Error α) :
    Serves (reply question) fun bench => do return bench.reply (← question bench) :=
  (Does.ask_bind fun answer => does_pure (answer, [])).congr fun bench => by
    simp only [bind_assoc, pure_bind]
    rfl

/-- A request that only reads the bench is served by its answer. -/
theorem serves_reading {serve : Bench → Except Error (Outcome α)}
    (question : Bench → Except Error α)
    (reads : ∀ bench, serve bench = do return bench.reply (← question bench)) :
    Serves (reply fun bench => do return (← serve bench).answer) serve :=
  (serves_reply _).congr fun bench => by
    simp only [reads, bind_assoc, pure_bind]
    rfl

theorem serves_ask (question : Instrument → Except Error α) :
    Serves (reply fun bench => do return (← bench.ask handle question).answer)
      fun bench => bench.ask handle question :=
  serves_reading (fun bench => do question (← bench.driver.instrument handle)) fun bench => by
    simp only [Bench.ask, bind_assoc]

theorem serves_askConnected (question : Instrument → Except Error α) :
    Serves (reply fun bench => do return (← bench.askConnected handle question).answer)
      fun bench => bench.askConnected handle question :=
  serves_reading (fun bench => do question (← bench.driver.connected handle)) fun bench => by
    simp only [Bench.askConnected, bind_assoc]

theorem serves_onDriver {work : Procedure Driver α}
    {operation : Driver → Except Error (α × Driver)} (does : work.Does operation) :
    Serves (onDriver work) fun bench => do
      let (answer, driver) ← operation bench.driver
      return ⟨answer, bench.withDriver driver, []⟩ :=
  ((Does.within does fun found => by rw [← Except.ok.inj found]; rfl).bind_total fun answer =>
    does_pure (answer, [])).congr fun bench => by
    simp only [bind_assoc, pure_bind]; rfl

theorem serves_change {work : Procedure Driver Unit} {change : Driver → Except Error Driver}
    (makes : work.Makes change) : Serves (onDriver work) fun bench => bench.change change :=
  (serves_onDriver makes).congr fun bench => by simp only [Bench.change, bind_assoc, pure_bind]

theorem serves_adjust {work : Procedure Instrument Unit}
    {change : Instrument → Except Error Instrument} (makes : work.Makes change) :
    Serves (onDriver (onDevice handle work)) fun bench => bench.adjust handle change :=
  (serves_onDriver (does_onDevice makes)).congr fun bench => by
    simp only [Bench.adjust, Bench.put, bind_assoc, pure_bind]

theorem serves_adjustConnected {work : Procedure Instrument Unit}
    {change : Instrument → Except Error Instrument} (makes : work.Makes change) :
    Serves (onDriver (onConnected handle work)) fun bench => bench.adjustConnected handle change :=
  (serves_onDriver (does_onConnected makes)).congr fun bench => by
    simp only [Bench.adjustConnected, Bench.put, bind_assoc, pure_bind]

theorem serves_exchange {work : Procedure Instrument α}
    {operation : Instrument → Except Error (α × Instrument)} (does : work.Does operation) :
    Serves (onDriver (onConnected handle work)) fun bench => bench.exchange handle operation :=
  (serves_onDriver (does_onConnected does)).congr fun bench => by
    simp only [Bench.exchange, Bench.put, bind_assoc, pure_bind]

theorem serves_onPlan {start : Store → Procedure Instrument Float}
    {operation : Store → Instrument → Except Error (Float × Instrument)}
    (does : ∀ store, (start store).Does (operation store)) :
    Serves (onPlan handle start) fun bench => bench.exchange handle (operation bench.store) :=
  Does.get_bind fun bench => serves_exchange (does bench.store) bench

theorem does_finish (handle : Handle) (target : ScanTarget) (instrument : Instrument)
    (run : ScanRun) :
    (finish handle target instrument run).Does fun bench =>
      if run.isContinuous = true then .error .timedOut
      else
        let outcome := bench.moved handle ()
          (Instrument.advance target run.remaining instrument bench.store)
        .ok ((outcome.answer, outcome.due), outcome.bench) :=
  .refuse_bind (.get_bind fun _ => rfl)

/-- Where no scan is running, the device is left where it is. -/
theorem serves_waitScan (handle : Handle) (target : ScanTarget) :
    Serves (waitScan handle target) fun bench => do
      let device ← bench.driver.instrument handle
      return bench.moved handle () (← device.finishScan bench.store target) := by
  intro bench
  rw [waitScan, Procedure.on_bind, Procedure.on_ask]
  cases found : bench.driver.instrument handle with
  | error error => exact (Procedure.settle_of_error (by simp only [found]; rfl)).symm
  | ok instrument =>
      cases running : instrument.running? target with
      | none =>
          have back := Driver.put_of_get? (Driver.instrument_eq_ok_iff.mp found)
          have answers : bench.moved handle () (instrument, bench.store, []) =
              ⟨(), bench, []⟩ := by
            simp only [Bench.moved, back, List.map_nil]
          simp only [running, Procedure.settle, found, Instrument.finishScan, bind, Except.bind,
            answers, pure, Except.pure]
          rfl
      | some run =>
          simp only [running, does_finish handle target instrument run bench, Procedure.settle,
            found, Instrument.finishScan, bind, Except.bind]
          cases run.isContinuous <;> rfl

end InPlace




/-- Serving a request in place is serving it as a whole. -/
theorem Request.execute_serves {α : Type} (request : Request α) :
    InPlace.Serves request.execute request.serve := by
  open InPlace in
  cases request with
  | create identity => exact serves_onDriver (does_create identity)
  | connect handle => exact serves_adjust makes_connect
  | disconnect handle => exact serves_change (makes_disconnect handle)
  | release handle => exact serves_change (makes_release handle)
  | flashLed handle count => exact serves_adjustConnected (makes_flashLed count)
  | setLibrarySetting item _ value => exact serves_change (makes_setLibrarySetting item value)
  | setSetting handle item index value =>
      exact serves_adjustConnected (makes_setSetting item index value)
  | setRealSetting handle item index value =>
      exact serves_adjustConnected (makes_setRealSetting item index value)
  | scanAnalogIn handle request mode range _ buffer =>
      exact (serves_onPlan fun store =>
        does_scanAnalogIn store request mode range buffer).congr fun _ => rfl
  | loadQueue handle queue => exact serves_adjustConnected (makes_loadQueue queue)
  | writeAnalog handle channel range flags value =>
      exact serves_adjustConnected (makes_writeAnalog channel range flags value)
  | scanAnalogOut handle request range _ buffer =>
      exact (serves_onPlan fun store =>
        does_scanAnalogOut store request range buffer).congr fun _ => rfl
  | configurePort handle port direction =>
      exact serves_adjustConnected (makes_onPort (makes_configurePort direction))
  | configureBit handle port bit direction =>
      exact serves_adjustConnected (makes_onPort (makes_configureBit bit direction))
  | writePort handle port value =>
      exact serves_adjustConnected (makes_onPort (makes_writePort value))
  | writeBit handle port bit value =>
      exact serves_adjustConnected (makes_onPort (makes_writeBit bit value))
  | scanDigitalIn handle request _ buffer =>
      exact (serves_onPlan fun store =>
        does_scanDigitalIn store request buffer).congr fun _ => rfl
  | scanDigitalOut handle request _ buffer =>
      exact (serves_onPlan fun store =>
        does_scanDigitalOut store request buffer).congr fun _ => rfl
  | loadRegister handle counter register value =>
      exact serves_adjustConnected (makes_loadRegister counter register value)
  | clearCounter handle counter => exact serves_adjustConnected (makes_clearCounter counter)
  | setupCounter handle counter setup =>
      exact serves_adjustConnected (makes_setupCounter counter setup)
  | scanCounters handle request flags buffer =>
      exact (serves_onPlan fun store =>
        does_scanCounters store request flags buffer).congr fun _ => rfl
  | startTimer handle timer request => exact serves_exchange (does_startTimer timer request)
  | stopTimer handle timer => exact serves_adjustConnected (makes_stopTimer timer)
  | scanSyncIn handle channels samples rate options _ buffer =>
      exact (serves_onPlan fun store =>
        does_scanSyncIn store channels samples rate options buffer).congr fun _ => rfl
  | scanSyncOut handle channels samples rate options _ buffer =>
      exact (serves_onPlan fun store =>
        does_scanSyncOut store channels samples rate options buffer).congr fun _ => rfl
  | stopScan handle target => exact serves_change (makes_stopScan handle target)
  | waitScan handle target _ _ _ => exact serves_waitScan handle target
  | setTrigger handle target channel trigger =>
      exact serves_adjustConnected (makes_setTrigger target channel trigger)
  | setSyncInTrigger handle channel trigger =>
      exact serves_adjustConnected (makes_setSyncTrigger .syncIn channel trigger)
  | setSyncOutTrigger handle channel trigger =>
      exact serves_adjustConnected (makes_setSyncTrigger .syncOut channel trigger)
  | enableEvents handle kinds period handler =>
      exact serves_adjust (makes_enableEvents kinds period handler)
  | disableEvents handle kinds => exact serves_adjust (makes_disableEvents kinds)
  | writeMemory handle region address data =>
      exact serves_adjustConnected (makes_writeMemory region address data)
  | inventory transport most =>
      exact serves_reading (fun bench => .ok (bench.driver.devicesOn transport most)) fun _ => rfl
  | libraryText item => exact serves_reading _ fun _ => rfl
  | librarySetting item => exact serves_reading _ fun _ => rfl
  | descriptor | isConnected | integerItem | realItem | scanStatus | memoryArea =>
      exact serves_ask _
  | versionText | setting | realSetting | textSetting | portSetting | readAnalog | readPort
  | readBit | readCounter | readRegister | timerStatus | readMemory => exact serves_askConnected _

end Acquisition
