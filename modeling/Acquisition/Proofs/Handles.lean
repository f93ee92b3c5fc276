import Acquisition.Driver.Request
import Acquisition.Driver.Stimulus
import Acquisition.Proofs.Answer

/-!
# Handles that lead to nothing

Most requests, every stimulus but one and every look at a device name it by its handle
(`Request.handle?`, `Stimulus.handle?`).  When nothing is behind the handle they are refused
before anything else is asked, all for the same reason (`Bench.isDead_of_absent`).
-/

namespace Acquisition

/-! ## Which handle is named -/

/-- The handle that a request names. -/
def Request.handle? {α : Type} : Request α → Option Handle
  | .inventory .. | .create .. | .libraryText .. | .setLibrarySetting .. | .librarySetting .. =>
      none
  | .descriptor handle | .connect handle | .disconnect handle | .release handle
  | .isConnected handle | .flashLed handle .. | .integerItem handle .. | .realItem handle ..
  | .versionText handle .. | .setSetting handle .. | .setting handle ..
  | .setRealSetting handle .. | .realSetting handle .. | .textSetting handle ..
  | .portSetting handle .. | .readAnalog handle .. | .scanAnalogIn handle ..
  | .loadQueue handle .. | .writeAnalog handle .. | .scanAnalogOut handle ..
  | .configurePort handle .. | .configureBit handle .. | .readPort handle ..
  | .writePort handle .. | .readBit handle .. | .writeBit handle .. | .scanDigitalIn handle ..
  | .scanDigitalOut handle .. | .readCounter handle .. | .readRegister handle ..
  | .loadRegister handle .. | .clearCounter handle .. | .setupCounter handle ..
  | .scanCounters handle .. | .startTimer handle .. | .stopTimer handle ..
  | .timerStatus handle .. | .scanSyncIn handle .. | .scanSyncOut handle ..
  | .scanStatus handle .. | .stopScan handle .. | .waitScan handle .. | .setTrigger handle ..
  | .setSyncInTrigger handle .. | .setSyncOutTrigger handle .. | .enableEvents handle ..
  | .disableEvents handle .. | .memoryArea handle .. | .readMemory handle ..
  | .writeMemory handle .. => some handle

/-- The handle that a stimulus names. -/
def Stimulus.handle? {α : Type} : Stimulus α → Option Handle
  | .attach .. => none
  | .advance handle .. | .abort handle .. | .setInput handle .. | .setLevels handle ..
  | .presetCounter handle .. | .unplug handle => some handle

/-! ## Nothing behind a handle -/

section Absent

variable {α : Type} {bench : Bench} {handle : Handle}

theorem Driver.instrument_of_absent {driver : Driver}
    (absent : driver.instruments.get? handle = none) :
    driver.instrument handle = .error .badDevHandle := by
  rw [Driver.instrument, absent]

theorem Driver.connected_of_absent {driver : Driver}
    (absent : driver.instruments.get? handle = none) :
    driver.connected handle = .error .badDevHandle := by
  rw [Driver.connected, Driver.instrument_of_absent absent]
  rfl

namespace Bench

variable (absent : bench.driver.instruments.get? handle = none)

include absent

theorem ask_of_absent (question : Instrument → Except Error α) :
    bench.ask handle question = .error .badDevHandle := by
  rw [ask, Driver.instrument_of_absent absent]
  rfl

theorem askConnected_of_absent (question : Instrument → Except Error α) :
    bench.askConnected handle question = .error .badDevHandle := by
  rw [askConnected, Driver.connected_of_absent absent]
  rfl

theorem adjust_of_absent (change : Instrument → Except Error Instrument) :
    bench.adjust handle change = .error .badDevHandle := by
  rw [adjust, Driver.instrument_of_absent absent]
  rfl

theorem adjustConnected_of_absent (change : Instrument → Except Error Instrument) :
    bench.adjustConnected handle change = .error .badDevHandle := by
  rw [adjustConnected, Driver.connected_of_absent absent]
  rfl

theorem exchange_of_absent (change : Instrument → Except Error (α × Instrument)) :
    bench.exchange handle change = .error .badDevHandle := by
  rw [exchange, Driver.connected_of_absent absent]
  rfl

/-- A request that names a handle with nothing behind it is refused. -/
theorem serve_of_absent {request : Request α} (names : request.handle? = some handle) :
    request.serve bench = .error .badDevHandle := by
  have lost := Driver.instrument_of_absent absent
  cases request with
  | inventory | create | libraryText | setLibrarySetting | librarySetting => contradiction
  | disconnect | release | stopScan | waitScan =>
      obtain rfl := Option.some.inj names
      simp only [Request.serve, change, Driver.disconnect, Driver.release, Driver.stopScan, lost]
      rfl
  | descriptor | isConnected | integerItem | realItem | scanStatus | memoryArea =>
      obtain rfl := Option.some.inj names
      exact ask_of_absent absent _
  | versionText | setting | realSetting | textSetting | portSetting | readAnalog | readPort
  | readBit | readCounter | readRegister | timerStatus | readMemory =>
      obtain rfl := Option.some.inj names
      exact askConnected_of_absent absent _
  | connect | enableEvents | disableEvents =>
      obtain rfl := Option.some.inj names
      exact adjust_of_absent absent _
  | flashLed | setSetting | setRealSetting | loadQueue | writeAnalog | configurePort
  | configureBit | writePort | writeBit | loadRegister | clearCounter | setupCounter
  | stopTimer | setTrigger | setSyncInTrigger | setSyncOutTrigger | writeMemory =>
      obtain rfl := Option.some.inj names
      exact adjustConnected_of_absent absent _
  | scanAnalogIn | scanAnalogOut | scanDigitalIn | scanDigitalOut | scanCounters | startTimer
  | scanSyncIn | scanSyncOut =>
      obtain rfl := Option.some.inj names
      exact exchange_of_absent absent _

/-- A stimulus that names a handle with nothing behind it is refused. -/
theorem apply_of_absent {stimulus : Stimulus α} (names : stimulus.handle? = some handle) :
    stimulus.apply bench = .error .badDevHandle := by
  have lost := Driver.instrument_of_absent absent
  cases stimulus with
  | attach => contradiction
  | advance | abort =>
      obtain rfl := Option.some.inj names
      simp only [Stimulus.apply, lost]
      rfl
  | setInput | setLevels | presetCounter | unplug =>
      obtain rfl := Option.some.inj names
      exact adjust_of_absent absent _

end Bench

end Absent

/-! ## Dead handles -/

/-- Nothing can be done with a handle: whatever is asked of the driver or happens from outside
under the handle is refused because of it, and so is every look at what is behind it. -/
structure Bench.IsDead (bench : Bench) (handle : Handle) : Prop where
  requests : ∀ {α : Type} (request : Request α), request.handle? = some handle →
    request.serve bench = .error .badDevHandle
  stimuli : ∀ {α : Type} (stimulus : Stimulus α), stimulus.handle? = some handle →
    stimulus.apply bench = .error .badDevHandle
  outputVoltage : ∀ channel, bench.driver.outputVoltage handle channel = .error .badDevHandle
  portLatch : ∀ kind, bench.driver.portLatch handle kind = .error .badDevHandle
  counterSetup : ∀ counter, bench.driver.counterSetup handle counter = .error .badDevHandle
  loadedQueue : bench.driver.loadedQueue handle = .error .badDevHandle
  lastTrigger : bench.driver.lastTrigger handle = .error .badDevHandle
  ledFlashes : bench.driver.ledFlashes handle = .error .badDevHandle
  enabledEvents : bench.driver.enabledEvents handle = .error .badDevHandle

/-- A handle that leads to nothing is dead. -/
theorem Bench.isDead_of_absent {bench : Bench} {handle : Handle}
    (absent : bench.driver.instruments.get? handle = none) : bench.IsDead handle := by
  have lost := Driver.instrument_of_absent absent
  constructor
  · exact fun request names => serve_of_absent absent names
  · exact fun stimulus names => apply_of_absent absent names
  · intro channel
    rw [Driver.outputVoltage, lost]
    rfl
  · intro kind
    rw [Driver.portLatch, lost]
    rfl
  · intro counter
    rw [Driver.counterSetup, lost]
    rfl
  · rw [Driver.loadedQueue, lost]
    rfl
  · rw [Driver.lastTrigger, lost]
    rfl
  · rw [Driver.ledFlashes, lost]
    rfl
  · rw [Driver.enabledEvents, lost]
    rfl

end Acquisition
