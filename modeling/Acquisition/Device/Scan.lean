import Acquisition.World

/-!
# Scans of a device

A start that the driver accepts pins the buffer of the scan.  Every answer about
the scan settles the slot with the generation that was current when the question
was asked, so an answer that a newer start has overtaken changes nothing.
-/

namespace Acquisition

namespace Slot

/-- The notices of settling a slot. -/
def notices (slot : Slot) (target : ScanTarget) (asked : Nat) (status : ScanStatus) :
    List Notice :=
  if status ≠ .idle then []
  else if slot.generation ≠ asked then [.answerOutdated target]
  else if slot.pinned.isSome then [.bufferReleased target]
  else []

end Slot

namespace Act

/-! ## Starting -/

/-- Keep the buffer of a start that the driver has accepted. -/
def pin (id : DeviceId) (target : ScanTarget) (buffer : ScanBuffer) (rate : Float) : Act Unit := do
  updateDevice id fun device => device.putSlot target ((device.slot target).pin buffer)
  let store := (← get).bench.store
  note [.scanStarted target buffer.channels (buffer.perChannel store) rate]

/-- Start a scan over the link. -/
def startScan (id : DeviceId) (target : ScanTarget) (buffer : ScanBuffer)
    (request : Handle → Request Float) : Act Float := do
  let rate ← send (request (← live id))
  pin id target buffer rate
  return rate

/-- The channels that an analog input scan asks for: while a queue is loaded, as many as
it has elements.  The last one is found in 32 bits. -/
def queuedChannels (device : Device) (low high : Int) : Int × Int :=
  if 0 < device.queueLength then (0, (Int32.ofNat device.queueLength - 1).toInt) else (low, high)

/-- Start an analog input scan over the link. -/
def startAnalogIn (id : DeviceId) (low high : Int) (mode : InputMode) (range : Range)
    (samples : Nat) (rate : Float) (options : Flags .scanOption) (flags : Flags .analogInScan)
    (buffer : Buffer Float) : Act Float := do
  let samples ← resume (sampleCount samples)
  let (low, high) := queuedChannels (← device id) low high
  startScan id .analogIn (.reals buffer) fun handle =>
    .scanAnalogIn handle ⟨low, high, samples, rate, options⟩ mode range flags buffer

/-! ## Asking -/

/-- Let a rival that is waiting start its scan. -/
def admitRival : Act Unit := do
  match (← get).rival with
  | none => return ()
  | some rival =>
      modify fun world => { world with rival := none }
      let samples := (rival.buffer.view (← get).bench.store).perChannel
      let result ← attempt (startAnalogIn rival.device 0 ((rival.buffer.channels : Int) - 1)
        .singleEnded .bip10Volts samples 100 ScanOption.continuous .empty rival.buffer)
      report (.rivalStarted result)

/-- Ask over the link for the status of a scan.  A rival slips in between the answer and
its reader. -/
def askStatus (handle : Handle) (target : ScanTarget) : Act (ScanStatus × Transfer) := do
  let question : Request (ScanStatus × Transfer) := .scanStatus handle target
  pass question.name
  let answer ← attempt (perform question)
  admitRival
  resume answer

/-- Settle a slot with an answer to a question asked in some generation. -/
def settle (id : DeviceId) (target : ScanTarget) (asked : Nat) (status : ScanStatus) :
    Act Unit := do
  let slot := (← device id).slot target
  updateDevice id fun device => device.putSlot target (slot.settle asked status)
  note (slot.notices target asked status)

/-- The status of a scan. -/
def scanStatus (id : DeviceId) (target : ScanTarget) : Act (ScanStatus × Transfer) := do
  let handle ← live id
  let asked := ((← device id).slot target).generation
  let (status, transfer) ← askStatus handle target
  settle id target asked status
  return (status, transfer)

/-! ## Ending -/

/-- Stop a scan and take note of its status. -/
def stopScan (id : DeviceId) (target : ScanTarget) : Act Unit := do
  send (.stopScan (← live id) target)
  note [.stopRequested target]
  let _ ← scanStatus id target

/-- Wait for the end of a scan and take note of its status. -/
def waitScan (id : DeviceId) (target : ScanTarget) (condition : WaitCondition) (parameter : Int)
    (timeout : Float) : Act Unit := do
  send (.waitScan (← live id) target condition parameter timeout)
  let _ ← scanStatus id target

/-- Stop the scans on some targets that are running. -/
def stopRunning (handle : Handle) : List ScanTarget → Act Unit
  | [] => return ()
  | target :: rest => do
      let (status, _) ← askStatus handle target
      if status = .running then
        send (.stopScan handle target)
        note [.scanStopped target]
      stopRunning handle rest

/-- Stop every running scan of a device. -/
def stopAll (id : DeviceId) : Act Unit := do
  let handle ← live id
  stopRunning handle (← device id).targets

end Act

end Acquisition
