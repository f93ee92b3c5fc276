import Acquisition.Device
import Acquisition.Driver.InPlace
import Acquisition.Driver.Notice

/-!
# The world of a caller

A caller sees the bench through a link, holds devices, and collects notices and
occurrences.  `Act` is an action of the caller: it may be refused, and what it did
before stays done.

The link can be made faulty: a fault lets some calls of one name through and then
refuses some.
-/

namespace Acquisition

/-- Refusals of the link: calls of one name pass `skip` times and are then refused
`times` times. -/
structure Fault where
  name : String
  error : Error
  skip : Nat
  times : Nat
  deriving DecidableEq, Repr

namespace Fault

/-- Consult the faults, in order, about a call.  A fault that skips counts the call and
leaves it to the next one. -/
def consult (name : String) : List Fault → Option Error × List Fault
  | [] => (none, [])
  | fault :: rest =>
      if fault.name = name ∧ fault.skip = 0 ∧ 0 < fault.times then
        (some fault.error, { fault with times := fault.times - 1 } :: rest)
      else
        let counted := if fault.name = name then { fault with skip := fault.skip - 1 } else fault
        let (refusal, rest) := consult name rest
        (refusal, counted :: rest)

end Fault

/-- What a handler learnt from its reaction. -/
inductive Finding where
  | nothing
  /-- Whether the reaction was accepted. -/
  | accepted (accepted : Bool)
  /-- The status of a scan, unless asking was refused. -/
  | status (status : Option (ScanStatus × Transfer))
  deriving DecidableEq, Repr

/-- What happened beside the answers. -/
inductive Occurrence where
  /-- A handler ran. -/
  | handled (label : String) (kind : Flags .event) (data : Nat) (finding : Finding)
  /-- A scan was started between an answer and its reader. -/
  | rivalStarted (result : Except Error Float)

/-- The number of a device that a caller holds. -/
abbrev DeviceId :=
  Nat

/-- A start of an analog input scan that is to slip in between the next answer about a
scan and its reader. -/
structure Rival where
  device : DeviceId
  buffer : Buffer Float
  deriving DecidableEq, Repr

/-- Everything a caller can see or change. -/
structure World where
  bench : Bench
  faults : List Fault
  rival : Option Rival
  devices : Table DeviceId Device
  nextDevice : DeviceId
  notices : List Notice
  occurrences : List Occurrence

namespace World

/-- No device is attached or open. -/
def initial : World where
  bench := .initial
  faults := []
  rival := none
  devices := .empty
  nextDevice := 0
  notices := []
  occurrences := []

instance : Inhabited World :=
  ⟨initial⟩

end World

/-- An action of a caller. -/
abbrev Act :=
  Procedure World

namespace Act

variable {α : Type}

/-- Add to the log. -/
def note (notices : List Notice) : Act Unit :=
  modify fun world => { world with notices := world.notices ++ notices }

/-- Add to the occurrences. -/
def report (occurrence : Occurrence) : Act Unit :=
  modify fun world => { world with occurrences := world.occurrences ++ [occurrence] }

/-- Act, and have a refusal as an answer. -/
def attempt (act : Act α) : Act (Except Error α) :=
  ExceptT.lift act.run

/-- Go on with an answer or a refusal. -/
def resume (answer : Except Error α) : Act α :=
  Procedure.resume answer

/-- Change the bench. -/
def setBench (bench : Bench) : Act Unit :=
  modify fun world => { world with bench := bench }

/-! ## Calls of the driver -/

/-- Work on the bench in place. -/
def onBench (work : Procedure Bench α) : Act α :=
  Procedure.within (fun world => .ok world.bench)
    (fun world bench => { world with bench := bench }) work

/-- Serve a request, without running the handlers that are due. -/
def serve (request : Request α) : Act (Outcome α) := do
  let before := (← get).bench
  let (answer, due) ← onBench request.execute
  let outcome := ⟨answer, (← get).bench, due⟩
  note (Notice.ofRequest request before outcome)
  return outcome

/-- Do what a handler does and find out what came of it. -/
def react (handle : Handle) (reaction : Reaction) : Act Finding :=
  match reaction with
  | .record | .breakDown => return .nothing
  | .stop target => do
      return .accepted (← attempt (serve (.stopScan handle target))).isOk
  | .disable kinds => do
      return .accepted (← attempt (serve (.disableEvents handle kinds))).isOk
  | .status target => do
      let answer ← attempt (serve (.scanStatus handle target))
      return .status (answer.toOption.map Outcome.answer)

/-- Run a handler. -/
def handle (due : Due) : Act Unit := do
  let firing := due.firing
  note [.eventRaised firing.kind firing.data]
  let finding ← react due.handle firing.handler.reaction
  report (.handled firing.handler.label firing.kind firing.data finding)
  if firing.handler.reaction = .breakDown then
    note [.handlerBroke firing.kind]

/-- Run the handlers that are due, in order. -/
def handleAll : List Due → Act Unit
  | [] => return ()
  | due :: rest => do
      handle due
      handleAll rest

/-- Perform a request: serve it and run the handlers that are due. -/
def perform (request : Request α) : Act α := do
  let outcome ← serve request
  handleAll outcome.due
  return outcome.answer

/-- Apply a stimulus and run the handlers that are due. -/
def stimulate (stimulus : Stimulus α) : Act α := do
  let before := (← get).bench
  match stimulus.apply before with
  | .ok outcome =>
      setBench outcome.bench
      note (Notice.ofStimulus stimulus before outcome)
      handleAll outcome.due
      return outcome.answer
  | .error error => throw error

/-- Observe the driver. -/
def observe (question : Driver → Except Error α) : Act α := do
  resume (question (← get).bench.driver)

/-- The devices attached through a transport, up to a number of them. -/
def listDevices (transport : Flags .transport) (most : Nat) : Act (List Descriptor) := do
  let devices ← perform (.inventory transport most)
  note [.devicesListed transport devices.length]
  return devices

/-! ## Calls over the link -/

/-- Let the link refuse or pass a call. -/
def pass (name : String) : Act Unit := do
  let world ← get
  let (refusal, faults) := Fault.consult name world.faults
  set { world with faults := faults }
  match refusal with
  | some error => throw error
  | none => return ()

/-- Send a request over the link. -/
def send (request : Request α) : Act α := do
  pass request.name
  perform request

/-! ## Devices that the caller holds -/

/-- A device. -/
def device (id : DeviceId) : Act Device := do
  match (← get).devices.get? id with
  | some device => return device
  | none => throw .badDevHandle

/-- Put a device. -/
def putDevice (id : DeviceId) (device : Device) : Act Unit :=
  modify fun world => { world with devices := world.devices.set id device }

/-- Change a device. -/
def updateDevice (id : DeviceId) (change : Device → Device) : Act Unit := do
  putDevice id (change (← device id))

/-- The handle of a device that was not released. -/
def live (id : DeviceId) : Act Handle := do
  let device ← device id
  if device.isReleased then throw .badDevHandle else return device.handle

end Act

end Acquisition
