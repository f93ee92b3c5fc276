import Acquisition.Instrument.Sync

/-!
# Setting triggers
-/

namespace Acquisition.Instrument

/-- The triggers that a target supports; a timer supports every named one. -/
def supportedTriggers (instrument : Instrument) : TriggerTarget → Flags .trigger
  | .analogIn => instrument.profile.triggerKinds .analogIn
  | .analogOut => instrument.profile.triggerKinds .analogOut
  | .digitalIn => instrument.profile.triggerKinds .digitalIn
  | .digitalOut => instrument.profile.triggerKinds .digitalOut
  | .counterIn => instrument.profile.triggerKinds .counterIn
  | .timer => .all

/-- Accept a trigger.  A timer takes any that is not empty. -/
def checkTriggerFor (instrument : Instrument) (target : TriggerTarget) (channel : Int)
    (trigger : Trigger) : Except Error Unit :=
  match target with
  | .timer => do
      instrument.checkTimer channel
      if trigger.kind.isEmpty then .error .badTrigType else .ok ()
  | _ => checkTrigger (instrument.supportedTriggers target) trigger

/-- Set the trigger of a target. -/
def setTrigger (instrument : Instrument) (target : TriggerTarget) (channel : Int)
    (trigger : Trigger) : Except Error Instrument := do
  instrument.checkTriggerFor target channel trigger
  return { instrument with trigger := some trigger }

/-- Set the trigger of a synchronous scan.  The channel is one of synchronous input for
either target. -/
def setSyncTrigger (instrument : Instrument) (target : ScanTarget)
    (channel : SyncChannel .syncInChannel) (trigger : Trigger) : Except Error Instrument := do
  checkTrigger (instrument.profile.triggerKinds target) trigger
  let _ ← instrument.syncInColumn channel
  return { instrument with trigger := some trigger }

/-- Set the trigger of synchronous input. -/
def setSyncInTrigger (instrument : Instrument) (channel : SyncChannel .syncInChannel)
    (trigger : Trigger) : Except Error Instrument :=
  instrument.setSyncTrigger .syncIn channel trigger

/-- Set the trigger of synchronous output. -/
def setSyncOutTrigger (instrument : Instrument) (channel : SyncChannel .syncInChannel)
    (trigger : Trigger) : Except Error Instrument :=
  instrument.setSyncTrigger .syncOut channel trigger

end Acquisition.Instrument
