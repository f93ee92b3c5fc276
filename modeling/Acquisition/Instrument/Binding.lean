import Acquisition.Instrument

/-!
# Binding events

An event kind has at most one handler.  Unbinding some kinds of a binding leaves
the others bound.
-/

namespace Acquisition.Instrument

/-- The event kinds that have a handler. -/
def boundKinds (instrument : Instrument) : Flags .event :=
  Binding.boundKinds instrument.bindings

/-- The event kinds that the device reports. -/
def supportedEvents (instrument : Instrument) : Flags .event :=
  instrument.profile.mask .device Item.Device.eventKinds 0

/-- Accept event kinds with a period. -/
def checkBinding (instrument : Instrument) (kinds : Flags .event) (period : Nat) :
    Except Error Unit :=
  if kinds.isEmpty || !instrument.supportedEvents.contains kinds then .error .badEventType
  else if kinds.contains EventKind.dataAvailable ∧ period = 0 then .error .badEventParameter
  else if instrument.bindings.any fun binding => binding.kinds.intersects kinds then
    .error .eventAlreadyEnabled
  else .ok ()

/-- Bind event kinds to a handler. -/
def enableEvents (instrument : Instrument) (kinds : Flags .event) (period : Nat)
    (handler : Handler) : Except Error Instrument := do
  instrument.checkBinding kinds period
  return { instrument with
    bindings := instrument.bindings ++ [⟨kinds, period, period, handler⟩] }

/-- Unbind event kinds. -/
def disableEvents (instrument : Instrument) (kinds : Flags .event) : Instrument :=
  { instrument with
    bindings := (instrument.bindings.map fun binding => binding.without kinds).filter
      fun binding => !binding.kinds.isEmpty }

end Acquisition.Instrument
