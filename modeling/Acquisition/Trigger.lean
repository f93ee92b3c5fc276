import Acquisition.Flags

/-!
# Triggers
-/

namespace Acquisition

/-- The condition a scan or a pulse train waits for. -/
structure Trigger where
  kind : Flags .trigger
  level : Float
  variance : Float
  retriggerCount : UInt32

end Acquisition
