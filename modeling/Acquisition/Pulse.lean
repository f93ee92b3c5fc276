import Acquisition.Coded.Activity
import Acquisition.Flags

/-!
# Pulse trains
-/

namespace Acquisition

/-- A request for a pulse train. -/
structure PulseRequest where
  frequency : Float
  dutyCycle : Float
  count : UInt64
  initialDelay : Float
  idleLevel : IdleLevel
  options : Flags .pulseOption

/-- The timing that a pulse train has got. -/
structure PulseTiming where
  frequency : Float
  dutyCycle : Float
  initialDelay : Float

end Acquisition
