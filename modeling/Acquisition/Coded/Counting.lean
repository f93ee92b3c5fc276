import Acquisition.Coded

/-!
# Settings of counters
-/

namespace Acquisition

/-- How long an input has to be stable. -/
inductive DebounceTime where
  | debounce0ns
  | debounce500ns
  | debounce1500ns
  | debounce3500ns
  | debounce7500ns
  | debounce15500ns
  | debounce31500ns
  | debounce63500ns
  | debounce127500ns
  | debounce100us
  | debounce300us
  | debounce700us
  | debounce1500us
  | debounce3100us
  | debounce6300us
  | debounce12700us
  | debounce25500us
  deriving DecidableEq, Repr

instance : Coded DebounceTime where
  typeName := "CounterDebounceTime"
  all :=
    [.debounce0ns, .debounce500ns, .debounce1500ns, .debounce3500ns, .debounce7500ns,
     .debounce15500ns, .debounce31500ns, .debounce63500ns, .debounce127500ns, .debounce100us,
     .debounce300us, .debounce700us, .debounce1500us, .debounce3100us, .debounce6300us,
     .debounce12700us, .debounce25500us]
  label
    | .debounce0ns => (0, "Debounce0ns")
    | .debounce500ns => (1, "Debounce500ns")
    | .debounce1500ns => (2, "Debounce1500ns")
    | .debounce3500ns => (3, "Debounce3500ns")
    | .debounce7500ns => (4, "Debounce7500ns")
    | .debounce15500ns => (5, "Debounce15500ns")
    | .debounce31500ns => (6, "Debounce31500ns")
    | .debounce63500ns => (7, "Debounce63500ns")
    | .debounce127500ns => (8, "Debounce127500ns")
    | .debounce100us => (9, "Debounce100us")
    | .debounce300us => (10, "Debounce300us")
    | .debounce700us => (11, "Debounce700us")
    | .debounce1500us => (12, "Debounce1500us")
    | .debounce3100us => (13, "Debounce3100us")
    | .debounce6300us => (14, "Debounce6300us")
    | .debounce12700us => (15, "Debounce12700us")
    | .debounce25500us => (16, "Debounce25500us")

/-- When a debounced edge counts. -/
inductive DebounceMode where
  | never
  | triggerAfterStable
  | triggerBeforeStable
  deriving DecidableEq, Repr

instance : Coded DebounceMode where
  typeName := "CounterDebounceMode"
  all :=
    [.never, .triggerAfterStable, .triggerBeforeStable]
  label
    | .never => (0, "None")
    | .triggerAfterStable => (1, "TriggerAfterStable")
    | .triggerBeforeStable => (2, "TriggerBeforeStable")

/-- The edge a counter reacts to. -/
inductive Edge where
  | risingEdge
  | fallingEdge
  deriving DecidableEq, Repr

instance : Coded Edge where
  typeName := "CounterEdgeDetection"
  all :=
    [.risingEdge, .fallingEdge]
  label
    | .risingEdge => (1, "RisingEdge")
    | .fallingEdge => (2, "FallingEdge")

/-- The tick of a time measurement. -/
inductive TickSize where
  | tick20Pt83ns
  | tick208Pt3ns
  | tick2083Pt3ns
  | tick20833Pt3ns
  | tick20ns
  | tick200ns
  | tick2000ns
  | tick20000ns
  deriving DecidableEq, Repr

instance : Coded TickSize where
  typeName := "CounterTickSize"
  all :=
    [.tick20Pt83ns, .tick208Pt3ns, .tick2083Pt3ns, .tick20833Pt3ns, .tick20ns, .tick200ns,
     .tick2000ns, .tick20000ns]
  label
    | .tick20Pt83ns => (1, "Tick20Pt83ns")
    | .tick208Pt3ns => (2, "Tick208Pt3ns")
    | .tick2083Pt3ns => (3, "Tick2083Pt3ns")
    | .tick20833Pt3ns => (4, "Tick20833Pt3ns")
    | .tick20ns => (11, "Tick20ns")
    | .tick200ns => (12, "Tick200ns")
    | .tick2000ns => (13, "Tick2000ns")
    | .tick20000ns => (14, "Tick20000ns")

end Acquisition
