import Acquisition.Coded.Counting
import Acquisition.Flags

/-!
# Counter setups
-/

namespace Acquisition

/-- How a counter measures during a counter scan. -/
structure CounterSetup where
  measurement : Flags .measurement
  mode : Flags .measurementMode
  edge : Edge
  tick : TickSize
  debounceMode : DebounceMode
  debounceTime : DebounceTime
  flags : Flags .counterSetup
  deriving DecidableEq, Repr

namespace CounterSetup

/-- Counting of rising edges without debounce. -/
def standard : CounterSetup where
  measurement := Measurement.count
  mode := .empty
  edge := .risingEdge
  tick := .tick20Pt83ns
  debounceMode := .never
  debounceTime := .debounce0ns
  flags := .empty

instance : Inhabited CounterSetup :=
  ⟨standard⟩

end CounterSetup

end Acquisition
