/-!
# Scan targets

A device runs at most one background scan per target.  Input scans sample the
device into a buffer, output scans play a buffer back.
-/

namespace Acquisition

/-- The parts of a device that can run a background scan. -/
inductive ScanTarget where
  | analogIn
  | analogOut
  | digitalIn
  | digitalOut
  | counterIn
  | syncIn
  | syncOut
  deriving DecidableEq, Repr

namespace ScanTarget

/-- Every target, in the order in which scans are stopped. -/
def all : List ScanTarget :=
  [.analogIn, .analogOut, .digitalIn, .digitalOut, .counterIn, .syncIn, .syncOut]

/-- The name a target is shown under. -/
def name : ScanTarget → String
  | .analogIn => "AIn"
  | .analogOut => "AOut"
  | .digitalIn => "DIn"
  | .digitalOut => "DOut"
  | .counterIn => "CIn"
  | .syncIn => "DaqIn"
  | .syncOut => "DaqOut"

/-- The target shown under a name. -/
def ofName? (name : String) : Option ScanTarget :=
  all.find? fun target => target.name = name

/-- Whether scans of a target fill their buffer. -/
def isInput : ScanTarget → Bool
  | .analogIn | .digitalIn | .counterIn | .syncIn => true
  | .analogOut | .digitalOut | .syncOut => false

end ScanTarget

/-- The parts of a device that take a trigger addressed by a channel number. -/
inductive TriggerTarget where
  | analogIn
  | analogOut
  | digitalIn
  | digitalOut
  | counterIn
  | timer
  deriving DecidableEq, Repr

namespace TriggerTarget

/-- Every target. -/
def all : List TriggerTarget :=
  [.analogIn, .analogOut, .digitalIn, .digitalOut, .counterIn, .timer]

/-- The name a target is shown under. -/
def name : TriggerTarget → String
  | .analogIn => "AIn"
  | .analogOut => "AOut"
  | .digitalIn => "DIn"
  | .digitalOut => "DOut"
  | .counterIn => "CIn"
  | .timer => "Tmr"

/-- The target shown under a name. -/
def ofName? (name : String) : Option TriggerTarget :=
  all.find? fun target => target.name = name

end TriggerTarget

end Acquisition
