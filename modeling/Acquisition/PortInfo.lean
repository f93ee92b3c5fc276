import Acquisition.Coded.Digital

/-!
# Properties of a port
-/

namespace Acquisition

/-- What a device reports about one of its ports. -/
structure PortInfo where
  kind : PortKind
  access : PortAccess
  bits : Nat
  deriving DecidableEq, Repr

namespace PortInfo

/-- The line the properties are shown as. -/
def text (info : PortInfo) : String :=
  Coded.name info.kind ++ " (" ++ Coded.name info.access ++ ", " ++ toString info.bits ++ " bits)"

end PortInfo

end Acquisition
