import Acquisition.Coded.Digital
import Acquisition.Error

/-!
# Digital ports

A port has a latch that its output bits drive, levels that are driven onto its
input bits from outside, and a mask of the bits that are outputs.  Reading takes
each bit from the side that drives it.
-/

namespace Acquisition

/-- A digital port. -/
structure Port where
  kind : PortKind
  access : PortAccess
  width : Nat
  /-- What the output bits drive. -/
  latch : UInt64
  /-- What is driven onto the input bits. -/
  levels : UInt64
  /-- The bits that are outputs. -/
  outputs : UInt64
  deriving DecidableEq, Repr

namespace Port

/-- The word with the lowest `width` bits set. -/
def lowBits (width : Nat) : UInt64 :=
  if 64 ≤ width then 0xffffffffffffffff else (1 <<< width.toUInt64) - 1

/-- The word with one bit set. -/
def bitMask (bit : Nat) : UInt64 :=
  1 <<< bit.toUInt64

/-- The bits that the port has. -/
def widthMask (port : Port) : UInt64 :=
  lowBits port.width

/-- A port as it is when the device is opened: a pure output port drives every bit. -/
def initial (kind : PortKind) (access : PortAccess) (width : Nat) : Port where
  kind := kind
  access := access
  width := width
  latch := 0
  levels := 0
  outputs := if access = .output then lowBits width else 0

/-- The levels of all bits. -/
def read (port : Port) : UInt64 :=
  ((port.latch &&& port.outputs) ||| (port.levels &&& ~~~port.outputs)) &&& port.widthMask

/-- A bit number of the port. -/
def checkBit (port : Port) (bit : Int) : Except Error Nat :=
  if 0 ≤ bit ∧ bit < port.width then .ok bit.toNat else .error .badBitNum

/-- Choose the direction of all bits. -/
def configure (port : Port) (direction : Direction) : Except Error Port :=
  match port.access with
  | .bidirectional | .bitIo =>
      .ok { port with
        outputs := match direction with
          | .output => port.widthMask
          | .input => 0 }
  | _ => .error .configNotSupported

/-- Choose the direction of one bit. -/
def configureBit (port : Port) (bit : Int) (direction : Direction) : Except Error Port :=
  if port.access ≠ .bitIo then .error .configNotSupported
  else do
    let bit ← port.checkBit bit
    return { port with
      outputs := match direction with
        | .output => port.outputs ||| bitMask bit
        | .input => port.outputs &&& ~~~bitMask bit }

/-- Put a value into the latch; the value has to fit, and some bit has to be an output. -/
def write (port : Port) (value : UInt64) : Except Error Port :=
  if value &&& ~~~port.widthMask ≠ 0 then .error .badPortVal
  else if port.outputs = 0 then .error .wrongDigConfig
  else .ok { port with latch := value }

/-- The level of one bit. -/
def readBit (port : Port) (bit : Int) : Except Error Nat := do
  let bit ← port.checkBit bit
  return ((port.read >>> bit.toUInt64) &&& 1).toNat

/-- Put a level into one bit of the latch; the bit has to be an output. -/
def writeBit (port : Port) (bit : Int) (value : Nat) : Except Error Port := do
  let bit ← port.checkBit bit
  if 1 < value then .error .badPortVal
  else if port.outputs &&& bitMask bit = 0 then .error .wrongDigConfig
  else
    return { port with
      latch := if value = 1 then port.latch ||| bitMask bit else port.latch &&& ~~~bitMask bit }

/-- Put the bits of a value that the port has into the latch. -/
def drive (port : Port) (value : UInt64) : Port :=
  { port with latch := value &&& port.widthMask }

/-- Change the first port of a kind. -/
def updateFirst (kind : PortKind) (change : Port → Except Error Port) :
    List Port → Except Error (List Port)
  | [] => .error .badPortType
  | port :: rest =>
      if port.kind = kind then do
        return (← change port) :: rest
      else do
        return port :: (← updateFirst kind change rest)

end Port

end Acquisition
