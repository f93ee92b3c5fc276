/-!
# Shortest decimal text of a real value

The text is positional and has the fewest digits that still read back as the
same value; of two such decimals it is the nearer one, and the larger one on a
tie.  A value that is an integer has no point.  All comparisons are exact, in
natural numbers.
-/

namespace Acquisition.Number

/-- A positive value `mantissa * 2 ^ exponent`, with the mark of a mantissa
whose lower neighbour is only half a step away. -/
structure Binary where
  mantissa : Nat
  exponent : Int
  closeBelow : Bool
  deriving Repr

/-- The decimal `digits * 10 ^ scale`. -/
structure Decimal where
  digits : Nat
  scale : Int
  deriving DecidableEq, Repr

namespace Binary

/-- The bit above the 52 bits of a fraction. -/
def leadingBit : Nat :=
  0x10000000000000

/-- Read the bits of a positive finite value: eleven bits of exponent above the fraction. -/
def ofBits (bits : Nat) : Binary :=
  let fraction := bits % leadingBit
  let biased := bits / leadingBit % 2048
  if biased = 0 then ⟨fraction, -1074, false⟩
  else ⟨fraction + leadingBit, (biased : Int) - 1075, fraction = 0 && biased ≠ 1⟩

/-- A scale at which the value is smaller than one step. -/
def startScale (value : Binary) : Int :=
  ((value.mantissa.log2 : Int) + value.exponent + 1) * 30103 / 100000 + 2

/-- The multiple of `10 ^ scale` nearest to the value, of those that read back as it. -/
def onGrid? (value : Binary) (scale : Int) : Option Decimal :=
  let quarter := value.exponent - 2
  let numerator := Nat.pow 2 quarter.toNat * Nat.pow 10 (-scale).toNat
  let step := Nat.pow 2 (-quarter).toNat * Nat.pow 10 scale.toNat
  let exact := 4 * value.mantissa * numerator
  let low := (4 * value.mantissa - if value.closeBelow then 1 else 2) * numerator
  let high := (4 * value.mantissa + 2) * numerator
  let reads := fun digits =>
    if value.mantissa % 2 = 0 then low ≤ digits * step && digits * step ≤ high
    else low < digits * step && digits * step < high
  let below := exact / step
  let above := below + 1
  match reads below, reads above with
  | true, true =>
      if exact - below * step < above * step - exact then some ⟨below, scale⟩
      else some ⟨above, scale⟩
  | true, false => some ⟨below, scale⟩
  | false, true => some ⟨above, scale⟩
  | false, false => none

/-- The first grid with a decimal that reads back, from a coarse scale to finer ones. -/
def shortestFrom (value : Binary) (scale : Int) : Nat → Decimal
  | 0 => ⟨0, 0⟩
  | fuel + 1 =>
      match value.onGrid? scale with
      | some decimal => decimal
      | none => value.shortestFrom (scale - 1) fuel

/-- The shortest decimal that reads back.  Seventeen digits always do, and the
start is less than four scales too coarse. -/
def shortest (value : Binary) : Decimal :=
  value.shortestFrom value.startScale 24

end Binary

namespace Decimal

/-- The positional text of a decimal. -/
def text (decimal : Decimal) : String :=
  let digits := Nat.toDigits 10 decimal.digits
  if 0 ≤ decimal.scale then
    String.ofList (digits ++ List.replicate decimal.scale.toNat '0')
  else
    let places := (-decimal.scale).toNat
    let padded := List.replicate (places + 1 - digits.length) '0' ++ digits
    let whole := padded.length - places
    String.ofList (padded.take whole ++ '.' :: padded.drop whole)

end Decimal

/-- The bit that is set in the bits of negative values. -/
def signBit : Nat :=
  0x8000000000000000

/-- The text of a real value. -/
def decimalText (value : Float) : String :=
  let bits := value.toBits.toNat
  let unsigned := bits % signBit
  if 0x7ff0000000000000 < unsigned then "NaN"
  else
    let sign := if signBit ≤ bits then "-" else ""
    if unsigned = 0x7ff0000000000000 then sign ++ "inf"
    else if unsigned = 0 then sign ++ "0"
    else sign ++ (Binary.ofBits unsigned).shortest.text

/-- A quarter has two places. -/
example : (Binary.ofBits 0x3fd0000000000000).shortest = ⟨25, -2⟩ := by decide +kernel

/-- A tenth is written with one digit though no double equals it. -/
example : (Binary.ofBits 0x3fb999999999999a).shortest = ⟨1, -1⟩ := by decide +kernel

end Acquisition.Number
