/-!
# Lower-case hexadecimal text
-/

namespace Acquisition.Number

/-- The lower-case digits of a natural number in base sixteen. -/
def hexadecimal (value : Nat) : String :=
  String.ofList (Nat.toDigits 16 value)

/-- A natural number written with the mark `0x`. -/
def markedHexadecimal (value : Nat) : String :=
  "0x" ++ hexadecimal value

end Acquisition.Number
