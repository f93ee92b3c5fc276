/-!
# Rounding and bounding of real readings

Counts are rounded to the nearest integer, a half away from zero.  A value is
bounded by first lifting it to the lower end and then lowering it to the upper
end, so a value that is no number stays as it is.
-/

namespace Acquisition.Number

/-- The magnitude of a value. -/
def magnitude (value : Float) : Float :=
  if value < 0 then -value else value

/-- The nearest integer, a half going away from zero.  From 2^52 on every value
is an integer already, and zero keeps its sign. -/
def round (value : Float) : Float :=
  let size := magnitude value
  if size < 4503599627370496 then
    let whole := size.toUInt64.toFloat
    if size == whole then value
    else
      let nearest := if size - whole < 0.5 then whole else whole + 1
      if value < 0 then -nearest else nearest
  else value

/-- The value of an interval that is nearest to `value`. -/
def clamp (value low high : Float) : Float :=
  let lifted := if value < low then low else value
  if lifted > high then high else lifted

/-- The value, or one when it is smaller or no number. -/
def atLeastOne (value : Float) : Float :=
  if value > 1 then value else 1

/-- A half goes away from zero. -/
example : round 2.5 = 3 := by decide +kernel
/-- Zero keeps the sign of what it came from. -/
example : round (-0.4) = -0.0 := by decide +kernel
/-- The largest value below a half goes to zero. -/
example : round (Float.ofBits 0x3fdfffffffffffff) = 0 := by decide +kernel

end Acquisition.Number
