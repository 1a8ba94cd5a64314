/-!
# `Roster.Decimal.Double`: decimals read as doubles

A decimal with a whole significand is read by one multiplication or
division of doubles: the significand, rounded to a double, times or by
the power of ten. Both steps round, so the result may be a unit off the
nearest double; it is what a one-pass reader gives.

Powers of ten beyond `10 ^ 308` are no doubles. A larger one puts any
significand but zero out of range; a smaller one is divided out in
steps of `10 ^ 308`.
-/

set_option autoImplicit false

namespace Roster.Decimal

/-- The greatest power of ten that is a double. -/
def greatestPower : Nat := 308

/-- The double `10 ^ n`, for `n` up to `greatestPower`. -/
def powerOfTen (n : Nat) : Float :=
  Float.ofScientific 1 false n

/-- The double `x * 10 ^ exponent`, or nothing if it is out of
range. -/
def scale (x : Float) (exponent : Int) : Option Float :=
  if exponent.natAbs ≤ greatestPower then
    if 0 ≤ exponent then
      let y := x * powerOfTen exponent.natAbs
      if y.isInf then none else some y
    else some (x / powerOfTen exponent.natAbs)
  else if x == 0 then some x
  else if 0 ≤ exponent then none
  else scale (x / powerOfTen greatestPower) (exponent + greatestPower)
termination_by (-exponent).toNat
decreasing_by
  have : (0 : Int) < greatestPower := by decide
  omega

/-- The double nearest to a 64-bit significand, scaled by a power of
ten, or nothing if it is out of range. -/
def toDouble? (significand : UInt64) (exponent : Int) : Option Float :=
  scale significand.toFloat exponent

end Roster.Decimal
