import ShadingGraph.Number.Decimal

/-! # Decimals by way of double precision

A decimal with a significand of 64 bits is brought to double precision by rounding the
significand and then multiplying by, or dividing by, the double-precision number
nearest to the power of ten. Each of the steps rounds, so that the outcome may be a
neighbour of the nearest number.
-/

namespace ShadingGraph

namespace Dyadic

/-- Product in double precision; `none` if it is too large. -/
def mulDouble? (x y : Dyadic) : Option Dyadic :=
  BinaryFormat.binary64.round (x.numerator * y.numerator) (x.denominator * y.denominator)

/-- Quotient by a positive number in double precision; `none` if it is too large. -/
def divDouble? (x y : Dyadic) : Option Dyadic :=
  BinaryFormat.binary64.round (x.numerator * y.denominator) (x.denominator * y.numerator)

/-- The nearest single-precision number, with a sign. -/
def toBinary32 (negative : Bool) (x : Dyadic) : Binary32 :=
  Binary32.ofRatio negative x.numerator x.denominator

end Dyadic

namespace Decimal

/-- Greatest power of ten in double precision. -/
def maxPower : Nat := 308

/-- The double-precision number nearest to a power of ten up to `10 ^ 308`. -/
def powerOfTen? (exponent : Nat) : Option Dyadic :=
  BinaryFormat.binary64.round (Nat.pow 10 exponent) 1

/-- Scale a number by a power of ten; below `10 ^ (-308)` in steps. After two of the
steps no number is left but zero. -/
def scaleDouble? : Nat → Dyadic → Int → Option Dyadic
  | 0, x, _ => some x
  | steps + 1, x, exponent =>
    if exponent.natAbs ≤ maxPower then do
      let power ← powerOfTen? exponent.natAbs
      if 0 ≤ exponent then x.mulDouble? power else x.divDouble? power
    else if x.significand = 0 then some x
    else if 0 ≤ exponent then none
    else do scaleDouble? steps (← x.divDouble? (← powerOfTen? maxPower)) (exponent + maxPower)

/-- The magnitude in double precision; `none` if it is too large. -/
def toDouble? (x : Decimal) : Option Dyadic := do
  scaleDouble? 4 (← BinaryFormat.binary64.round x.digits 1) x.exponent

/-- Single-precision number by way of double precision; `none` if the magnitude is too
large for that. -/
def toBinary32ByDouble? (x : Decimal) : Option Binary32 :=
  x.toDouble?.map (·.toBinary32 x.negative)

end Decimal

end ShadingGraph
