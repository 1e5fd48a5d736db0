/-! # Rounding quotients to binary formats

A binary format keeps `precision` binary digits and no digit below `2 ^ minScale`.
`BinaryFormat.round` takes a quotient of naturals to the nearest value of the
format, a tie going to the even neighbour, and reports when no finite value is left.
-/

namespace ShadingGraph

/-- The natural nearest to `n / d`; of two equally near ones, the even one. -/
def roundHalfEven (n d : Nat) : Nat :=
  let whole := n / d
  let twice := 2 * (n % d)
  if twice < d then whole
  else if d < twice then whole + 1
  else if whole % 2 = 0 then whole
  else whole + 1

/-- Integers `m * 2 ^ q` with `m < 2 ^ precision` and `minScale ≤ q ≤ maxScale`. -/
structure BinaryFormat where
  /-- Binary digits of a significand. -/
  precision : Nat
  /-- Scale of the least positive value. -/
  minScale : Int
  /-- Scale of the greatest value. -/
  maxScale : Int

/-- A nonnegative number `significand * 2 ^ scale`. -/
structure Dyadic where
  significand : Nat
  scale : Int
  deriving DecidableEq, Repr

namespace Dyadic

def numerator (x : Dyadic) : Nat :=
  x.significand * Nat.pow 2 x.scale.toNat

def denominator (x : Dyadic) : Nat :=
  Nat.pow 2 (-x.scale).toNat

end Dyadic

/-- The greatest `e` with `2 ^ e ≤ n / d`, for positive `n` and `d`. -/
def floorLog2 (n d : Nat) : Int :=
  let guess := (n.log2 : Int) - d.log2
  if d * Nat.pow 2 guess.toNat ≤ n * Nat.pow 2 (-guess).toNat then guess else guess - 1

namespace BinaryFormat

/-- Single precision: 24 digits. -/
def binary32 : BinaryFormat := ⟨24, -149, 104⟩

/-- Double precision: 53 digits. -/
def binary64 : BinaryFormat := ⟨53, -1074, 971⟩

/-- Scale at which `n / d` has `precision` digits, or the least scale. -/
def scaleOf (format : BinaryFormat) (n d : Nat) : Int :=
  max format.minScale (floorLog2 n d + 1 - format.precision)

/-- The value of the format nearest to `n / d`; `none` when it would exceed the
greatest one. -/
def round (format : BinaryFormat) (n d : Nat) : Option Dyadic :=
  if n = 0 then some ⟨0, format.minScale⟩
  else
    let scale := format.scaleOf n d
    let significand :=
      roundHalfEven (n * Nat.pow 2 (-scale).toNat) (d * Nat.pow 2 scale.toNat)
    let rounded : Dyadic :=
      if significand = Nat.pow 2 format.precision then
        ⟨Nat.pow 2 (format.precision - 1), scale + 1⟩
      else ⟨significand, scale⟩
    if rounded.scale ≤ format.maxScale then some rounded else none

end BinaryFormat

end ShadingGraph
