import ShadingGraph.Number.Decimal

/-! # Shortest decimals

The shortest decimal of a positive single-precision number has the fewest digits
among all decimals that read back as the number, and is the nearest to it among
those. The search tries the grids of one, two, … nine significant digits and asks
of each whether one of the two grid points around the number reads back.
-/

namespace ShadingGraph

/-- Which of two equally near decimals is taken. -/
inductive Tie where
  | upper
  | even
  deriving DecidableEq, Repr

/-- The greatest `e` with `10 ^ e ≤ n / d`, for positive `n` and `d`. -/
def floorLog10 (n d : Nat) : Int :=
  if d ≤ n then (digitCount (n / d) : Int) - 1
  else -(digitCount ((d - 1) / n) : Int)

/-- A number with the bounds of the numbers that round to it, all over one
denominator: the bounds belong to the interval when `inclusive` holds. -/
structure RoundingInterval where
  lower : Nat
  value : Nat
  upper : Nat
  denominator : Nat
  inclusive : Bool

namespace RoundingInterval

/-- Interval of a number with significand `m` at scale `q`. The gap to the number
below is half as wide when `m` is the least significand of its scale. -/
def ofDyadic (x : Dyadic) (narrowBelow : Bool) : RoundingInterval :=
  let unit := Nat.pow 2 x.scale.toNat
  { lower := (4 * x.significand - (if narrowBelow then 1 else 2)) * unit
    value := 4 * x.significand * unit
    upper := (4 * x.significand + 2) * unit
    denominator := 4 * x.denominator
    inclusive := x.significand % 2 == 0 }

def contains (i : RoundingInterval) (n d : Nat) : Bool :=
  let position := n * i.denominator
  if i.inclusive then decide (i.lower * d ≤ position ∧ position ≤ i.upper * d)
  else decide (i.lower * d < position ∧ position < i.upper * d)

/-- The decimal with `count` significant digits that reads back, if there is one;
of two, the nearer. -/
def onGrid? (i : RoundingInterval) (tie : Tie) (count : Nat) : Option (Nat × Int) :=
  let exponent := floorLog10 i.value i.denominator + 1 - count
  let up := Nat.pow 10 exponent.toNat
  let down := Nat.pow 10 (-exponent).toNat
  let n := i.value * down
  let d := i.denominator * up
  let below := n / d
  let choice :=
    match i.contains (below * up) down, i.contains ((below + 1) * up) down with
    | true, true =>
      let twice := 2 * (n % d)
      if twice < d then some below
      else if d < twice then some (below + 1)
      else match tie with
        | .upper => some (below + 1)
        | .even => some (if below % 2 = 0 then below else below + 1)
    | true, false => some below
    | false, true => some (below + 1)
    | false, false => none
  choice.map fun digits =>
    if digits = Nat.pow 10 count then (1, exponent + count) else (digits, exponent)

/-- The shortest decimal in the interval, as digits and exponent. Nine digits tell
any two single-precision numbers apart. -/
def shortest (i : RoundingInterval) (tie : Tie) : Nat × Int :=
  ((List.range' 1 9).findSome? (i.onGrid? tie)).getD (0, 0)

end RoundingInterval

/-- Digits and exponent of the shortest decimal of a finite nonzero magnitude. -/
def Binary32.shortest (tie : Tie) (exponent : Fin 255) (fraction : Fin 8388608) : Nat × Int :=
  (RoundingInterval.ofDyadic (Binary32.dyadic exponent fraction)
    (fraction.val == 0 && 1 < exponent.val)).shortest tie

end ShadingGraph
