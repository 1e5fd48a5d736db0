import ShadingGraph.Number.Rounding

/-! # Single-precision numbers

A `Binary32` is the content of a single-precision word: a sign with an infinity, a
not-a-number, or an exponent and a fraction. Two of them are the same number
written the same way exactly when they are equal as values of the type;
`Binary32.equals` is the comparison of arithmetic, where zeros of both signs agree
and a not-a-number agrees with nothing.
-/

namespace ShadingGraph

/-- A single-precision number. The payload of a not-a-number is not kept. -/
inductive Binary32 where
  | nan (negative : Bool)
  | infinity (negative : Bool)
  /-- Biased exponent and fraction; exponent zero holds the zeros and the
  subnormal numbers. -/
  | finite (negative : Bool) (exponent : Fin 255) (fraction : Fin 8388608)
  deriving DecidableEq, Repr

namespace Binary32

def signedZero (negative : Bool) : Binary32 := .finite negative 0 0

def zero : Binary32 := signedZero false

def one : Binary32 := .finite false 127 0

instance : Inhabited Binary32 := ⟨zero⟩

/-- Significand and scale of a finite number. -/
def dyadic (exponent : Fin 255) (fraction : Fin 8388608) : Dyadic :=
  if exponent.val = 0 then ⟨fraction.val, -149⟩
  else ⟨8388608 + fraction.val, (exponent.val : Int) - 150⟩

/-- The number with this sign and magnitude, for a magnitude of the format; the
scale of a significand below `2 ^ 23` is the least one. -/
def ofDyadic (negative : Bool) (x : Dyadic) : Binary32 :=
  if x.significand < 8388608 then
    .finite negative 0 (Fin.ofNat _ x.significand)
  else if (x.scale + 150).toNat < 255 then
    .finite negative (Fin.ofNat _ (x.scale + 150).toNat) (Fin.ofNat _ (x.significand - 8388608))
  else .infinity negative

/-- The number nearest to a quotient, infinity past the greatest finite one. -/
def ofRatio (negative : Bool) (n d : Nat) : Binary32 :=
  match BinaryFormat.binary32.round n d with
  | some x => ofDyadic negative x
  | none => .infinity negative

def ofInt (i : Int) : Binary32 :=
  ofRatio (i < 0) i.natAbs 1

/-- Whether the number is a zero of either sign. -/
def isZero : Binary32 → Bool
  | .finite _ exponent fraction => exponent.val == 0 && fraction.val == 0
  | _ => false

/-- Arithmetic equality. -/
def equals (x y : Binary32) : Bool :=
  match x, y with
  | .nan _, _ => false
  | _, .nan _ => false
  | x, y => (x.isZero && y.isZero) || decide (x = y)

/-- The integer part as a 32-bit integer: the fraction is dropped, a number out of
range goes to the nearest bound, a not-a-number to zero. -/
def toInt32 : Binary32 → Int32
  | .nan _ => 0
  | .infinity negative => if negative then Int32.minValue else Int32.maxValue
  | .finite negative exponent fraction =>
    let x := dyadic exponent fraction
    let whole : Int := (x.numerator / x.denominator : Nat)
    Int32.ofInt (max (-2147483648) (min 2147483647 (if negative then -whole else whole)))

end Binary32

end ShadingGraph
