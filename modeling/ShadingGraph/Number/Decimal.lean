import ShadingGraph.Number.Binary32
import ShadingGraph.Text.Character

/-! # Decimal numbers

A decimal numeral is read exactly, as an integer times a power of ten, and then
rounded once to single precision.
-/

namespace ShadingGraph

/-- The number `± digits * 10 ^ exponent`. -/
structure Decimal where
  negative : Bool
  digits : Nat
  exponent : Int
  deriving DecidableEq, Repr

/-- Number of decimal digits, one for zero. -/
def digitCount (n : Nat) : Nat :=
  (Nat.toDigits 10 n).length

namespace Decimal

def numerator (x : Decimal) : Nat :=
  x.digits * Nat.pow 10 x.exponent.toNat

def denominator (x : Decimal) : Nat :=
  Nat.pow 10 (-x.exponent).toNat

/-- Power of ten just above the magnitude. -/
def magnitude (x : Decimal) : Int :=
  x.exponent + digitCount x.digits

/-- The nearest single-precision number. Numbers from `10 ^ 50` on are too large and
those below `10 ^ (-50)` round to zero, so that no power of ten is computed for them. -/
def toBinary32 (x : Decimal) : Binary32 :=
  if x.digits = 0 ∨ x.magnitude < -50 then .signedZero x.negative
  else if 50 < x.magnitude then .infinity x.negative
  else Binary32.ofRatio x.negative x.numerator x.denominator

/-- Exponent part: nothing, or `e` with an optional sign and at least one digit. -/
def exponentOf? : List Char → Option Int
  | [] => some 0
  | c :: rest =>
    if c = 'e' ∨ c = 'E' then
      let (negative, digits) := match rest with
        | '+' :: ds => (false, ds)
        | '-' :: ds => (true, ds)
        | ds => (false, ds)
      if digits.isEmpty || !digits.all isDigit then none
      else
        let value : Int := digitsValue digits
        some (if negative then -value else value)
    else none

/-- An unsigned numeral: digits, an optional point with further digits, at least one
digit in all, and an optional exponent. -/
def unsigned? (negative : Bool) (cs : List Char) : Option Decimal :=
  let whole := cs.takeWhile isDigit
  let rest := cs.dropWhile isDigit
  let (fraction, rest) := match rest with
    | '.' :: r => (r.takeWhile isDigit, r.dropWhile isDigit)
    | r => ([], r)
  if whole.isEmpty && fraction.isEmpty then none
  else
    (exponentOf? rest).map fun exponent =>
      ⟨negative, digitsValue (whole ++ fraction), exponent - fraction.length⟩

/-- A numeral with an optional sign. -/
def ofChars? : List Char → Option Decimal
  | '+' :: cs => unsigned? false cs
  | '-' :: cs => unsigned? true cs
  | cs => unsigned? false cs

end Decimal

namespace Binary32

/-- Number that a word stands for, in any case. -/
def ofWord? (negative : Bool) (word : List Char) : Option Binary32 :=
  match word.map Char.toLower with
  | ['i', 'n', 'f'] => some (.infinity negative)
  | ['i', 'n', 'f', 'i', 'n', 'i', 't', 'y'] => some (.infinity negative)
  | ['n', 'a', 'n'] => some (.nan negative)
  | _ => none

/-- Number that a text stands for: a decimal numeral or a word, with an optional
sign. -/
def ofText? (text : String) : Option Binary32 :=
  let (negative, body) := match text.toList with
    | '+' :: rest => (false, rest)
    | '-' :: rest => (true, rest)
    | rest => (false, rest)
  match ofWord? negative body with
  | some x => some x
  | none => (Decimal.unsigned? negative body).map Decimal.toBinary32

end Binary32

end ShadingGraph
