import ShadingGraph.Number.Shortest

/-! # Written numbers

How the shortest decimal of a number is laid out: with the point among the digits
and at least one digit after it, or with an exponent. A `FloatLayout` holds what
one format decides.
-/

namespace ShadingGraph

/-- Choices of a format for writing single-precision numbers. -/
structure FloatLayout where
  /-- Which of two equally near shortest decimals is written. -/
  tie : Tie
  /-- Bounds of the exponent of the leading digit within which no exponent is
  written; without bounds none ever is. -/
  positional : Option (Int × Int)
  /-- Whether a positive exponent carries a plus sign. -/
  exponentPlus : Bool
  /-- Whether a negative not-a-number carries its sign. -/
  signedNaN : Bool

namespace FloatLayout

/-- Digits with the point at its place; `exponent` is the power of the last digit. -/
def positionalChars (digits : List Char) (exponent : Int) : List Char :=
  let leading := exponent + digits.length - 1
  if 0 ≤ exponent then digits ++ List.replicate exponent.toNat '0' ++ ['.', '0']
  else if 0 ≤ leading then
    digits.take (leading.toNat + 1) ++ '.' :: digits.drop (leading.toNat + 1)
  else ['0', '.'] ++ List.replicate (-leading - 1).toNat '0' ++ digits

/-- Digits with the point after the first, if more follow, and the exponent. -/
def exponentChars (plus : Bool) (digits : List Char) (exponent : Int) : List Char :=
  let leading := exponent + digits.length - 1
  let mantissa := match digits with
    | first :: second :: rest => first :: '.' :: second :: rest
    | short => short
  let sign := if leading < 0 then ['-'] else if plus then ['+'] else []
  mantissa ++ 'e' :: sign ++ Nat.toDigits 10 leading.natAbs

def magnitudeChars (layout : FloatLayout) (exponent : Fin 255) (fraction : Fin 8388608) :
    List Char :=
  if exponent.val = 0 ∧ fraction.val = 0 then ['0', '.', '0']
  else
    let (digits, power) := Binary32.shortest layout.tie exponent fraction
    let chars := Nat.toDigits 10 digits
    let leading := power + chars.length - 1
    let inPlace := match layout.positional with
      | some (least, greatest) => decide (least ≤ leading ∧ leading ≤ greatest)
      | none => true
    if inPlace then positionalChars chars power
    else exponentChars layout.exponentPlus chars power

def chars (layout : FloatLayout) : Binary32 → List Char
  | .nan negative =>
    if layout.signedNaN && negative then ['-', 'N', 'a', 'N'] else ['N', 'a', 'N']
  | .infinity negative => if negative then ['-', 'i', 'n', 'f'] else ['i', 'n', 'f']
  | .finite negative exponent fraction =>
    let magnitude := layout.magnitudeChars exponent fraction
    if negative then '-' :: magnitude else magnitude

/-- Shader literals: an exponent below `1e-4` and from `1e16` on. -/
def shader : FloatLayout := ⟨.upper, some (-4, 15), false, false⟩

end FloatLayout

/-- Decimal digits of an integer, after a sign if it is negative. -/
def integerChars (i : Int) : List Char :=
  if i < 0 then '-' :: Nat.toDigits 10 i.natAbs else Nat.toDigits 10 i.natAbs

def Binary32.shaderText (x : Binary32) : String :=
  String.ofList (FloatLayout.shader.chars x)

end ShadingGraph
