import ShadingGraph.Number.Decimal
import ShadingGraph.Text.Split

/-! # Numerals in RON

Which number a numeral stands for depends on the type that is asked for. A numeral
may end with the name of a type, which then has to be that type. Digits may be
separated by `_`.
-/

namespace ShadingGraph.Ron

structure IntegerType where
  name : String
  least : Int
  greatest : Int
  deriving DecidableEq, Repr

namespace IntegerType

def contains (type : IntegerType) (i : Int) : Bool :=
  type.least ≤ i && i ≤ type.greatest

def int32 : IntegerType := ⟨"i32", -2147483648, 2147483647⟩

def uint32 : IntegerType := ⟨"u32", 0, 4294967295⟩

def int64 : IntegerType := ⟨"i64", -9223372036854775808, 9223372036854775807⟩

def uint64 : IntegerType := ⟨"u64", 0, 18446744073709551615⟩

def all : List IntegerType :=
  [ ⟨"i8", -128, 127⟩, ⟨"i16", -32768, 32767⟩, int32, int64, ⟨"u8", 0, 255⟩,
    ⟨"u16", 0, 65535⟩, uint32, uint64 ]

def ofName? (name : String) : Option IntegerType :=
  all.find? (·.name == name)

end IntegerType

/-- Whether the character can stand among the digits of an integer. -/
def isIntegerChar (c : Char) : Bool :=
  (hexValue? c).isSome || c == '_'

/-- Value of digits in a base, with separators after the first digit. -/
def digitsIn? (base : Nat) (digits : List Char) : Option Nat :=
  if digits.isEmpty || digits.head? == some '_' then none
  else (digits.filter (· ≠ '_')).foldlM (fun value c => do
    let digit ← hexValue? c
    if digit < base then return base * value + digit else none) 0

/-- Value of digits after the mark of their base, if there is one. -/
def natural? : List Char → Option Nat
  | '0' :: 'b' :: digits => digitsIn? 2 digits
  | '0' :: 'o' :: digits => digitsIn? 8 digits
  | '0' :: 'x' :: digits => digitsIn? 16 digits
  | digits => digitsIn? 10 digits

/-- Sign of a numeral and what follows it. -/
def signed : List Char → Bool × List Char
  | '-' :: rest => (true, rest)
  | '+' :: rest => (false, rest)
  | rest => (false, rest)

/-- An integer with the type it names, if it names one. The name has to stand right
after hexadecimal digits. -/
def integer? (chars : List Char) : Option (Int × Option IntegerType) :=
  let (negative, body) := signed chars
  let named := IntegerType.ofName? (String.ofList (body.dropWhile isIntegerChar))
  let digits := if named.isSome then body.takeWhile isIntegerChar else body
  (natural? digits).map fun n => (if negative then -(n : Int) else n, named)

/-- Integer of a type that a numeral stands for. -/
def integerOf? (type : IntegerType) (chars : List Char) : Option Int := do
  let (value, named) ← integer? chars
  if named.getD type = type ∧ type.contains value then return value else none

/-- Whether the character can stand in a floating-point numeral. -/
def isFloatChar (c : Char) : Bool :=
  isDigit c || c == 'e' || c == 'E' || c == '.' || c == '+' || c == '-' || c == '_'

/-- Whether each separator follows a digit or the mark of an exponent, signs and other
separators apart. -/
def separatorsInPlace : Bool → List Char → Bool
  | _, [] => true
  | allowed, c :: rest =>
    if c = '_' then allowed && separatorsInPlace allowed rest
    else if isDigit c || c == 'e' || c == 'E' then separatorsInPlace true rest
    else if c = '.' then separatorsInPlace false rest
    else separatorsInPlace allowed rest

/-- The numbers that have names. -/
def namedFloat? : List Char → Option Binary32
  | ['i', 'n', 'f'] => some (.infinity false)
  | ['+', 'i', 'n', 'f'] => some (.infinity false)
  | ['-', 'i', 'n', 'f'] => some (.infinity true)
  | ['N', 'a', 'N'] => some (.nan false)
  | ['+', 'N', 'a', 'N'] => some (.nan false)
  | ['-', 'N', 'a', 'N'] => some (.nan true)
  | _ => none

/-- A numeral without the name of a type at its end. -/
def dropType (type : List Char) (chars : List Char) : List Char :=
  match Text.dropStart? type.reverse chars.reverse with
  | some rest => rest.reverse
  | none => chars

/-- Number that a numeral or a word without the name of a type stands for. -/
def untypedFloat? (chars : List Char) : Option Binary32 :=
  match namedFloat? chars with
  | some x => some x
  | none =>
    if chars.all isFloatChar && separatorsInPlace false chars then
      (Decimal.ofChars? (chars.filter (· ≠ '_'))).map Decimal.toBinary32
    else none

/-- Single-precision number that a numeral or a word stands for. -/
def float? (chars : List Char) : Option Binary32 :=
  untypedFloat? (dropType ['f', '3', '2'] chars)

/-- Whether a word or a numeral is a floating-point number of either precision. -/
def isFloat (chars : List Char) : Bool :=
  (float? chars).isSome || (untypedFloat? (dropType ['f', '6', '4'] chars)).isSome

/-- Whether a numeral is an integer of the type it names, or of 64 bits where it names
none. -/
def isInteger (chars : List Char) : Bool :=
  match integer? chars with
  | some (value, some type) => type.contains value
  | some (value, none) => IntegerType.int64.contains value || IntegerType.uint64.contains value
  | none => false

/-- Whether a numeral is a number of any type. What looks like a float has to be one;
an integer that no type holds counts as a float. -/
def isNumeral (chars : List Char) : Bool :=
  let body := (signed chars).2
  if (body.takeWhile isIntegerChar).length < (body.takeWhile isFloatChar).length then
    isFloat chars
  else isInteger chars || isFloat chars

end ShadingGraph.Ron
