import ShadingGraph.Number.Decimal
import ShadingGraph.Text.Split

/-! # Reading JSON

A parser takes a text and gives a value with the rest of the text. The value parser
recurses on fuel; `Json.parse?` provides as much as the text is long, which no value
in the text can use up.
-/

namespace ShadingGraph

/-- A numeral: as many of its digits as 64 bits hold, with their power of ten, and
whether this is all of an integer written without point and exponent. -/
structure Numeral where
  value : Decimal
  integer : Bool
  deriving DecidableEq, Repr

/-- A value read from JSON text. Strings and names with an unpaired surrogate, which
are no text, are `none`. -/
inductive Json where
  | null
  | bool (value : Bool)
  | number (value : Numeral)
  | string (value : Option String)
  | array (items : List Json)
  | object (members : List (Option String × Json))
  deriving Repr

namespace Json

def isSpace (c : Char) : Bool :=
  c == ' ' || c == '\n' || c == '\t' || c == '\r'

def skipSpace (text : List Char) : List Char :=
  text.dropWhile isSpace

/-- Digits at the beginning of a text, at least one. -/
def digits? (text : List Char) : Option (List Char × List Char) :=
  let digits := text.takeWhile isDigit
  if digits.isEmpty then none else some (digits, text.dropWhile isDigit)

/-- Integer part of a numeral: a zero by itself, or digits that do not begin with
zero. -/
def wholePart? (text : List Char) : Option (List Char × List Char) := do
  let (digits, rest) ← digits? text
  if digits.head? = some '0' ∧ 1 < digits.length then none
  return (digits, rest)

/-- Fraction of a numeral: nothing, or a point and digits. -/
def fractionPart? : List Char → Option (List Char × List Char)
  | '.' :: rest => digits? rest
  | rest => some ([], rest)

/-- Exponent of a numeral, if it has one. -/
def exponentPart? : List Char → Option (Option Int × List Char)
  | c :: rest =>
    if c = 'e' ∨ c = 'E' then
      match rest with
      | '-' :: after => (digits? after).map fun (ds, r) => (some (-(digitsValue ds : Int)), r)
      | '+' :: after => (digits? after).map fun (ds, r) => (some (digitsValue ds : Int), r)
      | after => (digits? after).map fun (ds, r) => (some (digitsValue ds : Int), r)
    else some (none, c :: rest)
  | [] => some (none, [])

/-- Greatest significand of a numeral: that of 64 bits. -/
def maxSignificand : Nat := 18446744073709551615

/-- Put digits to the end of a significand as long as it does not grow too large: the
significand and the number of digits left out. -/
def addDigits (significand : Nat) : List Char → Nat × Nat
  | [] => (significand, 0)
  | c :: rest =>
    let next := 10 * significand + digitsValue [c]
    if next ≤ maxSignificand then addDigits next rest else (significand, rest.length + 1)

def numeral? (text : List Char) : Option (Numeral × List Char) := do
  let (negative, rest) := match text with
    | '-' :: r => (true, r)
    | r => (false, r)
  let (whole, rest) ← wholePart? rest
  let integer := rest.head? ≠ some '.'
  let (fraction, rest) ← fractionPart? rest
  let (exponent, rest) ← exponentPart? rest
  let (significand, dropped) := addDigits 0 whole
  let (significand, droppedFraction) := addDigits significand fraction
  let power : Int := exponent.getD 0 + dropped + droppedFraction - fraction.length
  let whole := integer && exponent.isNone && dropped == 0
  return (⟨⟨negative, significand, power⟩, whole⟩, rest)

def hex4? : List Char → Option (Nat × List Char)
  | a :: b :: c :: d :: rest => (hexDigitsValue? [a, b, c, d]).map (·, rest)
  | _ => none

/-- Whether a code unit is the first of a surrogate pair. -/
def isHighSurrogate (n : Nat) : Bool := 0xD800 ≤ n && n ≤ 0xDBFF

/-- Whether a code unit is the second of a surrogate pair. -/
def isLowSurrogate (n : Nat) : Bool := 0xDC00 ≤ n && n ≤ 0xDFFF

def pairChar (high low : Nat) : Char :=
  Char.ofNat (0x10000 + (high - 0xD800) * 0x400 + (low - 0xDC00))

/-- The character that an escape of one letter stands for. -/
def shortEscape? : Char → Option Char
  | '"' => some '"'
  | '\\' => some '\\'
  | '/' => some '/'
  | 'b' => some '\x08'
  | 'f' => some '\x0c'
  | 'n' => some '\n'
  | 'r' => some '\r'
  | 't' => some '\t'
  | _ => none

/-- Put a character, or the lack of one, before the rest of a string. -/
def prepend (c : Option Char) (found : Option (List Char) × List Char) :
    Option (List Char) × List Char :=
  (match c, found.1 with
    | some c, some cs => some (c :: cs)
    | _, _ => none, found.2)

/-- Content of a string up to its closing quote. -/
def stringBody? : Nat → List Char → Option (Option (List Char) × List Char)
  | 0, _ => none
  | _ + 1, [] => none
  | fuel + 1, c :: rest =>
    if c = '"' then some (some [], rest)
    else if c = '\\' then
      match rest with
      | 'u' :: after =>
        match hex4? after with
        | none => none
        | some (unit, rest) =>
          if isHighSurrogate unit then
            match rest with
            | '\\' :: 'u' :: more =>
              match hex4? more with
              | some (low, rest') =>
                if isLowSurrogate low then
                  (stringBody? fuel rest').map (prepend (some (pairChar unit low)))
                else (stringBody? fuel rest).map (prepend none)
              | none => none
            | _ => (stringBody? fuel rest).map (prepend none)
          else if isLowSurrogate unit then (stringBody? fuel rest).map (prepend none)
          else (stringBody? fuel rest).map (prepend (some (Char.ofNat unit)))
      | e :: after =>
        match shortEscape? e with
        | some d => (stringBody? fuel after).map (prepend (some d))
        | none => none
      | [] => none
    else if c.toNat < 0x20 then none
    else (stringBody? fuel rest).map (prepend (some c))

/-- A string after its opening quote. -/
def string? (text : List Char) : Option (Option String × List Char) :=
  (stringBody? (text.length + 1) text).map fun (content, rest) =>
    (content.map String.ofList, rest)

mutual

/-- A value, after white space. -/
def value? : Nat → List Char → Option (Json × List Char)
  | 0, _ => none
  | fuel + 1, text =>
    match skipSpace text with
    | [] => none
    | '{' :: rest =>
      match skipSpace rest with
      | '}' :: rest => some (.object [], rest)
      | rest => (members? fuel rest).map fun (members, rest) => (.object members, rest)
    | '[' :: rest =>
      match skipSpace rest with
      | ']' :: rest => some (.array [], rest)
      | rest => (items? fuel rest).map fun (items, rest) => (.array items, rest)
    | '"' :: rest => (string? rest).map fun (value, rest) => (.string value, rest)
    | 'n' :: rest => (Text.dropStart? ['u', 'l', 'l'] rest).map (.null, ·)
    | 't' :: rest => (Text.dropStart? ['r', 'u', 'e'] rest).map (.bool true, ·)
    | 'f' :: rest => (Text.dropStart? ['a', 'l', 's', 'e'] rest).map (.bool false, ·)
    | c :: rest => (numeral? (c :: rest)).map fun (value, rest) => (.number value, rest)

/-- Items of an array, at least one, and its closing bracket. -/
def items? : Nat → List Char → Option (List Json × List Char)
  | 0, _ => none
  | fuel + 1, text =>
    match value? fuel text with
    | none => none
    | some (item, rest) =>
      match skipSpace rest with
      | ',' :: rest => (items? fuel rest).map fun (items, rest) => (item :: items, rest)
      | ']' :: rest => some ([item], rest)
      | _ => none

/-- Members of an object, at least one, and its closing brace. -/
def members? : Nat → List Char → Option (List (Option String × Json) × List Char)
  | 0, _ => none
  | fuel + 1, text =>
    match skipSpace text with
    | '"' :: rest =>
      match string? rest with
      | none => none
      | some (name, rest) =>
        match skipSpace rest with
        | ':' :: rest =>
          match value? fuel rest with
          | none => none
          | some (value, rest) =>
            match skipSpace rest with
            | ',' :: rest =>
              (members? fuel rest).map fun (members, rest) => ((name, value) :: members, rest)
            | '}' :: rest => some ([(name, value)], rest)
            | _ => none
        | _ => none
    | _ => none

end

/-- Value of a JSON text, which holds nothing else but white space. -/
def parse? (text : String) : Option Json :=
  match value? (text.toList.length + 1) text.toList with
  | some (value, rest) => if (skipSpace rest).isEmpty then some value else none
  | none => none

end Json

end ShadingGraph
