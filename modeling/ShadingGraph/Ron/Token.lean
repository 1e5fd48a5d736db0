import ShadingGraph.Ron.Value
import ShadingGraph.Text.Character
import ShadingGraph.Text.Split
import ShadingGraph.Text.Word

/-! # RON tokens

Each reader takes the text from the first character of its token on, or from just
after the mark that told the token apart, and gives the token with the rest.
-/

namespace ShadingGraph.Ron

open Text (isWordStart isWordContinue dropStart?)

def isNameStart (c : Char) : Bool :=
  c == '_' || isWordStart c

/-- Whether the character can stand in an identifier written with `r#`. -/
def isRawNameChar (c : Char) : Bool :=
  isWordContinue c || c == '.' || c == '+' || c == '-'

/-- Marks that begin a literal although their first character could begin a name. -/
def literalMarks : List (List Char) :=
  [ ['b', '"'], ['b', '\''], ['b', 'r', '#'], ['b', 'r', '"'], ['r', '"'], ['r', '#', '"'],
    ['r', '#', '#'] ]

/-- An identifier. One that goes on with a point or a sign has to be written with
`r#`. -/
def word? (text : List Char) : Option (Word × List Char) :=
  if literalMarks.any fun mark => (dropStart? mark text).isSome then none
  else match text with
    | 'r' :: '#' :: rest =>
      let name := rest.takeWhile isRawNameChar
      if name.isEmpty then none
      else some (⟨true, String.ofList name⟩, rest.dropWhile isRawNameChar)
    | c :: rest =>
      if isNameStart c then
        let after := rest.dropWhile isWordContinue
        match after with
        | [] => some (⟨false, String.ofList (c :: rest.takeWhile isWordContinue)⟩, after)
        | d :: _ =>
          if isRawNameChar d then none
          else some (⟨false, String.ofList (c :: rest.takeWhile isWordContinue)⟩, after)
      else none
    | [] => none

/-- Rest of a text after the keyword `Some`. -/
def dropSome? (text : List Char) : Option (List Char) := do
  let rest ← dropStart? ['S', 'o', 'm', 'e'] text
  match rest with
  | c :: _ => if isWordContinue c then none else return rest
  | [] => return []

/-- Whether the character can stand in a numeral or follow one without a gap. -/
def isNumberChar (c : Char) : Bool :=
  isLetter c || isDigit c || c == '_' || c == '.' || c == '+' || c == '-'

def isNumberStart (c : Char) : Bool :=
  isDigit c || c == '.' || c == '+' || c == '-'

def hexByte? : List Char → Option (Nat × List Char)
  | a :: b :: rest => (hexDigitsValue? [a, b]).map (·, rest)
  | _ => none

/-- Value of a continuation byte. -/
def continuation? (byte : Nat) : Option Nat :=
  if 0x80 ≤ byte ∧ byte < 0xC0 then some (byte - 0x80) else none

def charOf? (n : Nat) : Option Char :=
  if n.isValidChar then some (Char.ofNat n) else none

/-- A further byte, written as an escape of its own. -/
def escapedContinuation? : List Char → Option (Nat × List Char)
  | '\\' :: 'x' :: rest => do
    let (byte, rest) ← hexByte? rest
    return (← continuation? byte, rest)
  | _ => none

/-- Character whose UTF-8 form begins with the byte, with its further bytes taken from
the text. -/
def utf8Char? (first : Nat) (rest : List Char) : Option (Char × List Char) := do
  if first < 0x80 then return (Char.ofNat first, rest)
  let (second, rest) ← escapedContinuation? rest
  if 0xC2 ≤ first ∧ first < 0xE0 then
    return (← charOf? ((first - 0xC0) * 0x40 + second), rest)
  let (third, rest) ← escapedContinuation? rest
  if 0xE0 ≤ first ∧ first < 0xF0 then
    let n := ((first - 0xE0) * 0x40 + second) * 0x40 + third
    if n < 0x800 then none
    return (← charOf? n, rest)
  let (fourth, rest) ← escapedContinuation? rest
  if 0xF0 ≤ first ∧ first < 0xF5 then
    let n := (((first - 0xF0) * 0x40 + second) * 0x40 + third) * 0x40 + fourth
    if n < 0x10000 then none
    return (← charOf? n, rest)
  none

/-- What kind of literal an escape stands in. -/
inductive Quoting where
  | string
  | char
  | bytes
  deriving DecidableEq, Repr

def shortEscape? : Char → Option Char
  | '\'' => some '\''
  | '"' => some '"'
  | '\\' => some '\\'
  | 'n' => some '\n'
  | 'r' => some '\r'
  | 't' => some '\t'
  | '0' => some '\x00'
  | _ => none

/-- Code point between braces: one to six hexadecimal digits. -/
def bracedChar? : List Char → Option (Char × List Char)
  | '\x7b' :: rest =>
    let digits := rest.takeWhile (· ≠ '\x7d')
    if digits.isEmpty || 6 < digits.length then none
    else match rest.dropWhile (· ≠ '\x7d') with
      | _ :: rest => do return (← charOf? (← hexDigitsValue? digits), rest)
      | [] => none
  | _ => none

/-- Character of an escape, after the backslash. Only a string can spell a character
by several bytes. -/
def escape? (quoting : Quoting) : List Char → Option (Char × List Char)
  | 'x' :: rest => do
    let (byte, rest) ← hexByte? rest
    match quoting with
    | .bytes => return (Char.ofNat byte, rest)
    | .char => if byte < 0x80 then return (Char.ofNat byte, rest) else none
    | .string => utf8Char? byte rest
  | 'u' :: rest => bracedChar? rest
  | c :: rest => (shortEscape? c).map (·, rest)
  | [] => none

/-- Content of a string up to its closing quote. -/
def stringBody? (quoting : Quoting) : Nat → List Char → Option (List Char × List Char)
  | 0, _ => none
  | _ + 1, [] => none
  | fuel + 1, c :: rest =>
    if c = '"' then some ([], rest)
    else if c = '\\' then do
      let (d, rest) ← escape? quoting rest
      let (content, rest) ← stringBody? quoting fuel rest
      return (d :: content, rest)
    else do
      let (content, rest) ← stringBody? quoting fuel rest
      return (c :: content, rest)

/-- A string after its opening quote. -/
def string? (quoting : Quoting) (text : List Char) : Option (List Char × List Char) :=
  stringBody? quoting (text.length + 1) text

/-- What stands before and after the first occurrence of an ending. -/
def upTo? (ending : List Char) : List Char → Option (List Char × List Char)
  | [] => none
  | c :: rest =>
    match dropStart? ending (c :: rest) with
    | some after => some ([], after)
    | none => (upTo? ending rest).map fun (before, after) => (c :: before, after)

/-- A raw string after its letter: as many `#` after the closing quote as before the
opening one. -/
def rawString? (text : List Char) : Option (List Char × List Char) :=
  let marks := text.takeWhile (· = '#')
  match text.dropWhile (· = '#') with
  | '"' :: rest => upTo? ('"' :: marks) rest
  | _ => none

/-- A character after its opening apostrophe. -/
def char? (quoting : Quoting) : List Char → Option (Char × List Char)
  | '\\' :: rest => do
    match ← escape? quoting rest with
    | (c, '\'' :: rest) => return (c, rest)
    | _ => none
  | c :: '\'' :: rest => some (c, rest)
  | _ => none

/-- A byte after its opening apostrophe. A character stands for itself if it is ASCII,
and a code point is not a byte. -/
def byte? : List Char → Option (List Char)
  | '\\' :: 'u' :: _ => none
  | '\\' :: rest => (char? .bytes ('\\' :: rest)).map (·.2)
  | c :: '\'' :: rest => if c.toNat < 0x80 then some rest else none
  | _ => none

/-- A value that is a single token other than a numeral or an identifier; `none` if
there is no such literal, `some none` if there is a broken one. -/
def literal? : List Char → Option (Option (Ron × List Char))
  | '"' :: rest => some ((string? .string rest).map fun (s, r) => (.string (String.ofList s), r))
  | '\'' :: rest => some ((char? .char rest).map fun (c, r) => (.char c, r))
  | 'r' :: '"' :: rest => some ((rawString? ('"' :: rest)).map textOf)
  | 'r' :: '#' :: '"' :: rest => some ((rawString? ('#' :: '"' :: rest)).map textOf)
  | 'r' :: '#' :: '#' :: rest => some ((rawString? ('#' :: '#' :: rest)).map textOf)
  | 'b' :: '"' :: rest => some ((string? .bytes rest).map fun (_, r) => (.bytes, r))
  | 'b' :: '\'' :: rest => some ((byte? rest).map (.bytes, ·))
  | 'b' :: 'r' :: '"' :: rest => some ((rawString? ('"' :: rest)).map fun (_, r) => (.bytes, r))
  | 'b' :: 'r' :: '#' :: rest => some ((rawString? ('#' :: rest)).map fun (_, r) => (.bytes, r))
  | _ => none
where
  textOf : List Char × List Char → Ron × List Char
    | (s, r) => (.string (String.ofList s), r)

end ShadingGraph.Ron
