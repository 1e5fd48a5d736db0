import ShadingGraph.Ron.Blank
import ShadingGraph.Ron.Token

/-! # The outline of parentheses

Whether parentheses hold one value or several is told ahead from their text, by the
commas and brackets outside of literals and comments. A comment counts as text where
it follows a literal without a gap.
-/

namespace ShadingGraph.Ron

/-- Rest of a text after a string whose opening quote has been passed: `none` if it has
no closing quote, `some none` if an escape is broken. -/
def afterQuote (quoting : Quoting) : Nat → List Char → Option (Option (List Char))
  | 0, _ => none
  | _ + 1, [] => none
  | fuel + 1, c :: rest =>
    if c = '"' then some (some rest)
    else if c = '\\' then
      if rest.contains '"' then
        match escape? quoting rest with
        | some (_, rest) => afterQuote quoting fuel rest
        | none => some none
      else none
    else afterQuote quoting fuel rest

/-- Rest of a text after the string that begins at its start, which is the whole text
if none does; `none` if the string has no end. -/
def skipQuoted? (quoting : Quoting) (text : List Char) : Option (List Char) :=
  match text with
  | '"' :: rest => (afterQuote quoting (rest.length + 1) rest).map (·.getD text)
  | 'r' :: rest =>
    match rest.dropWhile (· = '#') with
    | '"' :: _ => (rawString? rest).map (·.2)
    | _ => some text
  | _ => some text

/-- Rest of a text after the string of bytes that begins at its start, as for
strings. -/
def skipBytes? (text : List Char) : Option (List Char) :=
  match text with
  | 'b' :: rest => do
    let after ← skipQuoted? .bytes rest
    return if after.length < rest.length then after else text
  | _ => some text

/-- Rest of a text after the character literal that begins at its start, if one does. -/
def skipChar (text : List Char) : List Char :=
  match text with
  | '\'' :: rest => ((char? .char rest).map (·.2)).getD text
  | _ => text

def isOpening (c : Char) : Bool :=
  c == '(' || c == '[' || c == '\x7b'

def isClosing (c : Char) : Bool :=
  c == ')' || c == ']' || c == '\x7d'

/-- Whether more follows after a comma than the end of the parentheses. -/
def moreAfterComma? (text : List Char) : Option Bool :=
  (skipBlank? text).map fun rest => rest.head? != some ')'

/-- Whether parentheses hold several values, from a place in them on that lies within
the given number of further brackets; `none` if their end cannot be found. -/
def several? : Nat → Nat → List Char → Option Bool
  | 0, _, _ => none
  | fuel + 1, brackets, text => do
    let text ← skipBlank? text
    let text ← skipQuoted? .string (skipChar text)
    match ← skipBytes? text with
    | [] => none
    | c :: rest =>
      if isOpening c then several? fuel (brackets + 1) rest
      else if isClosing c then
        match brackets with
        | 0 => return false
        | outer + 1 => several? fuel outer rest
      else if c = ',' ∧ brackets = 0 then moreAfterComma? rest
      else several? fuel brackets rest

/-- How the content of parentheses counts that may be shared: the members of a record,
or several values, are all of it. -/
def contentOf (text : List Char) : Content :=
  match outline? with
  | some true => .whole
  | some false => .item
  | none => .unclear
where
  outline? : Option Bool := do
    match ← skipBlank? text with
    | ')' :: _ => return true
    | inside =>
      match word? inside with
      | none => several? (inside.length + 1) 0 inside
      | some (_, rest) =>
        match ← skipBlank? rest with
        | ':' :: _ => return true
        | ',' :: rest => moreAfterComma? rest
        | ')' :: _ => return false
        | rest => several? (rest.length + 1) 0 rest

end ShadingGraph.Ron
