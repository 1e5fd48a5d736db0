import ShadingGraph.Text.GraphemeExtend
import ShadingGraph.Text.Printable

/-! # Escaped text

Within quotes a character is written as itself when it is printable and stands by
itself; else it is escaped, by a letter if it has one and by its code point if not.
-/

namespace ShadingGraph.Text

/-- Code point of a character between braces, in hexadecimal. -/
def codePointEscape (c : Char) : List Char :=
  ['\\', 'u', '\x7b'] ++ Nat.toDigits 16 c.toNat ++ ['\x7d']

/-- A character as it is written in quotes. The apostrophe is escaped only where
`apostrophe` asks for it. -/
def escapeChar (apostrophe : Bool) (c : Char) : List Char :=
  if c = '\x00' then ['\\', '0']
  else if c = '\t' then ['\\', 't']
  else if c = '\r' then ['\\', 'r']
  else if c = '\n' then ['\\', 'n']
  else if c = '"' then ['\\', '"']
  else if c = '\\' then ['\\', '\\']
  else if c = '\'' then if apostrophe then ['\\', '\''] else ['\'']
  else if isCombining c then codePointEscape c
  else if isPrintable c then [c]
  else codePointEscape c

/-- A text in quotes. -/
def quoted (apostrophe : Bool) (text : String) : List Char :=
  '"' :: text.toList.flatMap (escapeChar apostrophe) ++ ['"']

end ShadingGraph.Text
