import ShadingGraph.Codec.Datum
import ShadingGraph.Number.Layout

/-! # Writing JSON

Compact JSON: members in order, nothing between the marks. A number that is not
finite is written as `null`.
-/

namespace ShadingGraph

/-- Numbers in JSON: an exponent below `1e-6` and from `1e13` on, with its sign. -/
def FloatLayout.json : FloatLayout := ⟨.even, some (-6, 12), true, false⟩

namespace Datum

def hexDigit (n : Nat) : Char :=
  (Nat.digitChar n)

/-- A character within a JSON string: only quotes, backslashes and controls are
escaped. -/
def jsonChar (c : Char) : List Char :=
  if c = '"' then ['\\', '"']
  else if c = '\\' then ['\\', '\\']
  else if c = '\x08' then ['\\', 'b']
  else if c = '\x0c' then ['\\', 'f']
  else if c = '\n' then ['\\', 'n']
  else if c = '\r' then ['\\', 'r']
  else if c = '\t' then ['\\', 't']
  else if c.toNat < 0x20 then
    ['\\', 'u', '0', '0', hexDigit (c.toNat / 16), hexDigit (c.toNat % 16)]
  else [c]

def jsonString (text : List Char) : List Char :=
  '"' :: text.flatMap jsonChar ++ ['"']

/-- A number, or `null` for one that is not finite. -/
def jsonFloat : Binary32 → List Char
  | .finite negative exponent fraction => FloatLayout.json.chars (.finite negative exponent fraction)
  | _ => ['n', 'u', 'l', 'l']

mutual

def json : Datum → List Char
  | .bool true => ['t', 'r', 'u', 'e']
  | .bool false => ['f', 'a', 'l', 's', 'e']
  | .int value => integerChars value
  | .float value => jsonFloat value
  | .char value => jsonString [value]
  | .text value => jsonString value.toList
  | .absent => ['n', 'u', 'l', 'l']
  | .present value => json value
  | .list items => '[' :: jsonItems items ++ [']']
  | .tuple items => '[' :: jsonItems items ++ [']']
  | .map entries => '{' :: jsonMembers entries ++ ['}']
  | .record _ members => '{' :: jsonMembers members ++ ['}']
  | .unit name => jsonString name.toList
  | .variant name payload => '{' :: jsonString name.toList ++ ':' :: json payload ++ ['}']

/-- Items with commas between them. -/
def jsonItems : List Datum → List Char
  | [] => []
  | [item] => json item
  | item :: rest => json item ++ ',' :: jsonItems rest

def jsonMembers : List (String × Datum) → List Char
  | [] => []
  | [(name, value)] => jsonString name.toList ++ ':' :: json value
  | (name, value) :: rest => jsonString name.toList ++ ':' :: json value ++ ',' :: jsonMembers rest

end

def toJson (datum : Datum) : String :=
  String.ofList datum.json

end Datum

end ShadingGraph
