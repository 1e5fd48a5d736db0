import ShadingGraph.Codec.Basic
import ShadingGraph.Json.Parser
import ShadingGraph.Number.Scaling

/-! # JSON as a source

A record is an object, or an array of the members in order. An alternative is a
string, or an object whose one member is the alternative with what it holds.
Objects and arrays that are looked into may be nested 127 deep; what is dropped is
not counted.
-/

namespace ShadingGraph

namespace Json

/-- A value with the number of objects and arrays that may be around its content. -/
structure Cursor where
  value : Json
  levels : Nat
  deriving Repr

namespace Cursor

/-- Nesting at the beginning of a text. -/
def maxLevels : Nat := 127

/-- Go into an object or an array: how its content is looked at. -/
def enter? (cursor : Cursor) : Option (Json → Cursor) :=
  match cursor.levels with
  | 0 => none
  | levels + 1 => some (⟨·, levels⟩)

def items? (cursor : Cursor) : Option (List Cursor) :=
  match cursor.value with
  | .array items => cursor.enter?.map items.map
  | _ => none

def members? (cursor : Cursor) : Option (List (String × Cursor)) := do
  match cursor.value with
  | .object members =>
    let inner ← cursor.enter?
    members.mapM fun (name, value) => return (← name, inner value)
  | _ => none

/-- Integer of a numeral without point and exponent. A zero with a minus sign is no
integer. -/
def integer? (cursor : Cursor) : Option Int :=
  match cursor.value with
  | .number ⟨⟨negative, digits, _⟩, true⟩ =>
    if negative then if digits = 0 then none else some (-(digits : Int)) else some digits
  | _ => none

/-- Number of a numeral. An integer of 64 bits is rounded at once, any other number by
way of double precision. -/
def float? (cursor : Cursor) : Option Binary32 :=
  match cursor.value with
  | .number ⟨x, integer⟩ =>
    let most := if x.negative then 9223372036854775808 else maxSignificand
    if integer && 0 < x.digits && x.digits ≤ most then
      some (Binary32.ofRatio x.negative x.digits 1)
    else x.toBinary32ByDouble?
  | _ => none

/-- Members of a record given by name: each known one at most once. -/
def knownMembers? (known : List (String × Presence)) :
    List (String × Cursor) → Option (List (String × Cursor))
  | [] => some []
  | (name, value) :: rest => do
    let found ← knownMembers? known rest
    if Table.contains known name then
      if Table.contains found name then none else return (name, value) :: found
    else return found

def record? (known : List (String × Presence)) (cursor : Cursor) :
    Option (List (String × Cursor)) := do
  match cursor.value with
  | .array _ =>
    let items ← cursor.items?
    let found := (known.map (·.1)).zip items
    if items.length ≤ known.length ∧ Presence.complete Presence.byPosition known found then
      return found
    else none
  | _ =>
    let found ← knownMembers? known (← cursor.members?)
    if Presence.complete Presence.byName known found then return found else none

instance : Source Cursor where
  levels := levels
  bool? cursor :=
    match cursor.value with
    | .bool value => some value
    | _ => none
  int32? cursor := do
    let i ← cursor.integer?
    if -2147483648 ≤ i ∧ i < 2147483648 then return Int32.ofInt i else none
  uint32? cursor := do
    let i ← cursor.integer?
    if 0 ≤ i ∧ i < 4294967296 then return UInt32.ofNat i.toNat else none
  float? := float?
  char? cursor :=
    match cursor.value with
    | .string (some s) =>
      match s.toList with
      | [c] => some c
      | _ => none
    | _ => none
  text? cursor :=
    match cursor.value with
    | .string s => s
    | _ => none
  option? cursor :=
    match cursor.value with
    | .null => some none
    | _ => some (some cursor)
  list? := items?
  tuple? n cursor := do
    let items ← cursor.items?
    if items.length = n then return items else none
  map? := members?
  record? _ := record?
  unit? cursor :=
    match cursor.value with
    | .string s => s
    | .object [(some name, .null)] => cursor.enter?.map fun _ => name
    | _ => none
  variant? cursor :=
    match cursor.value with
    | .object [(some name, value)] => cursor.enter?.map fun inner => (name, inner value)
    | _ => none

end Cursor

/-- Value of a type that a JSON text stands for. -/
def read? (α : Type) [Codec α] (text : String) : Option α := do
  Codec.read? (⟨← parse? text, Cursor.maxLevels⟩ : Cursor)

end Json

end ShadingGraph
