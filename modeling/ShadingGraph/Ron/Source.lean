import ShadingGraph.Codec.Basic
import ShadingGraph.Ron.Numeral
import ShadingGraph.Ron.Parser

/-! # RON as a source

A record is a list of named members in parentheses, after its name or without one. An
alternative is a word, followed in parentheses by what it holds. At most 128 steps may
follow each other on the way into a text: one leads into a list, map, tuple, record or
alternative and one more to each value in it, and one leads from `Some` to its value.
This also holds in members that are dropped.
-/

namespace ShadingGraph

namespace Ron

/-- Words that are values, so that nothing may follow them in parentheses. -/
def valueWords : List String :=
  ["true", "false", "None", "inf", "inff32", "inff64", "NaN", "NaNf32", "NaNf64"]

def isValueWord : Option Word → Bool
  | some word => !word.raw && valueWords.contains word.text
  | none => false

mutual

/-- Whether a value that is dropped is well formed, within a number of steps. -/
def droppable : Nat → Ron → Bool
  | _, .number chars => isNumeral chars
  | _, .string _ => true
  | _, .char _ => true
  | _, .bytes => true
  | _, .unit => true
  | _, .symbol _ => true
  | 0, _ => false
  | levels + 1, .list items => droppableItems levels items
  | levels + 1, .map entries => droppableEntries levels entries
  | levels + 1, .tuple name items => !isValueWord name && droppableItems levels items
  | levels + 1, .record name members => !isValueWord name && droppableMembers levels members
  | levels + 1, .present group .whole => droppable levels group
  | levels + 1, .present (.tuple none [item]) .item => droppable levels item
  | _ + 1, .present _ _ => false

/-- Whether all items are well formed one step further in. -/
def droppableItems : Nat → List Ron → Bool
  | _, [] => true
  | 0, _ :: _ => false
  | levels + 1, item :: rest => droppable levels item && droppableItems (levels + 1) rest

def droppableEntries : Nat → List (Ron × Ron) → Bool
  | _, [] => true
  | 0, _ :: _ => false
  | levels + 1, (key, value) :: rest =>
    droppable levels key && droppable levels value && droppableEntries (levels + 1) rest

def droppableMembers : Nat → List (Word × Ron) → Bool
  | _, [] => true
  | 0, _ :: _ => false
  | levels + 1, (_, value) :: rest =>
    droppable levels value && droppableMembers (levels + 1) rest

end

/-- A value with the number of steps that may still lead further in, and the
extensions of its text. -/
structure Cursor where
  value : Ron
  levels : Nat
  extensions : Extensions
  deriving Repr

namespace Cursor

/-- Steps that may follow each other from the beginning of a text. -/
def maxLevels : Nat := 128

/-- A value one step further in. -/
def inner? (cursor : Cursor) (value : Ron) : Option Cursor :=
  match cursor.levels with
  | 0 => none
  | levels + 1 => some { cursor with value, levels }

/-- The value itself after the step into it. -/
def enter? (cursor : Cursor) : Option Cursor :=
  cursor.inner? cursor.value

def integer? (type : IntegerType) (cursor : Cursor) : Option Int :=
  match cursor.value with
  | .number chars => integerOf? type chars
  | _ => none

/-- Whether a record may be called so. -/
def named (cursor : Cursor) (expected : String) : Option Word → Bool
  | some word => word.text == expected
  | none => !cursor.extensions.explicitNames

/-- Members of a record: each known one at most once, all others well formed. -/
def knownMembers? (cursor : Cursor) (known : List (String × Presence)) :
    List (Word × Ron) → Option (List (String × Cursor))
  | [] => some []
  | (name, value) :: rest => do
    let found ← knownMembers? cursor known rest
    let inner ← cursor.inner? value
    if Table.contains known name.text then
      if Table.contains found name.text then none else return (name.text, inner) :: found
    else if droppable inner.levels value then return found else none

/-- Members of a record. Empty parentheses are a record without members. -/
def record? (name : String) (known : List (String × Presence)) (cursor : Cursor) :
    Option (List (String × Cursor)) := do
  let (given, members) ← match cursor.value with
    | .record given members => some (given, members)
    | .tuple given [] => some (given, [])
    | .unit => some (none, [])
    | _ => none
  if !cursor.named name given then none
  let found ← knownMembers? (← cursor.enter?) known members
  if Presence.complete Presence.byName known found then return found else none

/-- A value that may be missing. -/
def option? (cursor : Cursor) : Option (Option Cursor) :=
  match cursor.value with
  | .present (.tuple none [item]) _ => (cursor.inner? item).map some
  | .present _ _ => none
  | .symbol word => if word.isKeyword "None" then some none else bare
  | .tuple (some word) _ => if word.isKeyword "None" then none else bare
  | _ => bare
where
  bare : Option (Option Cursor) :=
    if cursor.extensions.implicitSome then cursor.enter?.map some else none

instance : Source Cursor where
  levels := levels
  bool? cursor :=
    match cursor.value with
    | .symbol word =>
      if word.isKeyword "true" then some true
      else if word.isKeyword "false" then some false
      else none
    | _ => none
  int32? cursor := (cursor.integer? .int32).map Int32.ofInt
  uint32? cursor := (cursor.integer? .uint32).map fun i => UInt32.ofNat i.toNat
  float? cursor :=
    match cursor.value with
    | .number chars => Ron.float? chars
    | .symbol word => if word.raw then none else Ron.float? word.text.toList
    | _ => none
  char? cursor :=
    match cursor.value with
    | .char value => some value
    | _ => none
  text? cursor :=
    match cursor.value with
    | .string value => some value
    | _ => none
  option? := option?
  list? cursor :=
    match cursor.value with
    | .list items => do items.mapM (← cursor.enter?).inner?
    | _ => none
  tuple? n cursor :=
    match cursor.value with
    | .tuple none items => do
      let inside ← cursor.enter?
      if items.length = n then items.mapM inside.inner? else none
    | _ => none
  map? cursor :=
    match cursor.value with
    | .map entries => do
      let inside ← cursor.enter?
      entries.mapM fun (key, value) =>
        match key with
        | .string name => (inside.inner? value).map (name, ·)
        | _ => none
    | _ => none
  record? := record?
  unit? cursor :=
    match cursor.value with
    | .symbol word => (cursor.enter?.bind enter?).map fun _ => word.text
    | _ => none
  variant? cursor :=
    match cursor.value with
    | .tuple (some word) [item] => do return (word.text, ← (← cursor.enter?).inner? item)
    | _ => none

end Cursor

/-- Value of a type that a RON text stands for. -/
def read? (α : Type) [Codec α] (text : String) : Option α := do
  let (extensions, value) ← parse? text
  Codec.read? (⟨value, Cursor.maxLevels, extensions⟩ : Cursor)

end Ron

end ShadingGraph
