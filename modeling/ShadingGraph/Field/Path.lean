import ShadingGraph.Field.Basic
import ShadingGraph.Text.Character
import ShadingGraph.Text.Split

/-! # Paths into fields

A path is a text of segments joined by points. A segment names a member of a
composite or gives the index of an item of a list. Reading skips empty segments;
writing takes the text after the last point as it stands, so that it can create a
member with an empty name. A write comes in two forms: `set` makes a changed field,
and `write` changes a field in its place.
-/

namespace ShadingGraph

namespace Path

def separator : Char := '.'

/-- Segments that are not empty, in order. -/
def segments (path : String) : List String :=
  ((Text.splitOn separator path.toList).filter (!·.isEmpty)).map String.ofList

/-- Path of the parent and name in it, split at the last point. Without a point the
parent is the root. -/
def parentAndLast (path : String) : String × String :=
  match Text.splitLast? separator path.toList with
  | some (parent, last) => (String.ofList parent, String.ofList last)
  | none => ("", path)

/-- Index written by a segment: digits after an optional plus sign, below `2 ^ 64`. -/
def index? (segment : String) : Option Nat :=
  let digits := match segment.toList with
    | '+' :: rest => rest
    | cs => cs
  if digits.isEmpty || !digits.all isDigit then none
  else
    let value := digitsValue digits
    if value < 18446744073709551616 then some value else none

end Path

/-- Why a value cannot be written at a path. -/
inductive FieldError where
  /-- The path has no parent in the field, or the parent is a list and the last
  segment no index. -/
  | invalidPath (path : String)
  /-- The index is past the end of the list. -/
  | indexOutOfRange (path : String) (index : Nat)
  /-- The parent is a leaf. -/
  | notAContainer (parent : String)
  deriving DecidableEq, Repr

def FieldError.message : FieldError → String
  | .invalidPath path => "Invalid field path: " ++ path
  | .indexOutOfRange path index => "Index " ++ toString index ++ " out of range at " ++ path
  | .notAContainer parent => "Field at '" ++ parent ++ "' has no sub-fields"

namespace Field

/-- Sub-field that a segment leads to. -/
def child? (field : Field) (segment : String) : Option Field :=
  match field with
  | .composite members => Table.find? members segment
  | .list items => (Path.index? segment).bind (items[·]?)
  | _ => none

/-- Sub-field at the end of a list of segments. -/
def follow? : Field → List String → Option Field
  | field, [] => some field
  | field, segment :: rest => (field.child? segment).bind (follow? · rest)

/-- Sub-field at a path; the empty path leads to the field itself. -/
def get? (field : Field) (path : String) : Option Field :=
  field.follow? (Path.segments path)

/-- Put a sub-field in the place of the one a segment leads to. -/
def replaceChild (field : Field) (segment : String) (value : Field) : Field :=
  match field with
  | .composite members => .composite (Table.insert members segment value)
  | .list items =>
    match Path.index? segment with
    | some index => .list (items.set index value)
    | none => field
  | other => other

/-- Change the sub-field at the end of a list of segments. `missing` is the error
where the segments lead nowhere. -/
def changeAt {ε : Type} (missing : ε) (change : Field → Except ε Field) :
    List String → Field → Except ε Field
  | [], field => change field
  | segment :: rest, field =>
    match field.child? segment with
    | none => .error missing
    | some below => do
      let changed ← changeAt missing change rest below
      return field.replaceChild segment changed

/-- Write a value under the last segment of a path into the field at its parent. A
list takes an index up to its length, where the value is appended. -/
def putLast (path parent last : String) (value : Field) : Field → Except FieldError Field
  | .composite members => .ok (.composite (Table.insert members last value))
  | .list items =>
    match Path.index? last with
    | none => .error (.invalidPath path)
    | some index =>
      if index < items.length then .ok (.list (items.set index value))
      else if index = items.length then .ok (.list (items ++ [value]))
      else .error (.indexOutOfRange path index)
  | _ => .error (.notAContainer parent)

/-- Write a value at a path. The parent has to exist; the empty path stands for the
whole field. -/
def set (field : Field) (path : String) (value : Field) : Except FieldError Field :=
  if path = "" then .ok value
  else
    let (parent, last) := Path.parentAndLast path
    changeAt (.invalidPath path) (putLast path parent last value) (Path.segments parent) field

/-- The field after an attempt to change it, with the error if the attempt fails. -/
def attempt (change : Field → Except FieldError Field) (field : Field) : Field × Option FieldError :=
  match change field with
  | .ok changed => (changed, none)
  | .error error => (field, some error)

/-- Alter the sub-field at the end of a list of segments in place. Whatever is there afterwards is
put back into the containers on the way, after a failure too. -/
def alterAt (missing : FieldError) (alter : Field → Field × Option FieldError) :
    List String → Field → Field × Option FieldError
  | [], field => alter field
  | segment :: rest, field =>
    match field.child? segment with
    | none => (field, some missing)
    | some below =>
      let (changed, error) := alterAt missing alter rest below
      (field.replaceChild segment changed, error)

/-- Write a value at a path in place, as a holder of the field sees it. `set` gives no field when it
fails; here one is left behind in any case, so that it can be asked what a failure does to it. -/
def write (field : Field) (path : String) (value : Field) : Field × Option FieldError :=
  if path = "" then (value, none)
  else
    let (parent, last) := Path.parentAndLast path
    alterAt (.invalidPath path) (attempt (putLast path parent last value)) (Path.segments parent) field

/-- Put a value in the place of an existing sub-field. -/
def overwrite? (field : Field) (path : String) (value : Field) : Option Field :=
  (changeAt () (fun _ => .ok value) (Path.segments path) field).toOption

/-- Take a member out of the composite at a path: the changed field and the member. -/
def removeAt? (field : Field) (path name : String) : Option (Field × Field) := do
  let (remaining, removed) ← (← field.get? path).removeMember? name
  let changed ← field.overwrite? path remaining
  return (changed, removed)

end Field

end ShadingGraph
