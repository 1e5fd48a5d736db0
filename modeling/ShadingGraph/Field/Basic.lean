import ShadingGraph.Number.Binary32
import ShadingGraph.Table

/-! # Fields

A field is the value of a port: a small tree whose leaves are numbers, truth values,
enumeration tags and texts, and whose inner nodes are lists and tables of named
members. `Field.equals` compares two of them as arithmetic compares numbers and
without regard to the order of members.
-/

namespace ShadingGraph

inductive Field where
  | float (value : Binary32)
  | int (value : Int32)
  | bool (value : Bool)
  /-- Name of an alternative of some enumeration. -/
  | tag (name : String)
  | text (value : String)
  | list (items : List Field)
  /-- Table of named members. -/
  | composite (members : List (String × Field))
  deriving Repr, Inhabited

namespace Field

mutual

/-- Equality of two fields: numbers as arithmetic compares them, members in any
order. -/
def equals : Field → Field → Bool
  | .float x, .float y => x.equals y
  | .int x, .int y => x == y
  | .bool x, .bool y => x == y
  | .tag x, .tag y => x == y
  | .text x, .text y => x == y
  | .list xs, .list ys => equalsItems xs ys
  | .composite xs, .composite ys => xs.length == ys.length && equalsMembers xs ys
  | _, _ => false

def equalsItems : List Field → List Field → Bool
  | [], [] => true
  | x :: xs, y :: ys => equals x y && equalsItems xs ys
  | _, _ => false

/-- Whether each of the members has an equal one of its name in a table. -/
def equalsMembers : List (String × Field) → List (String × Field) → Bool
  | [], _ => true
  | (name, x) :: xs, ys =>
    (match Table.find? ys name with
      | some y => equals x y
      | none => false) && equalsMembers xs ys

end

/-- Number of a float leaf, or of an integer leaf rounded to single precision. -/
def real? : Field → Option Binary32
  | .float value => some value
  | .int value => some (Binary32.ofInt value.toInt)
  | _ => none

def int? : Field → Option Int32
  | .int value => some value
  | _ => none

def bool? : Field → Option Bool
  | .bool value => some value
  | _ => none

/-- Content of a tag or a text leaf. -/
def string? : Field → Option String
  | .tag name => some name
  | .text value => some value
  | _ => none

def items? : Field → Option (List Field)
  | .list items => some items
  | _ => none

def members? : Field → Option (List (String × Field))
  | .composite members => some members
  | _ => none

/-- Add or replace a member of a composite; other fields stay as they are. -/
def withMember (field : Field) (name : String) (value : Field) : Field :=
  match field with
  | .composite members => .composite (Table.insert members name value)
  | other => other

/-- Take a member out of a composite: what is left, and the member. -/
def removeMember? (field : Field) (name : String) : Option (Field × Field) :=
  match field with
  | .composite members =>
    (Table.find? members name).map fun value => (.composite (Table.erase members name), value)
  | _ => none

end Field

end ShadingGraph
