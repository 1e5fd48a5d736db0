import ShadingGraph.DataType.Default
import ShadingGraph.Field.Tag
import ShadingGraph.Key
import ShadingGraph.Number.Layout

/-! # Numeric types

Scalars, vectors and matrices share one description, a `NumericType`. Its length and
height are fixed or open; an open one is settled by the graph. The field of a port
of such a type is a composite of the tags `Primitive`, `Precision`, `Length` and
`Height`, an optional `Reference`, and the components `c0`, `c1`, …, as many as
length and height ask for.
-/

namespace ShadingGraph

/-- Kind of number a component holds. -/
inductive Primitive where
  | float
  | int
  | bool
  deriving DecidableEq, Repr

inductive Precision where
  | single
  | half
  | inherit
  deriving DecidableEq, Repr

/-- Length or height of a shape; `any` is left open. -/
inductive Extent where
  | one
  | two
  | three
  | four
  | any
  deriving DecidableEq, Repr

instance : Tagged Primitive where
  alternatives := [.float, .int, .bool]
  tag
    | .float => "Float"
    | .int => "Int"
    | .bool => "Bool"

instance : Tagged Precision where
  alternatives := [.single, .half, .inherit]
  tag
    | .single => "Single"
    | .half => "Half"
    | .inherit => "Inherit"

instance : Tagged Extent where
  alternatives := [.one, .two, .three, .four, .any]
  tag
    | .one => "One"
    | .two => "Two"
    | .three => "Three"
    | .four => "Four"
    | .any => "Any"

namespace Extent

/-- Size, unless it is open. -/
def count? : Extent → Option Nat
  | .one => some 1
  | .two => some 2
  | .three => some 3
  | .four => some 4
  | .any => none

/-- Extent of a size, brought into the range from one to four. -/
def ofCount : Nat → Extent
  | 0 => .one
  | 1 => .one
  | 2 => .two
  | 3 => .three
  | _ => .four

end Extent

/-- Ports whose types share a group take one dimension within a node. -/
inductive ShapeGroup where
  | vector
  | matrix
  deriving DecidableEq, Repr

def ShapeGroup.name : ShapeGroup → String
  | .vector => "Vector"
  | .matrix => "Matrix"

/-- A scalar, vector or matrix type. -/
structure NumericType where
  key : Key
  primitive : Primitive
  precision : Precision
  length : Extent
  height : Extent
  deriving DecidableEq, Repr

namespace Member

def primitive : String := "Primitive"

def precision : String := "Precision"

def length : String := "Length"

def height : String := "Height"

/-- Member that names a value the shader provides. -/
def reference : String := "Reference"

def component (index : Nat) : String := "c" ++ toString index

/-- Whether a member is named like a component: `c` followed by digits. -/
def isComponent (name : String) : Bool :=
  match name.toList with
  | 'c' :: digits => !digits.isEmpty && digits.all isDigit
  | _ => false

end Member

namespace Field

/-- Length that the field states, if it is not open. -/
def length? (field : Field) : Option Nat :=
  (field.taggedChild? Member.length : Option Extent).bind Extent.count?

/-- Height that the field states, if it is not open. -/
def height? (field : Field) : Option Nat :=
  (field.taggedChild? Member.height : Option Extent).bind Extent.count?

/-- Number of components the field calls for; what it does not state counts one. -/
def componentCount (field : Field) : Nat :=
  field.length?.getD 1 * field.height?.getD 1

/-- Number of one component, zero where there is none. -/
def component (field : Field) (index : Nat) : Binary32 :=
  ((field.child? (Member.component index)).bind real?).getD .zero

/-- Numbers of the components the field calls for. -/
def components (field : Field) : List Binary32 :=
  (List.range field.componentCount).map field.component

/-- Numbers as component members, from the given index on. -/
def componentMembers : Nat → List Binary32 → List (String × Field)
  | _, [] => []
  | index, value :: rest => (Member.component index, .float value) :: componentMembers (index + 1) rest

/-- Replace all component members of a composite by those of the given numbers. -/
def setComponents (field : Field) (values : List Binary32) : Field :=
  match field with
  | .composite members =>
    .composite (members.filter (!Member.isComponent ·.1) ++ componentMembers 0 values)
  | other => other

end Field

/-- A list cut to a length, or filled up to it with zeros. -/
def fit (count : Nat) (values : List Binary32) : List Binary32 :=
  values.take count ++ List.replicate (count - values.length) .zero

namespace NumericType

/-- Category of all numeric types. -/
def category : String := "GraphType"

/-- A type of single precision and version one. -/
def named (name : String) (primitive : Primitive) (length height : Extent) : NumericType :=
  ⟨⟨name, 1⟩, primitive, .single, length, height⟩

def builtins : List NumericType :=
  [ named "Float" .float .one .one,
    named "Int" .int .one .one,
    named "Bool" .bool .one .one,
    named "Vec2" .float .two .one,
    named "Vec3" .float .three .one,
    named "Vec4" .float .four .one,
    named "Vector" .float .any .one,
    named "Mat2" .float .two .two,
    named "Mat3" .float .three .three,
    named "Mat4" .float .four .four,
    named "Matrix" .float .any .any ]

/-- Group of the type: an open length makes a vector, an open height besides a
matrix. -/
def shapeGroup? (type : NumericType) : Option ShapeGroup :=
  match type.length, type.height with
  | .any, .any => some .matrix
  | .any, _ => some .vector
  | _, _ => none

def intrinsicDimension (type : NumericType) : Nat :=
  if type.shapeGroup? = some .matrix then 2 else 1

/-- Least side from one to four of a square with at least `count` cells, else four. -/
def squareSide (count : Nat) : Nat :=
  if count ≤ 1 then 1 else if count ≤ 4 then 2 else if count ≤ 9 then 3 else 4

/-- Number of components a default provides. -/
def providedCount? : Option DeclaredDefault → Option Nat
  | some (.components values) => if values.isEmpty then none else some values.length
  | _ => none

/-- Length and height of the field made from a default. -/
def defaultShape (type : NumericType) (default : Option DeclaredDefault) : Extent × Extent :=
  let provided := providedCount? default
  match type.length, type.height with
  | .any, .any =>
    let side := max ((provided.map squareSide).getD type.intrinsicDimension) 2
    (.ofCount side, .ofCount side)
  | .any, height => (.ofCount (provided.getD type.intrinsicDimension), height)
  | length, .any => (length, .ofCount (provided.getD 1))
  | length, height => (length, height)

/-- The four tags of a field of the type. -/
def tagMembers (type : NumericType) (length height : Extent) : List (String × Field) :=
  [ (Member.primitive, .ofTagged type.primitive),
    (Member.precision, .ofTagged type.precision),
    (Member.length, .ofTagged length),
    (Member.height, .ofTagged height) ]

/-- The `count` component numbers that a default stands for. -/
def defaultValues (count : Nat) : Option DeclaredDefault → List Binary32
  | some (.components values) => fit count values
  | some (.int value) => List.replicate count (Binary32.ofInt value.toInt)
  | some (.bool value) => List.replicate count (if value then .one else .zero)
  | _ => List.replicate count .zero

/-- Member that a default adds beside tags and components. -/
def defaultReference : Option DeclaredDefault → List (String × Field)
  | some (.reference name) => [(Member.reference, .text name)]
  | _ => []

/-- Field of a fresh port. A default that is a whole field is taken as it stands. -/
def defaultField (type : NumericType) (default : Option DeclaredDefault) : Field :=
  match default with
  | some (.field value) => value
  | _ =>
    let (length, height) := type.defaultShape default
    let tags := type.tagMembers length height
    let count := (Field.composite tags).componentCount
    (Field.composite (tags ++ defaultReference default)).setComponents (defaultValues count default)

/-- Give a composite another length, and height where both are open, and as many
components as this calls for. Other fields stay as they are. -/
def resize (type : NumericType) (field : Field) (dimension : Nat) : Field :=
  match field with
  | .composite members =>
    let extent : Field := .ofTagged (Extent.ofCount dimension)
    let members := Table.insert members Member.length extent
    let members :=
      if type.shapeGroup? = some .matrix then Table.insert members Member.height extent else members
    let resized := Field.composite members
    resized.setComponents (fit resized.componentCount field.components)
  | other => other

/-- Add those of the given members whose names are missing. -/
def addMissing (members : List (String × Field)) (tags : List (String × Field)) :
    List (String × Field) :=
  tags.foldl
    (fun result tag => if Table.contains result tag.1 then result else result ++ [tag]) members

/-- Bring a field written by hand into the form of the type: a composite gets the
tags it lacks and exactly the components it calls for; a bare number becomes the
first component of the default; anything else is replaced by the default. -/
def normalize (type : NumericType) (field : Field) : Field :=
  match field with
  | .composite members =>
    let (length, height) := type.defaultShape none
    let tagged := Field.composite (addMissing members (type.tagMembers length height))
    tagged.setComponents tagged.components
  | other =>
    match other.real? with
    | some value => type.defaultField (some (.components [value]))
    | none => type.defaultField none

/-- Primitive that a field states, else that of the type. -/
def primitiveOf (type : NumericType) (field : Field) : Primitive :=
  (field.taggedChild? Member.primitive).getD type.primitive

/-- Precision that a field states, else that of the type. -/
def precisionOf (type : NumericType) (field : Field) : Precision :=
  (field.taggedChild? Member.precision).getD type.precision

/-- Shader type of a single component. -/
def componentType (primitive : Primitive) (precision : Precision) : String :=
  match primitive, precision with
  | .float, .half => "half"
  | .float, _ => "float"
  | .int, _ => "int"
  | .bool, _ => "bool"

def shaderType (type : NumericType) (field : Field) : String :=
  let base := componentType (type.primitiveOf field) (type.precisionOf field)
  let length := field.length?.getD 1
  let height := field.height?.getD 1
  if height = 1 then
    if length = 1 then base else base ++ toString length
  else base ++ toString height ++ "x" ++ toString length

def componentText (primitive : Primitive) (value : Binary32) : String :=
  match primitive with
  | .float => value.shaderText
  | .int => toString value.toInt32.toInt
  | .bool => if value.isZero then "false" else "true"

/-- Shader code of the value: the reference if there is one, a single component by
itself, else a constructor call. -/
def literal (type : NumericType) (field : Field) : String :=
  match (field.child? Member.reference).bind Field.string? with
  | some reference => reference
  | none =>
    match field.components.map (componentText (type.primitiveOf field)) with
    | [single] => single
    | texts => type.shaderType field ++ "(" ++ String.intercalate ", " texts ++ ")"

end NumericType

end ShadingGraph
