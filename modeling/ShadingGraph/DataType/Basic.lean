import ShadingGraph.DataType.Gradient
import ShadingGraph.DataType.Numeric
import ShadingGraph.DataType.Sampler

/-! # Data types of ports

A port holds a numeric value, a gradient, a texture or a sampler state. A type makes
the field of a fresh port, derives the field of a connected one from its source,
changes the dimension of a field, brings hand-written fields into form, and writes
fields as shader code.
-/

namespace ShadingGraph

/-- Data type of a port. -/
inductive DataType where
  | numeric (shape : NumericType)
  | gradient
  | texture2D
  | samplerState
  deriving DecidableEq, Repr

namespace DataType

def builtins : List DataType :=
  NumericType.builtins.map .numeric ++ [.gradient, .texture2D, .samplerState]

/-- Key under which the type is registered. -/
def key : DataType → Key
  | .numeric shape => shape.key
  | .gradient => ⟨"Gradient", 1⟩
  | .texture2D => ⟨"Texture2D", 1⟩
  | .samplerState => ⟨"SamplerState", 1⟩

/-- Ports connect within one category only. -/
def category : DataType → String
  | .numeric _ => NumericType.category
  | .gradient => "Gradient"
  | .texture2D => "Texture2D"
  | .samplerState => "SamplerState"

/-- Whether a port of the type can be fed by a port of the source type. -/
def accepts (type source : DataType) : Bool :=
  source.category == type.category

/-- Field of a fresh port. A default that is a whole field is taken as it stands. -/
def defaultField (type : DataType) (default : Option DeclaredDefault) : Field :=
  match default with
  | some (.field value) => value
  | _ =>
    match type with
    | .numeric shape => shape.defaultField default
    | .gradient => Gradient.standard.toField
    | .texture2D =>
      match default with
      | some (.reference asset) => .composite [("Asset", .text asset)]
      | _ => .composite [("Asset", .text "")]
    | .samplerState => SamplerState.standard.toField

/-- Group whose ports share a dimension. -/
def shapeGroup? : DataType → Option ShapeGroup
  | .numeric shape => shape.shapeGroup?
  | _ => none

/-- Dimension of a group in which nothing states one. -/
def intrinsicDimension : DataType → Nat
  | .numeric shape => shape.intrinsicDimension
  | _ => 1

/-- Dimension that a field of the type states. -/
def dimension? (type : DataType) (field : Field) : Option Nat :=
  match type with
  | .numeric _ => field.length?
  | _ => none

/-- Give a field of the type another dimension. -/
def resize (type : DataType) (field : Field) (dimension : Nat) : Field :=
  match type with
  | .numeric shape => shape.resize field dimension
  | _ => field

/-- Bring a field written by hand into the form of the type. -/
def normalize (type : DataType) (field : Field) : Field :=
  match type with
  | .numeric shape => shape.normalize field
  | _ => field

/-- Field of a port of the target type that is fed by a port of this type. Numbers
are carried over into the shape of the target; other values are handed on to a port
of the same type only. -/
def adapt (type : DataType) (source : Field) (target : DataType) : Field :=
  match type with
  | .numeric _ =>
    let fresh := target.defaultField none
    let shaped :=
      match target.shapeGroup?, type.dimension? source with
      | some _, some dimension => target.resize fresh dimension
      | _, _ => fresh
    shaped.setComponents (fit shaped.componentCount source.components)
  | _ => if target.key = type.key then source else target.defaultField none

def shaderType (type : DataType) (field : Field) : String :=
  match type with
  | .numeric shape => shape.shaderType field
  | .gradient => "Gradient"
  | .texture2D => "UnityTexture2D"
  | .samplerState => "UnitySamplerState"

/-- Shader code of a value, where it can be written in place. -/
def literal? (type : DataType) (field : Field) : Option String :=
  match type with
  | .numeric shape => some (shape.literal field)
  | .gradient => (Gradient.ofField? field).map Gradient.shaderText
  | .texture2D => none
  | .samplerState => some (SamplerState.ofField field).shaderText

/-- Member that a bare reference to a port of the type means. -/
def defaultMember? : DataType → Option String
  | .texture2D => some "tex"
  | .samplerState => some "samplerstate"
  | _ => none

end DataType

end ShadingGraph
