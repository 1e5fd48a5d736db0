import ShadingGraph.Codec.Datum
import ShadingGraph.Codec.Source
import ShadingGraph.Field.Tag

/-! # Codecs

A codec says for a type which datum a value is written as and how a value is read
back from a source. It serves every text format.
-/

namespace ShadingGraph

/-- A type whose values are written and read. -/
class Codec (α : Type) where
  /-- Datum of a value. -/
  datum : α → Datum
  /-- Value of a source. -/
  read? : {ν : Type} → [Source ν] → ν → Option α

namespace Codec

instance : Codec Bool where
  datum := .bool
  read? := Source.bool?

instance : Codec Int32 where
  datum value := .int value.toInt
  read? := Source.int32?

instance : Codec UInt32 where
  datum value := .int value.toNat
  read? := Source.uint32?

instance : Codec Binary32 where
  datum := .float
  read? := Source.float?

instance : Codec Char where
  datum := .char
  read? := Source.char?

instance : Codec String where
  datum := .text
  read? := Source.text?

section

variable {α : Type} [Codec α]

instance : Codec (Option α) where
  datum
    | none => .absent
    | some value => .present (datum value)
  read? source := do
    match ← Source.option? source with
    | none => return none
    | some inner => return some (← read? inner)

instance : Codec (List α) where
  datum values := .list (values.map datum)
  read? source := do (← Source.list? source).mapM read?

/-- Value of a member of a record. -/
def member? {ν : Type} [Source ν] (members : List (String × ν)) (name : String) : Option α :=
  (Table.find? members name).bind read?

/-- Value of a member of a record, or a default if it is left out. -/
def memberOr? {ν : Type} [Source ν] (default : α) (members : List (String × ν)) (name : String) :
    Option α :=
  match Table.find? members name with
  | some source => read? source
  | none => some default

end

/-- An enumeration is written by the names of its alternatives. -/
instance (priority := low) {α : Type} [Tagged α] : Codec α where
  datum value := .unit (Tagged.tag value)
  read? source := (Source.unit? source).bind Tagged.ofTag?

end Codec

end ShadingGraph
