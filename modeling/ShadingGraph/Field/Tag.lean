import ShadingGraph.Field.Path

/-! # Enumerations written as tags

A field holds an alternative of an enumeration by its name, in a tag or in a text.
-/

namespace ShadingGraph

/-- An enumeration whose alternatives have distinct names. -/
class Tagged (α : Type) where
  /-- All alternatives, in order. -/
  alternatives : List α
  /-- Name of an alternative. -/
  tag : α → String

namespace Tagged

variable {α : Type} [Tagged α]

def ofTag? (name : String) : Option α :=
  (alternatives : List α).find? (tag · == name)

end Tagged

namespace Field

variable {α : Type} [Tagged α]

def ofTagged (value : α) : Field :=
  .tag (Tagged.tag value)

def tagged? (field : Field) : Option α :=
  field.string?.bind Tagged.ofTag?

def taggedChild? (field : Field) (segment : String) : Option α :=
  (field.child? segment).bind tagged?

end Field

end ShadingGraph
