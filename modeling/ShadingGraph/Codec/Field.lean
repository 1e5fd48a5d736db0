import ShadingGraph.Codec.Basic
import ShadingGraph.DataType.Default
import ShadingGraph.Key

/-! # Codecs of keys, fields and declared defaults -/

namespace ShadingGraph

namespace Codec

instance : Codec Key where
  datum key := .record "RegistryKey" [("name", datum key.name), ("version", datum key.version)]
  read? source := do
    let members ← Source.record? "RegistryKey" [("name", .required), ("version", .required)] source
    return ⟨← member? members "name", ← member? members "version"⟩

end Codec

namespace Field

mutual

def datum : Field → Datum
  | .float value => .variant "Float" (.float value)
  | .int value => .variant "Int" (.int value.toInt)
  | .bool value => .variant "Bool" (.bool value)
  | .tag name => .variant "Enum" (.text name)
  | .text value => .variant "Text" (.text value)
  | .list items => .variant "List" (.list (itemData items))
  | .composite members => .variant "Composite" (.map (memberData members))

def itemData : List Field → List Datum
  | [] => []
  | item :: rest => datum item :: itemData rest

def memberData : List (String × Field) → List (String × Datum)
  | [] => []
  | (name, value) :: rest => (name, datum value) :: memberData rest

end

/-- Field of a source, with fuel for the fields nested in each other. -/
def readWith? {ν : Type} [Source ν] : Nat → ν → Option Field
  | 0, _ => none
  | fuel + 1, source => do
    let (name, payload) ← Source.variant? source
    match name with
    | "Float" => return .float (← Codec.read? payload)
    | "Int" => return .int (← Codec.read? payload)
    | "Bool" => return .bool (← Codec.read? payload)
    | "Enum" => return .tag (← Codec.read? payload)
    | "Text" => return .text (← Codec.read? payload)
    | "List" => return .list (← (← Source.list? payload).mapM (readWith? fuel))
    | "Composite" =>
      let members ← (← Source.map? payload).mapM fun (name, value) =>
        return (name, ← readWith? fuel value)
      return .composite (Table.ofList members)
    | _ => none

def read? {ν : Type} [Source ν] (source : ν) : Option Field :=
  readWith? (Source.levels source + 1) source

instance : Codec Field where
  datum := datum
  read? := read?

/-- Named fields of a source; a name that is repeated has its last value. -/
def readMembers? {ν : Type} [Source ν] (source : ν) : Option (List (String × Field)) := do
  let members ← (← Source.map? source).mapM fun (name, value) => return (name, ← read? value)
  return Table.ofList members

end Field

namespace Codec

instance : Codec DeclaredDefault where
  datum
    | .components values => .variant "Components" (datum values)
    | .int value => .variant "Int" (datum value)
    | .bool value => .variant "Bool" (datum value)
    | .reference name => .variant "Reference" (datum name)
    | .field value => .variant "Field" (datum value)
  read? source := do
    let (name, payload) ← Source.variant? source
    match name with
    | "Components" => return .components (← read? payload)
    | "Int" => return .int (← read? payload)
    | "Bool" => return .bool (← read? payload)
    | "Reference" => return .reference (← read? payload)
    | "Field" => return .field (← read? payload)
    | _ => none

end Codec

end ShadingGraph
