import ShadingGraph.Proofs.Split
import ShadingGraph.Proofs.WrittenComponent

/-! # Dotted addresses

A path into the field of a port is spelled as an address: the name of the port, the word
`TypeField` and the path, with points between them. An address is read from the left and
the name of the port ends at its first point, while the name of a parameter may hold points
of its own. So the spelled addresses of a port reach the port exactly when its name holds no
point; a port whose name holds one is out of the reach of all addresses.
-/

namespace ShadingGraph

namespace Address

variable {text : String} {address : Address}

def spellWhole (port : String) : String :=
  port ++ "." ++ marker

/-- Address of a path into the field of a port. -/
def spell (port path : String) : String :=
  spellWhole port ++ "." ++ path

theorem toList_spellWhole (port : String) :
    (spellWhole port).toList = port.toList ++ '.' :: marker.toList := by
  simp [spellWhole]

theorem toList_spell (port path : String) :
    (spell port path).toList = port.toList ++ '.' :: (marker.toList ++ '.' :: path.toList) := by
  simp [spell, toList_spellWhole]

theorem ofText?_spellWhole {port : String} (plain : '.' ∉ port.toList) :
    ofText? (spellWhole port) = some ⟨port, ""⟩ := by
  have cut : Text.splitFirst? '.' (spellWhole port).toList = some (port.toList, marker.toList) :=
    Text.splitFirst?_eq_some.mpr ⟨toList_spellWhole port, plain⟩
  have marked : Text.dropStart? marker.toList marker.toList = some [] :=
    Text.dropStart?_eq_some.mpr (List.append_nil _).symm
  simp [ofText?, cut, marked]

theorem ofText?_spell {port : String} (plain : '.' ∉ port.toList) (path : String) :
    ofText? (spell port path) = some ⟨port, path⟩ := by
  have cut : Text.splitFirst? '.' (spell port path).toList =
      some (port.toList, marker.toList ++ '.' :: path.toList) :=
    Text.splitFirst?_eq_some.mpr ⟨toList_spell port path, plain⟩
  have marked : Text.dropStart? marker.toList (marker.toList ++ '.' :: path.toList) =
      some ('.' :: path.toList) :=
    Text.dropStart?_eq_some.mpr rfl
  simp [ofText?, cut, marked]

/-- What reads as an address is what was spelled for it, and names a port without points. -/
theorem ofText?_eq_some : ofText? text = some address ↔
    '.' ∉ address.port.toList ∧
      (text = spell address.port address.path ∨ address.path = "" ∧ text = spellWhole address.port) := by
  constructor
  · intro read
    obtain ⟨⟨port, after⟩, cut, read⟩ := Option.bind_eq_some_iff.mp read
    obtain ⟨rest, marked, read⟩ := Option.bind_eq_some_iff.mp read
    obtain ⟨whole, plain⟩ := Text.splitFirst?_eq_some.mp cut
    rw [Text.dropStart?_eq_some.mp marked] at whole
    split at read <;> cases read
    · refine ⟨by simpa using plain, .inr ⟨rfl, ?_⟩⟩
      rw [← String.toList_inj, whole, toList_spellWhole]
      simp
    · refine ⟨by simpa using plain, .inl ?_⟩
      rw [← String.toList_inj, whole, toList_spell]
      simp
  · obtain ⟨port, path⟩ := address
    rintro ⟨plain, rfl | ⟨rfl, rfl⟩⟩
    · exact ofText?_spell plain path
    · exact ofText?_spellWhole plain

end Address

namespace Node

variable {node changed : Node} {port : Port}

/-- Reading and writing at the spelled addresses of a port is reading and writing its field. -/
structure Addresses (node : Node) (port : Port) : Prop where
  read (path : String) : node.getField? (Address.spell port.name path) = port.field.get? path
  written (path : String) (value : Field) :
    node.setField (Address.spell port.name path) value = node.setPortField port.name path value

/-- No address reads from a port, and none writes to it. -/
structure Unaddressed (node : Node) (port : Port) : Prop where
  unread : ∀ path value changed, node.setPortField port.name path value = .ok changed →
    ∀ address, changed.getField? address = node.getField? address
  unwritten : ∀ address value changed, node.setField address value = .ok changed →
    changed.port? port.name = some port

theorem addresses_of_plain (found : node.port? port.name = some port)
    (plain : '.' ∉ port.name.toList) : node.Addresses port where
  read path := by simp [getField?, Address.ofText?_spell plain path, found]
  written path value := by rw [setField, Address.ofText?_spell plain path]

theorem unaddressed_of_dotted (found : node.port? port.name = some port)
    (dotted : '.' ∈ port.name.toList) : node.Unaddressed port := by
  have apart : ∀ text address, Address.ofText? text = some address → address.port ≠ port.name :=
    fun text address read same => (Address.ofText?_eq_some.mp read).1 (same ▸ dotted)
  constructor
  · intro path value changed wrote text
    cases read : Address.ofText? text with
    | none => simp [getField?, read]
    | some address =>
        have other : changed.port? address.port = node.port? address.port :=
          (differsAt_setPortField wrote).others _ (apart text address read)
        simp [getField?, read, other]
  · intro text value changed wrote
    obtain ⟨target, read, differs⟩ := differsAt_setField wrote
    rw [differs.others _ (apart text target read).symm, found]

theorem exists_setPortField (found : node.port? port.name = some port) (value : Field) :
    ∃ changed, node.setPortField port.name "" value = .ok changed := by
  obtain ⟨named, before, after, split, apart⟩ := List.find?_eq_some_iff_append.mp found
  exact ⟨_, changePort_eq_ok.mpr ⟨before, port, after, _, split, by simpa using apart, rfl, rfl, rfl⟩⟩

theorem Addresses.not_unaddressed (found : node.port? port.name = some port)
    (addressed : node.Addresses port) : ¬node.Unaddressed port := by
  intro unaddressed
  obtain ⟨value, different⟩ : ∃ value : Field, value ≠ port.field := by
    cases port.field with
    | bool _ => exact ⟨.int 0, Field.noConfusion⟩
    | _ => exact ⟨.bool true, Field.noConfusion⟩
  obtain ⟨changed, wrote⟩ := exists_setPortField found value
  obtain ⟨_, field, -, set, foundChanged, -⟩ := exists_port?_setPortField wrote
  cases set
  have kept : changed.port? port.name = some port :=
    unaddressed.unwritten _ value changed ((addressed.written "" value).trans wrote)
  cases foundChanged.symm.trans kept
  exact different rfl

theorem addresses_iff (found : node.port? port.name = some port) :
    node.Addresses port ↔ '.' ∉ port.name.toList :=
  ⟨fun addressed dotted => addressed.not_unaddressed found (unaddressed_of_dotted found dotted),
    addresses_of_plain found⟩

theorem unaddressed_iff (found : node.port? port.name = some port) :
    node.Unaddressed port ↔ '.' ∈ port.name.toList :=
  ⟨fun unaddressed => by_contra fun plain =>
    (addresses_of_plain found plain).not_unaddressed found unaddressed, unaddressed_of_dotted found⟩

end Node

namespace Graph

/-- In a graph made by edits, the addresses of a port reach it exactly when its name holds no
point. A port whose name holds one is neither read nor written at any address. -/
theorem addresses_ofHistory_iff (history : List Registration) (name : String) (edits : List Edit)
    {node : Node} {port : Port}
    (inGraph : node ∈ (ofHistory (.ofHistory history) name edits).nodes)
    (inside : port ∈ node.ports) :
    (node.Addresses port ↔ '.' ∉ port.name.toList) ∧
      (node.Unaddressed port ↔ '.' ∈ port.name.toList) := by
  have valid := Registry.consistent_ofHistory history
  have conforms := (consistent_ofHistory valid name edits).conforms node inGraph
  have found : node.port? port.name = some port :=
    Node.port?_of_mem (conforms.distinctPorts valid) inside
  exact ⟨Node.addresses_iff found, Node.unaddressed_iff found⟩

/-- A registry with a node whose input has a point in its name. -/
def tilingHistory : List Registration :=
  [ .builtinTypes,
    .definition <| .ofVariant <| StandardNode.variant "Tiling" "Tiling" ""
      [ StandardNode.input "UV.Scale" "Float", StandardNode.output "Out" "Float" ] ]

/-- The graph of one such node. -/
def tilingGraph : Graph :=
  ofHistory (.ofHistory tilingHistory) "Tiled" [.addNode ⟨"Tiling", 1⟩ "tiling"]

/-- Its output is reached. -/
theorem addresses_plainPort : ∃ node ∈ tilingGraph.nodes, ∃ port ∈ node.ports,
    port.name = "Out" ∧ node.Addresses port := by
  obtain ⟨node, inGraph, port, inside, named⟩ :
      ∃ node ∈ tilingGraph.nodes, ∃ port ∈ node.ports, port.name = "Out" := by
    decide +kernel
  have plain : '.' ∉ port.name.toList := named ▸ by decide
  have addressed := (addresses_ofHistory_iff tilingHistory "Tiled" _ inGraph inside).1.mpr plain
  exact ⟨node, inGraph, port, inside, named, addressed⟩

/-- Its input holds a component that no address reads. -/
theorem not_addresses_dottedPort : ∃ node ∈ tilingGraph.nodes, ∃ port ∈ node.ports,
    port.name = "UV.Scale" ∧ (port.field.get? "c0").isSome ∧
      node.getField? (Address.spell "UV.Scale" "c0") = none ∧ ¬node.Addresses port := by
  obtain ⟨node, inGraph, port, inside, named, held, unread⟩ :
      ∃ node ∈ tilingGraph.nodes, ∃ port ∈ node.ports, port.name = "UV.Scale" ∧
        (port.field.get? "c0").isSome ∧
          (node.getField? (Address.spell "UV.Scale" "c0")).isNone := by
    decide +kernel
  have none := Option.isNone_iff_eq_none.mp unread
  refine ⟨node, inGraph, port, inside, named, held, none, fun addressed => ?_⟩
  have read := addressed.read "c0"
  rw [named, none] at read
  rw [← read] at held
  cases held

end Graph

end ShadingGraph
