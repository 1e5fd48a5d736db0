import ShadingGraph.Document.Text
import ShadingGraph.Proofs.Ron.Field

/-! # Documents written and read

Reading the text of a document gives the document again, unless a pinned field is higher
than the steps allow that the reader may take into a text. The writer does not refuse
all of these: it counts some of the steps into one field to the next.
-/

namespace ShadingGraph

namespace Datum

theorem itemsWellNamed_iff {names : Bool} {items : List Datum} :
    itemsWellNamed names items = true ↔ ∀ item ∈ items, wellNamed names item = true := by
  induction items with
  | nil => simp [itemsWellNamed]
  | cons item rest ih => rw [itemsWellNamed, Bool.and_eq_true, ih, List.forall_mem_cons]

theorem membersWellNamed_iff {names : Bool} {members : List (String × Datum)} :
    membersWellNamed names members = true ↔
      ∀ member ∈ members, Ron.isWord member.1 = true ∧ wellNamed names member.2 = true := by
  induction members with
  | nil => simp [membersWellNamed]
  | cons member rest ih =>
      rw [membersWellNamed, Bool.and_eq_true, Bool.and_eq_true, ih, List.forall_mem_cons]

end Datum

namespace Codec

open Datum

section

variable (names : Bool) (levels : ℕ)

theorem read?_list {α : Type} [Codec α] {p : α → Prop} [DecidablePred p] {values : List α}
    (each : ∀ value ∈ values, read? (cursor names levels (datum value)) = if p value then some value else none) :
    read? (cursor names (levels + 2) (datum values)) = if ∀ value ∈ values, p value then some values else none := by
  change ((Source.list? (cursor names (levels + 2) (.list (values.map datum)))).bind fun sources =>
    sources.mapM read?) = _
  rw [list?_cursor, Option.bind_some, List.map_map, List.mapM_map]
  exact mapM_ite each

theorem read?_text (text : String) : read? (cursor names levels (datum text)) = some text :=
  rfl

theorem read?_uint32 (value : UInt32) : read? (cursor names levels (datum value)) = some value :=
  uint32?_cursor names levels value

theorem read?_key (key : Key) : read? (cursor names (levels + 2) (datum key)) = some key := by
  have members := record?_cursor names levels "RegistryKey"
    [("name", .required), ("version", .required)]
    [("name", datum key.name), ("version", datum key.version)] rfl (by decide)
  refine (congrArg (Option.bind · _) members).trans ?_
  simp [member?, Table.find?, read?_text, read?_uint32]

theorem read?_edge (edge : Edge) : read? (cursor names (levels + 2) (datum edge)) = some edge := by
  have members := record?_cursor names levels "Edge"
    [("from_node", .required), ("from_port", .required), ("to_node", .required), ("to_port", .required)]
    [("from_node", datum edge.fromNode), ("from_port", datum edge.fromPort),
      ("to_node", datum edge.toNode), ("to_port", datum edge.toPort)] rfl (by decide)
  refine (congrArg (Option.bind · _) members).trans ?_
  simp [member?, Table.find?, read?_text]

theorem read?_nodeRecord (k : ℕ) {record : NodeRecord} (distinct : (Field.composite record.pinned).distinct = true) :
    read? (cursor names (4 * k + 4) (datum record)) =
      if ∀ pin ∈ record.pinned, pin.2.height ≤ k then some record else none := by
  have members := record?_cursor names (4 * k + 2) "NodeRecord"
    [("name", .required), ("definition", .required), ("variant", .required), ("pinned", .defaulted)]
    [("name", datum record.name), ("definition", datum record.definition),
      ("variant", datum record.variant), ("pinned", .map (Field.memberData record.pinned))]
    rfl (by decide)
  have pinned := Field.readMembers?_cursor names (k := k) distinct
  refine (congrArg (Option.bind · _) members).trans ?_
  simp [member?, Table.find?, read?_text, read?_key, pinned]
  split_ifs <;> rfl

theorem read?_document (k : ℕ) {document : GraphDocument}
    (distinct : ∀ record ∈ document.nodes, (Field.composite record.pinned).distinct = true) :
    read? (cursor names (4 * k + 8) (datum document)) =
      if ∀ record ∈ document.nodes, ∀ pin ∈ record.pinned, pin.2.height ≤ k then some document else none := by
  have members := record?_cursor names (4 * k + 6) "GraphDocument"
    [("version", .required), ("name", .required), ("nodes", .required), ("edges", .defaulted)]
    [("version", datum document.version), ("name", datum document.name),
      ("nodes", datum document.nodes), ("edges", datum document.edges)]
    rfl (by decide)
  have nodes := read?_list names (4 * k + 4) fun record inside =>
    read?_nodeRecord names k (distinct record inside)
  have edges : read? (cursor names (4 * k + 6) (datum document.edges)) = some document.edges := by
    have each : ∀ edge ∈ document.edges, read? (cursor names (4 * k + 4) (datum edge)) =
        if True then some edge else none := fun edge _ => read?_edge names (4 * k + 2) edge
    simpa using read?_list names (4 * k + 4) each
  refine (congrArg (Option.bind · _) members).trans ?_
  simp [member?, memberOr?, Table.find?, read?_text, read?_uint32, nodes, edges]
  split_ifs <;> rfl

theorem wellNamed_record {name : String} (words : List String) (named : isName name = true)
    (all : ∀ word ∈ words, Ron.isWord word = true) {members : List (String × Datum)}
    (same : Table.keys members = words) (each : ∀ member ∈ members, wellNamed names member.2 = true) :
    wellNamed names (.record name members) = true := by
  rw [wellNamed, Bool.and_eq_true, membersWellNamed_iff]
  refine ⟨by simp [named], fun member inside => ⟨all _ ?_, each member inside⟩⟩
  rw [← same]
  exact List.mem_map_of_mem inside

theorem wellNamed_list {α : Type} [Codec α] {values : List α}
    (each : ∀ value ∈ values, wellNamed names (datum value) = true) : wellNamed names (datum values) = true := by
  change itemsWellNamed names (values.map datum) = true
  rw [itemsWellNamed_iff, List.forall_mem_map]
  exact each

theorem wellNamed_key (key : Key) : wellNamed names (datum key) = true :=
  wellNamed_record names ["name", "version"] (by decide) (by decide) rfl (by simp [datum, wellNamed])

theorem wellNamed_edge (edge : Edge) : wellNamed names (datum edge) = true :=
  wellNamed_record names ["from_node", "from_port", "to_node", "to_port"] (by decide) (by decide) rfl
    (by simp [datum, wellNamed])

theorem wellNamed_nodeRecord (record : NodeRecord) : wellNamed names (datum record) = true := by
  have key := wellNamed_key names record.definition
  have pinned := Field.wellNamed_memberData names record.pinned
  refine wellNamed_record names ["name", "definition", "variant", "pinned"] (by decide) (by decide) rfl ?_
  simp only [List.forall_mem_cons, List.not_mem_nil, false_imp_iff, implies_true, and_true]
  exact ⟨rfl, key, rfl, pinned⟩

theorem wellNamed_document (document : GraphDocument) : wellNamed names (datum document) = true := by
  have nodes := wellNamed_list names fun record (_ : record ∈ document.nodes) => wellNamed_nodeRecord names record
  have edges := wellNamed_list names fun edge (_ : edge ∈ document.edges) => wellNamed_edge names edge
  refine wellNamed_record names ["version", "name", "nodes", "edges"] (by decide) (by decide) rfl ?_
  simp only [List.forall_mem_cons, List.not_mem_nil, false_imp_iff, implies_true, and_true]
  exact ⟨rfl, rfl, nodes, edges⟩

end

end Codec

namespace GraphDocument

theorem parse?_toText {document : GraphDocument} {text : String} (written : document.toText = .ok text) :
    Ron.parse? text = some (.none, (Codec.datum document).shape false) := by
  unfold toText at written
  split at written
  · rename_i found
    cases written
    unfold Datum.toRon? at found
    rw [Option.map_eq_some_iff] at found
    obtain ⟨steps, -, rfl⟩ := found
    exact (Datum.reads_ron .pretty 0 (Codec.wellNamed_document false document)).parse?_eq
  · cases written

/-- What the reader makes of a written document before it looks at the version. -/
theorem read?_toText {document : GraphDocument} {text : String}
    (distinct : ∀ record ∈ document.nodes, (Field.composite record.pinned).distinct = true)
    (written : document.toText = .ok text) :
    Ron.read? GraphDocument text =
      if ∀ record ∈ document.nodes, ∀ pin ∈ record.pinned, pin.2.height ≤ 30 then some document else none := by
  rw [Ron.read?, parse?_toText written]
  exact Codec.read?_document false 30 distinct

/-- The text of a document is read as the document, or as one of a newer version, if no pinned
field is higher than the steps allow that lead from the beginning of the text to it; else the
text is none of a document. -/
theorem ofText_toText {document : GraphDocument} {text : String}
    (distinct : ∀ record ∈ document.nodes, (Field.composite record.pinned).distinct = true)
    (written : document.toText = .ok text) :
    ofText text =
      if ∀ record ∈ document.nodes, ∀ pin ∈ record.pinned, pin.2.height ≤ 30 then
        if currentVersion < document.version then .error (.newerVersion document.version) else .ok document
      else .error .malformed := by
  rw [ofText, read?_toText distinct written]
  split_ifs <;> simp_all

theorem exists_toText {document : GraphDocument}
    (steps : ((Codec.datum document).stepsAfter? Datum.maxSteps).isSome) :
    ∃ text, document.toText = .ok text := by
  obtain ⟨left, found⟩ := Option.isSome_iff_exists.mp steps
  exact ⟨_, by rw [toText, Datum.toRon?, found]; rfl⟩

/-- A document with texts that have to be escaped, numbers beyond the finite ones, fields within
fields, and a node and an edge whose order matters. -/
def annotatedDocument : GraphDocument where
  version := 0
  name := "\"Wörn\"\\\n"
  nodes :=
    [ ⟨"b", ⟨"Sample\u0301", 2⟩, "", [("Z", .list [.float (.nan true), .list []]),
        ("A", .composite [("y", .tag "it's"), ("x", .composite []), ("", .int (-7))])]⟩,
      ⟨"a", ⟨"Add", 1⟩, "Add", [("B", .float (.infinity true)), ("A", .float (.ofRatio true 1 3))]⟩ ]
  edges := [⟨"b", "Out", "a", "A"⟩, ⟨"a", "Out", "\x00", "'"⟩]

theorem ofText_toText_annotated :
    ∃ text, annotatedDocument.toText = .ok text ∧ ofText text = .ok annotatedDocument := by
  obtain ⟨text, written⟩ := exists_toText (show ((Codec.datum annotatedDocument).stepsAfter? 128).isSome by decide)
  exact ⟨text, written, by
    rw [ofText_toText (by decide) written, if_pos (by decide), if_neg (by decide)]⟩

/-- A field within as many lists as a number says. -/
def within : ℕ → Field → Field
  | 0, field => field
  | depth + 1, field => .list [within depth field]

/-- A document with a single pinned field within thirty lists. -/
def deepDocument : GraphDocument where
  version := currentVersion
  name := "Deep"
  nodes := [⟨"sum", ⟨"Add", 1⟩, "Add", [("A", within 30 (.bool true))]⟩]
  edges := []

theorem ofText_toText_deep : ∃ text, deepDocument.toText = .ok text ∧ ofText text = .error .malformed := by
  obtain ⟨text, written⟩ := exists_toText (show ((Codec.datum deepDocument).stepsAfter? 128).isSome by decide +kernel)
  have read := read?_toText (by decide +kernel) written
  rw [if_neg (by decide +kernel)] at read
  exact ⟨text, written, by rw [ofText, read]⟩

end GraphDocument

end ShadingGraph
