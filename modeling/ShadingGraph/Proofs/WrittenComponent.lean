import ShadingGraph.Proofs.AssemblyCompleteness
import ShadingGraph.Proofs.Connection
import ShadingGraph.Proofs.NumericText
import ShadingGraph.Proofs.Path

/-! # Components written by hand

Writing a component pins its port, and concretizing the node brings the field into the form
of the type, in which the component is the number that was written. The truth value `true` is
the exception: it stands for one, but no number is read from it, and zero takes its place. A
declaration shows the component as long as the field names no reference. A reference that a
declared default has left in the field stays there, and is written instead of the components.
-/

namespace ShadingGraph

/-! ## Paths of components -/

namespace Member

theorem separator_not_mem_component (index : Nat) : Path.separator ∉ (component index).toList := by
  rw [toList_component, List.mem_cons, not_or]
  refine ⟨by decide, fun inside => ?_⟩
  have digit := Nat.isDigit_of_mem_toDigits (by decide) (by decide) inside
  revert digit
  decide

theorem index?_component (index : Nat) : Path.index? (component index) = none := by
  simp [Path.index?, toList_component, isDigit]

theorem segments_component (index : Nat) : Path.segments (component index) = [component index] := by
  have nonempty : (component index).toList ≠ [] := by
    rw [toList_component]
    exact List.cons_ne_nil _ _
  rw [Path.segments_of_not_mem (separator_not_mem_component index)]
  exact if_neg fun empty => nonempty (String.toList_eq_nil_iff.mpr empty)

theorem parentAndLast_component (index : Nat) :
    Path.parentAndLast (component index) = ("", component index) := by
  rw [Path.parentAndLast, Text.splitLast?_eq_none.mpr (separator_not_mem_component index)]

end Member

namespace Field

variable {field changed value : Field} {index : Nat}

theorem get?_component (field : Field) (index : Nat) :
    field.get? (Member.component index) = field.child? (Member.component index) := by
  rw [get?, Member.segments_component, follow?]
  cases field.child? (Member.component index) <;> rfl

theorem set_component_eq_ok : field.set (Member.component index) value = .ok changed ↔
    ∃ members, field = .composite members ∧
      changed = .composite (Table.insert members (Member.component index) value) := by
  have named : Member.component index ≠ "" := by
    intro same
    have letters := Member.toList_component index
    rw [same] at letters
    cases letters
  have root : Path.segments "" = [] := by decide
  rw [set, if_neg named, Member.parentAndLast_component]
  dsimp only
  rw [root, changeAt]
  cases field <;> simp [putLast, Member.index?_component, eq_comm]

/-- The number that a scalar stands for. A truth value counts as one or zero, as it does in a
declared default. -/
def number? : Field → Option Binary32
  | .float value => some value
  | .int value => some (Binary32.ofInt value.toInt)
  | .bool value => some (if value then .one else .zero)
  | .tag _ | .text _ | .list _ | .composite _ => none

/-- All scalars but `true` are read as the number that they stand for, if no number counts as
zero. -/
theorem real?_getD_iff {number : Binary32} (scalar : value.number? = some number) :
    value.real?.getD .zero = number ↔ value ≠ .bool true := by
  cases value with
  | float | int =>
      cases scalar
      exact iff_of_true rfl nofun
  | bool truth =>
      cases scalar
      cases truth with
      | false => exact iff_of_true rfl nofun
      | true => exact iff_of_false (by decide) (absurd rfl)
  | tag | text | list | composite => cases scalar

variable {type : NumericType}

/-- What normalization makes of a field into which a component has been written. -/
structure WritesInto (type : NumericType) (field : Field) (index : Nat) (number : Binary32)
    (settled : Field) : Prop where
  component : settled.child? (Member.component index) = some (.float number)
  within : index < settled.componentCount
  reference : settled.child? Member.reference = field.child? Member.reference
  primitive : type.primitiveOf settled = type.primitiveOf field

theorem writesInto_normalize (inside : index < field.componentCount)
    (wrote : field.set (Member.component index) value = .ok changed) :
    field.WritesInto type index (value.real?.getD .zero) (type.normalize changed) := by
  obtain ⟨members, rfl, rfl⟩ := set_component_eq_ok.mp wrote
  have other : ∀ name, Member.isComponent name = false →
      (composite (Table.insert members (Member.component index) value)).child? name =
        (composite members).child? name := by
    intro name plain
    refine Table.find?_insert_of_ne members value ?_
    rintro rfl
    rw [Member.isComponent_component] at plain
    cases plain
  have count : (composite (Table.insert members (Member.component index) value)).componentCount =
      (composite members).componentCount :=
    componentCount_congr (other _ (by decide)) (other _ (by decide))
  rw [← count] at inside
  constructor
  · rw [type.child?_normalize_component inside, component, child?, Table.find?_insert_self,
      Option.bind_some]
  · exact Nat.lt_of_lt_of_le inside (type.retains_normalize _).componentCount
  · rw [type.child?_normalize_of_not_mem (by decide) (by decide), other _ (by decide)]
  · rw [type.primitiveOf_normalize, NumericType.primitiveOf, NumericType.primitiveOf, taggedChild?,
      taggedChild?, other _ (by decide)]

/-- The literal shows a component that was written, unless a reference takes its place. -/
theorem WritesInto.shown_iff {number : Binary32} {settled : Field}
    (writes : field.WritesInto type index number settled) :
    (NumericType.writtenComponents (type.literal settled))[index]? =
        some (NumericType.componentText (type.primitiveOf field) number) ↔
      ∀ reference, (field.child? Member.reference).bind string? = some reference →
        (NumericType.writtenComponents reference)[index]? =
          some (NumericType.componentText (type.primitiveOf field) number) := by
  cases named : (field.child? Member.reference).bind string? with
  | some reference =>
      have literal : type.literal settled = reference := by
        rw [NumericType.literal, writes.reference, named]
      simp only [literal, Option.some.injEq, forall_eq']
  | none =>
      have read : settled.component index = number := by
        rw [Field.component, writes.component]
        rfl
      have shown := NumericType.writtenComponents_literal type (writes.reference ▸ named)
      refine iff_of_true ?_ fun reference names => by cases names
      rw [shown, components, List.map_map, List.getElem?_map, List.getElem?_range writes.within,
        Option.map_some, Function.comp_apply, read, writes.primitive]

end Field

/-! ## The port that is written -/

namespace Node

/-- Two nodes of one name with the same variant of the same definition. -/
structure SameVariant (node other : Node) : Prop where
  name : other.name = node.name
  definitionKey : other.definitionKey = node.definitionKey
  selectedVariant : other.selectedVariant = node.selectedVariant

theorem ShapedBy.hasVariant {registry : Registry} {node : Node}
    (shaped : node.ShapedBy registry node.selectedVariant) : node.HasVariant registry := by
  obtain ⟨definition, variant, known, selected, -⟩ := shaped
  exact ⟨definition, variant, known, selected⟩

theorem SameVariant.trans {node other third : Node} (first : node.SameVariant other)
    (second : other.SameVariant third) : node.SameVariant third :=
  ⟨second.name.trans first.name, second.definitionKey.trans first.definitionKey,
    second.selectedVariant.trans first.selectedVariant⟩

theorem exists_port?_setPortField {node changed : Node} {name path : String} {value : Field}
    (done : node.setPortField name path value = .ok changed) :
    ∃ port field, node.port? name = some port ∧ port.field.set path value = .ok field ∧
      changed.port? name = some { port with field, pinned := true } ∧ node.SameVariant changed := by
  obtain ⟨before, port, after, port', split, apart, named, wrote, rfl⟩ := changePort_eq_ok.mp done
  have earlier : before.find? (·.name = name) = none := by
    simpa using apart
  cases set : port.field.set path value with
  | error error =>
      rw [set] at wrote
      cases wrote
  | ok field =>
      rw [set] at wrote
      cases wrote
      exact ⟨port, field, by simp [port?, split, List.find?_append, earlier, named], set,
        by simp [port?, List.find?_append, earlier, named], rfl, rfl, rfl⟩

end Node

namespace Graph

variable {registry : Registry} {graph written next : Graph} {ref : PortRef} {port : Port}

theorem attempt_eq_done {outcome : Except GraphError Graph} :
    graph.attempt outcome = (next, none) ↔ outcome = .ok next := by
  cases outcome <;> simp [attempt]

theorem exists_port?_setPortField {owner target path : String} {value : Field} {node : Node}
    (foundNode : graph.node? owner = some node) (foundPort : node.port? target = some port)
    (wrote : graph.apply registry (.setPortField owner target path value) = (written, none)) :
    ∃ changed field, port.field.set path value = .ok field ∧
      written.node? owner = some changed ∧ node.SameVariant changed ∧
      changed.port? target = some { port with field, pinned := true } := by
  obtain ⟨_, changed, foundNode', made, rfl⟩ := changeNode_eq_ok.mp (attempt_eq_done.mp wrote)
  cases foundNode.symm.trans foundNode'
  obtain ⟨_, field, foundPort', set, foundChanged, same⟩ := Node.exists_port?_setPortField made
  cases foundPort.symm.trans foundPort'
  refine ⟨changed, field, set, ?_, same, foundChanged⟩
  rw [node?_replaceNode, foundNode, Option.map_some, if_pos same.name.symm]

theorem hasParameter_congr {node changed : Node} {name : String}
    (found : graph.node? name = some node) (found' : written.node? name = some changed)
    (same : node.SameVariant changed) (signature : String × Key × Usage) :
    written.HasParameter registry name signature ↔ graph.HasParameter registry name signature := by
  unfold HasParameter selectedParameters
  rw [found, found', Option.bind_some, Option.bind_some, same.definitionKey, same.selectedVariant]

theorem shapedBy_of_reconcretize {name : String} {final : Node}
    (done : graph.reconcretize name registry = .ok next) (found : next.node? name = some final) :
    final.ShapedBy registry final.selectedVariant := by
  obtain ⟨node, definition, ports, former, known, concretized, rfl⟩ := reconcretize_eq_ok.mp done
  rw [node?_replaceNode, former, Option.map_some, if_pos rfl] at found
  cases found
  exact Node.shapedBy_of_concretize known concretized

theorem exists_sameVariant_of_reconcretize {name : String} {node : Node}
    (done : graph.reconcretize name registry = .ok next) (found : graph.node? name = some node) :
    ∃ final, next.node? name = some final ∧ node.SameVariant final := by
  have alike : graph.Alike registry next := .of_reconcretize done
  obtain ⟨final, foundFinal, same⟩ := (found ▸ alike.nodes name).exists_right
  exact ⟨final, foundFinal, same.name.symm, same.definitionKey.symm, same.selectedVariant.symm⟩

theorem hasParameter_of_reconcretize {name : String} {final : Node}
    (done : graph.reconcretize name registry = .ok next) (found : next.node? name = some final)
    (inside : port ∈ final.ports) : graph.HasParameter registry name port.signature :=
  have alike : graph.Alike registry next := .of_reconcretize done
  (hasParameter_of_shapedBy found (shapedBy_of_reconcretize done found) inside).of_alike alike.symm

variable {shape : NumericType} {owner target : String} {index : Nat} {value : Field} {node : Node}

theorem exists_reconcretize_written (valid : registry.Consistent) {path : String}
    (foundNode : graph.node? owner = some node) (foundPort : node.port? target = some port)
    (wrote : graph.apply registry (.setPortField owner target path value) = (written, none))
    (has : node.HasVariant registry) : ∃ next, written.reconcretize owner registry = .ok next := by
  obtain ⟨changed, _, -, foundChanged, same, -⟩ := exists_port?_setPortField foundNode foundPort wrote
  obtain ⟨definition, variant, known, selected⟩ := has
  exact (exists_reconcretize_iff valid).mpr ⟨changed, foundChanged, definition, variant,
    same.definitionKey ▸ known, same.selectedVariant ▸ selected⟩

/-- A port that the node has after it is concretized is one that its variant declares already
when the write is made. -/
theorem hasParameter_of_written {path : String} {settled : Port}
    (foundNode : graph.node? ref.node = some node) (foundPort : node.port? ref.port = some port)
    (wrote : graph.apply registry (.setPortField ref.node ref.port path value) = (written, none))
    (done : written.reconcretize ref.node registry = .ok next)
    (foundSettled : next.port? ref = some settled) :
    graph.HasParameter registry ref.node settled.signature := by
  obtain ⟨changed, _, -, foundChanged, same, -⟩ := exists_port?_setPortField foundNode foundPort wrote
  obtain ⟨final, foundFinal, foundFinalPort⟩ := port?_eq_some.mp foundSettled
  exact (hasParameter_congr foundNode foundChanged same _).mp
    (hasParameter_of_reconcretize done foundFinal (List.mem_of_find?_eq_some foundFinalPort))

/-- Writing a component and concretizing the node settles the written port, if the variant of
the node declares it. -/
theorem exists_port?_written (valid : registry.Consistent) (consistent : graph.Consistent registry)
    (foundNode : graph.node? owner = some node) (foundPort : node.port? target = some port)
    (numeric : registry.type port.typeKey = .ok (.numeric shape))
    (inside : index < port.field.componentCount)
    (wrote : graph.apply registry
      (.setPortField owner target (Member.component index) value) = (written, none))
    (declared : graph.HasParameter registry owner port.signature)
    (done : written.reconcretize owner registry = .ok next) :
    ∃ final settled, next.node? owner = some final ∧ node.SameVariant final ∧
      final.port? target = some { port with field := settled, pinned := true } ∧
      port.field.WritesInto shape index (value.real?.getD .zero) settled := by
  obtain ⟨changed, field, set, foundChanged, same, foundWritten⟩ :=
    exists_port?_setPortField foundNode foundPort wrote
  have consistent' : written.Consistent registry := by
    have kept := consistent.apply valid (.setPortField owner target (Member.component index) value)
    rwa [wrote] at kept
  obtain ⟨final, foundFinal, same'⟩ := exists_sameVariant_of_reconcretize done foundChanged
  have found : written.port? ⟨owner, target⟩ = some { port with field, pinned := true } :=
    port?_eq_some.mpr ⟨changed, foundChanged, foundWritten⟩
  obtain ⟨_, foundFinal', foundSettled⟩ := port?_eq_some.mp (port?_reconcretize valid consistent'
    found rfl numeric ((hasParameter_congr foundNode foundChanged same port.signature).mpr declared) done)
  cases foundFinal.symm.trans foundFinal'
  exact ⟨final, _, foundFinal, same.trans same', foundSettled, Field.writesInto_normalize inside set⟩

/-! ## A node to write into -/

/-- A graph with a node of ten inputs, among them a truth value and a reference. -/
def imposterGraph : Graph :=
  ofHistory (.ofHistory standardHistory) "Imposter" [.addNode ⟨"ImposterUV", 1⟩ "imposter"]

/-- Inputs of the node with their types, numbers of components and references. -/
def imposterInputs : List (String × NumericType × Nat × Option String) :=
  [ ("HemiSphere", .named "Bool" .bool .one .one, 1, none),
    ("Offset", .named "Vec3" .float .three .one, 3, none),
    ("inUV", .named "Vec4" .float .four .one, 4, some "UV0") ]

theorem exists_imposterNode : ∃ node, imposterGraph.node? "imposter" = some node ∧
    node.ShapedBy (.ofHistory standardHistory) node.selectedVariant := by
  obtain ⟨node, found, definition, known, variant, selected, ports⟩ :
      ∃ node ∈ imposterGraph.node? "imposter",
        ∃ definition ∈ Table.find? (Registry.ofHistory standardHistory).nodes node.definitionKey,
        ∃ variant ∈ definition.variant? node.selectedVariant,
          node.ports.map Port.signature = variant.parameters.map Parameter.signature := by
    decide +kernel
  exact ⟨node, found, definition, variant, Registry.node_eq_ok.mpr known, selected, ports⟩

theorem exists_imposterInput {node : Node} (found : imposterGraph.node? "imposter" = some node)
    {name : String} {type : NumericType} {count : Nat} {reference : Option String}
    (listed : (name, type, count, reference) ∈ imposterInputs) :
    ∃ port, node.port? name = some port ∧ port.usage.hasInlineValue = true ∧
      (Registry.ofHistory standardHistory).type port.typeKey = .ok (.numeric type) ∧
      port.field.componentCount = count ∧ type.primitiveOf port.field = type.primitive ∧
      (port.field.child? Member.reference).bind Field.string? = reference := by
  have all : ∀ input ∈ imposterInputs, ∃ node ∈ imposterGraph.node? "imposter",
      ∃ port ∈ node.port? input.1, port.usage.hasInlineValue = true ∧
        Table.find? (Registry.ofHistory standardHistory).types port.typeKey =
          some (.numeric input.2.1) ∧
        port.field.componentCount = input.2.2.1 ∧
        input.2.1.primitiveOf port.field = input.2.1.primitive ∧
        (port.field.child? Member.reference).bind Field.string? = input.2.2.2 := by
    decide +kernel
  obtain ⟨_, found', port, foundPort, inline, known, rest⟩ := all _ listed
  cases found.symm.trans found'
  exact ⟨port, foundPort, inline, Registry.type_eq_ok.mpr known, rest⟩

theorem exists_imposterWrite {name path : String}
    (foundNode : imposterGraph.node? "imposter" = some node)
    (shaped : node.ShapedBy (.ofHistory standardHistory) node.selectedVariant)
    (foundPort : node.port? name = some port)
    (succeeded : (imposterGraph.apply (.ofHistory standardHistory)
      (.setPortField "imposter" name path value)).2 = none) :
    ∃ written next,
      imposterGraph.apply (.ofHistory standardHistory) (.setPortField "imposter" name path value) =
        (written, none) ∧
      written.reconcretize "imposter" (.ofHistory standardHistory) = .ok next := by
  obtain ⟨written, wrote⟩ : ∃ written, imposterGraph.apply (.ofHistory standardHistory)
      (.setPortField "imposter" name path value) = (written, none) :=
    ⟨_, Prod.ext rfl succeeded⟩
  obtain ⟨next, done⟩ := exists_reconcretize_written (Registry.consistent_ofHistory standardHistory)
    foundNode foundPort wrote shaped.hasVariant
  exact ⟨written, next, wrote, done⟩

/-! ## Reading the component back -/

/-- A scalar that is written into a component is read back as the number that it stands for
exactly when the selected variant still declares the port and the scalar is not `true`. -/
theorem readsBack_iff {history : List Registration} {name : String} {edits : List Edit}
    (reached : ofHistory (.ofHistory history) name edits = graph)
    (found : graph.port? ref = some port)
    (numeric : (Registry.ofHistory history).type port.typeKey = .ok (.numeric shape))
    (inside : index < port.field.componentCount) {number : Binary32}
    (scalar : value.number? = some number)
    (wrote : graph.apply (.ofHistory history)
      (.setPortField ref.node ref.port (Member.component index) value) = (written, none))
    (done : written.reconcretize ref.node (.ofHistory history) = .ok next) :
    (∃ settled, next.port? ref = some settled ∧ settled.signature = port.signature ∧
        (settled.field.get? (Member.component index)).bind Field.real? = some number) ↔
      graph.HasParameter (.ofHistory history) ref.node port.signature ∧ value ≠ .bool true := by
  subst reached
  have valid := Registry.consistent_ofHistory history
  have consistent := consistent_ofHistory valid name edits
  obtain ⟨node, foundNode, foundPort⟩ := port?_eq_some.mp found
  rw [← Field.real?_getD_iff scalar]
  constructor
  · rintro ⟨settled, foundSettled, signature, read⟩
    have declared := signature ▸
      hasParameter_of_written foundNode foundPort wrote done foundSettled
    obtain ⟨final, field, foundFinal, -, foundField, writes⟩ := exists_port?_written valid consistent
      foundNode foundPort numeric inside wrote declared done
    cases foundSettled.symm.trans (port?_eq_some.mpr ⟨final, foundFinal, foundField⟩)
    rw [Field.get?_component, writes.component] at read
    exact ⟨declared, Option.some.inj read⟩
  · rintro ⟨declared, reads⟩
    obtain ⟨final, field, foundFinal, -, foundField, writes⟩ := exists_port?_written valid consistent
      foundNode foundPort numeric inside wrote declared done
    refine ⟨_, port?_eq_some.mpr ⟨final, foundFinal, foundField⟩, rfl, ?_⟩
    rw [Field.get?_component, writes.component, Option.bind_some, Field.real?, reads]

theorem readsBack_count : ∃ written next settled,
    imposterGraph.apply (.ofHistory standardHistory)
        (.setPortField "imposter" "HemiSphere" (Member.component 0) (.int 7)) = (written, none) ∧
      written.reconcretize "imposter" (.ofHistory standardHistory) = .ok next ∧
      next.port? ⟨"imposter", "HemiSphere"⟩ = some settled ∧
      (settled.field.get? (Member.component 0)).bind Field.real? = some (Binary32.ofInt 7) := by
  obtain ⟨node, foundNode, shaped⟩ := exists_imposterNode
  obtain ⟨port, foundPort, -, numeric, count, -⟩ :=
    exists_imposterInput foundNode List.mem_cons_self
  obtain ⟨written, next, wrote, done⟩ := exists_imposterWrite foundNode shaped foundPort
    (show (imposterGraph.apply (.ofHistory standardHistory)
      (.setPortField "imposter" "HemiSphere" (Member.component 0) (.int 7))).2 = none by decide +kernel)
  have found : imposterGraph.port? ⟨"imposter", "HemiSphere"⟩ = some port :=
    port?_eq_some.mpr ⟨node, foundNode, foundPort⟩
  have declared := hasParameter_of_shapedBy foundNode shaped (List.mem_of_find?_eq_some foundPort)
  obtain ⟨settled, foundSettled, -, read⟩ :=
    (readsBack_iff rfl found numeric (count ▸ by decide) rfl wrote done).mpr ⟨declared, nofun⟩
  exact ⟨written, next, settled, wrote, done, foundSettled, read⟩

/-- The truth value `true` is written into a truth value and read back as zero. -/
theorem not_readsBack_true : ∃ port written next settled,
    imposterGraph.port? ⟨"imposter", "HemiSphere"⟩ = some port ∧
      (Registry.ofHistory standardHistory).type port.typeKey =
        .ok (.numeric (.named "Bool" .bool .one .one)) ∧
      0 < port.field.componentCount ∧
      imposterGraph.apply (.ofHistory standardHistory)
        (.setPortField "imposter" "HemiSphere" (Member.component 0) (.bool true)) = (written, none) ∧
      written.reconcretize "imposter" (.ofHistory standardHistory) = .ok next ∧
      next.port? ⟨"imposter", "HemiSphere"⟩ = some settled ∧ settled.signature = port.signature ∧
      (settled.field.get? (Member.component 0)).bind Field.real? = some .zero ∧
      Field.number? (.bool true) ≠ some .zero := by
  have valid := Registry.consistent_ofHistory standardHistory
  obtain ⟨node, foundNode, shaped⟩ := exists_imposterNode
  obtain ⟨port, foundPort, -, numeric, count, -⟩ :=
    exists_imposterInput foundNode List.mem_cons_self
  have inside : 0 < port.field.componentCount := count ▸ by decide
  obtain ⟨written, next, wrote, done⟩ := exists_imposterWrite foundNode shaped foundPort
    (show (imposterGraph.apply (.ofHistory standardHistory)
      (.setPortField "imposter" "HemiSphere" (Member.component 0) (.bool true))).2 = none by
        decide +kernel)
  obtain ⟨final, field, foundFinal, -, foundField, writes⟩ := exists_port?_written valid
    (consistent_ofHistory valid _ _) foundNode foundPort numeric inside wrote
      (hasParameter_of_shapedBy foundNode shaped (List.mem_of_find?_eq_some foundPort)) done
  refine ⟨port, written, next, _, port?_eq_some.mpr ⟨node, foundNode, foundPort⟩, numeric, inside,
    wrote, done, port?_eq_some.mpr ⟨final, foundFinal, foundField⟩, rfl, ?_, by decide⟩
  rw [Field.get?_component, writes.component]
  rfl

end Graph

/-! ## Declaring the component -/

/-- The initializer of the declaration has the text as its component of an index. -/
def Declaration.Shows (declaration : Declaration) (index : Nat) (text : String) : Prop :=
  declaration.initializer.bind (fun initializer => (NumericType.writtenComponents initializer)[index]?) =
    some text

instance (declaration : Declaration) (index : Nat) (text : String) :
    Decidable (declaration.Shows index text) :=
  inferInstanceAs (Decidable (_ = _))

theorem Assembly.declaration_of_port {registry : Registry} {settings : AssemblySettings} {node : Node}
    {fragment : Fragment} {k : Nat} {port : Port} {type : DataType}
    (assembled : assemble settings registry node = .ok fragment) (at_k : node.ports[k]? = some port)
    (known : registry.type port.typeKey = .ok type) (inline : port.usage.hasInlineValue = true) :
    ∃ declaration, fragment.declarations[k]? = some declaration ∧
      declaration.initializer = type.literal? port.field := by
  obtain ⟨-, declared⟩ := assemble_eq_ok assembled
  obtain ⟨declaration, at_declaration, made⟩ := (declareAll_eq_ok declared).exists_getElem? at_k
  obtain ⟨type', known', made⟩ := Outcome.bind_eq_ok.mp made
  cases known.symm.trans known'
  cases Outcome.pure_eq_ok.mp made
  exact ⟨_, at_declaration, if_pos inline⟩

namespace Graph

variable {graph written : Graph} {owner target : String} {port : Port} {shape : NumericType}
  {index : Nat}

/-- A number that is written into a component of a declared port is the one that the port is
declared with, unless the field names a reference. Then the reference is what is declared, and
the number is shown only if the reference happens to show it. -/
theorem showsWritten_iff {history : List Registration} {name : String} {edits : List Edit}
    (reached : ofHistory (.ofHistory history) name edits = graph) {node : Node}
    (foundNode : graph.node? owner = some node)
    (shaped : node.ShapedBy (.ofHistory history) node.selectedVariant)
    (foundPort : node.port? target = some port) (inline : port.usage.hasInlineValue = true)
    (numeric : (Registry.ofHistory history).type port.typeKey = .ok (.numeric shape))
    (inside : index < port.field.componentCount) {number : Binary32}
    (wrote : graph.apply (.ofHistory history)
      (.setPortField owner target (Member.component index) (.float number)) = (written, none)) :
    ∃ next final, written.reconcretize owner (.ofHistory history) = .ok next ∧
      next.node? owner = some final ∧ ∀ settings,
        ((∃ fragment, assemble settings (.ofHistory history) final = .ok fragment) ↔
          ∃ fragment, assemble settings (.ofHistory history) node = .ok fragment) ∧
        ∀ fragment, assemble settings (.ofHistory history) final = .ok fragment →
          ∃ (k : Nat) (settled : Port) (declaration : Declaration),
            final.ports[k]? = some settled ∧ settled.name = target ∧
            fragment.declarations[k]? = some declaration ∧
            (∀ reference, (port.field.child? Member.reference).bind Field.string? = some reference →
              declaration.initializer = some reference) ∧
            (declaration.Shows index
                (NumericType.componentText (shape.primitiveOf port.field) number) ↔
              ∀ reference, (port.field.child? Member.reference).bind Field.string? = some reference →
                (NumericType.writtenComponents reference)[index]? =
                  some (NumericType.componentText (shape.primitiveOf port.field) number)) := by
  subst reached
  have valid := Registry.consistent_ofHistory history
  obtain ⟨next, done⟩ :=
    exists_reconcretize_written valid foundNode foundPort wrote shaped.hasVariant
  obtain ⟨final, field, foundFinal, same, foundSettled, writes⟩ :=
    exists_port?_written valid (consistent_ofHistory valid name edits) foundNode foundPort numeric
      inside wrote (hasParameter_of_shapedBy foundNode shaped (List.mem_of_find?_eq_some foundPort)) done
  obtain ⟨k, at_k⟩ := List.getElem?_of_mem (List.mem_of_find?_eq_some foundSettled)
  refine ⟨next, final, done, foundFinal, fun settings => ⟨?_, fun fragment assembled => ?_⟩⟩
  · rw [Assembly.exists_assemble_iff valid shaped,
      Assembly.exists_assemble_iff valid (shapedBy_of_reconcretize done foundFinal), same.name,
      same.definitionKey, same.selectedVariant]
  · obtain ⟨declaration, at_declaration, initializer⟩ :=
      Assembly.declaration_of_port assembled at_k numeric inline
    refine ⟨k, _, declaration, at_k, Node.name_of_port? foundSettled, at_declaration, ?_, ?_⟩
    · intro reference named
      rw [initializer, DataType.literal?, NumericType.literal, writes.reference, named]
    · rw [Declaration.Shows, initializer, DataType.literal?, Option.bind_some]
      exact writes.shown_iff

theorem showsWritten_offset : ∃ written next final fragment declaration,
    imposterGraph.apply (.ofHistory standardHistory)
        (.setPortField "imposter" "Offset" (Member.component 1) (.float .one)) = (written, none) ∧
      written.reconcretize "imposter" (.ofHistory standardHistory) = .ok next ∧
      next.node? "imposter" = some final ∧
      assemble .standard (.ofHistory standardHistory) final = .ok fragment ∧
      declaration ∈ fragment.declarations ∧ declaration.Shows 1 "1.0" := by
  obtain ⟨node, foundNode, shaped⟩ := exists_imposterNode
  obtain ⟨port, foundPort, inline, numeric, count, primitive, unreferenced⟩ :=
    exists_imposterInput foundNode (List.mem_cons_of_mem _ List.mem_cons_self)
  obtain ⟨written, wrote⟩ : ∃ written, imposterGraph.apply (.ofHistory standardHistory)
      (.setPortField "imposter" "Offset" (Member.component 1) (.float .one)) = (written, none) :=
    ⟨_, Prod.ext rfl (by decide +kernel)⟩
  obtain ⟨former, assembled⟩ :
      ∃ fragment, assemble .standard (.ofHistory standardHistory) node = .ok fragment := by
    obtain ⟨_, found, yields⟩ : ∃ node ∈ imposterGraph.node? "imposter",
        Outcome.yields (assemble .standard (.ofHistory standardHistory) node) (fun _ => True) = true := by
      decide +kernel
    cases foundNode.symm.trans found
    obtain ⟨fragment, assembled, -⟩ := Outcome.exists_of_yields yields
    exact ⟨fragment, assembled⟩
  obtain ⟨next, final, done, foundFinal, declares⟩ := showsWritten_iff rfl foundNode shaped foundPort
    inline numeric (count ▸ by decide) wrote
  obtain ⟨able, each⟩ := declares .standard
  obtain ⟨fragment, assembled⟩ := able.mpr ⟨former, assembled⟩
  obtain ⟨k, settled, declaration, -, -, at_k, -, shown⟩ := each fragment assembled
  refine ⟨written, next, final, fragment, declaration, wrote, done, foundFinal, assembled,
    List.mem_of_getElem? at_k, ?_⟩
  rw [primitive, unreferenced] at shown
  exact shown.mpr nofun

/-- The first component of `inUV` is written, and its declaration still names the texture
coordinates that are the declared default. -/
theorem not_showsWritten_reference : ∃ node port written next final fragment,
    imposterGraph.node? "imposter" = some node ∧
      node.ShapedBy (.ofHistory standardHistory) node.selectedVariant ∧
      node.port? "inUV" = some port ∧ port.usage.hasInlineValue = true ∧
      (Registry.ofHistory standardHistory).type port.typeKey =
        .ok (.numeric (.named "Vec4" .float .four .one)) ∧
      0 < port.field.componentCount ∧
      imposterGraph.apply (.ofHistory standardHistory)
        (.setPortField "imposter" "inUV" (Member.component 0) (.float (.ofInt 5))) = (written, none) ∧
      written.reconcretize "imposter" (.ofHistory standardHistory) = .ok next ∧
      next.node? "imposter" = some final ∧
      assemble .standard (.ofHistory standardHistory) final = .ok fragment ∧
      ⟨"imposter_inUV", "float4", some "UV0"⟩ ∈ fragment.declarations ∧
      NumericType.componentText .float (.ofInt 5) = "5.0" ∧
      ¬Declaration.Shows ⟨"imposter_inUV", "float4", some "UV0"⟩ 0 "5.0" := by
  obtain ⟨node, foundNode, shaped⟩ := exists_imposterNode
  obtain ⟨port, foundPort, inline, numeric, count, -⟩ := exists_imposterInput foundNode
    (List.mem_cons_of_mem _ (List.mem_cons_of_mem _ List.mem_cons_self))
  obtain ⟨next, done, final, foundFinal, yields⟩ : ∃ next,
      (imposterGraph.apply (.ofHistory standardHistory) (.setPortField "imposter" "inUV"
        (Member.component 0) (.float (.ofInt 5)))).1.reconcretize "imposter"
          (.ofHistory standardHistory) = .ok next ∧
        ∃ final ∈ next.node? "imposter",
          Outcome.yields (assemble .standard (.ofHistory standardHistory) final) (fun fragment =>
            ⟨"imposter_inUV", "float4", some "UV0"⟩ ∈ fragment.declarations) = true :=
    Outcome.exists_of_yields (by decide +kernel)
  obtain ⟨fragment, assembled, declared⟩ := Outcome.exists_of_yields yields
  exact ⟨node, port, _, next, final, fragment, foundNode, shaped, foundPort, inline, numeric,
    count ▸ by decide, Prod.ext rfl (by decide +kernel), done, foundFinal, assembled, declared,
    by decide +kernel, by decide +kernel⟩

end Graph

end ShadingGraph
