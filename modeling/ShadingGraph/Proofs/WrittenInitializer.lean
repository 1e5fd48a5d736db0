import ShadingGraph.Proofs.Gradient
import ShadingGraph.Proofs.WrittenComponent

/-! # Initializers of ports written by hand

Any value can be written into a port, over its whole field too. Concretizing the node then
brings a numeric field into form, and a sampler state is read from a field of any form. The
field of a gradient is left as it was written, and only one that spells out a gradient can be
declared with it. So a gradient is the one type whose port a write can cost its initializer.
-/

namespace ShadingGraph

/-! ## Fields that can be declared -/

/-- A type that can write its own default can write any field, except that a gradient has to
be spelled out. -/
theorem DataType.isSome_literal?_iff {type : DataType} {field : Field}
    (inline : (type.literal? (type.defaultField none)).isSome) :
    (type.literal? field).isSome ↔ (type = .gradient → field.HasGradient) := by
  cases type with
  | numeric | samplerState => exact iff_of_true rfl nofun
  | gradient =>
      rw [literal?, Option.isSome_map, Option.isSome_iff_exists, Gradient.exists_ofField?_iff]
      exact ⟨fun has _ => has, fun has => has rfl⟩
  | texture2D => cases inline

/-! ## Declarations with an initializer -/

/-- The fragment of the node declares its port of a signature with an initializer. -/
def Fragment.Initializes (settings : AssemblySettings) (node : Node) (signature : String × Key × Usage)
    (fragment : Fragment) : Prop :=
  ∃ declared ∈ node.ports.zip fragment.declarations, declared.1.signature = signature ∧
    declared.2.identifier = portIdentifier settings node.name declared.1.name ∧
    declared.2.initializer.isSome

instance (settings : AssemblySettings) (node : Node) (signature : String × Key × Usage)
    (fragment : Fragment) : Decidable (fragment.Initializes settings node signature) :=
  inferInstanceAs (Decidable (∃ declared ∈ node.ports.zip fragment.declarations, _))

theorem Assembly.initializes_iff {registry : Registry} {settings : AssemblySettings} {node : Node}
    {fragment : Fragment} {signature : String × Key × Usage}
    (assembled : assemble settings registry node = .ok fragment) :
    fragment.Initializes settings node signature ↔
      ∃ port ∈ node.ports, port.signature = signature ∧ port.usage.hasInlineValue = true ∧
        ∃ type, registry.type port.typeKey = .ok type ∧ (type.literal? port.field).isSome := by
  obtain ⟨-, declared⟩ := assemble_eq_ok assembled
  have paired := declareAll_eq_ok declared
  constructor
  · rintro ⟨⟨port, declaration⟩, inside, same, -, initialized⟩
    have made := (List.forall₂_iff_zip.mp paired).2 inside
    obtain ⟨type, known, made⟩ := Outcome.bind_eq_ok.mp made
    cases Outcome.pure_eq_ok.mp made
    by_cases inline : port.usage.hasInlineValue = true
    · rw [if_pos inline] at initialized
      exact ⟨port, (List.of_mem_zip inside).1, same, inline, type, known, initialized⟩
    · rw [if_neg inline] at initialized
      cases initialized
  · rintro ⟨port, inside, same, inline, type, known, written⟩
    obtain ⟨k, at_k⟩ := List.getElem?_of_mem inside
    obtain ⟨declaration, at_declaration, made⟩ := paired.exists_getElem? at_k
    have inside : (port, declaration) ∈ node.ports.zip fragment.declarations :=
      List.mem_of_getElem? (List.getElem?_zip_eq_some.mpr ⟨at_k, at_declaration⟩)
    obtain ⟨type', known', made⟩ := Outcome.bind_eq_ok.mp made
    cases known.symm.trans known'
    cases Outcome.pure_eq_ok.mp made
    refine ⟨_, inside, same, rfl, ?_⟩
    rwa [if_pos inline]

/-! ## Runs of writes -/

/-- Write a sequence of values into a field, each at its path. -/
def Field.setAll (field : Field) (changes : List (String × Field)) : Except FieldError Field :=
  changes.foldlM (fun field change => field.set change.1 change.2) field

/-- Port that the edit writes into, with the path in its field and the value. -/
def Edit.write? : Edit → Option (PortRef × String × Field)
  | .setPortField node port path value => some (⟨node, port⟩, path, value)
  | .setField node address value =>
    (Address.ofText? address).map fun target => (⟨node, target.port⟩, target.path, value)
  | .addNode .. | .removeNode _ | .connect _ | .deleteEdges _ | .clearPin .. | .selectVariant ..
  | .reconcretize _ | .reconcretizeAll => none

namespace Graph

variable {registry : Registry} {graph written next : Graph} {ref : PortRef} {port : Port}
  {changes : List (String × Field)} {node : Node} {type : DataType}

/-- A sequence of successful writes into one port, each given by its path and value. -/
inductive Writes (registry : Registry) (ref : PortRef) :
    Graph → List (String × Field) → Graph → Prop
  | done (graph : Graph) : Writes registry ref graph [] graph
  | step {graph middle written : Graph} (edit : Edit) {change : String × Field}
      {changes : List (String × Field)} (writes : edit.write? = some (ref, change))
      (succeeded : graph.apply registry edit = (middle, none))
      (rest : Writes registry ref middle changes written) :
      Writes registry ref graph (change :: changes) written

theorem apply_eq_setPortField {edit : Edit} {change : String × Field}
    (writes : edit.write? = some (ref, change)) :
    graph.apply registry edit =
      graph.apply registry (.setPortField ref.node ref.port change.1 change.2) := by
  cases edit with
  | setPortField => cases writes; rfl
  | setField name address value =>
      obtain ⟨target, named, same⟩ := Option.map_eq_some_iff.mp writes
      cases same
      simp only [apply, Node.setField, named]
  | _ => cases writes

/-- After the writes the port has the field that they make of its own, and the node is still
one of its variant. -/
theorem Writes.exists_port? (writes : graph.Writes registry ref changes written)
    (foundNode : graph.node? ref.node = some node) (foundPort : node.port? ref.port = some port) :
    ∃ changed field, port.field.setAll changes = .ok field ∧
      written.node? ref.node = some changed ∧ node.SameVariant changed ∧
      changed.port? ref.port =
        some { port with field, pinned := port.pinned || !changes.isEmpty } := by
  induction writes generalizing node port with
  | done => exact ⟨node, port.field, rfl, foundNode, ⟨rfl, rfl, rfl⟩, by simpa using foundPort⟩
  | step edit writes succeeded rest ih =>
      rw [apply_eq_setPortField writes] at succeeded
      obtain ⟨changed, field, set, foundChanged, same, foundWritten⟩ :=
        exists_port?_setPortField foundNode foundPort succeeded
      obtain ⟨final, field', set', foundFinal, same', foundPort'⟩ := ih foundChanged foundWritten
      refine ⟨final, field', ?_, foundFinal, same.trans same', by simpa using foundPort'⟩
      rw [Field.setAll, List.foldlM_cons, set]
      exact set'

theorem Consistent.writes (valid : registry.Consistent) (consistent : graph.Consistent registry)
    (writes : graph.Writes registry ref changes written) : written.Consistent registry := by
  induction writes with
  | done => exact consistent
  | step edit writes succeeded rest ih =>
      have kept := consistent.apply valid edit
      rw [succeeded] at kept
      exact ih kept

/-! ## Concretizing and declaring the port -/

variable {settings : AssemblySettings} {final : Node} {fragment : Fragment}

theorem initializes_iff_of_reconcretize (valid : registry.Consistent)
    (consistent : graph.Consistent registry) (found : graph.port? ref = some port)
    (inline : port.usage.hasInlineValue = true) (known : registry.type port.typeKey = .ok type)
    (literal : (type.literal? (type.defaultField none)).isSome)
    (done : graph.reconcretize ref.node registry = .ok next)
    (foundFinal : next.node? ref.node = some final)
    (assembled : assemble settings registry final = .ok fragment) :
    fragment.Initializes settings final port.signature ↔
      graph.HasParameter registry ref.node port.signature ∧
        (type = .gradient → ∀ settled, next.port? ref = some settled → settled.field.HasGradient) := by
  have shaped := shapedBy_of_reconcretize done foundFinal
  have portName : port.name = ref.port := by
    obtain ⟨_, -, foundPort⟩ := port?_eq_some.mp found
    exact Node.name_of_port? foundPort
  rw [Assembly.initializes_iff assembled]
  constructor
  · rintro ⟨settled, inside, same, -, type', known', written⟩
    have key : settled.typeKey = port.typeKey := congrArg (·.2.1) same
    cases known.symm.trans (key ▸ known')
    have declared := hasParameter_of_reconcretize done foundFinal inside
    refine ⟨same ▸ declared, fun gradient settled' found' => ?_⟩
    obtain ⟨_, foundFinal', foundPort'⟩ := port?_eq_some.mp found'
    cases foundFinal.symm.trans foundFinal'
    have name : settled.name = ref.port := (congrArg (·.1) same).trans portName
    have foundPort := Node.port?_of_mem (shaped.conforms.distinctPorts valid) inside
    cases (name ▸ foundPort).symm.trans foundPort'
    exact (DataType.isSome_literal?_iff literal).mp written gradient
  · rintro ⟨declared, spelled⟩
    obtain ⟨settled, foundSettled, settles⟩ :=
      exists_port?_reconcretize valid consistent found declared done
    obtain ⟨_, foundFinal', foundPort'⟩ := port?_eq_some.mp foundSettled
    cases foundFinal.symm.trans foundFinal'
    have key : settled.typeKey = port.typeKey := congrArg (·.2.1) settles.signature
    have usage : settled.usage = port.usage := congrArg (·.2.2) settles.signature
    exact ⟨settled, List.mem_of_find?_eq_some foundPort', settles.signature, usage ▸ inline, type,
      key ▸ known, (DataType.isSome_literal?_iff literal).mpr fun gradient =>
        spelled gradient settled foundSettled⟩

/-- A port into which any values have been written has an initializer after its node is
concretized exactly when the variant still declares the port and, for a gradient, the field
that the writes leave spells one out. Writes do not keep a node from being assembled. -/
theorem initializesWritten_iff {history : List Registration} {name : String} {edits : List Edit}
    (reached : ofHistory (.ofHistory history) name edits = graph)
    (found : graph.port? ref = some port) (inline : port.usage.hasInlineValue = true)
    (known : (Registry.ofHistory history).type port.typeKey = .ok type)
    (literal : (type.literal? (type.defaultField none)).isSome)
    (writes : graph.Writes (.ofHistory history) ref changes written)
    (done : written.reconcretize ref.node (.ofHistory history) = .ok next) :
    ∃ node final field, graph.node? ref.node = some node ∧ next.node? ref.node = some final ∧
      port.field.setAll changes = .ok field ∧
      (graph.HasParameter (.ofHistory history) ref.node port.signature →
        changes ≠ [] ∨ port.pinned = true →
        next.port? ref = some { port with field := type.normalize field, pinned := true }) ∧
      ∀ settings,
        ((∃ fragment, assemble settings (.ofHistory history) final = .ok fragment) ↔
          ∃ fragment, assemble settings (.ofHistory history) node = .ok fragment) ∧
        ∀ fragment, assemble settings (.ofHistory history) final = .ok fragment →
          (fragment.Initializes settings final port.signature ↔
            graph.HasParameter (.ofHistory history) ref.node port.signature ∧
              (type = .gradient → ∀ settled, next.port? ref = some settled →
                settled.field.HasGradient)) := by
  subst reached
  have valid := Registry.consistent_ofHistory history
  have consistent := consistent_ofHistory valid name edits
  have consistent' := consistent.writes valid writes
  obtain ⟨node, foundNode, foundPort⟩ := port?_eq_some.mp found
  obtain ⟨changed, field, set, foundChanged, same, foundWritten⟩ :=
    writes.exists_port? foundNode foundPort
  have found' := port?_eq_some.mpr ⟨changed, foundChanged, foundWritten⟩
  have declares : written.HasParameter (.ofHistory history) ref.node port.signature ↔ _ :=
    hasParameter_congr foundNode foundChanged same port.signature
  obtain ⟨final, foundFinal, kept⟩ := exists_sameVariant_of_reconcretize done foundChanged
  have same' : node.SameVariant final := same.trans kept
  refine ⟨node, final, field, foundNode, foundFinal, set, fun declared held => ?_, fun settings =>
    ⟨?_, fun fragment assembled => ?_⟩⟩
  · have pinned : (port.pinned || !changes.isEmpty) = true := by
      rcases held with wrote | pinned
      · simp [wrote]
      · simp [pinned]
    rw [pinned] at found'
    exact port?_reconcretize valid consistent' found' rfl known (declares.mpr declared) done
  · rw [Assembly.exists_assemble_iff valid (shapedBy_of_reconcretize done foundFinal),
      Assembly.exists_assemble_iff_of_conforms valid (consistent.conforms node (mem_of_node? foundNode)),
      same'.name, same'.definitionKey, same'.selectedVariant]
  · have initializes := initializes_iff_of_reconcretize valid consistent' found' inline known literal
      done foundFinal assembled
    exact initializes.trans (and_congr_left fun _ => declares)

def paintedGraph : Graph :=
  ofHistory (.ofHistory standardHistory) "Painted" [.addNode ⟨"GradientNode", 1⟩ "painted"]

theorem exists_paintedPort : ∃ port, paintedGraph.port? ⟨"painted", "Gradient"⟩ = some port ∧
    port.usage.hasInlineValue = true ∧
    (Registry.ofHistory standardHistory).type port.typeKey = .ok .gradient ∧
    paintedGraph.HasParameter (.ofHistory standardHistory) "painted" port.signature := by
  obtain ⟨port, found, inline, known, declared⟩ :
      ∃ port ∈ paintedGraph.port? ⟨"painted", "Gradient"⟩, port.usage.hasInlineValue = true ∧
        Table.find? (Registry.ofHistory standardHistory).types port.typeKey = some .gradient ∧
        paintedGraph.HasParameter (.ofHistory standardHistory) "painted" port.signature := by
    decide +kernel
  exact ⟨port, found, inline, Registry.type_eq_ok.mpr known, declared⟩

/-- An integer is a number of a key, and a text can name the mode. -/
theorem initializesWritten_repainted : ∃ port written next final fragment,
    paintedGraph.port? ⟨"painted", "Gradient"⟩ = some port ∧
      paintedGraph.Writes (.ofHistory standardHistory) ⟨"painted", "Gradient"⟩
        [("ColorKeys.1.r", .int 0), ("Mode", .text "Fixed")] written ∧
      written.reconcretize "painted" (.ofHistory standardHistory) = .ok next ∧
      next.node? "painted" = some final ∧
      assemble .standard (.ofHistory standardHistory) final = .ok fragment ∧
      fragment.Initializes .standard final port.signature := by
  obtain ⟨port, found, inline, known, declared⟩ := exists_paintedPort
  obtain ⟨written, writes, next, done, spelled⟩ : ∃ written,
      paintedGraph.Writes (.ofHistory standardHistory) ⟨"painted", "Gradient"⟩
        [("ColorKeys.1.r", .int 0), ("Mode", .text "Fixed")] written ∧
      ∃ next, written.reconcretize "painted" (.ofHistory standardHistory) = .ok next ∧
        ∀ settled ∈ next.port? ⟨"painted", "Gradient"⟩, (Gradient.ofField? settled.field).isSome :=
    ⟨_, .step (.setPortField "painted" "Gradient" "ColorKeys.1.r" (.int 0)) rfl
        (Prod.ext rfl (by decide +kernel)) <|
      .step (.setField "painted" "Gradient.TypeField.Mode" (.text "Fixed")) rfl
        (Prod.ext rfl (by decide +kernel)) <| .done _,
      Outcome.exists_of_yields (by decide +kernel)⟩
  obtain ⟨node, final, -, foundNode, foundFinal, -, -, each⟩ :=
    initializesWritten_iff rfl found inline known (by decide +kernel) writes done
  obtain ⟨able, initializes⟩ := each .standard
  obtain ⟨fragment, assembled⟩ := able.mpr (by
    obtain ⟨_, foundNode', yields⟩ : ∃ node ∈ paintedGraph.node? "painted",
        Outcome.yields (assemble .standard (.ofHistory standardHistory) node) (fun _ => True) = true := by
      decide +kernel
    cases foundNode.symm.trans foundNode'
    obtain ⟨fragment, assembled, -⟩ := Outcome.exists_of_yields yields
    exact ⟨fragment, assembled⟩)
  refine ⟨port, written, next, final, fragment, found, writes, done, foundFinal, assembled,
    (initializes fragment assembled).mpr ⟨declared, fun _ settled foundSettled => ?_⟩⟩
  exact Gradient.exists_ofField?_iff.mp (Option.isSome_iff_exists.mp (spelled settled foundSettled))

/-- The field is replaced by a truth value, and the gradient that the variant still declares has
no initializer. -/
theorem not_initializesWritten_bare : ∃ port written next final fragment,
    paintedGraph.port? ⟨"painted", "Gradient"⟩ = some port ∧ port.usage.hasInlineValue = true ∧
      (Registry.ofHistory standardHistory).type port.typeKey = .ok .gradient ∧
      (DataType.gradient.literal? (DataType.gradient.defaultField none)).isSome ∧
      paintedGraph.Writes (.ofHistory standardHistory) ⟨"painted", "Gradient"⟩
        [("", .bool true)] written ∧
      written.reconcretize "painted" (.ofHistory standardHistory) = .ok next ∧
      next.HasParameter (.ofHistory standardHistory) "painted" port.signature ∧
      next.node? "painted" = some final ∧
      assemble .standard (.ofHistory standardHistory) final = .ok fragment ∧
      ⟨"painted_Gradient", "Gradient", none⟩ ∈ fragment.declarations ∧
      ¬fragment.Initializes .standard final port.signature := by
  obtain ⟨port, found, inline, known, declared⟩ := exists_paintedPort
  obtain ⟨written, writes, next, done, final, foundFinal, yields⟩ : ∃ written,
      paintedGraph.Writes (.ofHistory standardHistory) ⟨"painted", "Gradient"⟩
        [("", .bool true)] written ∧
      ∃ next, written.reconcretize "painted" (.ofHistory standardHistory) = .ok next ∧
        ∃ final ∈ next.node? "painted",
          Outcome.yields (assemble .standard (.ofHistory standardHistory) final) (fun fragment =>
            ⟨"painted_Gradient", "Gradient", none⟩ ∈ fragment.declarations ∧
              ∀ port ∈ paintedGraph.port? ⟨"painted", "Gradient"⟩,
                next.HasParameter (.ofHistory standardHistory) "painted" port.signature ∧
                ¬fragment.Initializes .standard final port.signature) = true :=
    ⟨_, .step (.setPortField "painted" "Gradient" "" (.bool true)) rfl
        (Prod.ext rfl (by decide +kernel)) <| .done _,
      Outcome.exists_of_yields (by decide +kernel)⟩
  obtain ⟨fragment, assembled, bare, each⟩ := Outcome.exists_of_yields yields
  obtain ⟨still, uninitialized⟩ := each port found
  exact ⟨port, written, next, final, fragment, found, inline, known, by decide +kernel, writes, done,
    still, foundFinal, assembled, bare, uninitialized⟩

end Graph

end ShadingGraph
