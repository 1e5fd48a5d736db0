import ShadingGraph.Proofs.Settlement

/-! # Stability of pins

Concretizing a node leaves a pinned port of its variant pinned and brings the field into
the form of the type. That form is kept from then on: an edit changes a pinned port in
normal form only if it writes or unpins the port, removes the node, or concretizes the
node for a variant that does not declare the port.
-/

namespace ShadingGraph

variable {registry : Registry} {graph next : Graph} {ref : PortRef} {port : Port} {type : DataType}

/-- The port with its field in the form of the type. -/
def Port.normalized (type : DataType) (port : Port) : Port :=
  { port with field := type.normalize port.field }

theorem Port.normalized_normalized (port : Port) (type : DataType) :
    (port.normalized type).normalized type = port.normalized type := by
  simp only [normalized, type.normalize_normalize]

theorem Port.eq_of_pin? {other : Port} (signature : port.signature = other.signature)
    (pinned : other.pinned = true) (pin : port.pin? = some other.field) : port = other := by
  cases port
  cases other
  simp_all [Port.signature, Port.pin?]

theorem Parameter.pin?_of_mem {parameter : Parameter} {ports : List Port}
    (distinct : (ports.map (·.name)).Nodup) (inside : port ∈ ports)
    (signature : port.signature = parameter.signature) : parameter.pin? ports = port.pin? := by
  unfold Parameter.pin?
  cases found : ports.find? (·.hasSignature parameter.name parameter.typeKey parameter.usage) with
  | none =>
      have missed := List.find?_eq_none.mp found port inside
      exact absurd (Port.hasSignature_eq_true.mpr signature) missed
  | some other =>
      have sought : other.hasSignature parameter.name parameter.typeKey parameter.usage = true := by
        simpa using List.find?_some found
      have same : other.name = port.name :=
        congrArg (·.1) ((Port.hasSignature_eq_true.mp sought).trans signature.symm)
      rw [Option.bind_some,
        List.inj_on_of_nodup_map distinct (List.mem_of_find?_eq_some found) inside same]

/-- A port and what concretizing its node leaves of it: its signature, and its pin in the form
of the type. -/
structure Port.SettlesTo (registry : Registry) (port settled : Port) : Prop where
  signature : settled.signature = port.signature
  pin : ∃ type, registry.type port.typeKey = .ok type ∧ settled.pin? = port.pin?.map type.normalize

theorem Parameter.Realizes.settlesTo {parameter : Parameter} {former : List Port} {settled : Port}
    (realizes : parameter.Realizes registry former settled)
    (distinct : (former.map (·.name)).Nodup) (inside : port ∈ former)
    (same : port.signature = parameter.signature) : port.SettlesTo registry settled := by
  obtain ⟨type, known, pin⟩ := realizes.pin
  have key : port.typeKey = parameter.typeKey := congrArg (·.2.1) same
  refine ⟨realizes.signature.trans same.symm, type, key ▸ known, ?_⟩
  rw [pin, Parameter.pin?_of_mem distinct inside same]

def Edit.written? : Edit → Option PortRef
  | .setPortField node port _ _ => some ⟨node, port⟩
  | .setField node address _ => (Address.ofText? address).map fun target => ⟨node, target.port⟩
  | .clearPin node port => some ⟨node, port⟩
  | .addNode .. | .removeNode _ | .connect _ | .deleteEdges _ | .selectVariant .. | .reconcretize _
  | .reconcretizeAll => none

def Edit.removed? : Edit → Option String
  | .removeNode name => some name
  | .addNode .. | .connect _ | .deleteEdges _ | .setPortField .. | .setField .. | .clearPin ..
  | .selectVariant .. | .reconcretize _ | .reconcretizeAll => none

namespace Graph

/-- Names of the nodes that are concretized one after the other, up to the first failure. -/
def concretizedEach (registry : Registry) (graph : Graph) : List String → List String
  | [] => []
  | name :: rest =>
    match graph.reconcretize name registry with
    | .ok next => name :: concretizedEach registry next rest
    | .error _ => []

def concretized (registry : Registry) (graph : Graph) : Edit → List String
  | .reconcretize name => graph.concretizedEach registry [name]
  | .reconcretizeAll => graph.concretizedEach registry (graph.order?.getD [])
  | .addNode .. | .removeNode _ | .connect _ | .deleteEdges _ | .setPortField .. | .setField ..
  | .clearPin .. | .selectVariant .. => []

def selectedParameters (registry : Registry) (graph : Graph) (name : String) : List Parameter :=
  ((graph.node? name).bind fun node =>
    (registry.node node.definitionKey).toOption.bind fun definition =>
      (definition.variant? node.selectedVariant).map (·.parameters)).getD []

/-- The variant that the node of a name selects has a parameter of the signature. -/
def HasParameter (registry : Registry) (graph : Graph) (name : String)
    (signature : String × Key × Usage) : Prop :=
  signature ∈ (graph.selectedParameters registry name).map Parameter.signature

instance (name : String) (signature : String × Key × Usage) :
    Decidable (graph.HasParameter registry name signature) :=
  inferInstanceAs (Decidable (_ ∈ _))

end Graph

/-- What an edit of a graph has to leave to a pinned port. A write that fails is none. -/
structure Edit.Spares (registry : Registry) (graph : Graph) (ref : PortRef)
    (signature : String × Key × Usage) (edit : Edit) : Prop where
  unwritten : edit.written? = some ref → (graph.apply registry edit).2 ≠ none
  kept : edit.removed? ≠ some ref.node
  declared : ref.node ∈ graph.concretized registry edit →
    graph.HasParameter registry ref.node signature

instance (signature : String × Key × Usage) (edit : Edit) :
    Decidable (edit.Spares registry graph ref signature) :=
  decidable_of_iff
    ((edit.written? = some ref → (graph.apply registry edit).2 ≠ none) ∧
      edit.removed? ≠ some ref.node ∧
      (ref.node ∈ graph.concretized registry edit → graph.HasParameter registry ref.node signature))
    ⟨fun ⟨unwritten, kept, declared⟩ => ⟨unwritten, kept, declared⟩,
      fun spares => ⟨spares.unwritten, spares.kept, spares.declared⟩⟩

namespace Graph

/-- Each of the edits spares the port in the graph that it finds. -/
def SparedBy (registry : Registry) (ref : PortRef) (signature : String × Key × Usage) :
    Graph → List Edit → Prop
  | _, [] => True
  | graph, edit :: rest => edit.Spares registry graph ref signature ∧
      SparedBy registry ref signature (graph.apply registry edit).1 rest

instance decidableSparedBy (signature : String × Key × Usage) :
    (graph : Graph) → (edits : List Edit) → Decidable (graph.SparedBy registry ref signature edits)
  | _, [] => inferInstanceAs (Decidable True)
  | graph, edit :: rest =>
    have := decidableSparedBy signature (graph.apply registry edit).1 rest
    inferInstanceAs (Decidable (_ ∧ _))

theorem hasParameter_iff {name : String} {signature : String × Key × Usage} :
    graph.HasParameter registry name signature ↔
      ∃ node definition variant, graph.node? name = some node ∧
        registry.node node.definitionKey = .ok definition ∧
        definition.variant? node.selectedVariant = some variant ∧
        ∃ parameter ∈ variant.parameters, parameter.signature = signature := by
  unfold HasParameter selectedParameters
  cases found : graph.node? name with
  | none => simp
  | some node =>
      cases known : registry.node node.definitionKey with
      | error error => simp [known, Except.toOption]
      | ok definition =>
          cases selected : definition.variant? node.selectedVariant <;>
            simp [known, selected, Except.toOption]

theorem HasParameter.of_alike (alike : graph.Alike registry next) {name : String}
    {signature : String × Key × Usage} (declares : graph.HasParameter registry name signature) :
    next.HasParameter registry name signature := by
  obtain ⟨node, definition, variant, found, known, selected, declared⟩ := hasParameter_iff.mp declares
  obtain ⟨node', found', same⟩ := (found ▸ alike.nodes name).exists_right
  exact hasParameter_iff.mpr ⟨node', definition, variant, found', same.definitionKey ▸ known,
    same.selectedVariant ▸ selected, declared⟩

theorem port?_eq_some : graph.port? ref = some port ↔
    ∃ node, graph.node? ref.node = some node ∧ node.port? ref.port = some port :=
  Option.bind_eq_some_iff

theorem exists_port?_reconcretize (valid : registry.Consistent)
    (consistent : graph.Consistent registry) (found : graph.port? ref = some port)
    (declares : graph.HasParameter registry ref.node port.signature)
    (done : graph.reconcretize ref.node registry = .ok next) :
    ∃ settled, next.port? ref = some settled ∧ port.SettlesTo registry settled := by
  obtain ⟨node, foundNode, foundPort⟩ := port?_eq_some.mp found
  obtain ⟨_, definition, variant, foundNode', registered, selected, parameter, declared, signature⟩ :=
    hasParameter_iff.mp declares
  cases foundNode.symm.trans foundNode'
  obtain ⟨_, _, ports, foundNode', registered', concretized, rfl⟩ := reconcretize_eq_ok.mp done
  cases foundNode.symm.trans foundNode'
  cases registered.symm.trans registered'
  obtain ⟨_, selected', realized⟩ := realizes_of_concretize concretized
  cases selected.symm.trans selected'
  have former := (consistent.conforms node (mem_of_node? foundNode)).distinctPorts valid
  have distinct := (Node.conforms_of_concretize registered concretized).distinctPorts valid
  obtain ⟨settled, inside, realizes⟩ := realized.exists_mem_right declared
  have name : settled.name = ref.port :=
    (congrArg (·.1) (realizes.signature.trans signature)).trans (Node.name_of_port? foundPort)
  refine ⟨settled, port?_eq_some.mpr ⟨{ node with ports }, ?_, ?_⟩,
    realizes.settlesTo former (List.mem_of_find?_eq_some foundPort) signature.symm⟩
  · rw [node?_replaceNode, foundNode, Option.map_some, if_pos rfl]
  · rw [← name]
    exact Node.port?_of_mem distinct inside

/-- Concretizing its node brings a pinned port that stays declared into normal form. -/
theorem port?_reconcretize (valid : registry.Consistent) (consistent : graph.Consistent registry)
    (found : graph.port? ref = some port) (pinned : port.pinned = true)
    (known : registry.type port.typeKey = .ok type)
    (declares : graph.HasParameter registry ref.node port.signature)
    (done : graph.reconcretize ref.node registry = .ok next) :
    next.port? ref = some (port.normalized type) := by
  obtain ⟨settled, found', settles⟩ := exists_port?_reconcretize valid consistent found declares done
  obtain ⟨type', known', pin⟩ := settles.pin
  cases known.symm.trans known'
  have held : port.pin? = some port.field := if_pos pinned
  rw [held, Option.map_some] at pin
  have same : settled = port.normalized type := Port.eq_of_pin? settles.signature pinned pin
  rw [found', same]

/-- Concretizing nodes one after the other does no more to a pinned port, however often its
node is among them. -/
theorem port?_reconcretizeEach (valid : registry.Consistent) {names : List String}
    (consistent : graph.Consistent registry) (found : graph.port? ref = some port)
    (pinned : port.pinned = true) (known : registry.type port.typeKey = .ok type)
    (declared : ref.node ∈ graph.concretizedEach registry names →
      graph.HasParameter registry ref.node port.signature) :
    (reconcretizeEach registry graph names).1.port? ref =
      some (if ref.node ∈ graph.concretizedEach registry names then port.normalized type else port) := by
  induction names generalizing graph port with
  | nil => exact found
  | cons name rest ih =>
      cases done : graph.reconcretize name registry with
      | error error =>
          have none : graph.concretizedEach registry (name :: rest) = [] := by
            rw [concretizedEach, done]
          rw [none, if_neg (by simp), reconcretizeEach, done]
          exact found
      | ok next =>
          have each : graph.concretizedEach registry (name :: rest) =
              name :: next.concretizedEach registry rest := by rw [concretizedEach, done]
          rw [each] at declared ⊢
          rw [reconcretizeEach, done]
          have consistent' := consistent.reconcretize done
          have alike : graph.Alike registry next := .of_reconcretize done
          by_cases same : name = ref.node
          · have declares := declared (same ▸ List.mem_cons_self)
            have found' :=
              port?_reconcretize valid consistent found pinned known declares (same ▸ done)
            -- The node may be concretized again further on. Its port is in normal form by then.
            rw [ih consistent' found' pinned known fun _ => declares.of_alike alike,
              Port.normalized_normalized, ite_self, if_pos (same ▸ List.mem_cons_self)]
          · have found' : next.port? ref = some port := by
              obtain ⟨node, definition, ports, foundNode, -, -, rfl⟩ := reconcretize_eq_ok.mp done
              have named : node.name = name := name_of_node? foundNode
              rwa [port?, node?_replaceNode_of_ne graph (named ▸ Ne.symm same)]
            have later : ref.node ∈ name :: next.concretizedEach registry rest ↔
                ref.node ∈ next.concretizedEach registry rest := by simp [Ne.symm same]
            simp only [later] at declared ⊢
            exact ih consistent' found' pinned known fun inside => (declared inside).of_alike alike

/-! ## Other edits leave the port alone -/

theorem port?_changeNode {name : String} {change : Node → Except NodeError Node}
    (shape : ∀ node changed, change node = .ok changed → node.SameShape changed)
    (spared : name = ref.node → ∀ node changed, change node = .ok changed →
      changed.port? ref.port = node.port? ref.port)
    (done : graph.changeNode name change = .ok next) : next.port? ref = graph.port? ref := by
  obtain ⟨node, changed, found, made, rfl⟩ := changeNode_eq_ok.mp done
  have named : changed.name = name := (shape node changed made).name.trans (name_of_node? found)
  by_cases same : name = ref.node
  · subst same
    have nodeName : node.name = changed.name := (shape node changed made).name.symm
    rw [port?, port?, node?_replaceNode, found, Option.map_some, if_pos nodeName, Option.bind_some,
      Option.bind_some, spared rfl node changed made]
  · rw [port?, port?, node?_replaceNode_of_ne graph (named ▸ Ne.symm same)]

theorem port?_write {name : String} {change : Node → Except NodeError Node} {written? : Option PortRef}
    (writes : ∀ node changed, change node = .ok changed →
      ∃ target, written? = some ⟨name, target⟩ ∧ node.DiffersAt target changed)
    (unwritten : written? = some ref → (graph.attempt (graph.changeNode name change)).2 ≠ none) :
    (graph.attempt (graph.changeNode name change)).1.port? ref = graph.port? ref := by
  cases done : graph.changeNode name change with
  | error error => rfl
  | ok next =>
      have shape : ∀ node changed, change node = .ok changed → node.SameShape changed := by
        intro node changed made
        obtain ⟨_, -, differs⟩ := writes node changed made
        exact differs.shape
      refine port?_changeNode shape (fun same node changed made => ?_) done
      obtain ⟨target, written, differs⟩ := writes node changed made
      refine differs.others ref.port ?_
      rintro rfl
      rw [done] at unwritten
      exact unwritten (by rw [written, same]) rfl

theorem port?_withNode (node : Node)
    (found : graph.port? ref = some port) : (graph.withNode node).port? ref = some port := by
  obtain ⟨owner, foundNode, foundPort⟩ := port?_eq_some.mp found
  refine port?_eq_some.mpr ⟨owner, ?_, foundPort⟩
  rw [node?] at foundNode ⊢
  rw [withNode, List.find?_append, foundNode, Option.some_or]

theorem port?_removeNode {name : String} {removed : Node} (different : name ≠ ref.node)
    (done : graph.removeNode name = .ok (next, removed)) : next.port? ref = graph.port? ref := by
  simp only [removeNode_eq_ok done, port?, node?, Table.find?_key_eraseP _ _ (Ne.symm different)]

/-- An edit that spares a pinned port brings it into normal form or leaves it as it is. -/
theorem port?_apply (valid : registry.Consistent) (consistent : graph.Consistent registry)
    (found : graph.port? ref = some port) (pinned : port.pinned = true)
    (known : registry.type port.typeKey = .ok type) {edit : Edit}
    (spares : edit.Spares registry graph ref port.signature) :
    (graph.apply registry edit).1.port? ref =
      some (if ref.node ∈ graph.concretized registry edit then port.normalized type else port) := by
  have declared := spares.declared
  have unwritten := spares.unwritten
  cases edit with
  | reconcretize name =>
      have run : (graph.apply registry (.reconcretize name)).1 =
          (reconcretizeEach registry graph [name]).1 := by
        rw [apply, reconcretizeEach]
        cases graph.reconcretize name registry <;> rfl
      rw [run]
      exact port?_reconcretizeEach valid consistent found pinned known declared
  | reconcretizeAll =>
      have run : (graph.apply registry .reconcretizeAll).1 =
          (reconcretizeEach registry graph (graph.order?.getD [])).1 := by
        rw [apply, reconcretizeAll]
        cases graph.order? <;> rfl
      rw [run]
      exact port?_reconcretizeEach valid consistent found pinned known declared
  | addNode key name =>
      rw [concretized, if_neg List.not_mem_nil, apply]
      cases added : graph.addNode key name registry with
      | error error => exact found
      | ok next =>
          obtain ⟨definition, ports, -, -, -, rfl⟩ := addNode_eq_ok.mp added
          exact port?_withNode _ found
  | removeNode name =>
      rw [concretized, if_neg List.not_mem_nil, apply]
      cases taken : graph.removeNode name with
      | error error => exact found
      | ok result =>
          have different : name ≠ ref.node := fun same => spares.kept (congrArg some same)
          exact (port?_removeNode different taken).trans found
  | connect edge =>
      rw [concretized, if_neg List.not_mem_nil, apply]
      cases connected : graph.connect edge registry with
      | error error => exact found
      | ok result =>
          obtain ⟨-, -, joined⟩ := (connect_eq_ok consistent.distinctTargets).mp connected
          rw [joined]
          exact found
  | deleteEdges edges =>
      rw [concretized, if_neg List.not_mem_nil, apply, port?, node?,
        (deleteEdges_sublist graph edges).1]
      exact found
  | setPortField node target path value =>
      rw [concretized, if_neg List.not_mem_nil, ← found]
      exact port?_write (fun _ _ done => ⟨target, rfl, Node.differsAt_setPortField done⟩) unwritten
  | setField node address value =>
      rw [concretized, if_neg List.not_mem_nil, ← found]
      refine port?_write (fun _ _ done => ?_) unwritten
      obtain ⟨target, written, differs⟩ := Node.differsAt_setField done
      exact ⟨target.port, by rw [Edit.written?, written, Option.map_some], differs⟩
  | clearPin node target =>
      rw [concretized, if_neg List.not_mem_nil, ← found]
      exact port?_write (fun _ _ done => ⟨target, rfl, Node.differsAt_clearPin done⟩) unwritten
  | selectVariant node id =>
      rw [concretized, if_neg List.not_mem_nil, apply]
      cases done : graph.changeNode node fun found => .ok (found.selectVariant id) with
      | error error => exact found
      | ok next =>
          rw [← found]
          refine port?_changeNode (fun found changed made => ?_) (fun _ found changed made => ?_) done
          · cases made
            exact Node.sameShape_selectVariant found id
          · cases made
            rfl

/-- A pinned port in normal form stays as it is along edits that spare it. -/
theorem port?_applyAll (valid : registry.Consistent) (consistent : graph.Consistent registry)
    (found : graph.port? ref = some port) (pinned : port.pinned = true)
    (known : registry.type port.typeKey = .ok type) (normal : port.normalized type = port)
    {edits : List Edit} (spared : graph.SparedBy registry ref port.signature edits) :
    (graph.applyAll registry edits).port? ref = some port := by
  induction edits generalizing graph with
  | nil => exact found
  | cons edit rest ih =>
      obtain ⟨spares, spared⟩ := spared
      have found' := port?_apply valid consistent found pinned known spares
      rw [normal, ite_self] at found'
      exact ih (consistent.apply valid edit) found' spared

/-- Only edits that write no port and remove no node concretize any. -/
theorem spares_of_concretized {edit : Edit} {signature : String × Key × Usage}
    (concretized : ref.node ∈ graph.concretized registry edit)
    (declares : graph.HasParameter registry ref.node signature) :
    edit.Spares registry graph ref signature := by
  cases edit with
  | reconcretize | reconcretizeAll => exact ⟨nofun, nofun, fun _ => declares⟩
  | addNode | removeNode | connect | deleteEdges | setPortField | setField | clearPin
  | selectVariant =>
      cases concretized

/-- Concretizing the node of a pinned numeric port keeps the pin and all that the field holds
within its shape. From then on the port is the same until it is written or unpinned, its node
is removed, or the node is concretized for a variant without it. -/
theorem pin_stable {history : List Registration} {name : String} {edits : List Edit}
    (reached : ofHistory (.ofHistory history) name edits = graph)
    (found : graph.port? ref = some port) (pinned : port.pinned = true)
    {members : List (String × Field)} (composite : port.field = .composite members)
    {shape : NumericType}
    (numeric : (Registry.ofHistory history).type port.typeKey = .ok (.numeric shape))
    (edit : Edit) (concretized : ref.node ∈ graph.concretized (.ofHistory history) edit)
    (declared : graph.HasParameter (.ofHistory history) ref.node port.signature)
    (next_eq : (graph.apply (.ofHistory history) edit).1 = next) :
    ∃ kept, next.port? ref = some kept ∧ kept.signature = port.signature ∧ kept.pinned = true ∧
      port.field.RetainedIn kept.field ∧
      ∀ later, next.SparedBy (.ofHistory history) ref port.signature later →
        (next.applyAll (.ofHistory history) later).port? ref = some kept := by
  subst reached next_eq
  have valid := Registry.consistent_ofHistory history
  have consistent := consistent_ofHistory valid name edits
  have found' := port?_apply valid consistent found pinned numeric
    (spares_of_concretized concretized declared)
  rw [if_pos concretized] at found'
  refine ⟨port.normalized (.numeric shape), found', rfl, pinned, ?_, fun later spared => ?_⟩
  · simp only [Port.normalized, composite]
    exact shape.retains_normalize members
  · exact port?_applyAll valid (consistent.apply valid edit) found' pinned numeric
      (port.normalized_normalized (.numeric shape)) spared

/-- Edits beside the pinned input `A` of `total`: a write that fails, another pin, a variant
that does not exist, and the removal of what feeds the input. -/
def editsBesidePin : List Edit :=
  [ .setPortField "total" "A" "Length.Unit" (.tag "Three"),
    .setPortField "total" "B" "Length" (.tag "Three"), .reconcretizeAll,
    .selectVariant "total" "Subtract", .reconcretize "total", .removeNode "sum" ]

theorem pin_stable_overridden : ∃ kept,
    ((ofHistory (.ofHistory standardHistory) "Edited" (overriddenEdits ++ [.reconcretizeAll])).applyAll
      (.ofHistory standardHistory) editsBesidePin).port? ⟨"total", "A"⟩ = some kept ∧
        kept.pinned = true := by
  obtain ⟨port, found, pinned, table, signature⟩ :
      ∃ port ∈ (ofHistory (.ofHistory standardHistory) "Edited" overriddenEdits).port? ⟨"total", "A"⟩,
        port.pinned = true ∧ port.field.members?.isSome = true ∧
          port.signature = ("A", ⟨"Vector", 1⟩, .input) := by
    decide +kernel
  obtain ⟨members, composite⟩ : ∃ members, port.field = .composite members := by
    cases held : port.field with
    | composite members => exact ⟨members, rfl⟩
    | float | int | bool | tag | text | list => simp [held, Field.members?] at table
  have key : port.typeKey = ⟨"Vector", 1⟩ := congrArg (·.2.1) signature
  have numeric : (Registry.ofHistory standardHistory).type port.typeKey =
      .ok (.numeric (.named "Vector" .float .any .one)) :=
    Registry.type_eq_ok.mpr (key ▸ by decide +kernel)
  obtain ⟨kept, -, -, pinned', -, later⟩ := pin_stable rfl found pinned composite numeric
    .reconcretizeAll (by decide +kernel) (signature ▸ by decide +kernel) rfl
  have spared :
      (ofHistory (.ofHistory standardHistory) "Edited" (overriddenEdits ++ [.reconcretizeAll])).SparedBy
        (.ofHistory standardHistory) ⟨"total", "A"⟩ ("A", ⟨"Vector", 1⟩, .input) editsBesidePin := by
    decide +kernel
  exact ⟨kept, later _ (signature ▸ spared), pinned'⟩

end Graph

end ShadingGraph
