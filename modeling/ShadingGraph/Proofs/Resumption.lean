import ShadingGraph.Proofs.Failure
import ShadingGraph.Proofs.Propagation

/-! # Resuming a failed concretization

Concretizing all nodes undoes nothing when it fails: the nodes before the one that stopped it
stay concretized. No harm is done. The graph that is left is alike the one there was, and the
nodes that lack their variant are the same in both. So when these nodes are given variants
that exist, both graphs can be concretized, and both settle in the same graph.
-/

namespace ShadingGraph

variable {registry : Registry}

namespace Node

/-- The definition of the node is registered and has a variant of the id. -/
def Offers (registry : Registry) (node : Node) (id : String) : Prop :=
  ∃ definition variant, registry.node node.definitionKey = .ok definition ∧
    definition.variant? id = some variant

instance (node : Node) (id : String) : Decidable (node.Offers registry id) :=
  decidable_of_iff
    (Outcome.yields (registry.node node.definitionKey)
      (fun definition => (definition.variant? id).isSome = true) = true)
    (by simp [Outcome.yields_eq_true, Option.isSome_iff_exists, Offers])

instance (node : Node) : Decidable (node.LacksVariant registry) :=
  decidable_of_iff
    (Outcome.yields (registry.node node.definitionKey)
      (fun definition => definition.variant? node.selectedVariant = none) = true)
    Outcome.yields_eq_true

/-- The node after selections, each an id for the node of a name. The last one for its own name
counts. -/
def selecting (selections : List (String × String)) (node : Node) : Node :=
  node.selectVariant ((Table.find? selections.reverse node.name).getD node.selectedVariant)

theorem selecting_cons (name id : String) (selections : List (String × String)) (node : Node) :
    node.selecting ((name, id) :: selections) =
      (if node.name = name then node.selectVariant id else node).selecting selections := by
  unfold selecting
  rw [List.reverse_cons, Table.find?_append]
  by_cases same : node.name = name
  · rw [if_pos same]
    simp only [selectVariant]
    cases Table.find? selections.reverse node.name <;> simp [Table.find?, same]
  · simp [Table.find?, same, Ne.symm same]

theorem selecting_singleton (name id : String) (node : Node) :
    node.selecting [(name, id)] = if node.name = name then node.selectVariant id else node := by
  rw [selecting_cons]
  rfl

theorem selecting_of_not_mem {selections : List (String × String)} {node : Node}
    (unlisted : node.name ∉ selections.map (·.1)) : node.selecting selections = node := by
  have absent : Table.find? selections.reverse node.name = none :=
    Table.find?_eq_none.mpr (by simpa [Table.keys] using unlisted)
  rw [selecting, absent, Option.getD_none, selectVariant]

end Node

/-- Edits that select variants one after the other, each an id for the node of a name. -/
def selectionEdits (selections : List (String × String)) : List Edit :=
  selections.map fun selection => .selectVariant selection.1 selection.2

namespace Graph

variable {graph half next : Graph} {selections : List (String × String)}

/-! ## What a run leaves -/

theorem reconcretizeEach_append (registry : Registry) (graph : Graph) (before after : List String) :
    reconcretizeEach registry graph (before ++ after) =
      match reconcretizeEach registry graph before with
      | (next, none) => reconcretizeEach registry next after
      | (next, some error) => (next, some error) := by
  induction before generalizing graph with
  | nil => rfl
  | cons name rest ih =>
      simp only [List.cons_append, reconcretizeEach]
      cases graph.reconcretize name registry with
      | ok next => exact ih next
      | error error => rfl

theorem node?_reconcretizeEach_of_not_mem {names : List String} {name : String}
    (unlisted : name ∉ names) :
    (reconcretizeEach registry graph names).1.node? name = graph.node? name := by
  induction names generalizing graph with
  | nil => rfl
  | cons first rest ih =>
      obtain ⟨different, unlisted⟩ := not_or.mp (List.mem_cons.not.mp unlisted)
      rw [reconcretizeEach]
      cases done : graph.reconcretize first registry with
      | ok next => exact (ih unlisted).trans (node?_reconcretize_of_ne different done)
      | error error => rfl

theorem Alike.of_run {names : List String} {error : Option GraphError}
    (run : reconcretizeEach registry graph names = (half, error)) : graph.Alike registry half := by
  have alike : graph.Alike registry (reconcretizeEach registry graph names).1 :=
    .of_reconcretizeEach graph names
  rwa [run] at alike

/-- What concretizing all nodes leaves when it fails. Where edges run in a cycle the graph is
the one there was. Else a node lacks its variant; those before it have been concretized one
by one, which has settled their ports, and nothing else is changed. -/
inductive StopsAt (registry : Registry) (graph half : Graph) : GraphError → Prop where
  | cycle {name : String} (onCycle : graph.OnCycle name) (unchanged : half = graph) :
    StopsAt registry graph half .cycle
  | variant {before after : List String} {node : Node}
    (order : graph.order? = some (before ++ node.name :: after))
    (inside : node ∈ graph.nodes) (lacks : node.LacksVariant registry)
    (run : reconcretizeEach registry graph before = (half, none))
    (kept : half.name = graph.name ∧ half.names = graph.names ∧ half.edges = graph.edges)
    (settled : ∀ name ∈ before, ∃ former ports, graph.node? name = some former ∧
      half.node? name = some { former with ports } ∧
      half.SettledAt registry { former with ports })
    (others : ∀ name ∉ before, half.node? name = graph.node? name) :
    StopsAt registry graph half (.unknownVariant node.name node.selectedVariant)

theorem settled_of_reconcretizeEach {names : List String} (ordered : graph.Ordered names)
    (run : reconcretizeEach registry graph names = (half, none)) {name : String}
    (listed : name ∈ names) :
    ∃ former ports, graph.node? name = some former ∧
      half.node? name = some { former with ports } ∧
      half.SettledAt registry { former with ports } := by
  obtain ⟨-, settled⟩ :=
    settledAt_reconcretizeEach (show graph.Ordered ([] ++ names) from ordered) (by simp) run
  have alike : graph.Alike registry half := .of_run run
  obtain ⟨former, found⟩ := node?_isSome.mpr (mem_names_of_reconcretizeEach run name listed)
  obtain ⟨node, found', same⟩ := (found ▸ alike.nodes name).exists_right
  have settledAt := settled node (mem_of_node? found') (name_of_node? found' ▸ listed)
  have shape : { former with ports := node.ports } = node := by
    cases node
    cases former
    simp only [Node.mk.injEq, and_true]
    exact ⟨same.name, same.definitionKey, same.selectedVariant⟩
  exact ⟨former, node.ports, found, shape ▸ found', shape ▸ settledAt⟩

theorem stopsAt_of_reconcretizeAll (valid : registry.Consistent)
    (consistent : graph.Consistent registry) {error : GraphError}
    (failed : graph.reconcretizeAll registry = (half, some error)) :
    graph.StopsAt registry half error := by
  have reported : (graph.reconcretizeAll registry).2 = some error := by rw [failed]
  rcases (reconcretizeAll_eq_error valid consistent).mp reported with
    ⟨⟨name, onCycle⟩, rfl⟩ | ⟨before, node, after, order, inside, able, lacks, rfl⟩
  · have unordered : graph.order? = none :=
      (order?_eq_none_iff_onCycle consistent.sourceExists).mpr ⟨name, onCycle⟩
    rw [reconcretizeAll, unordered] at failed
    exact .cycle onCycle (congrArg Prod.fst failed).symm
  · have succeeded : (reconcretizeEach registry graph before).2 = none :=
      (reconcretizeEach_eq_none_iff valid).mpr able
    obtain ⟨middle, run⟩ : ∃ middle, reconcretizeEach registry graph before = (middle, none) :=
      ⟨_, Prod.ext rfl succeeded⟩
    -- The node that lacks its variant stops the run where the nodes before it have left it.
    obtain rfl : middle = half := by
      rw [reconcretizeAll, order] at failed
      simp only [reconcretizeEach_append, run, reconcretizeEach] at failed
      cases done : middle.reconcretize node.name registry with
      | error cause =>
          rw [done] at failed
          exact congrArg Prod.fst failed
      | ok next =>
          have alike : graph.Alike registry middle := .of_run run
          have able : graph.Concretizable registry node.name :=
            alike.symm.concretizable ((exists_reconcretize_iff valid).mp ⟨next, done⟩)
          obtain ⟨found, present, _, variant, known, selected⟩ := able
          cases (node?_of_mem consistent.distinctNames inside).symm.trans present
          obtain ⟨_, known', missing⟩ := lacks
          cases known.symm.trans known'
          cases missing.symm.trans selected
    have ordered : graph.Ordered before := (order?_sound order).1.left
    obtain ⟨kept, -⟩ :=
      settledAt_reconcretizeEach (show graph.Ordered ([] ++ before) from ordered) (by simp) run
    refine .variant order inside lacks run kept
      (fun name => settled_of_reconcretizeEach ordered run) fun name unlisted => ?_
    have same : (reconcretizeEach registry graph before).1.node? name = graph.node? name :=
      node?_reconcretizeEach_of_not_mem unlisted
    rwa [run] at same

/-! ## Selecting variants in two graphs -/

/-- The graph after selections of variants. -/
structure Selects (selections : List (String × String)) (graph next : Graph) : Prop where
  name : next.name = graph.name
  names : next.names = graph.names
  edges : next.edges = graph.edges
  nodes : ∀ name, next.node? name = (graph.node? name).map (Node.selecting selections)

theorem selects_apply (registry : Registry) (graph : Graph) (name id : String) :
    Selects [(name, id)] graph (graph.apply registry (.selectVariant name id)).1 := by
  cases found : graph.node? name with
  | none =>
      have unchanged : (graph.apply registry (.selectVariant name id)).1 = graph := by
        simp only [apply, changeNode, found, attempt]
      rw [unchanged]
      refine ⟨rfl, rfl, rfl, fun other => ?_⟩
      cases found' : graph.node? other with
      | none => rfl
      | some node =>
          have different : node.name ≠ name := by
            rintro rfl
            rw [name_of_node? found'] at found
            cases found.symm.trans found'
          rw [Option.map_some, Node.selecting_singleton, if_neg different]
  | some node =>
      have replaced : (graph.apply registry (.selectVariant name id)).1 =
          graph.replaceNode (node.selectVariant id) := by
        simp only [apply, changeNode, found, attempt]
      rw [replaced]
      refine ⟨rfl, names_replaceNode graph _, rfl, fun other => ?_⟩
      have named : (node.selectVariant id).name = name := (name_of_node? found :)
      rw [node?_replaceNode, named]
      cases found' : graph.node? other with
      | none => rfl
      | some former =>
          rw [Option.map_some, Option.map_some, Node.selecting_singleton]
          by_cases same : former.name = name
          · rw [← name_of_node? found', same, found] at found'
            rw [if_pos same, if_pos same, Option.some.inj found']
          · rw [if_neg same, if_neg same]

theorem selects_applyAll (registry : Registry) (graph : Graph) (selections : List (String × String)) :
    Selects selections graph (graph.applyAll registry (selectionEdits selections)) := by
  induction selections generalizing graph with
  | nil =>
      have kept : Node.selecting [] = id := rfl
      exact ⟨rfl, rfl, rfl, fun name => by rw [kept, Option.map_id]; rfl⟩
  | cons first rest ih =>
      obtain ⟨name, id⟩ := first
      have here := selects_apply registry graph name id
      have later := ih (graph.apply registry (.selectVariant name id)).1
      refine ⟨later.name.trans here.name, later.names.trans here.names,
        later.edges.trans here.edges, fun other => ?_⟩
      refine (later.nodes other).trans ?_
      rw [here.nodes, Option.map_map]
      congr 1
      funext node
      rw [Function.comp_apply, Node.selecting_singleton, Node.selecting_cons]

theorem Selects.node?_of_not_mem (selects : Selects selections graph next) {name : String}
    (unlisted : name ∉ selections.map (·.1)) : next.node? name = graph.node? name := by
  rw [selects.nodes]
  cases found : graph.node? name with
  | none => rfl
  | some node =>
      rw [Option.map_some, Node.selecting_of_not_mem (by rwa [name_of_node? found])]

theorem Selects.alike {next' : Graph} (selects : Selects selections graph next)
    (selects' : Selects selections half next') (alike : graph.Alike registry half)
    (equal : ∀ name ∈ selections.map (·.1), half.node? name = graph.node? name) :
    next.Alike registry next' := by
  refine ⟨fun name => ?_, ?_⟩
  · by_cases listed : name ∈ selections.map (·.1)
    · rw [selects.nodes, selects'.nodes, equal name listed]
      exact .refl Node.Alike.refl _
    · rw [selects.node?_of_not_mem listed, selects'.node?_of_not_mem listed]
      exact alike.nodes name
  · rw [selects.edges, selects'.edges]
    exact alike.edges

/-- The selections give every node that lacks its variant one that exists, and concern no other
node. -/
structure Repairs (registry : Registry) (graph : Graph) (selections : List (String × String)) :
    Prop where
  existing : ∀ selection ∈ selections, ∃ node ∈ graph.node? selection.1,
    node.LacksVariant registry ∧ node.Offers registry selection.2
  complete : ∀ node ∈ graph.nodes, node.LacksVariant registry → node.name ∈ selections.map (·.1)

instance : Decidable (graph.Repairs registry selections) :=
  decidable_of_iff
    ((∀ selection ∈ selections, ∃ node ∈ graph.node? selection.1,
      node.LacksVariant registry ∧ node.Offers registry selection.2) ∧
      ∀ node ∈ graph.nodes, node.LacksVariant registry → node.name ∈ selections.map (·.1))
    ⟨fun ⟨existing, complete⟩ => ⟨existing, complete⟩,
      fun repairs => ⟨repairs.existing, repairs.complete⟩⟩

theorem Repairs.succeeds (repairs : graph.Repairs registry selections) (valid : registry.Consistent)
    (consistent : graph.Consistent registry) (selects : Selects selections graph next)
    (ordered : ∃ names, graph.order? = some names) : (next.reconcretizeAll registry).2 = none := by
  have sources : ∀ edge ∈ next.edges, edge.fromNode ∈ next.names := by
    rw [selects.edges, selects.names]
    exact consistent.sourceExists
  rw [reconcretizeAll_eq_none_iff valid sources, order?_congr selects.names selects.edges]
  refine ⟨ordered, fun name inside => ?_⟩
  obtain ⟨node, found⟩ := node?_isSome.mpr (selects.names ▸ inside)
  refine ⟨node.selecting selections, by rw [selects.nodes, found, Option.map_some], ?_⟩
  obtain ⟨definition, known, -⟩ := consistent.conforms node (mem_of_node? found)
  cases chosen : Table.find? selections.reverse node.name with
  | some id =>
      have listed := List.mem_reverse.mp (Table.mem_of_find?_eq_some chosen)
      obtain ⟨_, found', -, offers⟩ := repairs.existing _ listed
      cases (name_of_node? found ▸ found).symm.trans found'
      rw [Node.selecting, chosen, Option.getD_some]
      exact offers
  | none =>
      have unlisted : node.name ∉ selections.map (·.1) := by
        simpa [Table.keys] using Table.find?_eq_none.mp chosen
      rw [Node.selecting_of_not_mem unlisted]
      cases selected : definition.variant? node.selectedVariant with
      | some variant => exact ⟨definition, variant, known, selected⟩
      | none =>
          have lacks : node.LacksVariant registry := ⟨definition, known, selected⟩
          exact absurd (repairs.complete node (mem_of_node? found) lacks) unlisted

theorem Alike.reconcretizeAll_eq {other : Graph} (alike : graph.Alike registry other)
    (valid : registry.Consistent) (consistent : graph.Consistent registry)
    (kept : other.name = graph.name ∧ other.names = graph.names ∧ other.edges = graph.edges)
    (succeeded : (graph.reconcretizeAll registry).2 = none) :
    other.reconcretizeAll registry = graph.reconcretizeAll registry := by
  have succeeded' := alike.succeeds valid consistent.sourceExists succeeded
  obtain ⟨⟨names, order⟩, -⟩ :=
    (reconcretizeAll_eq_none_iff valid consistent.sourceExists).mp succeeded
  obtain ⟨ordered, all⟩ := order?_sound order
  obtain ⟨settled, name, names, edges⟩ := settled_of_reconcretizeAll (Prod.ext rfl succeeded)
  obtain ⟨settled', name', names', edges'⟩ := settled_of_reconcretizeAll (Prod.ext rfl succeeded')
  refine Prod.ext ?_ (succeeded'.trans succeeded.symm)
  exact eq_of_settled consistent ordered all (alike.trans (.of_reconcretizeAll other))
    (.of_reconcretizeAll graph)
    ⟨name'.trans kept.1, names'.trans kept.2.1, edges'.trans kept.2.2⟩ ⟨name, names, edges⟩
    settled'.nodes settled.nodes

/-- Repaired in the same way, the graph that a failed run leaves and the one it began with are
concretized to the same graph. -/
theorem Repairs.reconcretizeAll_eq (repairs : graph.Repairs registry selections)
    (valid : registry.Consistent) (consistent : graph.Consistent registry) {error : GraphError}
    (stops : graph.StopsAt registry half error) :
    (half.applyAll registry (selectionEdits selections)).reconcretizeAll registry =
      (graph.applyAll registry (selectionEdits selections)).reconcretizeAll registry := by
  cases stops with
  | cycle _ unchanged => rw [unchanged]
  | @variant before after node order inside lacks run kept settled others =>
      have selects := selects_applyAll registry graph selections
      have selects' := selects_applyAll registry half selections
      have equal : ∀ name ∈ selections.map (·.1), half.node? name = graph.node? name := by
        intro name listed
        obtain ⟨⟨_, id⟩, member, rfl⟩ := List.mem_map.mp listed
        refine others _ fun earlier => ?_
        -- What lacks its variant has not been concretized.
        have able := (reconcretizeEach_eq_none_iff valid).mp (by rw [run]) _ earlier
        obtain ⟨found, present, _, _, known, selected⟩ := able
        obtain ⟨_, present', ⟨_, known', missing⟩, -⟩ := repairs.existing _ member
        cases present.symm.trans present'
        cases known.symm.trans known'
        cases missing.symm.trans selected
      have alike : graph.Alike registry half := .of_run run
      refine (selects.alike selects' alike equal).reconcretizeAll_eq valid
        (consistent.applyAll valid _) ?_ (repairs.succeeds valid consistent selects ⟨_, order⟩)
      exact ⟨selects'.name.trans (kept.1.trans selects.name.symm),
        selects'.names.trans (kept.2.1.trans selects.names.symm),
        selects'.edges.trans (kept.2.2.trans selects.edges.symm)⟩

/-- A failed concretization of all nodes does no harm. It leaves the nodes before the failing
one concretized and all else as it was; and once all nodes have variants that exist, the
graph it has left is concretized to the same graph as the one there was. -/
theorem resumable_ofHistory {history : List Registration} {name : String} {edits : List Edit}
    {error : GraphError} (reached : ofHistory (.ofHistory history) name edits = graph)
    (failed : graph.reconcretizeAll (.ofHistory history) = (half, some error)) :
    graph.StopsAt (.ofHistory history) half error ∧
      ∀ selections, graph.Repairs (.ofHistory history) selections →
        (half.applyAll (.ofHistory history) (selectionEdits selections)).reconcretizeAll
            (.ofHistory history) =
          (graph.applyAll (.ofHistory history) (selectionEdits selections)).reconcretizeAll
            (.ofHistory history) ∧
        (error ≠ .cycle → ((graph.applyAll (.ofHistory history) (selectionEdits selections)).reconcretizeAll
          (.ofHistory history)).2 = none) := by
  have valid := Registry.consistent_ofHistory history
  have consistent := reached ▸ consistent_ofHistory valid name edits
  have stops := stopsAt_of_reconcretizeAll valid consistent failed
  refine ⟨stops, fun selections repairs => ⟨?_, fun acyclic => ?_⟩⟩
  · exact repairs.reconcretizeAll_eq valid consistent stops
  · cases stops with
    | cycle => exact absurd rfl acyclic
    | variant order =>
        exact repairs.succeeds valid consistent (selects_applyAll _ graph selections) ⟨_, order⟩

/-- A chain of three sums, of which the one in the middle selects a variant that does not
exist. -/
def interruptedEdits : List Edit :=
  [ .addNode ⟨"Add", 1⟩ "sum", .addNode ⟨"Add", 1⟩ "total", .addNode ⟨"Add", 1⟩ "last",
    .connect ⟨"sum", "Out", "total", "A"⟩, .connect ⟨"total", "Out", "last", "A"⟩,
    .setPortField "sum" "B" "Length" (.tag "Three"), .selectVariant "total" "Subtract" ]

def resumedEdits : List Edit :=
  interruptedEdits ++ selectionEdits [("total", "Add")]

/-- `sum` has taken three components when `total` stops the run, and `last` gets them after the
repair. -/
theorem resumable_interrupted : ∃ half,
    settle interruptedEdits = (half, some (.unknownVariant "total" "Subtract")) ∧
      (half.port? ⟨"sum", "Out"⟩).bind (·.field.length?) = some 3 ∧
      (half.port? ⟨"last", "Out"⟩).bind (·.field.length?) = some 1 ∧
      (half.applyAll (.ofHistory standardHistory)
          (selectionEdits [("total", "Add")])).reconcretizeAll (.ofHistory standardHistory) =
        settle resumedEdits ∧
      (settle resumedEdits).2 = none ∧
      ((settle resumedEdits).1.port? ⟨"last", "Out"⟩).bind (·.field.length?) = some 3 := by
  have failed : settle interruptedEdits =
      ((settle interruptedEdits).1, some (.unknownVariant "total" "Subtract")) :=
    Prod.ext rfl (by decide +kernel)
  obtain ⟨-, resumes⟩ := resumable_ofHistory rfl failed
  obtain ⟨same, succeeds⟩ := resumes [("total", "Add")] (by decide +kernel)
  exact ⟨_, failed, by decide +kernel, by decide +kernel, same, succeeds nofun, by decide +kernel⟩

end Graph

end ShadingGraph
