import ShadingGraph.Proofs.Settlement

/-! # Inputs that an edge feeds

The second pass of concretization decides which inputs take the field of a source. In
a settled graph whose edges all join two ports, these are the connected inputs without
a pin.
-/

namespace ShadingGraph

variable {registry : Registry} {feeds : List Feed}

namespace Slot

variable {slot : Slot}

/-- The slot takes the field that a port of the given type adapts to it. -/
def Takes (registry : Registry) (feeds : List Feed) (slot : Slot) (source : Port) : Prop :=
  ∃ sourceType, registry.type source.typeKey = .ok sourceType ∧
    slot.connect registry feeds =
      { slot with field := sourceType.adapt source.field slot.type, origin := .connected }

theorem Takes.free {source : Port} (takes : slot.Takes registry feeds source)
    (initial : slot.origin ≠ .connected) : slot.parameter.usage = .input ∧ slot.origin = .free := by
  obtain ⟨sourceType, -, connected⟩ := takes
  unfold connect at connected
  split at connected
  · assumption
  · exact absurd (congrArg Slot.origin connected) initial

theorem takes_of_find? {feed : Feed} {sourceType : DataType}
    (eligible : slot.parameter.usage = .input ∧ slot.origin = .free)
    (found : feeds.find? (·.toPort = slot.parameter.name) = some feed)
    (known : registry.type feed.source.typeKey = .ok sourceType)
    (accepted : slot.type.accepts sourceType = true) : slot.Takes registry feeds feed.source := by
  have reached : slot.feed? registry feeds = some (sourceType, feed.source.field) := by
    simp [feed?, found, Registry.type_eq_ok.mp known, accepted]
  refine ⟨sourceType, known, ?_⟩
  rw [connect, if_pos eligible, reached]

end Slot

/-- The slots that the first pass makes of a node. -/
def Node.HasSlots (registry : Registry) (node : Node) (slots : List Slot) : Prop :=
  ∃ definition variant, registry.node node.definitionKey = .ok definition ∧
    definition.variant? node.selectedVariant = some variant ∧
    Concretization.initialSlots registry node.ports variant.parameters = .ok slots

theorem Node.HasSlots.unique {node : Node} {slots others : List Slot}
    (has : node.HasSlots registry slots) (has' : node.HasSlots registry others) : slots = others := by
  obtain ⟨definition, variant, known, selected, initial⟩ := has
  obtain ⟨_, _, known', selected', initial'⟩ := has'
  cases known.symm.trans known'
  cases selected.symm.trans selected'
  exact Except.ok.inj (initial.symm.trans initial')

/-- A slot of the first pass and the port that the later passes make of it. -/
structure Slot.Becomes (registry : Registry) (feeds : List Feed) (slot : Slot) (port : Port) :
    Prop where
  known : registry.type slot.parameter.typeKey = .ok slot.type
  initial : slot.origin ≠ .connected
  signature : port.signature = slot.parameter.signature
  pinned : port.pinned = true ↔ slot.origin = .pinned
  field : (slot.connect registry feeds).origin ≠ .free →
    port.field = (slot.connect registry feeds).field

theorem Slot.becomes_of_initialSlots {ports : List Port} {parameters : List Parameter}
    {slots : List Slot}
    (initial : Concretization.initialSlots registry ports parameters = .ok slots) :
    List.Forall₂ (Slot.Becomes registry feeds) slots
      ((Concretization.shareDimensions (slots.map (Slot.connect registry feeds))).map Slot.port) := by
  obtain ⟨change, keeps, settled, passes⟩ := Concretization.later_passes registry feeds slots
  have made := (Concretization.initialSlots_eq_ok.mp initial).flip
  rw [passes, List.map_map, List.forall₂_map_right_iff, List.forall₂_same]
  intro slot inside
  obtain ⟨parameter, -, type, known, rfl⟩ := made.exists_mem_right inside
  have kept := keeps (Slot.initial ports parameter type)
  refine ⟨?_, ?_, ?_, ?_, fun fed => congrArg Slot.field (settled _ fed)⟩
  · rwa [Slot.parameter_initial, Slot.type_initial]
  · rcases Slot.origin_initial ports parameter type with pinned | free
    · simp [pinned]
    · simp [free]
  · simp only [Function.comp_apply, Slot.port, Port.signature, Parameter.signature, kept.parameter]
  · simp only [Function.comp_apply, Slot.port, decide_eq_true_eq, kept.origin]

namespace Graph

variable {graph : Graph} {node : Node} {edge : Edge}

/-- Concretizing the node gives its `k`-th port the field that the edge brings. -/
def FedBy (registry : Registry) (graph : Graph) (node : Node) (k : Nat) (edge : Edge) : Prop :=
  ∃ slots slot source, node.HasSlots registry slots ∧ slots[k]? = some slot ∧
    edge ∈ graph.edges ∧ edge.target = ⟨node.name, slot.parameter.name⟩ ∧
    graph.port? edge.source = some source ∧ slot.Takes registry (graph.feeds node.name) source

theorem SettledAt.exists_slots (settled : graph.SettledAt registry node) :
    ∃ slots, node.HasSlots registry slots ∧
      List.Forall₂ (Slot.Becomes registry (graph.feeds node.name)) slots node.ports := by
  obtain ⟨definition, known, concretized⟩ := settled
  obtain ⟨variant, slots, selected, initial, ports⟩ := concretize_eq_ok.mp concretized
  refine ⟨slots, ⟨definition, variant, known, selected, initial⟩, ?_⟩
  rw [ports]
  exact Slot.becomes_of_initialSlots initial

theorem FedBy.field {k : Nat} {port : Port} (fed : graph.FedBy registry node k edge)
    (settled : graph.SettledAt registry node) (at_k : node.ports[k]? = some port) :
    ∃ source sourceType type, graph.port? edge.source = some source ∧
      registry.type source.typeKey = .ok sourceType ∧ registry.type port.typeKey = .ok type ∧
      port.field = sourceType.adapt source.field type := by
  obtain ⟨slots, slot, source, has, at_slot, -, -, found, sourceType, known, connected⟩ := fed
  obtain ⟨slots', has', paired⟩ := settled.exists_slots
  cases has.unique has'
  obtain ⟨port', at_port, becomes⟩ := paired.exists_getElem? at_slot
  cases at_k.symm.trans at_port
  refine ⟨source, sourceType, slot.type, found, known, ?_, ?_⟩
  · rw [show port.typeKey = slot.parameter.typeKey from congrArg (·.2.1) becomes.signature]
    exact becomes.known
  · rw [becomes.field (by simp [connected]), connected]

/-- An edge that joins two ports feeds the input it leads to, except for one with a pin. -/
theorem fedBy_iff (valid : registry.Consistent) (consistent : graph.Consistent registry)
    (settled : graph.SettledAt registry node) (inside : node ∈ graph.nodes)
    (joined : edge ∈ graph.edges → graph.Joins registry edge) {k : Nat} {port : Port}
    (at_k : node.ports[k]? = some port) :
    graph.FedBy registry node k edge ↔
      port.usage = .input ∧ port.pinned = false ∧ graph.incoming? node.name port.name = some edge := by
  obtain ⟨slots, has, paired⟩ := settled.exists_slots
  obtain ⟨slot, at_slot, becomes⟩ := paired.flip.exists_getElem? at_k
  have name : port.name = slot.parameter.name := congrArg (·.1) becomes.signature
  have typeKey : port.typeKey = slot.parameter.typeKey := congrArg (·.2.1) becomes.signature
  have usage : port.usage = slot.parameter.usage := congrArg (·.2.2) becomes.signature
  rw [incoming?_eq_some consistent.distinctTargets]
  constructor
  · rintro ⟨slots', slot', source, has', at_slot', member, target, -, takes⟩
    cases has.unique has'
    cases at_slot.symm.trans at_slot'
    obtain ⟨input, free⟩ := takes.free becomes.initial
    refine ⟨usage.trans input, ?_, member, by rw [target, name]⟩
    rw [← Bool.not_eq_true, becomes.pinned, free]
    nofun
  · rintro ⟨input, unpinned, member, target⟩
    obtain ⟨source, target', sourceType, targetType, sourceFound, targetFound, -, -, sourceKnown,
      targetKnown, accepted⟩ := joined member
    have targetPort : graph.port? ⟨node.name, port.name⟩ = some port := by
      rw [port?, node?_of_mem consistent.distinctNames inside, Option.bind_some]
      exact Node.port?_of_mem ((consistent.conforms node inside).distinctPorts valid)
        (List.mem_of_getElem? at_k)
    rw [target, targetPort] at targetFound
    cases targetFound
    rw [typeKey, becomes.known] at targetKnown
    cases targetKnown
    have free : slot.origin = .free := by
      have unpinned' : slot.origin ≠ .pinned := fun pinned => by
        rw [becomes.pinned.mpr pinned] at unpinned
        cases unpinned
      cases origin : slot.origin with
      | pinned => exact absurd origin unpinned'
      | connected => exact absurd origin becomes.initial
      | free => rfl
    have incoming : graph.incoming? node.name slot.parameter.name = some edge :=
      (incoming?_eq_some consistent.distinctTargets).mpr ⟨member, by rw [target, name]⟩
    have reached : (graph.feeds node.name).find? (·.toPort = slot.parameter.name) =
        some ⟨slot.parameter.name, source⟩ := by
      rw [find?_feeds consistent.distinctTargets, incoming, Option.bind_some, sourceFound,
        Option.map_some]
    exact ⟨slots, slot, source, has, at_slot, member, by rw [target, name], sourceFound,
      Slot.takes_of_find? ⟨usage ▸ input, free⟩ reached sourceKnown accepted⟩

end Graph

end ShadingGraph
