import ShadingGraph.Proofs.Outcome
import ShadingGraph.Proofs.Registry

/-! # Growth of registries

Registrations add entries at the end and take none away, so a key that names something
names the same for ever. `Registry.Sound` is what holds of the entries at all times, and
`Registry.Dependable` adds what later registrations may and may not do.
-/

namespace ShadingGraph

namespace Registry

variable {registry next : Registry}

/-- The registry has grown at the ends of its tables. -/
structure Extends (before after : Registry) : Prop where
  types : before.types <+: after.types
  nodes : before.nodes <+: after.nodes

theorem Extends.refl (registry : Registry) : registry.Extends registry :=
  ⟨List.prefix_rfl, List.prefix_rfl⟩

theorem Extends.trans {before middle after : Registry} (first : before.Extends middle)
    (second : middle.Extends after) : before.Extends after :=
  ⟨first.types.trans second.types, first.nodes.trans second.nodes⟩

structure DistinctKeys (registry : Registry) : Prop where
  types : (Table.keys registry.types).Nodup
  nodes : (Table.keys registry.nodes).Nodup

theorem registerType_appends {type : DataType} (registered : registry.registerType type = .ok next) :
    type.key ∉ Table.keys registry.types ∧
      next = { registry with types := registry.types ++ [(type.key, type)] } := by
  obtain ⟨unused, rfl⟩ := registerType_eq_ok.mp registered
  have fresh := Table.not_contains.mp (contains_eq_false.mp unused).1
  exact ⟨fresh, by rw [Table.insert_eq_append type fresh]⟩

/-- A consistent definition is registered already, or it is put behind the definitions
there were when its key is unused and its types are there. -/
theorem registerDefinition_appends {definition : Definition} :
    registry.registerDefinition definition = .ok next ↔
      definition.WellFormed ∧
        ((∃ existing, registry.node definition.key = .ok existing ∧
            existing.equals definition = true ∧ next = registry) ∨
          registry.contains definition.key = false ∧ registry.CoversTypes definition ∧
            next = { registry with nodes := registry.nodes ++ [(definition.key, definition)] }) := by
  simp only [registerDefinition_eq_ok, node_eq_ok]
  refine and_congr_right fun _ => or_congr_right <| and_congr_right fun unused => ?_
  rw [Table.insert_eq_append definition (Table.not_contains.mp (contains_eq_false.mp unused).2)]

theorem Extends.registerType {before : Registry} {type : DataType}
    (grown : before.Extends registry) (registered : registry.registerType type = .ok next) :
    before.Extends next := by
  obtain ⟨-, rfl⟩ := registerType_appends registered
  exact grown.trans ⟨List.prefix_append _ _, List.prefix_rfl⟩

theorem Extends.registerDefinition {before : Registry} {definition : Definition}
    (grown : before.Extends registry)
    (registered : registry.registerDefinition definition = .ok next) : before.Extends next := by
  obtain ⟨-, ⟨_, -, -, rfl⟩ | ⟨-, -, rfl⟩⟩ := registerDefinition_appends.mp registered
  · exact grown
  · exact grown.trans ⟨List.prefix_rfl, List.prefix_append _ _⟩

theorem DistinctKeys.registerType {type : DataType} (distinct : registry.DistinctKeys)
    (registered : registry.registerType type = .ok next) : next.DistinctKeys := by
  obtain ⟨fresh, rfl⟩ := registerType_appends registered
  exact ⟨Table.nodup_keys_concat distinct.types fresh type, distinct.nodes⟩

theorem DistinctKeys.registerDefinition {definition : Definition} (distinct : registry.DistinctKeys)
    (registered : registry.registerDefinition definition = .ok next) : next.DistinctKeys := by
  obtain ⟨-, ⟨_, -, -, rfl⟩ | ⟨unused, -, rfl⟩⟩ := registerDefinition_appends.mp registered
  · exact distinct
  · have fresh := Table.not_contains.mp (contains_eq_false.mp unused).2
    exact ⟨distinct.types, Table.nodup_keys_concat distinct.nodes fresh definition⟩

theorem extends_registerAll (registry : Registry) (history : List Registration) :
    registry.Extends (registry.registerAll history) :=
  registerAll_invariant (fun _ _ _ => Extends.registerType)
    (fun _ _ _ => Extends.registerDefinition) (.refl registry) history

theorem distinctKeys_ofHistory (history : List Registration) : (ofHistory history).DistinctKeys := by
  have start : empty.DistinctKeys := ⟨List.nodup_nil, List.nodup_nil⟩
  exact registerAll_invariant (fun _ _ _ => DistinctKeys.registerType)
    (fun _ _ _ => DistinctKeys.registerDefinition) start history

theorem lookup_eq_ok {key : Key} {entry : Entry} :
    registry.lookup key = .ok entry ↔
      (∃ type, Table.find? registry.types key = some type ∧ entry = .type type) ∨
        Table.find? registry.types key = none ∧
          ∃ definition, Table.find? registry.nodes key = some definition ∧ entry = .node definition := by
  unfold lookup
  cases Table.find? registry.types key with
  | some type => simp [eq_comm (b := entry)]
  | none => simp [Outcome.map_eq_ok, node_eq_ok, eq_comm (b := entry)]

/-- A key of a type is found before one of a node. No type takes the key of a node, so that
nothing is hidden by what is added. -/
theorem Extends.lookup {before after : Registry} (grown : before.Extends after)
    (consistent : after.Consistent) {key : Key} {entry : Entry}
    (found : before.lookup key = .ok entry) : after.lookup key = .ok entry := by
  rw [lookup_eq_ok] at found ⊢
  obtain ⟨type, known, rfl⟩ | ⟨-, definition, known, rfl⟩ := found
  · exact Or.inl ⟨type, Table.find?_of_prefix grown.types known, rfl⟩
  · have known' := Table.find?_of_prefix grown.nodes known
    have noType : ¬Table.contains after.types key := fun isType =>
      consistent.apart key isType (by simp [Table.contains, known'])
    refine Or.inr ⟨?_, definition, known', rfl⟩
    exact Table.find?_eq_none.mpr (Table.not_contains.mp noType)

/-- A described node is registered as its definition: the check that comes first is made
again. -/
theorem registerDescriptor_eq (registry : Registry) (descriptor : Descriptor) :
    registry.registerDescriptor descriptor = registry.registerDefinition descriptor.definition := by
  unfold registerDescriptor registerDefinition
  cases descriptor.definition.fault? <;> rfl

/-- What the entries of a registry satisfy at all times. -/
structure Sound (registry : Registry) : Prop where
  distinct : registry.DistinctKeys
  /-- No key names both a type and a node. -/
  apart : ∀ key ∈ Table.keys registry.types, key ∉ Table.keys registry.nodes
  typeKeyed : ∀ entry ∈ registry.types, entry.2.key = entry.1
  nodeKeyed : ∀ entry ∈ registry.nodes, entry.2.key = entry.1
  wellFormed : ∀ entry ∈ registry.nodes, entry.2.WellFormed
  covered : ∀ entry ∈ registry.nodes, registry.CoversTypes entry.2

theorem Consistent.sound (consistent : registry.Consistent) (distinct : registry.DistinctKeys) :
    registry.Sound := by
  have type : ∀ entry ∈ registry.types, Table.find? registry.types entry.1 = some entry.2 :=
    fun entry inside => Table.find?_of_mem distinct.types inside
  have node : ∀ entry ∈ registry.nodes, Table.find? registry.nodes entry.1 = some entry.2 :=
    fun entry inside => Table.find?_of_mem distinct.nodes inside
  refine ⟨distinct, ?_, ?_, ?_, ?_, ?_⟩
  · intro key isType isNode
    exact consistent.apart key (Table.contains_iff.mpr isType) (Table.contains_iff.mpr isNode)
  · exact fun entry inside => consistent.typeKeyed _ _ (type entry inside)
  · exact fun entry inside => consistent.nodeKeyed _ _ (node entry inside)
  · exact fun entry inside => consistent.wellFormed _ _ (node entry inside)
  · exact fun entry inside => consistent.covered _ _ (node entry inside)

end Registry

/-- Whether the registration is of a single item. -/
def Registration.isSingle : Registration → Bool
  | .type _ | .variant _ | .definition _ => true
  | .builtinTypes | .standardNodes => false

namespace Registry

theorem register_of_failed {registry : Registry} {registration : Registration}
    (single : registration.isSingle = true) (failed : (registry.register registration).2 ≠ none) :
    (registry.register registration).1 = registry := by
  cases registration with
  | type type =>
      rw [register] at failed ⊢
      cases registered : registry.registerType type with
      | ok next => simp [registered] at failed
      | error error => rfl
  | variant variant =>
      rw [register] at failed ⊢
      cases registered : registry.registerVariant variant with
      | ok next => simp [registered] at failed
      | error error => rfl
  | definition definition =>
      rw [register] at failed ⊢
      cases registered : registry.registerDefinition definition with
      | ok next => simp [registered] at failed
      | error error => rfl
  | builtinTypes | standardNodes => cases single

/-- What holds of a registry at all times and of every registration that follows. -/
structure Dependable (registry : Registry) : Prop where
  sound : registry.Sound
  /-- A key that names something names the same for ever. -/
  lasting : ∀ history key entry, registry.lookup key = .ok entry →
    (registry.registerAll history).lookup key = .ok entry
  /-- The registration of a single item changes nothing when it fails. -/
  unchanged : ∀ registration : Registration, registration.isSingle = true →
    (registry.register registration).2 ≠ none → (registry.register registration).1 = registry
  described : ∀ descriptor,
    registry.registerDescriptor descriptor = registry.registerDefinition descriptor.definition
  /-- A definition is registered exactly when it does not contradict itself, and either equals
  the one under its key or has an unused key and registered types. -/
  accepts : ∀ definition next, registry.registerDefinition definition = .ok next ↔
    definition.WellFormed ∧
      ((∃ existing, registry.node definition.key = .ok existing ∧
          existing.equals definition = true ∧ next = registry) ∨
        registry.contains definition.key = false ∧ registry.CoversTypes definition ∧
          next = { registry with nodes := registry.nodes ++ [(definition.key, definition)] })

/-- Every registry filled by registrations is dependable, failing ones included. -/
theorem dependable_ofHistory (history : List Registration) : (ofHistory history).Dependable where
  sound := (consistent_ofHistory history).sound (distinctKeys_ofHistory history)
  lasting := by
    intro later key entry found
    have consistent : ((ofHistory history).registerAll later).Consistent := by
      have whole := consistent_ofHistory (history ++ later)
      rwa [ofHistory, registerAll, List.foldl_append] at whole
    exact (extends_registerAll _ later).lookup consistent found
  unchanged := fun _ => register_of_failed
  described := registerDescriptor_eq _
  accepts := fun _ _ => registerDefinition_appends

end Registry

end ShadingGraph
