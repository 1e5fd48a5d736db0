import Mathlib.Data.List.Nodup
import ShadingGraph.Proofs.Table
import ShadingGraph.Registry.History

/-! # Consistency of registries

What registration checks once holds of every definition that can be looked up later,
because types and definitions are only ever added. `Registry.Consistent` collects
these facts; it holds of the empty registry and each registration keeps it.
-/

namespace ShadingGraph

/-- A definition that does not contradict itself. -/
structure Definition.WellFormed (definition : Definition) : Prop where
  nonempty : definition.variants ≠ []
  distinctIds : (definition.variants.map (·.id)).Nodup
  distinctParameters : ∀ variant ∈ definition.variants, (variant.parameters.map (·.name)).Nodup
  hasDefault : ∃ variant ∈ definition.variants, variant.id = definition.defaultVariant

namespace Definition

theorem repeatedParameter?_eq_none {seen : List String} {parameters : List Parameter} :
    repeatedParameter? seen parameters = none ↔
      (parameters.map (·.name)).Nodup ∧ ∀ parameter ∈ parameters, parameter.name ∉ seen := by
  induction parameters generalizing seen with
  | nil => simp [repeatedParameter?]
  | cons parameter rest ih =>
      rw [repeatedParameter?, List.map_cons, List.nodup_cons, List.forall_mem_cons]
      by_cases repeated : parameter.name ∈ seen
      · simp [repeated]
      · rw [if_neg repeated, ih]
        simp only [List.mem_cons, not_or, List.mem_map, not_exists, not_and]
        constructor
        · rintro ⟨nodup, apart⟩
          exact ⟨⟨fun other inside => (apart other inside).1, nodup⟩, repeated,
            fun other inside => (apart other inside).2⟩
        · rintro ⟨⟨different, nodup⟩, -, apart⟩
          exact ⟨nodup, fun other inside => ⟨different other inside, apart other inside⟩⟩

theorem repeatedName?_eq_none {seen : List String} {variants : List Variant} :
    repeatedName? seen variants = none ↔
      (variants.map (·.id)).Nodup ∧ (∀ variant ∈ variants, variant.id ∉ seen) ∧
        ∀ variant ∈ variants, (variant.parameters.map (·.name)).Nodup := by
  induction variants generalizing seen with
  | nil => simp [repeatedName?]
  | cons variant rest ih =>
      rw [repeatedName?, List.map_cons, List.nodup_cons, List.forall_mem_cons, List.forall_mem_cons]
      by_cases repeated : variant.id ∈ seen
      · simp [repeated]
      · rw [if_neg repeated]
        have own : repeatedParameter? [] variant.parameters = none ↔
            (variant.parameters.map (·.name)).Nodup := by
          simp [repeatedParameter?_eq_none]
        cases found : repeatedParameter? [] variant.parameters with
        | some name =>
            have twice : ¬(variant.parameters.map (·.name)).Nodup := by simp [← own, found]
            simp [twice]
        | none =>
            have once := own.mp found
            simp only [ih, List.mem_cons, not_or, List.mem_map, not_exists, not_and]
            constructor
            · rintro ⟨nodup, apart, parameters⟩
              exact ⟨⟨fun other inside => (apart other inside).1, nodup⟩,
                ⟨repeated, fun other inside => (apart other inside).2⟩, once, parameters⟩
            · rintro ⟨⟨different, nodup⟩, ⟨-, apart⟩, -, parameters⟩
              exact ⟨nodup, fun other inside => ⟨different other inside, apart other inside⟩,
                parameters⟩

theorem fault?_eq_none {definition : Definition} :
    definition.fault? = none ↔ definition.WellFormed := by
  have names : repeatedName? [] definition.variants = none ↔
      (definition.variants.map (·.id)).Nodup ∧
        ∀ variant ∈ definition.variants, (variant.parameters.map (·.name)).Nodup := by
    simp [repeatedName?_eq_none]
  have default : definition.variants.any (·.id = definition.defaultVariant) = true ↔
      ∃ variant ∈ definition.variants, variant.id = definition.defaultVariant := by
    simp
  unfold fault?
  constructor
  · intro faultless
    split at faultless
    · cases faultless
    · rename_i nonempty
      split at faultless
      · cases faultless
      · rename_i distinct
        split at faultless
        · rename_i found
          obtain ⟨ids, parameters⟩ := names.mp distinct
          exact ⟨fun empty => nonempty (by simp [empty]), ids, parameters, default.mp found⟩
        · cases faultless
  · intro wellFormed
    have nonempty : ¬definition.variants.isEmpty := by simp [wellFormed.nonempty]
    have distinct := names.mpr ⟨wellFormed.distinctIds, wellFormed.distinctParameters⟩
    simp only [if_neg nonempty, distinct, if_pos (default.mpr wellFormed.hasDefault)]

namespace WellFormed

theorem variant?_default {definition : Definition} (wellFormed : definition.WellFormed) :
    ∃ variant, definition.variant? definition.defaultVariant = some variant := by
  obtain ⟨variant, member, same⟩ := wellFormed.hasDefault
  refine Option.isSome_iff_exists.mp ?_
  simp only [variant?, List.find?_isSome, decide_eq_true_eq]
  exact ⟨variant, member, same⟩

end WellFormed

end Definition

namespace Registry

/-- Whether the type of each parameter of the definition is registered. -/
def CoversTypes (registry : Registry) (definition : Definition) : Prop :=
  ∀ variant ∈ definition.variants, ∀ parameter ∈ variant.parameters,
    ∃ type, Table.find? registry.types parameter.typeKey = some type

/-- What holds of every registry filled by registrations. -/
structure Consistent (registry : Registry) : Prop where
  typeKeyed : ∀ key type, Table.find? registry.types key = some type → type.key = key
  nodeKeyed : ∀ key definition,
    Table.find? registry.nodes key = some definition → definition.key = key
  apart : ∀ key, Table.contains registry.types key → ¬Table.contains registry.nodes key
  wellFormed : ∀ key definition,
    Table.find? registry.nodes key = some definition → definition.WellFormed
  covered : ∀ key definition,
    Table.find? registry.nodes key = some definition → registry.CoversTypes definition

theorem node_eq_ok {registry : Registry} {key : Key} {definition : Definition} :
    registry.node key = .ok definition ↔ Table.find? registry.nodes key = some definition := by
  unfold node
  cases Table.find? registry.nodes key <;> simp

theorem type_eq_ok {registry : Registry} {key : Key} {type : DataType} :
    registry.type key = .ok type ↔ Table.find? registry.types key = some type := by
  unfold Registry.type
  cases Table.find? registry.types key <;> simp

theorem consistent_empty : empty.Consistent := by
  constructor <;> intros <;> simp_all [empty, Table.find?, Table.contains]

theorem registerType_eq_ok {registry next : Registry} {type : DataType} :
    registry.registerType type = .ok next ↔
      registry.contains type.key = false ∧
        next = { registry with types := Table.insert registry.types type.key type } := by
  unfold registerType
  cases used : registry.contains type.key <;> simp [eq_comm]

theorem contains_eq_false {registry : Registry} {key : Key} :
    registry.contains key = false ↔
      ¬Table.contains registry.types key ∧ ¬Table.contains registry.nodes key := by
  simp [contains]

theorem unregistered?_eq_none {registry : Registry} {definition : Definition} :
    registry.unregistered? definition = none ↔ registry.CoversTypes definition := by
  simp only [unregistered?, List.findSome?_eq_none_iff, unregisteredIn?, Option.map_eq_none_iff,
    List.find?_eq_none, CoversTypes, Table.contains, Bool.not_eq_true', Bool.not_eq_false,
    Option.isSome_iff_exists]

theorem registerDefinition_eq_ok {registry next : Registry} {definition : Definition} :
    registry.registerDefinition definition = .ok next ↔
      definition.WellFormed ∧
        ((∃ existing, Table.find? registry.nodes definition.key = some existing ∧
            existing.equals definition = true ∧ next = registry) ∨
          registry.contains definition.key = false ∧ registry.CoversTypes definition ∧
            next = { registry with
              nodes := Table.insert registry.nodes definition.key definition }) := by
  rw [← Definition.fault?_eq_none, ← unregistered?_eq_none, contains_eq_false]
  unfold registerDefinition
  cases faultless : definition.fault? with
  | some fault => simp
  | none =>
      cases existing : Table.find? registry.nodes definition.key with
      | some other =>
          have used : Table.contains registry.nodes definition.key = true := by
            simp [Table.contains, existing]
          by_cases same : other.equals definition <;> simp [same, used, eq_comm (a := registry)]
      | none =>
          have unused : Table.contains registry.nodes definition.key = false := by
            simp [Table.contains, existing]
          by_cases isType : Table.contains registry.types definition.key
          · simp [isType]
          · cases missing : registry.unregistered? definition <;> simp [isType, unused, eq_comm (b := next)]

theorem find?_types_insert {registry : Registry} {type : DataType}
    (unused : ¬Table.contains registry.types type.key) {key : Key} {found : DataType}
    (known : Table.find? registry.types key = some found) :
    Table.find? (Table.insert registry.types type.key type) key = some found := by
  have different : key ≠ type.key := by
    rintro rfl
    exact unused (by simp [Table.contains, known])
  rw [Table.find?_insert_of_ne _ _ different, known]

theorem Consistent.registerType {registry next : Registry} {type : DataType}
    (consistent : registry.Consistent) (registered : registry.registerType type = .ok next) :
    next.Consistent := by
  obtain ⟨unused, rfl⟩ := registerType_eq_ok.mp registered
  obtain ⟨unused, noNode⟩ := contains_eq_false.mp unused
  refine ⟨?_, consistent.nodeKeyed, ?_, consistent.wellFormed, ?_⟩
  · intro key found known
    by_cases same : key = type.key
    · subst same
      rw [Table.find?_insert_self] at known
      cases known
      rfl
    · rw [Table.find?_insert_of_ne _ _ same] at known
      exact consistent.typeKeyed key found known
  · intro key known
    by_cases same : key = type.key
    · exact same ▸ noNode
    · simp only [Table.contains, Table.find?_insert_of_ne _ _ same] at known
      exact consistent.apart key known
  · intro key definition known variant member parameter inside
    obtain ⟨found, covered⟩ := consistent.covered key definition known variant member parameter inside
    exact ⟨found, find?_types_insert unused covered⟩

theorem Consistent.registerDefinition {registry next : Registry} {definition : Definition}
    (consistent : registry.Consistent)
    (registered : registry.registerDefinition definition = .ok next) : next.Consistent := by
  obtain ⟨wellFormed, ⟨_, -, -, rfl⟩ | ⟨unused, covered, rfl⟩⟩ :=
    registerDefinition_eq_ok.mp registered
  · exact consistent
  · have noType := (contains_eq_false.mp unused).1
    have cases_found : ∀ key found,
        Table.find? (Table.insert registry.nodes definition.key definition) key = some found →
          (key = definition.key ∧ found = definition) ∨
            Table.find? registry.nodes key = some found := by
      intro key found known
      by_cases same : key = definition.key
      · subst same
        rw [Table.find?_insert_self] at known
        exact Or.inl ⟨rfl, (Option.some.inj known).symm⟩
      · rw [Table.find?_insert_of_ne _ _ same] at known
        exact Or.inr known
    refine ⟨consistent.typeKeyed, ?_, ?_, ?_, ?_⟩
    · intro key found known
      rcases cases_found key found known with ⟨rfl, rfl⟩ | known
      · rfl
      · exact consistent.nodeKeyed key found known
    · intro key known
      by_cases same : key = definition.key
      · exact absurd known (same ▸ noType)
      · simp only [Table.contains, Table.find?_insert_of_ne _ _ same]
        exact consistent.apart key known
    · intro key found known
      rcases cases_found key found known with ⟨rfl, rfl⟩ | known
      · exact wellFormed
      · exact consistent.wellFormed key found known
    · intro key found known
      rcases cases_found key found known with ⟨rfl, rfl⟩ | known
      · exact covered
      · exact consistent.covered key found known

/-- What each registration of a list keeps, all of them together keep. -/
theorem registerEach_invariant {α : Type} {register : Registry → α → Except RegistryError Registry}
    {invariant : Registry → Prop}
    (step : ∀ registry next item, invariant registry → register registry item = .ok next →
      invariant next) {registry : Registry} (holds : invariant registry) (items : List α) :
    invariant (registerEach register registry items).1 := by
  induction items generalizing registry with
  | nil => exact holds
  | cons item rest ih =>
      simp only [registerEach]
      cases registered : register registry item with
      | ok next => exact ih (step registry next item holds registered)
      | error error => exact holds

theorem register_invariant {invariant : Registry → Prop}
    (types : ∀ registry next type, invariant registry →
      registry.registerType type = .ok next → invariant next)
    (definitions : ∀ registry next definition, invariant registry →
      registry.registerDefinition definition = .ok next → invariant next)
    {registry : Registry} (holds : invariant registry) (registration : Registration) :
    invariant (registry.register registration).1 := by
  cases registration with
  | type type =>
      simp only [Registry.register]
      cases registered : registry.registerType type with
      | ok next => exact types registry next type holds registered
      | error error => exact holds
  | variant variant =>
      simp only [Registry.register]
      cases registered : registry.registerVariant variant with
      | ok next => exact definitions registry next _ holds registered
      | error error => exact holds
  | definition definition =>
      simp only [Registry.register]
      cases registered : registry.registerDefinition definition with
      | ok next => exact definitions registry next definition holds registered
      | error error => exact holds
  | builtinTypes => exact registerEach_invariant types holds _
  | standardNodes => exact registerEach_invariant definitions holds _

theorem registerAll_invariant {invariant : Registry → Prop}
    (types : ∀ registry next type, invariant registry →
      registry.registerType type = .ok next → invariant next)
    (definitions : ∀ registry next definition, invariant registry →
      registry.registerDefinition definition = .ok next → invariant next)
    {registry : Registry} (holds : invariant registry) (history : List Registration) :
    invariant (registry.registerAll history) := by
  induction history generalizing registry with
  | nil => exact holds
  | cons registration rest ih => exact ih (register_invariant types definitions holds registration)

/-- Every registry filled by registrations is consistent, failing ones included. -/
theorem consistent_ofHistory (history : List Registration) : (ofHistory history).Consistent :=
  registerAll_invariant (fun _ _ _ => Consistent.registerType)
    (fun _ _ _ => Consistent.registerDefinition) consistent_empty history

end Registry

end ShadingGraph
