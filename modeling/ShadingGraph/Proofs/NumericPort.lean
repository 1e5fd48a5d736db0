import ShadingGraph.Proofs.Feeding
import ShadingGraph.Proofs.Noninterference
import ShadingGraph.Proofs.NumericText

/-! # Numeric ports

Every pass of concretization gives a numeric slot a shaped field: the first for a pin and
for a computed default, the second for an accepted source, and the third by resizing what
is shaped already. So only a default that is a whole field, on a port that is neither
pinned nor fed, can leave a numeric port without the components of its shape. What is
written for a shaped field has one number for each cell of the shader type that declares it.
-/

namespace ShadingGraph

variable {registry : Registry} {feeds : List Feed} {shape : NumericType}

/-- The parameter is an input, and the first feed into it comes from a port of a registered
type that its own type accepts. -/
def Parameter.Fed (registry : Registry) (feeds : List Feed) (type : DataType) (parameter : Parameter) :
    Prop :=
  parameter.usage = .input ∧ ∃ feed sourceType, feeds.find? (·.toPort = parameter.name) = some feed ∧
    registry.type feed.source.typeKey = .ok sourceType ∧ type.accepts sourceType = true

namespace Slot

variable {slot : Slot}

/-- The slot has a shaped field if its type is numeric. -/
def Shaped (slot : Slot) : Prop :=
  ∀ shape, slot.type = .numeric shape → slot.field.Shaped

theorem shaped_initial {ports : List Port} {parameter : Parameter} {type : DataType}
    (settled : (initial ports parameter type).origin = .pinned ∨
      ∀ value, parameter.default ≠ some (.field value)) : (initial ports parameter type).Shaped := by
  rw [initial_eq] at settled ⊢
  cases pin : parameter.pin? ports with
  | some field =>
      rintro shape rfl
      exact shape.shaped_normalize field
  | none =>
      rintro shape rfl
      exact DataType.shaped_defaultField shape (settled.resolve_left (by simp [pin]))

theorem shaped_connect_of_fed (free : slot.origin = .free)
    (fed : slot.parameter.Fed registry feeds slot.type) : (slot.connect registry feeds).Shaped := by
  obtain ⟨input, feed, sourceType, found, known, accepted⟩ := fed
  obtain ⟨_, known', connected⟩ := takes_of_find? ⟨input, free⟩ found known accepted
  cases known.symm.trans known'
  rw [connected]
  intro shape numeric
  simp only at numeric ⊢
  rw [numeric] at accepted ⊢
  obtain ⟨source, rfl⟩ := DataType.exists_numeric_of_accepts accepted
  exact DataType.shaped_adapt source shape feed.source.field

theorem connect_eq_self_or_fed (registry : Registry) (feeds : List Feed) (slot : Slot) :
    slot.connect registry feeds = slot ∨
      slot.origin = .free ∧ slot.parameter.Fed registry feeds slot.type := by
  unfold Slot.connect
  split
  · rename_i eligible
    split
    · rename_i sourceType field reached
      simp only [feed?, Option.bind_eq_bind, Option.bind_eq_some_iff] at reached
      obtain ⟨feed, found, type, known, accepted⟩ := reached
      split at accepted
      · rename_i accepts
        have known := Registry.type_eq_ok.mpr known
        exact Or.inr ⟨eligible.2, eligible.1, feed, type, found, known, accepts⟩
      · cases accepted
    · exact Or.inl rfl
  · exact Or.inl rfl

theorem Shaped.connect (shaped : slot.Shaped) : (slot.connect registry feeds).Shaped := by
  rcases connect_eq_self_or_fed registry feeds slot with same | ⟨free, fed⟩
  · rwa [same]
  · exact shaped_connect_of_fed free fed

/-- After the second pass a numeric slot is shaped, unless it holds a default taken as it
stands. -/
theorem shaped_connect_initial {ports : List Port} {parameter : Parameter} {type : DataType}
    (settled : (initial ports parameter type).origin = .pinned ∨ parameter.Fed registry feeds type ∨
      ∀ value, parameter.default ≠ some (.field value)) :
    ((initial ports parameter type).connect registry feeds).Shaped := by
  rcases settled with pinned | fed | computed
  · exact (shaped_initial (Or.inl pinned)).connect
  · rcases origin_initial ports parameter type with pinned | free
    · exact (shaped_initial (Or.inl pinned)).connect
    · exact shaped_connect_of_fed free (by rwa [parameter_initial, type_initial])
  · exact (shaped_initial (Or.inr computed)).connect

theorem Shaped.of_resized {after : Slot} (shaped : slot.Shaped) (resized : Resized slot after) :
    after.Shaped := by
  rcases resized with rfl | ⟨dimension, rfl⟩
  · exact shaped
  · unfold Slot.resize
    split
    · intro shape numeric
      have field := shaped shape numeric
      simp only at numeric ⊢
      rw [numeric]
      exact shape.shaped_resize field dimension
    · exact shaped

end Slot

/-- A numeric port is shaped if it is pinned, if a feed reaches it, or if its default is no
whole field. -/
theorem shaped_of_concretize {node : Node} {definition : Definition} {ports : List Port}
    (concretized : concretize node definition feeds registry = .ok ports) :
    ∃ variant, definition.variant? node.selectedVariant = some variant ∧
      List.Forall₂ (fun parameter port => port.signature = parameter.signature ∧
        ∀ shape, registry.type parameter.typeKey = .ok (.numeric shape) →
          (port.pinned = true ∨ parameter.Fed registry feeds (.numeric shape) ∨
            ∀ value, parameter.default ≠ some (.field value)) → port.field.Shaped)
        variant.parameters ports := by
  obtain ⟨variant, slots, selected, initial, rfl⟩ := concretize_eq_ok.mp concretized
  obtain ⟨change, resized, shared⟩ :=
    Concretization.exists_shareDimensions_eq_map (slots.map (Slot.connect registry feeds))
  refine ⟨variant, selected, ?_⟩
  rw [shared, List.map_map, List.map_map, List.forall₂_map_right_iff]
  refine (Concretization.initialSlots_eq_ok.mp initial).imp ?_
  rintro parameter _ ⟨type, known, rfl⟩
  let slot := Slot.initial node.ports parameter type
  have connected := Slot.keeps_connect registry feeds slot
  have kept : Slot.Keeps slot (change (slot.connect registry feeds)) :=
    connected.trans (resized _).keeps
  refine ⟨?_, fun shape numeric settled => ?_⟩
  · simp only [Function.comp_apply, Slot.port, Port.signature, Parameter.signature]
    rw [kept.parameter, Slot.parameter_initial]
  · cases known.symm.trans numeric
    have pinned : (change (slot.connect registry feeds)).port.pinned = true → slot.origin = .pinned := by
      simp only [Slot.port, decide_eq_true_eq]
      exact kept.origin.mp
    have shaped := (Slot.shaped_connect_initial (settled.imp_left pinned)).of_resized (resized _)
    exact shaped shape (kept.type.trans (Slot.type_initial _ _ _))

/-- A numeric port that is pinned, fed or without a whole field as its default holds the four
tags and exactly the components of its shape. Unless it names a reference, what is written
for it agrees with its shader type. -/
theorem numericPorts_of_concretize {node : Node} {definition : Definition} {ports : List Port}
    (concretized : concretize node definition feeds registry = .ok ports) :
    ∃ variant, definition.variant? node.selectedVariant = some variant ∧
      List.Forall₂ (fun parameter port => port.signature = parameter.signature ∧
        ∀ shape, registry.type port.typeKey = .ok (.numeric shape) →
          (port.pinned = true ∨ parameter.Fed registry feeds (.numeric shape) ∨
            ∀ value, parameter.default ≠ some (.field value)) →
          ∃ members values, port.field.HoldsComponents members values ∧
            ((port.field.child? Member.reference).bind Field.string? = none →
              shape.WritesComponents port.field values))
        variant.parameters ports := by
  obtain ⟨variant, selected, paired⟩ := shaped_of_concretize concretized
  refine ⟨variant, selected, paired.imp ?_⟩
  rintro parameter port ⟨signature, shaped⟩
  refine ⟨signature, fun shape numeric settled => ?_⟩
  have key : port.typeKey = parameter.typeKey := congrArg (·.2.1) signature
  obtain ⟨members, values, held, rfl⟩ :=
    Field.HoldsComponents.exists_of_shaped (shaped shape (key ▸ numeric) settled)
  exact ⟨members, _, held, shape.writesComponents⟩

/-- `A` takes two components from its feed; `B` has three from its pin, and `Out` as many from
its group. -/
theorem numericPorts_wornSum : ∃ ports,
    concretize wornSum StandardNode.add [wornFeed] .standard = .ok ports ∧ ports.length = 3 ∧
      ∀ port ∈ ports, ∃ members values, port.field.HoldsComponents members values ∧
        values.length = if port.name = "A" then 2 else 3 := by
  obtain ⟨ports, concretized, count, stated⟩ : ∃ ports,
      concretize wornSum StandardNode.add [wornFeed] .standard = .ok ports ∧
        ports.length = 3 ∧ ∀ port ∈ ports, port.typeKey = ⟨"Vector", 1⟩ ∧
          port.field.length?.getD 1 * port.field.height?.getD 1 = if port.name = "A" then 2 else 3 :=
    Outcome.exists_of_yields (by decide +kernel)
  obtain ⟨variant, selected, paired⟩ := numericPorts_of_concretize concretized
  refine ⟨ports, concretized, count, fun port inside => ?_⟩
  obtain ⟨key, cells⟩ := stated port inside
  obtain ⟨parameter, declared, -, complete⟩ := paired.exists_mem_left inside
  have numeric :
      Registry.standard.type port.typeKey = .ok (.numeric (.named "Vector" .float .any .one)) :=
    Registry.type_eq_ok.mpr (key ▸ by decide +kernel)
  have undeclared : ∀ variant ∈ StandardNode.add.variants, ∀ parameter ∈ variant.parameters,
      parameter.default.isNone = true := by
    decide
  have plain : ∀ value, parameter.default ≠ some (.field value) := by
    rw [Option.isNone_iff_eq_none.mp
      (undeclared variant (List.mem_of_find?_eq_some selected) parameter declared)]
    nofun
  obtain ⟨members, values, held, -⟩ := complete _ numeric (Or.inr (Or.inr plain))
  exact ⟨members, values, held, held.count.trans cells⟩

end ShadingGraph
