import ShadingGraph.Proofs.Concretization
import ShadingGraph.Proofs.FieldAgreement
import ShadingGraph.Registry.Standard

/-! # Concretization depends on pins alone

Two nodes that hold the same pins for the parameters of their variant are concretized to
the same ports, whatever other ports, values and orders of ports they come from. That
the pins agree is enough for the ports to agree. In particular nothing is left of what a
node held before its pins were cleared, and concretizing twice is concretizing once.
-/

namespace ShadingGraph

variable {registry : Registry} {definition : Definition} {feeds : List Feed}

/-- For each parameter of the variant that the first node selects, both nodes hold a pin
or neither does, and the pins are related. -/
def Definition.PinsRelated (definition : Definition) (related : Field → Field → Prop)
    (node other : Node) : Prop :=
  ∀ variant, definition.variant? node.selectedVariant = some variant →
    ∀ parameter ∈ variant.parameters,
      Option.Rel related (parameter.pin? node.ports) (parameter.pin? other.ports)

/-- Ports of one signature whose fields agree. -/
structure Port.Agrees (port other : Port) : Prop where
  signature : port.signature = other.signature
  pinned : port.pinned = other.pinned
  field : port.field.Agrees other.field

/-- Slots that are equal but for pins that agree. -/
inductive Slot.Agrees : Slot → Slot → Prop where
  | refl (slot : Slot) : Agrees slot slot
  | pinned {x y : Field} (parameter : Parameter) (type : DataType) (same : x.Agrees y) :
    Agrees ⟨parameter, type, x, .pinned⟩ ⟨parameter, type, y, .pinned⟩

namespace Slot.Agrees

variable {slot other : Slot}

theorem initial {ports others : List Port} {parameter : Parameter} (type : DataType)
    (pins : Option.Rel Field.Agrees (parameter.pin? ports) (parameter.pin? others)) :
    (initial ports parameter type).Agrees (initial others parameter type) := by
  rw [initial_eq, initial_eq]
  generalize parameter.pin? ports = pin at pins ⊢
  generalize parameter.pin? others = pin' at pins ⊢
  cases pins with
  | none => exact .refl _
  | some same => exact .pinned parameter type (type.agrees_normalize same)

theorem type (agrees : slot.Agrees other) : slot.type = other.type := by
  cases agrees <;> rfl

theorem statedDimension? (agrees : slot.Agrees other) :
    slot.statedDimension? = other.statedDimension? := by
  cases agrees with
  | refl => rfl
  | pinned parameter type same => exact type.dimension?_of_agrees same

theorem connect (agrees : slot.Agrees other) :
    (slot.connect registry feeds).Agrees (other.connect registry feeds) := by
  cases agrees with
  | refl => exact .refl _
  | pinned parameter type same =>
      have kept : ∀ field, Slot.connect registry feeds ⟨parameter, type, field, .pinned⟩ =
          ⟨parameter, type, field, .pinned⟩ := fun field => if_neg (by simp)
      rw [kept, kept]
      exact .pinned parameter type same

theorem resize (agrees : slot.Agrees other) (dimension : Nat) :
    (slot.resize dimension).Agrees (other.resize dimension) := by
  cases agrees with
  | refl => exact .refl _
  | pinned parameter type same =>
      have kept : ∀ field, Slot.resize dimension ⟨parameter, type, field, .pinned⟩ =
          ⟨parameter, type, field, .pinned⟩ := fun field => if_neg (by simp)
      rw [kept, kept]
      exact .pinned parameter type same

theorem port (agrees : slot.Agrees other) : slot.port.Agrees other.port := by
  cases agrees with
  | refl => exact ⟨rfl, rfl, .refl _⟩
  | pinned parameter type same => exact ⟨rfl, rfl, same⟩

end Slot.Agrees

namespace Concretization

variable {slots others : List Slot}

theorem initialSlots_agree {ports ports' : List Port} {parameters : List Parameter}
    (pins : ∀ parameter ∈ parameters,
      Option.Rel Field.Agrees (parameter.pin? ports) (parameter.pin? ports')) :
    Outcome.Agree (List.Forall₂ Slot.Agrees) (initialSlots registry ports parameters)
      (initialSlots registry ports' parameters) := by
  induction parameters with
  | nil => exact .ok .nil
  | cons parameter rest ih =>
      obtain ⟨pin, others⟩ := List.forall_mem_cons.mp pins
      have later := ih others
      simp only [initialSlots]
      cases registry.type parameter.typeKey with
      | error error => exact .error error
      | ok type =>
          simp only [Outcome.ok_bind]
          generalize initialSlots registry ports rest = first at later ⊢
          generalize initialSlots registry ports' rest = second at later ⊢
          cases later with
          | error error => exact .error error
          | ok slots => exact .ok (.cons (.initial type pin) slots)

theorem groupDimension?_of_agrees (paired : List.Forall₂ Slot.Agrees slots others)
    (group : ShapeGroup) : groupDimension? slots group = groupDimension? others group := by
  have members : List.Forall₂ Slot.Agrees (membersOf group slots) (membersOf group others) := by
    refine List.rel_filter (fun slot other agrees => ?_) paired
    simp only [agrees.type]
  unfold groupDimension?
  generalize membersOf group slots = first at members ⊢
  generalize membersOf group others = second at members ⊢
  cases members with
  | nil => rfl
  | cons agrees rest =>
      have stated := (List.Forall₂.cons agrees rest).filterMap_eq_filterMap
        fun _ _ agrees => agrees.statedDimension?
      simp only [agrees.type, stated]

theorem shareDimensions_agree (paired : List.Forall₂ Slot.Agrees slots others) :
    List.Forall₂ Slot.Agrees (shareDimensions slots) (shareDimensions others) := by
  unfold shareDimensions
  rw [List.forall₂_map_left_iff, List.forall₂_map_right_iff]
  refine paired.imp fun slot other agrees => ?_
  have dimension : slot.type.shapeGroup?.bind (groupDimension? slots) =
      other.type.shapeGroup?.bind (groupDimension? others) := by
    rw [agrees.type]
    congr 1
    exact funext (groupDimension?_of_agrees paired)
  rw [dimension]
  split
  · exact agrees.resize _
  · exact agrees

end Concretization

section Node

variable {node other : Node}

/-- Nodes whose pins agree get ports that agree. -/
theorem concretize_agree (name : node.name = other.name)
    (selected : node.selectedVariant = other.selectedVariant)
    (pins : definition.PinsRelated Field.Agrees node other) :
    Outcome.Agree (List.Forall₂ Port.Agrees) (concretize node definition feeds registry)
      (concretize other definition feeds registry) := by
  unfold concretize
  rw [← name, ← selected]
  cases chosen : definition.variant? node.selectedVariant with
  | none => exact .error _
  | some variant =>
      have initial : Outcome.Agree (List.Forall₂ Slot.Agrees)
          (Concretization.initialSlots registry node.ports variant.parameters)
          (Concretization.initialSlots registry other.ports variant.parameters) :=
        Concretization.initialSlots_agree (pins variant chosen)
      simp only
      generalize Concretization.initialSlots registry node.ports variant.parameters = first at initial ⊢
      generalize Concretization.initialSlots registry other.ports variant.parameters = second at initial ⊢
      cases initial with
      | error error => exact .error _
      | ok slots =>
          refine .ok ?_
          rw [List.forall₂_map_left_iff, List.forall₂_map_right_iff]
          refine (Concretization.shareDimensions_agree ?_).imp fun _ _ agrees => agrees.port
          rw [List.forall₂_map_left_iff, List.forall₂_map_right_iff]
          exact slots.imp fun _ _ agrees => agrees.connect

/-- Of the ports of a node only the pins of its variant matter: equal pins lead to equal
ports, pins that agree lead to ports that agree, and without pins the ports are those of a
fresh node. -/
theorem concretize_noninterference (definition : Definition) (feeds : List Feed)
    (registry : Registry) (name : node.name = other.name)
    (selected : node.selectedVariant = other.selectedVariant) :
    (definition.PinsRelated Eq node other →
      concretize node definition feeds registry = concretize other definition feeds registry) ∧
    (definition.PinsRelated Field.Agrees node other →
      Outcome.Agree (List.Forall₂ Port.Agrees) (concretize node definition feeds registry)
        (concretize other definition feeds registry)) ∧
    ((∀ port ∈ node.ports, port.pinned = false) →
      concretize node definition feeds registry =
        concretize ((Node.fresh node.name definition).selectVariant node.selectedVariant) definition
          feeds registry) := by
  refine ⟨fun pins => ?_, concretize_agree name selected, fun unpinned => ?_⟩
  · refine concretize_congr name selected fun variant chosen parameter inside type _ => ?_
    have pin := pins variant chosen parameter inside
    generalize parameter.pin? node.ports = first at pin ⊢
    generalize parameter.pin? other.ports = second at pin ⊢
    cases pin with
    | none => rfl
    | some same => rw [same]
  · refine concretize_congr rfl rfl fun _ _ parameter _ _ _ => ?_
    rw [parameter.pin?_eq_none, parameter.pin?_eq_none]
    · exact fun _ inside => absurd inside List.not_mem_nil
    · exact fun port inside => by rw [Port.pin?, unpinned port inside]; rfl

/-- A sum with a history: its first pin belongs to no parameter, `A` has kept a number
that no pin holds, and the pin of `B` is out of form. -/
def wornSum : Node where
  name := "sum"
  definitionKey := ⟨"Add", 1⟩
  selectedVariant := "Add"
  ports :=
    [ ⟨"Old", .input, ⟨"Vector", 1⟩, .text "left over", true⟩,
      ⟨"A", .input, ⟨"Vector", 1⟩, .float .one, false⟩,
      ⟨"B", .input, ⟨"Vector", 1⟩,
        .composite [("c7", .bool true), ("c0", .float .zero), ("Length", .tag "Three")], true⟩ ]

/-- A sum with the same pin, its members in another order and its zero of the other sign. -/
def plainSum : Node where
  name := "sum"
  definitionKey := ⟨"Add", 1⟩
  selectedVariant := "Add"
  ports :=
    [ ⟨"B", .input, ⟨"Vector", 1⟩,
        .composite [("Length", .tag "Three"), ("c0", .float (.signedZero true)), ("c7", .bool true)],
        true⟩ ]

theorem pinsRelated_wornSum : StandardNode.add.PinsRelated Field.Agrees wornSum plainSum := by
  intro variant chosen parameter inside
  cases (show StandardNode.add.variant? "Add" = some _ from rfl).symm.trans chosen
  rcases List.mem_cons.mp inside with rfl | inside
  · exact .none
  rcases List.mem_cons.mp inside with rfl | inside
  · exact .some (Field.agrees_of_equals (by decide +kernel) (by decide +kernel))
  · cases List.mem_singleton.mp inside
    exact .none

theorem concretize_noninterference_wornSum :
    (∃ ports, concretize wornSum StandardNode.add [] .standard = .ok ports ∧ ports.length = 3) ∧
      Outcome.Agree (List.Forall₂ Port.Agrees) (concretize wornSum StandardNode.add [] .standard)
        (concretize plainSum StandardNode.add [] .standard) := by
  have name : wornSum.name = plainSum.name := rfl
  have selected : wornSum.selectedVariant = plainSum.selectedVariant := rfl
  obtain ⟨-, agree, -⟩ := concretize_noninterference StandardNode.add [] .standard name selected
  exact ⟨Outcome.exists_of_yields (by decide +kernel), agree pinsRelated_wornSum⟩

/-- Concretizing again with the same feeds changes nothing. -/
theorem concretize_idempotent {ports : List Port}
    (concretized : concretize node definition feeds registry = .ok ports) :
    concretize { node with ports } definition feeds registry = .ok ports :=
  (concretize_concretize concretized feeds).trans concretized

/-- A feed into `A`, from a port whose field lacks its components. -/
def wornFeed : Feed :=
  ⟨"A", ⟨"Out", .output, ⟨"Vec2", 1⟩, .composite [("Length", .tag "Two")], true⟩⟩

theorem concretize_idempotent_wornSum :
    ∃ ports, concretize wornSum StandardNode.add [wornFeed] .standard = .ok ports ∧
      concretize { wornSum with ports } StandardNode.add [wornFeed] .standard = .ok ports := by
  obtain ⟨ports, concretized, -⟩ : ∃ ports,
      concretize wornSum StandardNode.add [wornFeed] .standard = .ok ports ∧ ports.length = 3 :=
    Outcome.exists_of_yields (by decide +kernel)
  exact ⟨ports, concretized, concretize_idempotent concretized⟩

end Node

end ShadingGraph
