import ShadingGraph.Concretization
import ShadingGraph.Proofs.NumericField
import ShadingGraph.Proofs.Outcome
import ShadingGraph.Proofs.Paired
import ShadingGraph.Proofs.Registry

/-! # What concretization keeps

Of the ports that a node had before, concretization sees the pins of its selected
variant and nothing else. It makes one port for each parameter, in order, and hands
on each pin in normal form. So nodes with the same pins get the same ports, and the
ports made stand for those there were in every later concretization.
-/

namespace ShadingGraph

/-- Field of a port that was written by hand. -/
def Port.pin? (port : Port) : Option Field :=
  if port.pinned then some port.field else none

/-- Name, type and usage of a port, which its parameter fixes. -/
def Port.signature (port : Port) : String × Key × Usage :=
  (port.name, port.typeKey, port.usage)

def Parameter.signature (parameter : Parameter) : String × Key × Usage :=
  (parameter.name, parameter.typeKey, parameter.usage)

theorem Port.hasSignature_eq_true {port : Port} {parameter : Parameter} :
    port.hasSignature parameter.name parameter.typeKey parameter.usage = true ↔
      port.signature = parameter.signature := by
  simp only [hasSignature, signature, Parameter.signature, Bool.and_eq_true, decide_eq_true_eq,
    Prod.mk.injEq, and_assoc]

/-- Pin that a list of ports holds for a parameter: that of the first port with its
signature. -/
def Parameter.pin? (parameter : Parameter) (ports : List Port) : Option Field :=
  (ports.find? (·.hasSignature parameter.name parameter.typeKey parameter.usage)).bind Port.pin?

/-- A port made for a parameter of a registered type, out of the ports there were. -/
structure Parameter.Realizes (registry : Registry) (former : List Port) (parameter : Parameter)
    (port : Port) : Prop where
  signature : port.signature = parameter.signature
  pin : ∃ type, registry.type parameter.typeKey = .ok type ∧
    port.pin? = (parameter.pin? former).map type.normalize

namespace Slot

theorem initial_eq (ports : List Port) (parameter : Parameter) (type : DataType) :
    initial ports parameter type =
      match (parameter.pin? ports).map type.normalize with
      | some field => ⟨parameter, type, field, .pinned⟩
      | none => ⟨parameter, type, type.defaultField parameter.default, .free⟩ := by
  unfold initial Parameter.pin?
  cases ports.find? (·.hasSignature parameter.name parameter.typeKey parameter.usage) with
  | none => rfl
  | some port => cases pinned : port.pinned <;> simp [Port.pin?, pinned]

@[simp] theorem parameter_initial (ports : List Port) (parameter : Parameter) (type : DataType) :
    (initial ports parameter type).parameter = parameter := by
  rw [initial_eq]
  split <;> rfl

@[simp] theorem type_initial (ports : List Port) (parameter : Parameter) (type : DataType) :
    (initial ports parameter type).type = type := by
  rw [initial_eq]
  split <;> rfl

theorem origin_initial (ports : List Port) (parameter : Parameter) (type : DataType) :
    (initial ports parameter type).origin = .pinned ∨ (initial ports parameter type).origin = .free := by
  rw [initial_eq]
  split
  · exact Or.inl rfl
  · exact Or.inr rfl

/-- What the passes after the first keep of a slot. -/
structure Keeps (before after : Slot) : Prop where
  parameter : after.parameter = before.parameter
  type : after.type = before.type
  origin : after.origin = .pinned ↔ before.origin = .pinned
  field : before.origin = .pinned → after.field = before.field

theorem Keeps.refl (slot : Slot) : Keeps slot slot :=
  ⟨rfl, rfl, Iff.rfl, fun _ => rfl⟩

theorem Keeps.trans {a b c : Slot} (first : Keeps a b) (second : Keeps b c) : Keeps a c where
  parameter := second.parameter.trans first.parameter
  type := second.type.trans first.type
  origin := second.origin.trans first.origin
  field pinned := (second.field (first.origin.mpr pinned)).trans (first.field pinned)

theorem keeps_connect (registry : Registry) (feeds : List Feed) (slot : Slot) :
    Keeps slot (slot.connect registry feeds) := by
  unfold connect
  split
  · rename_i unfed
    split
    · exact ⟨rfl, rfl, by simp [unfed.2], by simp [unfed.2]⟩
    · exact Keeps.refl slot
  · exact Keeps.refl slot

theorem keeps_resize (dimension : Nat) (slot : Slot) : Keeps slot (slot.resize dimension) := by
  unfold resize
  split
  · rename_i free
    exact ⟨rfl, rfl, Iff.rfl, by simp [free.1]⟩
  · exact Keeps.refl slot

/-- The third pass brings a slot to some dimension or leaves it as it is. -/
def Resized (before after : Slot) : Prop :=
  after = before ∨ ∃ dimension, after = before.resize dimension

theorem Resized.keeps {before after : Slot} (resized : Resized before after) : Keeps before after := by
  rcases resized with rfl | ⟨dimension, rfl⟩
  · exact Keeps.refl after
  · exact keeps_resize dimension before

theorem pin?_port (slot : Slot) :
    slot.port.pin? = if slot.origin = .pinned then some slot.field else none := by
  simp only [port, Port.pin?, decide_eq_true_eq]

theorem realizes_of_keeps {registry : Registry} {former : List Port} {parameter : Parameter}
    {type : DataType} {slot : Slot} (known : registry.type parameter.typeKey = .ok type)
    (kept : Keeps (initial former parameter type) slot) :
    parameter.Realizes registry former slot.port := by
  have parameter_eq : slot.parameter = parameter := kept.parameter.trans (parameter_initial _ _ _)
  refine ⟨by simp only [port, Port.signature, Parameter.signature, parameter_eq],
    type, known, ?_⟩
  have origin := kept.origin
  have field := kept.field
  rw [initial_eq] at origin field
  rw [pin?_port]
  cases pin : (parameter.pin? former).map type.normalize with
  | none =>
      simp only [pin, reduceCtorEq, iff_false] at origin
      rw [if_neg origin]
  | some value =>
      simp only [pin, iff_true, true_implies] at origin field
      rw [if_pos origin, field]

end Slot

namespace Concretization

variable {registry : Registry}

theorem initialSlots_eq_ok {ports : List Port} {parameters : List Parameter} {slots : List Slot} :
    initialSlots registry ports parameters = .ok slots ↔
      List.Forall₂ (fun parameter slot => ∃ type, registry.type parameter.typeKey = .ok type ∧
        slot = Slot.initial ports parameter type) parameters slots := by
  induction parameters generalizing slots with
  | nil =>
      rw [List.forall₂_nil_left_iff]
      exact ⟨fun same => by cases same; rfl, fun same => same ▸ rfl⟩
  | cons parameter rest ih =>
      rw [List.forall₂_cons_left_iff]
      simp only [initialSlots, Outcome.bind_eq_ok, Outcome.pure_eq_ok, ih]
      constructor
      · rintro ⟨type, known, others, remaining, rfl⟩
        exact ⟨_, others, ⟨type, known, rfl⟩, remaining, rfl⟩
      · rintro ⟨_, others, ⟨type, known, rfl⟩, remaining, rfl⟩
        exact ⟨type, known, others, remaining, rfl⟩

theorem initialSlots_isOk (ports : List Port) {parameters : List Parameter}
    (registered : ∀ parameter ∈ parameters, ∃ type, registry.type parameter.typeKey = .ok type) :
    ∃ slots, initialSlots registry ports parameters = .ok slots := by
  induction parameters with
  | nil => exact ⟨[], rfl⟩
  | cons parameter rest ih =>
      obtain ⟨type, known⟩ := registered parameter List.mem_cons_self
      obtain ⟨slots, remaining⟩ := ih fun other inside => registered other (List.mem_cons_of_mem _ inside)
      exact ⟨Slot.initial ports parameter type :: slots, by
        simp only [initialSlots, known, remaining, bind, Except.bind, pure, Except.pure]⟩

/-- Only the normal forms of the pins reach the slots. -/
theorem initialSlots_congr {ports others : List Port} {parameters : List Parameter}
    (pins : ∀ parameter ∈ parameters, ∀ type, registry.type parameter.typeKey = .ok type →
      (parameter.pin? ports).map type.normalize = (parameter.pin? others).map type.normalize) :
    initialSlots registry ports parameters = initialSlots registry others parameters := by
  induction parameters with
  | nil => rfl
  | cons parameter rest ih =>
      simp only [initialSlots, ih fun other inside => pins other (List.mem_cons_of_mem _ inside)]
      cases known : registry.type parameter.typeKey with
      | error error => rfl
      | ok type =>
          simp only [bind, Except.bind, Slot.initial_eq,
            pins parameter List.mem_cons_self type known]

theorem exists_shareDimensions_eq_map (slots : List Slot) :
    ∃ change : Slot → Slot, (∀ slot, Slot.Resized slot (change slot)) ∧
      shareDimensions slots = slots.map change := by
  refine ⟨_, fun slot => ?_, rfl⟩
  split
  · exact Or.inr ⟨_, rfl⟩
  · exact Or.inl rfl

/-- The second and the third pass change each slot for itself, and the third one only
those that are free. -/
theorem later_passes (registry : Registry) (feeds : List Feed) (slots : List Slot) :
    ∃ change : Slot → Slot, (∀ slot, Slot.Keeps slot (change slot)) ∧
      (∀ slot, (slot.connect registry feeds).origin ≠ .free →
        change slot = slot.connect registry feeds) ∧
      shareDimensions (slots.map (Slot.connect registry feeds)) = slots.map change := by
  obtain ⟨change, resized, shared⟩ :=
    exists_shareDimensions_eq_map (slots.map (Slot.connect registry feeds))
  refine ⟨change ∘ Slot.connect registry feeds, fun slot => ?_, fun slot settled => ?_, ?_⟩
  · exact (Slot.keeps_connect registry feeds slot).trans (resized _).keeps
  · rcases resized (slot.connect registry feeds) with same | ⟨dimension, same⟩
    · exact same
    · rw [Function.comp_apply, same]
      exact if_neg fun free => settled free.1
  · rw [shared, List.map_map]

end Concretization

section Node

variable {registry : Registry} {definition : Definition} {feeds : List Feed}

theorem concretize_eq_ok {node : Node} {ports : List Port} :
    concretize node definition feeds registry = .ok ports ↔
      ∃ variant slots, definition.variant? node.selectedVariant = some variant ∧
        Concretization.initialSlots registry node.ports variant.parameters = .ok slots ∧
        ports = (Concretization.shareDimensions
          (slots.map (Slot.connect registry feeds))).map Slot.port := by
  unfold concretize
  cases definition.variant? node.selectedVariant with
  | none => simp
  | some variant =>
      cases initial : Concretization.initialSlots registry node.ports variant.parameters with
      | error error => simp [initial]
      | ok slots => simp [initial, eq_comm]

/-- Concretization fails only for a variant that does not exist. -/
theorem concretize_isOk {node : Node} {variant : Variant}
    (covered : registry.CoversTypes definition)
    (selected : definition.variant? node.selectedVariant = some variant) :
    ∃ ports, concretize node definition feeds registry = .ok ports := by
  obtain ⟨slots, initial⟩ := Concretization.initialSlots_isOk node.ports
    fun parameter inside => by
      obtain ⟨type, known⟩ := covered variant (List.mem_of_find?_eq_some selected) parameter inside
      exact ⟨type, Registry.type_eq_ok.mpr known⟩
  exact ⟨_, concretize_eq_ok.mpr ⟨variant, slots, selected, initial, rfl⟩⟩

theorem concretize_fresh_isOk (valid : registry.Consistent) {key : Key}
    (known : registry.node key = .ok definition) (name : String) :
    ∃ ports, concretize (.fresh name definition) definition feeds registry = .ok ports := by
  have found := Registry.node_eq_ok.mp known
  obtain ⟨_, default⟩ := (valid.wellFormed _ _ found).variant?_default
  exact concretize_isOk (valid.covered _ _ found) default

/-- The ports are those of the selected variant, one for each parameter, with the
pins of the node in normal form. -/
theorem realizes_of_concretize {node : Node} {ports : List Port}
    (concretized : concretize node definition feeds registry = .ok ports) :
    ∃ variant, definition.variant? node.selectedVariant = some variant ∧
      List.Forall₂ (Parameter.Realizes registry node.ports) variant.parameters ports := by
  obtain ⟨variant, slots, selected, initial, rfl⟩ := concretize_eq_ok.mp concretized
  obtain ⟨change, keeps, -, passes⟩ := Concretization.later_passes registry feeds slots
  refine ⟨variant, selected, ?_⟩
  rw [passes, List.map_map, List.forall₂_map_right_iff]
  refine (Concretization.initialSlots_eq_ok.mp initial).imp ?_
  rintro parameter slot ⟨type, known, rfl⟩
  exact Slot.realizes_of_keeps known (keeps _)

theorem signatures_of_concretize {node : Node} {variant : Variant} {ports : List Port}
    (selected : definition.variant? node.selectedVariant = some variant)
    (concretized : concretize node definition feeds registry = .ok ports) :
    ports.map Port.signature = variant.parameters.map Parameter.signature := by
  obtain ⟨_, selected', realized⟩ := realizes_of_concretize concretized
  cases selected.symm.trans selected'
  exact (realized.map_eq_map fun _ _ realizes => realizes.signature.symm).symm

theorem Parameter.pin?_eq_none (parameter : Parameter) {ports : List Port}
    (unpinned : ∀ port ∈ ports, port.pin? = none) : parameter.pin? ports = none := by
  unfold Parameter.pin?
  cases found : ports.find? (·.hasSignature parameter.name parameter.typeKey parameter.usage) with
  | none => rfl
  | some port => exact unpinned port (List.mem_of_find?_eq_some found)

theorem unpinned_of_concretize {node : Node} {ports : List Port}
    (concretized : concretize node definition feeds registry = .ok ports)
    (unpinned : ∀ port ∈ node.ports, port.pin? = none) : ∀ port ∈ ports, port.pin? = none := by
  intro port inside
  obtain ⟨variant, -, realized⟩ := realizes_of_concretize concretized
  obtain ⟨parameter, -, realizes⟩ := realized.exists_mem_left inside
  obtain ⟨type, -, pin⟩ := realizes.pin
  rw [pin, parameter.pin?_eq_none unpinned, Option.map_none]

/-- Nodes with the same pins, up to normal form, get the same ports. -/
theorem concretize_congr {node other : Node} (name : node.name = other.name)
    (selected : node.selectedVariant = other.selectedVariant)
    (pins : ∀ variant, definition.variant? node.selectedVariant = some variant →
      ∀ parameter ∈ variant.parameters, ∀ type, registry.type parameter.typeKey = .ok type →
        (parameter.pin? node.ports).map type.normalize =
          (parameter.pin? other.ports).map type.normalize) :
    concretize node definition feeds registry = concretize other definition feeds registry := by
  unfold concretize
  rw [← name, ← selected]
  cases variant : definition.variant? node.selectedVariant with
  | none => rfl
  | some variant' => simp only [Concretization.initialSlots_congr (pins variant' variant)]

theorem Parameter.pin?_of_signature {parameter other : Parameter}
    (same : parameter.signature = other.signature) (ports : List Port) :
    parameter.pin? ports = other.pin? ports := by
  simp only [signature, Prod.mk.injEq] at same
  rw [pin?, pin?, same.1, same.2.1, same.2.2]

theorem pin?_of_realizes {former ports : List Port} {parameters : List Parameter}
    (realized : List.Forall₂ (Parameter.Realizes registry former) parameters ports)
    {parameter : Parameter} (inside : parameter ∈ parameters) {type : DataType}
    (known : registry.type parameter.typeKey = .ok type) :
    parameter.pin? ports = (parameter.pin? former).map type.normalize := by
  have found : ∃ port, ports.find?
      (·.hasSignature parameter.name parameter.typeKey parameter.usage) = some port := by
    refine Option.isSome_iff_exists.mp (List.find?_isSome.mpr ?_)
    obtain ⟨port, member, realizes⟩ := realized.exists_mem_right inside
    exact ⟨port, member, Port.hasSignature_eq_true.mpr realizes.signature⟩
  obtain ⟨port, found⟩ := found
  -- The port found may come from another parameter of the same signature.
  obtain ⟨source, member, realizes⟩ := realized.exists_mem_left (List.mem_of_find?_eq_some found)
  have sought : port.hasSignature parameter.name parameter.typeKey parameter.usage = true := by
    simpa using List.find?_some found
  have same : source.signature = parameter.signature :=
    realizes.signature.symm.trans (Port.hasSignature_eq_true.mp sought)
  obtain ⟨sourceType, sourceKnown, pin⟩ := realizes.pin
  rw [show source.typeKey = parameter.typeKey from congrArg (·.2.1) same, known] at sourceKnown
  cases sourceKnown
  rw [Parameter.pin?, found, Option.bind_some, pin, Parameter.pin?_of_signature same]

/-- Only the first feed into each input is looked at. -/
theorem concretize_congr_feeds {node : Node} {others : List Feed}
    (same : ∀ port, feeds.find? (·.toPort = port) = others.find? (·.toPort = port)) :
    concretize node definition feeds registry = concretize node definition others registry := by
  have connect : Slot.connect registry feeds = Slot.connect registry others := by
    funext slot
    simp only [Slot.connect, Slot.feed?, same]
  simp only [concretize, connect]

/-- The ports that concretization makes are as good as those it made them from: whatever
feeds the node next, both lead to the same ports. -/
theorem concretize_concretize {node : Node} {ports : List Port}
    (concretized : concretize node definition feeds registry = .ok ports) (others : List Feed) :
    concretize { node with ports } definition others registry =
      concretize node definition others registry := by
  obtain ⟨variant, selected, realized⟩ := realizes_of_concretize concretized
  refine concretize_congr rfl rfl fun other chosen parameter inside type known => ?_
  cases selected.symm.trans chosen
  rw [pin?_of_realizes realized inside known, Option.map_map]
  congr 1
  exact funext type.normalize_normalize

end Node

end ShadingGraph
