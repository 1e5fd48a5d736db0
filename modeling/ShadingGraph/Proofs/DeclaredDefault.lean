import ShadingGraph.Proofs.SharedDimension

/-! # Declared defaults

A free port begins with the numbers that its parameter declares, and zeros fill the rest of
its shape. Bringing it to the dimension of its group takes nothing away: the dimension that
the declared numbers call for is one of those from which the greatest is taken, so the port is
only ever brought to more components. What the default names by a reference stays in any case.
-/

namespace ShadingGraph

variable {registry : Registry} {feeds : List Feed}

theorem fit_of_length_le {count : Nat} {values : List Binary32} (few : values.length ≤ count) :
    fit count values = values ++ List.replicate (count - values.length) .zero := by
  rw [fit, List.take_of_length_le few]

namespace Field

variable {field : Field} {numbers : List Binary32}

theorem length_components (field : Field) : field.components.length = field.componentCount := by
  rw [components, List.length_map, List.length_range]

theorem components_setComponents {members : List (String × Field)} {values : List Binary32}
    (count : values.length = (composite members).componentCount) :
    ((composite members).setComponents values).components = values :=
  components_append_componentMembers (plain_of_mem_filter members)
    (by rw [count, componentCount_filter_plain])

/-- A shaped field with the given numbers as its first components and zeros for the others. -/
structure BeginsWith (field : Field) (numbers : List Binary32) : Prop where
  shaped : field.Shaped
  components : ∃ others, field.components = numbers ++ List.replicate others .zero

/-- A field that is brought to more components keeps those it has and gets zeros. -/
theorem BeginsWith.resize (begins : field.BeginsWith numbers) {type : NumericType} {dimension : Nat}
    (grows : field.componentCount ≤ (type.resize field dimension).componentCount) :
    (type.resize field dimension).BeginsWith numbers := by
  refine ⟨type.shaped_resize begins.shaped dimension, ?_⟩
  obtain ⟨others, filled⟩ := begins.components
  obtain ⟨members, _, held, -⟩ := HoldsComponents.exists_of_shaped begins.shaped
  obtain ⟨resized, form⟩ : ∃ resized : List (String × Field), type.resize field dimension =
      (composite resized).setComponents (fit (composite resized).componentCount field.components) := by
    rw [held.table]
    exact ⟨_, rfl⟩
  rw [form, componentCount_setComponents, ← length_components] at grows
  rw [form, components_setComponents (length_fit _ _), fit_of_length_le grows, filled,
    List.append_assoc, List.replicate_append_replicate]
  exact ⟨_, rfl⟩

end Field

theorem Extent.count?_ofCount_pos {count : Nat} (positive : 1 ≤ count) :
    (Extent.ofCount count).count? = some (min count 4) := by
  match count, positive with
  | 1, _ | 2, _ | 3, _ => rfl
  | count + 4, _ => simp [ofCount, count?]

namespace NumericType

variable {type : NumericType} {default : Option DeclaredDefault} {field : Field}

/-- Least side from two to four of a square with at least `count` cells, else four. -/
def matrixSide (count : Nat) : Nat :=
  ([2, 3, 4].find? fun side => count ≤ side * side).getD 4

/-- Cells of the shape that a default of `count` numbers calls for: as many as the type fixes;
an open length or height takes up to four numbers, and a matrix is square. -/
def cellsFor (type : NumericType) (count : Nat) : Nat :=
  match type.length.count?, type.height.count? with
  | some length, some height => length * height
  | none, some height => height * min count 4
  | some length, none => length * min count 4
  | none, none => matrixSide count * matrixSide count

theorem count?_square (count : Nat) :
    (Extent.ofCount (max (squareSide count) 2)).count? = some (matrixSide count) := by
  unfold squareSide matrixSide
  by_cases one : count ≤ 1
  · have four : count ≤ 4 := by omega
    simp [one, four, Extent.ofCount, Extent.count?]
  · by_cases four : count ≤ 4
    · simp [one, four, Extent.ofCount, Extent.count?]
    · by_cases nine : count ≤ 9
      · simp [one, four, nine, Extent.ofCount, Extent.count?]
      · by_cases sixteen : count ≤ 16 <;>
          simp [one, four, nine, sixteen, Extent.ofCount, Extent.count?]

theorem componentCount_defaultField (type : NumericType) {values : List Binary32}
    (provided : values ≠ []) :
    (type.defaultField (some (.components values))).componentCount = type.cellsFor values.length := by
  have computed : ∀ value, some (DeclaredDefault.components values) ≠ some (.field value) := nofun
  obtain ⟨length, height⟩ := type.extents_defaultField computed
  have positive : 1 ≤ values.length := List.length_pos_iff.mpr provided
  have given : providedCount? (some (.components values)) = some values.length := by
    simp [providedCount?, provided]
  have side := count?_square values.length
  have capped := Extent.count?_ofCount_pos positive
  have fixed : Extent.one.count? = some 1 ∧ Extent.two.count? = some 2 ∧
      Extent.three.count? = some 3 ∧ Extent.four.count? = some 4 ∧ Extent.any.count? = none :=
    ⟨rfl, rfl, rfl, rfl, rfl⟩
  rw [Field.componentCount, length, height]
  unfold defaultShape cellsFor
  rw [given]
  cases type.length <;> cases type.height <;> simp [fixed, capped, side, Nat.mul_comm]

theorem components_defaultField (type : NumericType)
    (computed : ∀ value, default ≠ some (.field value)) :
    (type.defaultField default).components =
      defaultValues (type.defaultField default).componentCount default := by
  unfold defaultField
  split
  · exact absurd rfl (computed _)
  · rw [Field.components_setComponents, Field.componentCount_setComponents]
    · rfl
    · rw [length_defaultValues]
      rfl

/-- What a declared default leaves in the field of a free port, whatever its dimension. -/
structure KeepsDefault (type : NumericType) (default : Option DeclaredDefault) (field : Field) :
    Prop where
  numbers : ∀ values, default = some (.components values) → values ≠ [] →
    field.BeginsWith (values.take (type.cellsFor values.length))
  reference : ∀ name, default = some (.reference name) →
    field.child? Member.reference = some (.text name)

theorem keepsDefault_of_declared
    (kept : (∀ value, default ≠ some (.field value)) → default ≠ none → type.KeepsDefault default field) :
    type.KeepsDefault default field := by
  constructor
  · rintro values rfl
    exact (kept nofun nofun).numbers values rfl
  · rintro name rfl
    exact (kept nofun nofun).reference name rfl

theorem keepsDefault_defaultField (type : NumericType) (default : Option DeclaredDefault) :
    type.KeepsDefault default (type.defaultField default) := by
  constructor
  · rintro values rfl provided
    have computed : ∀ value, some (DeclaredDefault.components values) ≠ some (.field value) := nofun
    refine ⟨type.shaped_defaultField computed, type.cellsFor values.length - values.length, ?_⟩
    rw [type.components_defaultField computed, type.componentCount_defaultField provided]
    rfl
  · rintro name rfl
    exact (Field.child?_setComponents_plain (by decide) _ _).trans rfl

theorem child?_resize_plain {name : String} (plain : Member.isComponent name = false)
    (length : name ≠ Member.length) (height : type.shapeGroup? = some .matrix → name ≠ Member.height)
    (members : List (String × Field)) (dimension : Nat) :
    (type.resize (.composite members) dimension).child? name =
      (Field.composite members).child? name := by
  unfold resize
  rw [Field.child?_setComponents_plain plain]
  split
  · rename_i matrix
    simp only [Field.child?, Table.find?_insert_of_ne _ _ (height matrix),
      Table.find?_insert_of_ne _ _ length]
  · simp only [Field.child?, Table.find?_insert_of_ne _ _ length]

theorem KeepsDefault.resize (kept : type.KeepsDefault default field) (shaped : field.Shaped)
    {dimension : Nat} (grows : field.componentCount ≤ (type.resize field dimension).componentCount) :
    type.KeepsDefault default (type.resize field dimension) := by
  constructor
  · exact fun values declared provided => (kept.numbers values declared provided).resize grows
  · intro name declared
    obtain ⟨members, _, held, -⟩ := Field.HoldsComponents.exists_of_shaped shaped
    rw [held.table, child?_resize_plain (by decide) (by decide) (fun _ => by decide), ← held.table]
    exact kept.reference name declared

/-- A member of a group that is brought to no smaller dimension gets no fewer components. -/
theorem componentCount_le_resize {group : ShapeGroup} (member : type.shapeGroup? = some group)
    (shaped : field.Shaped) (square : group = .matrix → field.height? = field.length?)
    {dimension : Nat} (range : 1 ≤ dimension ∧ dimension ≤ 4)
    (fits : ∀ stated, field.length? = some stated → stated ≤ dimension) :
    field.componentCount ≤ (type.resize field dimension).componentCount := by
  have side : field.length?.getD 1 ≤ dimension := by
    cases stated : field.length? with
    | none => exact range.1
    | some count => exact fits count stated
  have sized := Extent.count?_ofCount range.1 range.2
  obtain ⟨members, _, held, -⟩ := Field.HoldsComponents.exists_of_shaped shaped
  obtain ⟨length, height⟩ := type.extents_resize members dimension
  rw [← held.table, sized] at length height
  rw [Field.componentCount, Field.componentCount, length, Option.getD_some]
  refine Nat.mul_le_mul side ?_
  cases group with
  | matrix => rwa [height member, square rfl]
  | vector =>
      have same : (type.resize field dimension).child? Member.height = field.child? Member.height := by
        rw [held.table]
        exact child?_resize_plain (by decide) (by decide) (fun matrix => by simp [member] at matrix) _ _
      rw [Field.height?, Field.height?, Field.taggedChild?, Field.taggedChild?, same]

end NumericType

namespace Concretization

theorem le_sharedDimension {slots : List Slot} {slot : Slot} {group : ShapeGroup} {dimension : Nat}
    (inside : slot ∈ slots) (member : slot.type.shapeGroup? = some group)
    (stated : slot.statedDimension? = some dimension) : dimension ≤ sharedDimension slots group := by
  have among : dimension ∈ (membersOf group slots).filterMap Slot.statedDimension? :=
    List.mem_filterMap.mpr ⟨slot, List.mem_filter.mpr ⟨inside, by simp [member]⟩, stated⟩
  unfold sharedDimension
  cases largest : largest? ((membersOf group slots).filterMap Slot.statedDimension?) with
  | none => simp [largest?_eq_none.mp largest] at among
  | some greatest => exact (largest?_eq_some largest).2 dimension among

/-- A slot takes part in the choice of the dimension that it is brought to, so that its default
fits into it. -/
theorem keepsDefault_share {slots : List Slot} {slot : Slot} {shape : NumericType}
    (range : ∀ group, 1 ≤ sharedDimension slots group ∧ sharedDimension slots group ≤ 4)
    (inside : slot ∈ slots) (numeric : slot.type = .numeric shape)
    (drawn : slot.field = slot.type.defaultField slot.parameter.default) :
    shape.KeepsDefault slot.parameter.default (share (sharedDimension slots) slot).field := by
  refine NumericType.keepsDefault_of_declared fun computed declared => ?_
  have computes := DataType.defaultField_of_computed shape computed
  have kept := shape.keepsDefault_defaultField slot.parameter.default
  have shaped := shape.shaped_defaultField computed
  rw [← computes, ← numeric, ← drawn] at kept shaped
  unfold share
  cases member : slot.type.shapeGroup? with
  | none => exact kept
  | some group =>
      have grouped : shape.shapeGroup? = some group := by rwa [numeric] at member
      have square : group = .matrix → slot.field.height? = slot.field.length? := by
        rintro rfl
        obtain ⟨length, height⟩ := shape.extents_defaultField computed
        rw [drawn, numeric, computes, length, height, NumericType.square_defaultShape grouped]
      have fits : ∀ stated, slot.field.length? = some stated → stated ≤ sharedDimension slots group := by
        intro stated states
        refine le_sharedDimension inside member ?_
        refine (Slot.statedDimension?_eq_some fun _ => drawn).mpr ⟨fun _ => declared, ?_⟩
        rwa [numeric]
      simp only [Slot.resize]
      split
      · rw [numeric]
        exact kept.resize shaped
          (NumericType.componentCount_le_resize grouped shaped square (range group) fits)
      · exact kept

end Concretization

/-- Inference loses no declared default. Every numeric port that is neither pinned nor fed begins
with the numbers that its parameter declares, or holds the reference that it declares, whatever
dimension the other ports of its group bring it to. -/
theorem keepsDefaults_of_concretize {node : Node} {definition : Definition} {ports : List Port}
    (concretized : concretize node definition feeds registry = .ok ports) :
    ∃ variant, definition.variant? node.selectedVariant = some variant ∧
      List.Forall₂ (fun parameter port => port.signature = parameter.signature ∧
        ∀ shape, registry.type parameter.typeKey = .ok (.numeric shape) →
          parameter.pin? node.ports = none → ¬parameter.Fed registry feeds (.numeric shape) →
            shape.KeepsDefault parameter.default port.field)
        variant.parameters ports := by
  obtain ⟨variant, slots, selected, initial, rfl⟩ := concretize_eq_ok.mp concretized
  have shares := Concretization.shares_sharedDimension feeds initial
  refine ⟨variant, selected, ?_⟩
  rw [Concretization.shareDimensions_eq_map, List.map_map, List.map_map, List.forall₂_map_right_iff]
  refine (Concretization.initialSlots_eq_ok.mp initial).with_mem.imp ?_
  rintro parameter _ ⟨-, inside, type, known, rfl⟩
  have member : (Slot.initial node.ports parameter type).connect registry feeds ∈
      slots.map (Slot.connect registry feeds) := List.mem_map_of_mem inside
  obtain ⟨slot, made, rfl, rfl, draws⟩ := Slot.exists_drawn registry feeds node.ports parameter type
  rw [made] at member
  rw [Function.comp_apply, Function.comp_apply, made]
  refine ⟨?_, fun shape numeric unpinned unfed => ?_⟩
  · have kept := Concretization.keeps_share (Concretization.sharedDimension
      (slots.map (Slot.connect registry feeds))) slot
    simp only [Slot.port, Port.signature, Parameter.signature, kept.parameter]
  · have typed : slot.type = .numeric shape := Except.ok.inj (known.symm.trans numeric)
    obtain ⟨-, drawn⟩ := draws.unique (.free unpinned (typed ▸ unfed))
    exact Concretization.keepsDefault_share (fun group => (shares group).range) member typed drawn

/-- A mixture of vectors that declares two numbers for the second and a reference for the
weight. -/
def mixture : Definition :=
  .ofVariant <| StandardNode.variant "Mix" "Mix" "$Out = lerp($A, $B, $Weight);"
    [ StandardNode.input "A" "Vector",
      StandardNode.withDefault (StandardNode.input "B" "Vector")
        (.components [StandardNode.number 1, StandardNode.number 2]),
      StandardNode.withDefault (StandardNode.input "Weight" "Vector") (.reference "UV0"),
      StandardNode.output "Out" "Vector" ]

/-- A mixture whose first vector is pinned to three components. -/
def pinnedMixture : Node where
  name := "mix"
  definitionKey := ⟨"Mix", 1⟩
  selectedVariant := "Mix"
  ports := [⟨"A", .input, ⟨"Vector", 1⟩, .composite [("Length", .tag "Three")], true⟩]

/-- The pin of `A` brings `B` and `Weight` to three components. -/
theorem keepsDefaults_pinnedMixture : ∃ ports b weight,
    concretize pinnedMixture mixture [] .standard = .ok ports ∧
      ports.map (·.field.length?) = [some 3, some 3, some 3, some 3] ∧
      ports[1]? = some b ∧ b.field.BeginsWith [StandardNode.number 1, StandardNode.number 2] ∧
      ports[2]? = some weight ∧ weight.field.child? Member.reference = some (.text "UV0") := by
  obtain ⟨ports, concretized, lengths⟩ : ∃ ports,
      concretize pinnedMixture mixture [] .standard = .ok ports ∧
        ports.map (·.field.length?) = [some 3, some 3, some 3, some 3] :=
    Outcome.exists_of_yields (by decide +kernel)
  obtain ⟨variant, selected, paired⟩ := keepsDefaults_of_concretize concretized
  cases (show mixture.variant? "Mix" = some _ from rfl).symm.trans selected
  have vector : Registry.standard.type ⟨"Vector", 1⟩ =
      .ok (.numeric (.named "Vector" .float .any .one)) :=
    Registry.type_eq_ok.mpr (by decide +kernel)
  have unfed : ∀ parameter : Parameter, ∀ type, ¬parameter.Fed .standard [] type :=
    fun _ _ ⟨_, _, _, found, _⟩ => nomatch found
  obtain ⟨b, at_1, -, kept⟩ := paired.exists_getElem? (i := 1) rfl
  obtain ⟨weight, at_2, -, kept'⟩ := paired.exists_getElem? (i := 2) rfl
  exact ⟨ports, b, weight, concretized, lengths, at_1,
    (kept _ vector rfl (unfed _ _)).numbers _ rfl nofun, at_2,
    (kept' _ vector rfl (unfed _ _)).reference _ rfl⟩

end ShadingGraph
