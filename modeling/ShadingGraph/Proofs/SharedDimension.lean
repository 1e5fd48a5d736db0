import Mathlib.Order.Bounds.Basic
import ShadingGraph.Proofs.NumericPort

/-! # Shared dimensions

The ports of a shape group end with one dimension: the greatest that a pin, a source or a
declared default states, or the intrinsic one of the group. Only free ports are brought to
it; a pinned port keeps its normalized field and a connected one what its source adapts to it.
-/

namespace ShadingGraph

variable {registry : Registry} {feeds : List Feed}

def ShapeGroup.intrinsicDimension : ShapeGroup → Nat
  | .vector => 1
  | .matrix => 2

namespace Parameter

/-- Where the field of a port comes from, and that field before dimensions are shared. -/
inductive Draws (registry : Registry) (feeds : List Feed) (ports : List Port) (type : DataType)
    (parameter : Parameter) : Origin → Field → Prop where
  | pinned {field : Field} (pin : parameter.pin? ports = some field) :
    Draws registry feeds ports type parameter .pinned (type.normalize field)
  | connected {feed : Feed} {sourceType : DataType} (unpinned : parameter.pin? ports = none)
    (input : parameter.usage = .input)
    (found : feeds.find? (·.toPort = parameter.name) = some feed)
    (known : registry.type feed.source.typeKey = .ok sourceType)
    (accepted : type.accepts sourceType = true) :
    Draws registry feeds ports type parameter .connected (sourceType.adapt feed.source.field type)
  | free (unpinned : parameter.pin? ports = none) (unfed : ¬parameter.Fed registry feeds type) :
    Draws registry feeds ports type parameter .free (type.defaultField parameter.default)

/-- The port states the dimension to its group: by its pin, by its source, or by the default
that it declares. -/
def States (registry : Registry) (feeds : List Feed) (ports : List Port) (type : DataType)
    (parameter : Parameter) (dimension : Nat) : Prop :=
  ∃ origin field, parameter.Draws registry feeds ports type origin field ∧
    (origin = .free → parameter.default ≠ none) ∧ type.dimension? field = some dimension

variable {ports : List Port} {parameter : Parameter} {type : DataType}

theorem Draws.unique {origin origin' : Origin} {field field' : Field}
    (draws : parameter.Draws registry feeds ports type origin field)
    (draws' : parameter.Draws registry feeds ports type origin' field') :
    origin = origin' ∧ field = field' := by
  cases draws with
  | pinned pin =>
      cases draws' with
      | pinned pin' =>
          cases pin.symm.trans pin'
          exact ⟨rfl, rfl⟩
      | connected unpinned' | free unpinned' => cases pin.symm.trans unpinned'
  | connected unpinned input found known accepted =>
      cases draws' with
      | pinned pin' => cases pin'.symm.trans unpinned
      | connected _ _ found' known' _ =>
          cases found.symm.trans found'
          cases known.symm.trans known'
          exact ⟨rfl, rfl⟩
      | free _ unfed => exact absurd ⟨input, _, _, found, known, accepted⟩ unfed
  | free unpinned unfed =>
      cases draws' with
      | pinned pin' => cases pin'.symm.trans unpinned
      | connected _ input found known accepted =>
          exact absurd ⟨input, _, _, found, known, accepted⟩ unfed
      | free => exact ⟨rfl, rfl⟩

theorem Draws.field_of_free {field : Field}
    (draws : parameter.Draws registry feeds ports type .free field) :
    field = type.defaultField parameter.default := by
  cases draws
  rfl

end Parameter

/-- Some port of the group states the dimension. -/
def ShapeGroup.States (registry : Registry) (feeds : List Feed) (ports : List Port)
    (parameters : List Parameter) (group : ShapeGroup) (dimension : Nat) : Prop :=
  ∃ parameter ∈ parameters, ∃ type, registry.type parameter.typeKey = .ok type ∧
    type.shapeGroup? = some group ∧ parameter.States registry feeds ports type dimension

/-- The greatest dimension that a port of the group states, or the intrinsic one if none does. -/
def ShapeGroup.Shares (registry : Registry) (feeds : List Feed) (ports : List Port)
    (parameters : List Parameter) (group : ShapeGroup) (dimension : Nat) : Prop :=
  IsGreatest {stated | group.States registry feeds ports parameters stated} dimension ∨
    (∀ stated, ¬group.States registry feeds ports parameters stated) ∧
      dimension = group.intrinsicDimension

namespace Slot

variable {ports : List Port} {parameter : Parameter} {type : DataType}

theorem draws_connect_initial (registry : Registry) (feeds : List Feed) (ports : List Port)
    (parameter : Parameter) (type : DataType) :
    parameter.Draws registry feeds ports type
      ((initial ports parameter type).connect registry feeds).origin
      ((initial ports parameter type).connect registry feeds).field := by
  rw [initial_eq]
  cases pin : parameter.pin? ports with
  | some field =>
      rw [Option.map_some, connect, if_neg (by simp)]
      exact .pinned pin
  | none =>
      let slot : Slot := ⟨parameter, type, type.defaultField parameter.default, .free⟩
      change parameter.Draws registry feeds ports type (slot.connect registry feeds).origin
        (slot.connect registry feeds).field
      by_cases fed : parameter.Fed registry feeds type
      · obtain ⟨input, feed, sourceType, found, known, accepted⟩ := fed
        have eligible : slot.parameter.usage = .input ∧ slot.origin = .free := ⟨input, rfl⟩
        obtain ⟨_, known', connected⟩ := takes_of_find? eligible found known accepted
        cases known.symm.trans known'
        rw [connected]
        exact .connected pin input found known accepted
      · rw [(connect_eq_self_or_fed registry feeds slot).resolve_right fun reached => fed reached.2]
        exact .free pin fed

theorem exists_drawn (registry : Registry) (feeds : List Feed) (ports : List Port)
    (parameter : Parameter) (type : DataType) :
    ∃ slot, (initial ports parameter type).connect registry feeds = slot ∧
      slot.parameter = parameter ∧ slot.type = type ∧
      parameter.Draws registry feeds ports type slot.origin slot.field := by
  have kept := keeps_connect registry feeds (initial ports parameter type)
  exact ⟨_, rfl, kept.parameter.trans (parameter_initial _ _ _),
    kept.type.trans (type_initial _ _ _), draws_connect_initial registry feeds ports parameter type⟩

variable {slot : Slot}

theorem statedDimension?_eq_some
    (drawn : slot.origin = .free → slot.field = slot.type.defaultField slot.parameter.default)
    {dimension : Nat} : slot.statedDimension? = some dimension ↔
      (slot.origin = .free → slot.parameter.default ≠ none) ∧
        slot.type.dimension? slot.field = some dimension := by
  unfold statedDimension? declaredDimension?
  by_cases free : slot.origin = .free
  · rw [if_pos free, drawn free]
    cases slot.parameter.default <;> simp [free]
  · simp [free]

theorem statedDimension?_connect_initial {dimension : Nat} :
    ((initial ports parameter type).connect registry feeds).statedDimension? = some dimension ↔
      parameter.States registry feeds ports type dimension := by
  obtain ⟨slot, made, rfl, rfl, draws⟩ := exists_drawn registry feeds ports parameter type
  rw [made]
  have drawn : slot.origin = .free → slot.field = slot.type.defaultField slot.parameter.default := by
    intro free
    rw [free] at draws
    exact draws.field_of_free
  rw [statedDimension?_eq_some drawn]
  constructor
  · rintro ⟨declared, stated⟩
    exact ⟨_, _, draws, declared, stated⟩
  · rintro ⟨origin, field, draws', declared, stated⟩
    obtain ⟨rfl, rfl⟩ := draws.unique draws'
    exact ⟨declared, stated⟩

end Slot

theorem Field.range_of_length? {field : Field} {length : Nat} (stated : field.length? = some length) :
    1 ≤ length ∧ length ≤ 4 := by
  obtain ⟨extent, -, sized⟩ := Option.bind_eq_some_iff.mp stated
  exact ⟨Extent.one_le_of_count? sized, Extent.le_four_of_count? sized⟩

namespace DataType

variable {type : DataType} {field : Field} {dimension : Nat} {group : ShapeGroup}

theorem exists_numeric_of_shapeGroup? (member : type.shapeGroup? = some group) :
    ∃ shape, type = .numeric shape ∧ shape.shapeGroup? = some group := by
  cases type with
  | numeric shape => exact ⟨shape, rfl, member⟩
  | gradient | texture2D | samplerState => cases member

theorem intrinsicDimension_of_shapeGroup? (member : type.shapeGroup? = some group) :
    type.intrinsicDimension = group.intrinsicDimension := by
  obtain ⟨shape, rfl, grouped⟩ := exists_numeric_of_shapeGroup? member
  rw [intrinsicDimension, NumericType.intrinsicDimension, grouped]
  cases group <;> rfl

theorem range_of_dimension? (stated : type.dimension? field = some dimension) :
    1 ≤ dimension ∧ dimension ≤ 4 := by
  cases type with
  | numeric shape => exact Field.range_of_length? stated
  | gradient | texture2D | samplerState => cases stated

end DataType

namespace Concretization

theorem largest?_eq_none {numbers : List Nat} : largest? numbers = none ↔ numbers = [] := by
  cases numbers <;> simp [largest?]

theorem largest?_eq_some {numbers : List Nat} {number : Nat} (found : largest? numbers = some number) :
    number ∈ numbers ∧ ∀ n ∈ numbers, n ≤ number := by
  cases numbers with
  | nil => cases found
  | cons first rest =>
      cases found
      induction rest generalizing first with
      | nil => exact ⟨List.mem_cons_self, fun n inside => Nat.le_of_eq (List.mem_singleton.mp inside)⟩
      | cons next rest ih =>
          obtain ⟨inside, bound⟩ := ih (max first next)
          rw [List.foldl_cons]
          have head : max first next ∈ first :: next :: rest := by
            rcases Nat.le_total first next with le | le
            · simp [Nat.max_eq_right le]
            · simp [Nat.max_eq_left le]
          have above := bound _ List.mem_cons_self
          constructor
          · rcases List.mem_cons.mp inside with same | later
            · rwa [same]
            · exact List.mem_cons_of_mem _ (List.mem_cons_of_mem _ later)
          · intro n member
            simp only [List.mem_cons] at member
            rcases member with rfl | rfl | later
            · omega
            · omega
            · exact bound _ (List.mem_cons_of_mem _ later)

/-- Dimension that the free ports of a group end with. -/
def sharedDimension (slots : List Slot) (group : ShapeGroup) : Nat :=
  (largest? ((membersOf group slots).filterMap Slot.statedDimension?)).getD group.intrinsicDimension

theorem groupDimension?_of_mem {slots : List Slot} {slot : Slot} {group : ShapeGroup}
    (inside : slot ∈ slots) (member : slot.type.shapeGroup? = some group) :
    groupDimension? slots group = some (sharedDimension slots group) := by
  have inside : slot ∈ membersOf group slots := List.mem_filter.mpr ⟨inside, by simp [member]⟩
  unfold groupDimension? sharedDimension
  cases members : membersOf group slots with
  | nil => simp [members] at inside
  | cons first rest =>
      have first' : first ∈ membersOf group slots := members ▸ List.mem_cons_self
      have grouped : first.type.shapeGroup? = some group := by
        simpa using (List.mem_filter.mp first').2
      simp only [DataType.intrinsicDimension_of_shapeGroup? grouped]

def share (dimension : ShapeGroup → Nat) (slot : Slot) : Slot :=
  match slot.type.shapeGroup? with
  | some group => slot.resize (dimension group)
  | none => slot

theorem keeps_share (dimension : ShapeGroup → Nat) (slot : Slot) :
    Slot.Keeps slot (share dimension slot) := by
  unfold share
  split
  · exact Slot.keeps_resize _ _
  · exact Slot.Keeps.refl _

theorem shareDimensions_eq_map (slots : List Slot) :
    shareDimensions slots = slots.map (share (sharedDimension slots)) := by
  refine List.map_congr_left fun slot inside => ?_
  unfold share
  cases member : slot.type.shapeGroup? with
  | none => rfl
  | some group => rw [Option.bind_some, groupDimension?_of_mem inside member]

/-- The slots of the second pass share the greatest dimension that their parameters state. -/
theorem shares_sharedDimension (feeds : List Feed) {ports : List Port} {parameters : List Parameter}
    {slots : List Slot} (initial : initialSlots registry ports parameters = .ok slots)
    (group : ShapeGroup) :
    group.Shares registry feeds ports parameters
      (sharedDimension (slots.map (Slot.connect registry feeds)) group) := by
  have paired := initialSlots_eq_ok.mp initial
  have typed : ∀ parameter type, ((Slot.initial ports parameter type).connect registry feeds).type =
      type := fun parameter type =>
    (Slot.keeps_connect registry feeds _).type.trans (Slot.type_initial ports parameter type)
  have stated : ∀ dimension, dimension ∈ (membersOf group
      (slots.map (Slot.connect registry feeds))).filterMap Slot.statedDimension? ↔
        group.States registry feeds ports parameters dimension := by
    intro dimension
    simp only [membersOf, List.mem_filterMap, List.mem_filter, List.mem_map, decide_eq_true_eq]
    constructor
    · rintro ⟨_, ⟨⟨slot, inside, rfl⟩, member⟩, states⟩
      obtain ⟨parameter, declared, type, known, rfl⟩ := paired.exists_mem_left inside
      rw [typed] at member
      exact ⟨parameter, declared, type, known, member, Slot.statedDimension?_connect_initial.mp states⟩
    · rintro ⟨parameter, declared, type, known, member, states⟩
      obtain ⟨slot, inside, _, known', rfl⟩ := paired.exists_mem_right declared
      cases known.symm.trans known'
      exact ⟨_, ⟨⟨_, inside, rfl⟩, (typed parameter type).symm ▸ member⟩,
        Slot.statedDimension?_connect_initial.mpr states⟩
  unfold sharedDimension
  cases largest : largest? ((membersOf group
      (slots.map (Slot.connect registry feeds))).filterMap Slot.statedDimension?) with
  | none =>
      refine Or.inr ⟨fun dimension states => ?_, rfl⟩
      have inside := (stated dimension).mpr states
      rw [largest?_eq_none.mp largest] at inside
      cases inside
  | some dimension =>
      obtain ⟨inside, bound⟩ := largest?_eq_some largest
      exact Or.inl ⟨(stated dimension).mp inside, fun other states => bound other ((stated other).mpr states)⟩

end Concretization

theorem ShapeGroup.Shares.range {ports : List Port} {parameters : List Parameter} {group : ShapeGroup}
    {dimension : Nat} (shares : group.Shares registry feeds ports parameters dimension) :
    1 ≤ dimension ∧ dimension ≤ 4 := by
  rcases shares with ⟨⟨_, _, type, -, -, _, _, -, -, stated⟩, -⟩ | ⟨-, rfl⟩
  · exact DataType.range_of_dimension? stated
  · cases group <;> decide

theorem DataType.defaultField_of_computed (shape : NumericType) {default : Option DeclaredDefault}
    (computed : ∀ value, default ≠ some (.field value)) :
    (DataType.numeric shape).defaultField default = shape.defaultField default := by
  unfold defaultField
  split
  · exact absurd rfl (computed _)
  · rfl

theorem NumericType.shapeGroup?_eq_matrix {shape : NumericType} :
    shape.shapeGroup? = some .matrix ↔ shape.length = .any ∧ shape.height = .any := by
  cases length : shape.length <;> cases height : shape.height <;> simp [shapeGroup?, length, height]

theorem NumericType.square_defaultShape {shape : NumericType} (matrix : shape.shapeGroup? = some .matrix)
    (default : Option DeclaredDefault) : (shape.defaultShape default).2 = (shape.defaultShape default).1 := by
  obtain ⟨length, height⟩ := shapeGroup?_eq_matrix.mp matrix
  simp only [defaultShape, length, height]

/-- A free slot with a computed default takes the length, and in the group of matrices the
height, of the dimension that it is brought to. -/
theorem Slot.extents_resize {slot : Slot} {group : ShapeGroup} {dimension : Nat}
    (member : slot.type.shapeGroup? = some group) (free : slot.origin = .free)
    (drawn : slot.field = slot.type.defaultField slot.parameter.default)
    (computed : ∀ value, slot.parameter.default ≠ some (.field value))
    (range : 1 ≤ dimension ∧ dimension ≤ 4) :
    (slot.resize dimension).field.length? = some dimension ∧
      (group = .matrix → (slot.resize dimension).field.height? = some dimension) := by
  obtain ⟨shape, numeric, grouped⟩ := DataType.exists_numeric_of_shapeGroup? member
  rw [numeric, DataType.defaultField_of_computed shape computed] at drawn
  have sized := Extent.count?_ofCount range.1 range.2
  unfold Slot.resize
  split
  · obtain ⟨members, _, held, -⟩ :=
      Field.HoldsComponents.exists_of_shaped (shape.shaped_defaultField computed)
    obtain ⟨length, height⟩ := shape.extents_resize members dimension
    simp only [numeric, DataType.resize, drawn, held.table]
    refine ⟨length.trans sized, ?_⟩
    rintro rfl
    exact (height grouped).trans sized
  · rename_i fitting
    have fits : slot.field.length? = some dimension := by
      simpa [free, numeric, DataType.dimension?] using fitting
    refine ⟨fits, ?_⟩
    -- The default of a matrix is square, so that its height fits as soon as its length does.
    rintro rfl
    obtain ⟨length, height⟩ := shape.extents_defaultField computed
    rw [drawn, height, NumericType.square_defaultShape grouped, ← length, ← drawn, fits]

/-- How a port ends: a pinned or connected one and one of a fixed shape with the field that it
draws, a free one of a group with the dimension of the group, unless its default is a whole
field. -/
structure Parameter.Settles (registry : Registry) (feeds : List Feed) (ports : List Port)
    (dimension : ShapeGroup → Nat) (parameter : Parameter) (port : Port) (type : DataType)
    (origin : Origin) (field : Field) : Prop where
  signature : port.signature = parameter.signature
  known : registry.type parameter.typeKey = .ok type
  draws : parameter.Draws registry feeds ports type origin field
  pinned : port.pinned = true ↔ origin = .pinned
  kept : origin ≠ .free ∨ type.shapeGroup? = none → port.field = field
  shared : ∀ group, type.shapeGroup? = some group → origin = .free →
    (∀ value, parameter.default ≠ some (.field value)) →
      port.field.length? = some (dimension group) ∧
        (group = .matrix → port.field.height? = some (dimension group))

theorem Slot.settles_share {dimension : ShapeGroup → Nat} {ports : List Port} {parameter : Parameter}
    {type : DataType} (range : ∀ group, 1 ≤ dimension group ∧ dimension group ≤ 4)
    (known : registry.type parameter.typeKey = .ok type) :
    ∃ origin field, parameter.Settles registry feeds ports dimension
      (Concretization.share dimension
        ((Slot.initial ports parameter type).connect registry feeds)).port type origin field := by
  obtain ⟨slot, made, rfl, rfl, draws⟩ := exists_drawn registry feeds ports parameter type
  rw [made]
  have keeps := Concretization.keeps_share dimension slot
  refine ⟨slot.origin, slot.field, ⟨?_, known, draws, ?_, ?_, ?_⟩⟩
  · simp only [Slot.port, Port.signature, Parameter.signature, keeps.parameter]
  · simp only [Slot.port, decide_eq_true_eq, keeps.origin]
  · rintro (settled | fixed)
    · simp only [Slot.port, Concretization.share]
      split
      · rw [Slot.resize, if_neg fun free => settled free.1]
      · rfl
    · simp only [Slot.port, Concretization.share, fixed]
  · intro group member free computed
    have drawn := (free ▸ draws).field_of_free
    simp only [Slot.port, Concretization.share, member]
    exact Slot.extents_resize member free drawn computed (range group)

/-- Concretization shares dimensions: every port of the selected variant ends as its parameter,
its pin and its source ask for, with one dimension for each group. -/
theorem sharesDimensions_of_concretize {node : Node} {definition : Definition} {ports : List Port}
    (concretized : concretize node definition feeds registry = .ok ports) :
    ∃ variant, definition.variant? node.selectedVariant = some variant ∧
      ∃ dimension : ShapeGroup → Nat,
        (∀ group, ShapeGroup.Shares registry feeds node.ports variant.parameters group (dimension group)) ∧
        List.Forall₂ (fun parameter port => ∃ type origin field,
            parameter.Settles registry feeds node.ports dimension port type origin field)
          variant.parameters ports := by
  obtain ⟨variant, slots, selected, initial, rfl⟩ := concretize_eq_ok.mp concretized
  have shares := Concretization.shares_sharedDimension feeds initial
  refine ⟨variant, selected, _, shares, ?_⟩
  rw [Concretization.shareDimensions_eq_map, List.map_map, List.map_map, List.forall₂_map_right_iff]
  refine (Concretization.initialSlots_eq_ok.mp initial).imp ?_
  rintro parameter _ ⟨type, known, rfl⟩
  exact ⟨type, Slot.settles_share (fun group => (shares group).range) known⟩

/-- `A` is connected and keeps two components; the pin of `B` brings `Out` to three. -/
theorem sharesDimensions_wornSum : ∃ ports,
    concretize wornSum StandardNode.add [wornFeed] .standard = .ok ports ∧
      ShapeGroup.Shares .standard [wornFeed] wornSum.ports
        (StandardNode.add.variants.flatMap (·.parameters)) .vector 3 ∧
      ports.map (·.field.length?) = [some 2, some 3, some 3] := by
  obtain ⟨ports, concretized, lengths⟩ : ∃ ports,
      concretize wornSum StandardNode.add [wornFeed] .standard = .ok ports ∧
        ports.map (·.field.length?) = [some 2, some 3, some 3] :=
    Outcome.exists_of_yields (by decide +kernel)
  obtain ⟨variant, selected, dimension, shares, paired⟩ := sharesDimensions_of_concretize concretized
  cases (show StandardNode.add.variant? "Add" = some _ from rfl).symm.trans selected
  refine ⟨ports, concretized, ?_, lengths⟩
  have three : dimension .vector = 3 := by
    obtain ⟨out, at_2, type, origin, field, settles⟩ :=
      paired.exists_getElem? (i := 2) (a := StandardNode.output "Out" "Vector") rfl
    have vector : Registry.standard.type ⟨"Vector", 1⟩ =
        .ok (.numeric (.named "Vector" .float .any .one)) :=
      Registry.type_eq_ok.mpr (by decide +kernel)
    cases settles.known.symm.trans vector
    have free : origin = .free := by
      cases settles.draws with
      | pinned pin => cases pin
      | connected _ input => cases input
      | free => rfl
    have length := (settles.shared .vector rfl free nofun).1
    have third := congrArg (·[2]?) lengths
    rw [List.getElem?_map, at_2, Option.map_some, length] at third
    simpa using third
  exact three ▸ shares .vector

end ShadingGraph
