import ShadingGraph.Proofs.SharedDimension

/-! # Square matrices

A matrix whose length and height are both open is made square, with a side of two or more.
What it is brought to afterwards is the dimension of its source or of its group, and this may
be one. So a free or connected matrix is always square, but it is a matrix of a single
component just if a scalar feeds it, or if no port of its group states more than one component
and some port does state one.
-/

namespace ShadingGraph

variable {registry : Registry} {feeds : List Feed}

namespace Field

/-- The field states one side for its length and its height. -/
structure Square (field : Field) (side : Nat) : Prop where
  length : field.length? = some side
  height : field.height? = some side

variable {field : Field} {side : Nat}

theorem Square.setComponents (square : field.Square side) (shaped : field.Shaped)
    (values : List Binary32) : (field.setComponents values).Square side := by
  obtain ⟨members, _, held, -⟩ := HoldsComponents.exists_of_shaped shaped
  rw [held.table] at square ⊢
  constructor
  · rw [length?_setComponents, square.length]
  · rw [height?_setComponents, square.height]

end Field

namespace NumericType

variable {type : NumericType} {field : Field} {side : Nat}

theorem square_resize (matrix : type.shapeGroup? = some .matrix) (shaped : field.Shaped)
    (range : 1 ≤ side ∧ side ≤ 4) : (type.resize field side).Square side := by
  have sized := Extent.count?_ofCount range.1 range.2
  obtain ⟨members, _, held, -⟩ := Field.HoldsComponents.exists_of_shaped shaped
  obtain ⟨length, height⟩ := type.extents_resize members side
  rw [held.table]
  exact ⟨length.trans sized, (height matrix).trans sized⟩

theorem square_defaultField (matrix : type.shapeGroup? = some .matrix) :
    (type.defaultField none).Square 2 := by
  have computed : ∀ value, (none : Option DeclaredDefault) ≠ some (.field value) := nofun
  obtain ⟨length, height⟩ := type.extents_defaultField computed
  have two : type.defaultShape none = (.two, .two) := by
    simp [defaultShape, shapeGroup?_eq_matrix.mp matrix, intrinsicDimension, matrix, providedCount?,
      Extent.ofCount]
  rw [two] at length height
  exact ⟨length, height⟩

end NumericType

theorem DataType.square_adapt (source target : NumericType)
    (matrix : target.shapeGroup? = some .matrix) (field : Field) :
    ((DataType.numeric source).adapt field (.numeric target)).Square (field.length?.getD 2) := by
  have fresh : ((DataType.numeric target).defaultField none).Shaped :=
    shaped_defaultField target nofun
  have square : ((DataType.numeric target).defaultField none).Square 2 :=
    NumericType.square_defaultField matrix
  rw [adapt]
  cases stated : field.length? with
  | none =>
      simp only [shapeGroup?, dimension?, matrix, stated]
      exact square.setComponents fresh _
  | some side =>
      have range := Field.range_of_length? stated
      simp only [shapeGroup?, dimension?, matrix, stated]
      exact (NumericType.square_resize matrix fresh range).setComponents
        (target.shaped_resize fresh side) _

namespace Parameter

/-- One is the greatest dimension that is stated to a port: by the source that feeds it, or else
by the ports of its group. -/
inductive OneStated (registry : Registry) (feeds : List Feed) (ports : List Port)
    (parameters : List Parameter) (type : DataType) (group : ShapeGroup) (parameter : Parameter) :
    Prop where
  | source {feed : Feed} {sourceType : DataType} (input : parameter.usage = .input)
    (found : feeds.find? (·.toPort = parameter.name) = some feed)
    (known : registry.type feed.source.typeKey = .ok sourceType)
    (accepted : type.accepts sourceType = true)
    (stated : sourceType.dimension? feed.source.field = some 1) :
    OneStated registry feeds ports parameters type group parameter
  | group (unfed : ¬parameter.Fed registry feeds type)
    (stated : IsGreatest {stated | group.States registry feeds ports parameters stated} 1) :
    OneStated registry feeds ports parameters type group parameter

end Parameter

/-- A matrix with open length and height that is neither pinned nor given a whole field is
square, and has a single component just if nothing more is stated to it. -/
theorem Parameter.Settles.square {ports : List Port} {parameters : List Parameter}
    {dimension : ShapeGroup → Nat} {parameter : Parameter} {port : Port} {shape : NumericType}
    {origin : Origin} {field : Field}
    (settles : parameter.Settles registry feeds ports dimension port (.numeric shape) origin field)
    (shares : ShapeGroup.matrix.Shares registry feeds ports parameters (dimension .matrix))
    (matrix : shape.shapeGroup? = some .matrix) (unpinned : port.pinned = false)
    (computed : ∀ value, parameter.default ≠ some (.field value)) :
    ∃ side, port.field.Square side ∧
      (side = 1 ↔ parameter.OneStated registry feeds ports parameters (.numeric shape) .matrix) := by
  have kept := settles.kept
  have shared := settles.shared .matrix matrix
  have pinned := settles.pinned
  cases settles.draws with
  | pinned pin => simp [unpinned] at pinned
  | @connected feed sourceType _ input found known accepted =>
      obtain ⟨source, rfl⟩ := DataType.exists_numeric_of_accepts accepted
      refine ⟨_, kept (.inl nofun) ▸ DataType.square_adapt source shape matrix feed.source.field, ?_⟩
      constructor
      · intro one
        cases stated : feed.source.field.length? with
        | none =>
            rw [stated] at one
            cases one
        | some side =>
            rw [stated, Option.getD_some] at one
            exact .source input found known accepted (stated.trans (congrArg some one))
      · rintro (⟨_, found', known', _, stated⟩ | ⟨unfed, _⟩)
        · cases found.symm.trans found'
          cases known.symm.trans known'
          rw [show feed.source.field.length? = some 1 from stated, Option.getD_some]
        · exact absurd ⟨input, feed, _, found, known, accepted⟩ unfed
  | free _ unfed =>
      obtain ⟨length, height⟩ := shared rfl computed
      refine ⟨dimension .matrix, ⟨length, height rfl⟩, ?_⟩
      constructor
      · intro one
        obtain greatest | ⟨-, two⟩ := shares
        · exact .group unfed (one ▸ greatest)
        · cases one.symm.trans two
      · rintro (⟨input, found, known, accepted, _⟩ | ⟨_, stated⟩)
        · exact absurd ⟨input, _, _, found, known, accepted⟩ unfed
        · obtain greatest | ⟨none, -⟩ := shares
          · exact greatest.unique stated
          · exact absurd stated.1 (none 1)

/-- Inferable matrices stay square. Every port of an open matrix type that is neither pinned nor
given a whole field as its default has a side from one to four, and a side of one just if
one is the greatest dimension that is stated to it. -/
theorem squareMatrices_of_concretize {node : Node} {definition : Definition} {ports : List Port}
    (concretized : concretize node definition feeds registry = .ok ports) :
    ∃ variant, definition.variant? node.selectedVariant = some variant ∧
      List.Forall₂ (fun parameter port => port.signature = parameter.signature ∧
        ∀ shape, registry.type parameter.typeKey = .ok (.numeric shape) →
          shape.length = .any → shape.height = .any → port.pinned = false →
          (∀ value, parameter.default ≠ some (.field value)) →
            ∃ side, port.field.Square side ∧ 1 ≤ side ∧ side ≤ 4 ∧
              (side = 1 ↔ parameter.OneStated registry feeds node.ports variant.parameters
                (.numeric shape) .matrix))
        variant.parameters ports := by
  obtain ⟨variant, selected, dimension, shares, paired⟩ := sharesDimensions_of_concretize concretized
  refine ⟨variant, selected, paired.imp ?_⟩
  rintro parameter port ⟨type, origin, field, settles⟩
  refine ⟨settles.signature, fun shape numeric length height unpinned computed => ?_⟩
  cases settles.known.symm.trans numeric
  have matrix := NumericType.shapeGroup?_eq_matrix.mpr ⟨length, height⟩
  obtain ⟨side, square, one⟩ := settles.square (shares .matrix) matrix unpinned computed
  have range := Field.range_of_length? square.length
  exact ⟨side, square, range.1, range.2, one⟩

def transpose : Definition :=
  .ofVariant <| StandardNode.variant "Transpose" "Transpose" "$Out = transpose($In);"
    [StandardNode.input "In" "Matrix", StandardNode.output "Out" "Matrix"]

/-- A feed into the matrix to be transposed, from a port that holds the default of its type. -/
def transposeFeed (source : NumericType) : Feed :=
  ⟨"In", ⟨"Out", .output, source.key, source.defaultField none, false⟩⟩

/-- A vector of three components makes both matrices three by three. -/
theorem squareMatrices_vector : ∃ ports,
    concretize (.fresh "transpose" transpose) transpose
        [transposeFeed (.named "Vec3" .float .three .one)] .standard = .ok ports ∧
      ports.length = 2 ∧ ∀ port ∈ ports, port.field.Square 3 := by
  obtain ⟨ports, concretized, count, stated⟩ : ∃ ports,
      concretize (.fresh "transpose" transpose) transpose
          [transposeFeed (.named "Vec3" .float .three .one)] .standard = .ok ports ∧
        ports.length = 2 ∧ ∀ port ∈ ports, port.typeKey = ⟨"Matrix", 1⟩ ∧ port.pinned = false ∧
          port.field.length? = some 3 :=
    Outcome.exists_of_yields (by decide +kernel)
  obtain ⟨variant, selected, paired⟩ := squareMatrices_of_concretize concretized
  refine ⟨ports, concretized, count, fun port inside => ?_⟩
  obtain ⟨key, unpinned, three⟩ := stated port inside
  obtain ⟨parameter, declared, signature, squares⟩ := paired.exists_mem_left inside
  have matrix : Registry.standard.type parameter.typeKey =
      .ok (.numeric (.named "Matrix" .float .any .any)) := by
    rw [show parameter.typeKey = ⟨"Matrix", 1⟩ from (congrArg (·.2.1) signature).symm.trans key]
    exact Registry.type_eq_ok.mpr (by decide +kernel)
  have undeclared : ∀ variant ∈ transpose.variants, ∀ parameter ∈ variant.parameters,
      parameter.default.isNone = true := by
    decide
  have plain : ∀ value, parameter.default ≠ some (.field value) := by
    rw [Option.isNone_iff_eq_none.mp
      (undeclared variant (List.mem_of_find?_eq_some selected) parameter declared)]
    nofun
  obtain ⟨side, square, -⟩ := squares _ matrix rfl rfl unpinned plain
  cases square.length.symm.trans three
  exact square

/-- A scalar makes both matrices a single component. -/
theorem squareMatrices_scalar : ∃ ports,
    concretize (.fresh "transpose" transpose) transpose
        [transposeFeed (.named "Float" .float .one .one)] .standard = .ok ports ∧
      Registry.standard.type ⟨"Matrix", 1⟩ = .ok (.numeric (.named "Matrix" .float .any .any)) ∧
      ports.length = 2 ∧ ∀ port ∈ ports, port.typeKey = ⟨"Matrix", 1⟩ ∧ port.pinned = false ∧
        port.field.length? = some 1 ∧ port.field.height? = some 1 := by
  obtain ⟨ports, concretized, count, single⟩ : ∃ ports,
      concretize (.fresh "transpose" transpose) transpose
          [transposeFeed (.named "Float" .float .one .one)] .standard = .ok ports ∧
        ports.length = 2 ∧ ∀ port ∈ ports, port.typeKey = ⟨"Matrix", 1⟩ ∧ port.pinned = false ∧
          port.field.length? = some 1 ∧ port.field.height? = some 1 :=
    Outcome.exists_of_yields (by decide +kernel)
  exact ⟨ports, concretized, Registry.type_eq_ok.mpr (by decide +kernel), count, single⟩

end ShadingGraph
