import ShadingGraph.Proofs.DeclaredDefault
import ShadingGraph.Proofs.Number.Integer
import ShadingGraph.Proofs.WrittenComponent

/-! # Integers declared as defaults

The field of a port holds numbers in single precision, so that an integer that is declared as
a default is rounded on its way into the field, and what is declared in shader code is the
integer that comes back. It is the declared one exactly if the integer has at most 24 binary
digits and zeros behind them, or is the greatest one.
-/

namespace ShadingGraph

theorem repr_nat_injective : Function.Injective Nat.repr := by
  have read (n : ℕ) : Nat.ofDigitChars 10 n.repr.toList 0 = n := by
    rw [Nat.toList_repr, Nat.ofDigitChars_ten_toDigits]
  intro m n same
  rw [← read m, same, read]

theorem repr_int_injective : Function.Injective Int.repr := by
  -- A sign is none of the digits.
  have unsigned (m n : ℕ) : m.repr ≠ "-" ++ n.repr := by
    intro same
    have sign : '-' ∈ m.repr.toList := by simp [same]
    rw [Nat.toList_repr] at sign
    exact absurd (Nat.isDigit_of_mem_toDigits (by decide) (by decide) sign) (by decide)
  intro a b same
  rw [Int.repr_eq_if, Int.repr_eq_if] at same
  split_ifs at same
  · have value := repr_nat_injective same
    omega
  · exact absurd same (unsigned _ _)
  · exact absurd same.symm (unsigned _ _)
  · have value := repr_nat_injective ((String.append_right_inj "-").mp same)
    omega

theorem DeclaredDefault.int_ne_field (n : Int32) (value : Field) :
    some (DeclaredDefault.int n) ≠ some (.field value) := by
  intro same
  cases same

namespace NumericType

variable {type : NumericType} {default : Option DeclaredDefault}

/-- An integer type of one component: its length is one, and no default of one number brings
its height to another. -/
structure IsInteger (type : NumericType) : Prop where
  primitive : type.primitive = .int
  length : type.length = .one
  height : type.height = .one ∨ type.height = .any

theorem IsInteger.shapeGroup? (integer : type.IsInteger) : type.shapeGroup? = none := by
  rw [NumericType.shapeGroup?, integer.length]

theorem primitiveOf_defaultField (computed : ∀ value, default ≠ some (.field value)) :
    type.primitiveOf (type.defaultField default) = type.primitive := by
  have read : (Field.ofTagged type.primitive).tagged? = some type.primitive := by
    cases type.primitive <;> rfl
  have held : (type.defaultField default).child? Member.primitive =
      some (.ofTagged type.primitive) := by
    unfold defaultField
    split
    · exact absurd rfl (computed _)
    · rw [Field.child?_setComponents_plain (by decide)]
      rfl
  rw [primitiveOf, Field.taggedChild?, held, Option.bind_some, read, Option.getD_some]

theorem components_defaultField_int (integer : type.IsInteger) (n : Int32) :
    (type.defaultField (some (.int n))).components = [Binary32.ofInt n.toInt] := by
  have computed := DeclaredDefault.int_ne_field n
  obtain ⟨length, height⟩ := type.extents_defaultField computed
  have one : (type.defaultField (some (.int n))).componentCount = 1 := by
    rw [Field.componentCount, length, height]
    obtain high | high := integer.height <;>
      simp [defaultShape, integer.length, high, Extent.count?, Extent.ofCount, providedCount?]
  rw [components_defaultField type computed, one]
  rfl

theorem literal_of_components {field : Field} {value : Binary32}
    (unreferenced : field.child? Member.reference = none) (single : field.components = [value]) :
    type.literal field = componentText (type.primitiveOf field) value := by
  rw [literal, unreferenced, single]
  rfl

theorem literal_defaultField_int (integer : type.IsInteger) (n : Int32) :
    type.literal (type.defaultField (some (.int n))) =
      toString (Binary32.ofInt n.toInt).toInt32.toInt := by
  have unreferenced : (type.defaultField (some (.int n))).child? Member.reference = none := by
    exact Field.child?_setComponents_plain (by decide) _ _
  rw [literal_of_components unreferenced (components_defaultField_int integer n),
    primitiveOf_defaultField (DeclaredDefault.int_ne_field n), integer.primitive]
  rfl

end NumericType

variable {registry : Registry} {definition : Definition} {node : Node} {feeds : List Feed}
  {ports : List Port} {variant : Variant} {parameter : Parameter} {k : Nat}

/-- A free port outside the groups has the field of its declared default. -/
theorem field_of_concretize (concretized : concretize node definition feeds registry = .ok ports)
    (selected : definition.variant? node.selectedVariant = some variant)
    (declared : variant.parameters[k]? = some parameter) {type : DataType}
    (known : registry.type parameter.typeKey = .ok type) (fixed : type.shapeGroup? = none)
    (unpinned : parameter.pin? node.ports = none) (unfed : ¬parameter.Fed registry feeds type) :
    ∃ port, ports[k]? = some port ∧ port.signature = parameter.signature ∧
      port.field = type.defaultField parameter.default := by
  obtain ⟨_, selected', dimension, -, paired⟩ := sharesDimensions_of_concretize concretized
  cases selected.symm.trans selected'
  obtain ⟨port, at_k, _, origin, field, settles⟩ := paired.exists_getElem? declared
  cases known.symm.trans settles.known
  obtain ⟨-, drawn⟩ := settles.draws.unique (.free unpinned unfed)
  exact ⟨port, at_k, settles.signature, (settles.kept (.inr fixed)).trans drawn⟩

/-- A port that is neither pinned nor fed is declared with the decimal text of the integer that
is its default exactly if single precision gives that integer back. -/
theorem declaresInteger_iff
    (concretized : concretize node definition feeds registry = .ok ports)
    (selected : definition.variant? node.selectedVariant = some variant)
    (declared : variant.parameters[k]? = some parameter)
    (inline : parameter.usage.hasInlineValue = true) {shape : NumericType}
    (numeric : registry.type parameter.typeKey = .ok (.numeric shape)) (integer : shape.IsInteger)
    {n : Int32} (default : parameter.default = some (.int n))
    (unpinned : parameter.pin? node.ports = none)
    (unfed : ¬parameter.Fed registry feeds (.numeric shape)) :
    ∃ port, ports[k]? = some port ∧ port.signature = parameter.signature ∧
      ∀ settings fragment, assemble settings registry { node with ports } = .ok fragment →
        ∃ declaration, fragment.declarations[k]? = some declaration ∧
          (declaration.initializer = some (toString n.toInt) ↔
            n = Int32.maxValue ∨ FitsSignificand n.toInt.natAbs) := by
  obtain ⟨port, at_k, signature, field⟩ := field_of_concretize concretized selected declared numeric
    integer.shapeGroup? unpinned unfed
  refine ⟨port, at_k, signature, fun settings fragment assembled => ?_⟩
  have key : port.typeKey = parameter.typeKey := congrArg (·.2.1) signature
  have usage : port.usage = parameter.usage := congrArg (·.2.2) signature
  obtain ⟨declaration, at_declaration, initializer⟩ :=
    Assembly.declaration_of_port assembled at_k (key ▸ numeric) (usage ▸ inline)
  refine ⟨declaration, at_declaration, ?_⟩
  have literal : declaration.initializer =
      some (toString (Binary32.ofInt n.toInt).toInt32.toInt) := by
    rw [initializer, DataType.literal?, field, default,
      DataType.defaultField_of_computed shape (DeclaredDefault.int_ne_field n),
      shape.literal_defaultField_int integer]
  rw [literal, Option.some.injEq, ← Binary32.toInt32_ofInt_iff, ← Int32.toInt_inj]
  exact repr_int_injective.eq_iff

/-- A node that declares an integer for its input. -/
def counter (n : Int32) : Definition :=
  .ofVariant <| StandardNode.variant "Counter" "Counter" "$Out = $Start;"
    [ StandardNode.withDefault (StandardNode.input "Start" "Int") (.int n),
      StandardNode.output "Out" "Int" ]

def counterRegistry (n : Int32) : Registry :=
  .ofHistory [.builtinTypes, .definition (counter n)]

/-- An even integer just above those of 24 digits is declared as it stands. -/
theorem declaresInteger_even : ∃ ports fragment declaration,
    concretize (.fresh "counter" (counter 16777218)) (counter 16777218) []
        (counterRegistry 16777218) = .ok ports ∧
      assemble .standard (counterRegistry 16777218)
        { Node.fresh "counter" (counter 16777218) with ports } = .ok fragment ∧
      fragment.declarations[0]? = some declaration ∧ declaration.initializer = some "16777218" := by
  obtain ⟨ports, concretized, yields⟩ : ∃ ports,
      concretize (.fresh "counter" (counter 16777218)) (counter 16777218) []
          (counterRegistry 16777218) = .ok ports ∧
        Outcome.yields (assemble .standard (counterRegistry 16777218)
          { Node.fresh "counter" (counter 16777218) with ports }) (fun _ => True) = true :=
    Outcome.exists_of_yields (by decide +kernel)
  obtain ⟨fragment, assembled, -⟩ := Outcome.exists_of_yields yields
  have int : (counterRegistry 16777218).type ⟨"Int", 1⟩ =
      .ok (.numeric (.named "Int" .int .one .one)) :=
    Registry.type_eq_ok.mpr (by decide +kernel)
  have integer : (NumericType.named "Int" .int .one .one).IsInteger := ⟨rfl, rfl, .inl rfl⟩
  have unfed : ∀ parameter : Parameter, ∀ type, ¬parameter.Fed (counterRegistry 16777218) [] type := by
    rintro parameter type ⟨_, _, _, found, _⟩
    cases found
  obtain ⟨port, at_0, -, each⟩ := declaresInteger_iff (k := 0) (n := 16777218) concretized rfl rfl rfl
    int integer rfl rfl (unfed _ _)
  obtain ⟨declaration, at_declaration, kept⟩ := each .standard fragment assembled
  exact ⟨ports, fragment, declaration, concretized, assembled, at_declaration,
    kept.mpr (.inr ⟨8388609, 1, by decide, rfl⟩)⟩

/-- The odd integer before it is rounded, and another one is declared. -/
theorem not_declaresInteger_odd : ∃ ports fragment,
    concretize (.fresh "counter" (counter 16777217)) (counter 16777217) []
        (counterRegistry 16777217) = .ok ports ∧
      assemble .standard (counterRegistry 16777217)
        { Node.fresh "counter" (counter 16777217) with ports } = .ok fragment ∧
      fragment.declarations[0]? = some ⟨"counter_Start", "int", some "16777216"⟩ ∧
      toString (16777217 : Int32).toInt ≠ "16777216" := by
  obtain ⟨ports, concretized, yields⟩ : ∃ ports,
      concretize (.fresh "counter" (counter 16777217)) (counter 16777217) []
          (counterRegistry 16777217) = .ok ports ∧
        Outcome.yields (assemble .standard (counterRegistry 16777217)
          { Node.fresh "counter" (counter 16777217) with ports })
          (fun fragment => fragment.declarations[0]? =
            some (⟨"counter_Start", "int", some "16777216"⟩ : Declaration)) = true :=
    Outcome.exists_of_yields (by decide +kernel)
  obtain ⟨fragment, assembled, declares⟩ := Outcome.exists_of_yields yields
  exact ⟨ports, fragment, concretized, assembled, declares, by decide +kernel⟩

end ShadingGraph
