import ShadingGraph.Proofs.DeclaredDefault

/-! # Another dimension for a composite

Resizing reads the numbers of a composite under its old tags, replaces the length, and the
height where both are open, and writes the numbers back, cut or filled up with zeros to what
the new tags call for. Members that are neither those tags nor components stay as they are,
in their order. So a step through a dimension that holds all numbers makes no difference.
-/

namespace ShadingGraph

theorem Extent.count?_ofCount_clamped :
    ∀ count, (Extent.ofCount count).count? = some (max 1 (min count 4))
  | 0 | 1 | 2 | 3 => rfl
  | count + 4 => by simp [ofCount, count?]

theorem fit_fit {values : List Binary32} {larger : Nat} (few : values.length ≤ larger) (count : Nat) :
    fit count (fit larger values) = fit count values := by
  have zeros : min (count - values.length) (larger - values.length) +
      (count - (values.length + (larger - values.length))) = count - values.length := by
    omega
  rw [fit_of_length_le few, fit, List.take_append, List.take_replicate, List.length_append,
    List.length_replicate, List.append_assoc, List.replicate_append_replicate, zeros, fit]

namespace Field

def besides (members : List (String × Field)) : List (String × Field) :=
  members.filter (!Member.isComponent ·.1)

theorem besides_append_componentMembers {rest : List (String × Field)}
    (plain : ∀ member ∈ rest, Member.isComponent member.1 = false) (values : List Binary32) :
    besides (rest ++ componentMembers 0 values) = rest := by
  have replaced : (composite (rest ++ componentMembers 0 values)).setComponents [] =
      composite (rest ++ componentMembers 0 []) :=
    setComponents_append_componentMembers plain []
  rw [setComponents, composite.injEq] at replaced
  exact List.append_cancel_right replaced

end Field

namespace NumericType

variable (type : NumericType) {members : List (String × Field)}

/-- A table with the tags that resizing puts in. -/
def retag (members : List (String × Field)) (dimension : Nat) : List (String × Field) :=
  if type.shapeGroup? = some .matrix then
    Table.insert (Table.insert members Member.length (.ofTagged (Extent.ofCount dimension)))
      Member.height (.ofTagged (Extent.ofCount dimension))
  else Table.insert members Member.length (.ofTagged (Extent.ofCount dimension))

theorem retag_retag (members : List (String × Field)) (first second : Nat) :
    type.retag (type.retag members first) second = type.retag members second := by
  unfold retag
  have there : Member.length ∈
      Table.keys (Table.insert members Member.length (.ofTagged (Extent.ofCount first))) := by
    rw [← Table.contains_iff, Table.contains, Table.find?_insert_self, Option.isSome_some]
  split
  · rw [Table.insert_insert_of_mem there (by decide), Table.insert_insert, Table.insert_insert]
  · rw [Table.insert_insert]

theorem find?_retag_length (members : List (String × Field)) (dimension : Nat) :
    Table.find? (type.retag members dimension) Member.length =
      some (.ofTagged (Extent.ofCount dimension)) := by
  have length := Table.find?_insert_self members Member.length (.ofTagged (Extent.ofCount dimension))
  unfold retag
  split
  · rw [Table.find?_insert_of_ne _ _ (by decide), length]
  · exact length

theorem find?_retag_height (matrix : type.shapeGroup? = some .matrix) (members : List (String × Field))
    (dimension : Nat) : Table.find? (type.retag members dimension) Member.height =
      some (.ofTagged (Extent.ofCount dimension)) := by
  rw [retag, if_pos matrix, Table.find?_insert_self]

theorem keys_prefix_retag (members : List (String × Field)) (dimension : Nat) :
    Table.keys members <+: Table.keys (type.retag members dimension) := by
  unfold retag
  split
  · exact (Table.keys_prefix_insert _ _ _).trans (Table.keys_prefix_insert _ _ _)
  · exact Table.keys_prefix_insert _ _ _

theorem besides_retag (members : List (String × Field)) (dimension : Nat) :
    Field.besides (type.retag members dimension) = type.retag (Field.besides members) dimension := by
  have inserted : ∀ name, Member.isComponent name = false → ∀ members value,
      Field.besides (Table.insert members name value) = Table.insert (Field.besides members) name value := by
    intro name plain members value
    exact Table.filter_insert (p := (!Member.isComponent ·)) (by rw [plain]; rfl) members value
  unfold retag
  split
  · rw [inserted _ (by decide), inserted _ (by decide)]
  · rw [inserted _ (by decide)]

theorem plain_of_mem_retag_besides (members : List (String × Field)) (dimension : Nat) :
    ∀ member ∈ type.retag (Field.besides members) dimension, Member.isComponent member.1 = false := by
  rw [← besides_retag]
  exact Field.plain_of_mem_filter _

theorem resize_composite (members : List (String × Field)) (dimension : Nat) :
    type.resize (.composite members) dimension =
      .composite (type.retag (Field.besides members) dimension ++ Field.componentMembers 0
        (fit (Field.composite (type.retag (Field.besides members) dimension)).componentCount
          (Field.composite members).components)) := by
  have count := Field.componentCount_filter_plain (type.retag members dimension)
  have besides := type.besides_retag members dimension
  rw [Field.besides] at besides
  rw [besides] at count
  rw [count, ← besides]
  rfl

/-- What resizing leaves of a composite with the given members. -/
structure Resizes (dimension : Nat) (members : List (String × Field)) (resized : Field) : Prop where
  /-- The length is the dimension, brought into the range from one to four, … -/
  length : resized.child? Member.length = some (.ofTagged (Extent.ofCount dimension))
  stated : (DataType.numeric type).dimension? resized = some (max 1 (min dimension 4))
  /-- … and so is an open height. -/
  height : type.height = .any →
    resized.child? Member.height = some (.ofTagged (Extent.ofCount dimension)) ∧
      resized.height? = some (max 1 (min dimension 4))
  /-- The numbers are those read under the old tags, as many as the new ones call for. -/
  components : resized.components =
    fit (max 1 (min dimension 4) * resized.height?.getD 1) (Field.composite members).components
  /-- No other members are named like components, and the rest keep their order. -/
  others : ∃ kept, resized = .composite (kept ++ Field.componentMembers 0 resized.components) ∧
    (∀ member ∈ kept, Member.isComponent member.1 = false) ∧
    Table.keys (Field.besides members) <+: Table.keys kept
  /-- What is neither component nor replaced tag is unchanged. -/
  unchanged : ∀ name, Member.isComponent name = false → name ≠ Member.length →
    (type.height = .any → name ≠ Member.height) →
      resized.child? name = (Field.composite members).child? name

theorem resizes_resize (opened : type.length = .any) (members : List (String × Field)) (dimension : Nat) :
    type.Resizes dimension members (type.resize (.composite members) dimension) := by
  have plain := type.plain_of_mem_retag_besides members dimension
  have count := length_fit (Field.composite (type.retag (Field.besides members) dimension)).componentCount
    (Field.composite members).components
  have clamped := Extent.count?_ofCount_clamped dimension
  have matrix : type.height = .any → type.shapeGroup? = some .matrix := fun square =>
    shapeGroup?_eq_matrix.mpr ⟨opened, square⟩
  obtain ⟨length, height⟩ := type.extents_resize members dimension
  have tag : ∀ name, Member.isComponent name = false →
      (type.resize (.composite members) dimension).child? name =
        Table.find? (type.retag (Field.besides members) dimension) name := by
    intro name plain
    rw [resize_composite, Field.child?, Table.find?_append, Field.find?_componentMembers_plain plain,
      Option.or_none]
  have components : (type.resize (.composite members) dimension).components =
      fit (type.resize (.composite members) dimension).componentCount (Field.composite members).components := by
    rw [resize_composite, Field.components_append_componentMembers plain count,
      Field.componentCount_append_componentMembers]
  constructor
  case length => rw [tag _ (by decide), find?_retag_length]
  case stated => exact length.trans clamped
  case height =>
    intro square
    refine ⟨?_, (height (matrix square)).trans clamped⟩
    rw [tag _ (by decide), type.find?_retag_height (matrix square)]
  case components =>
    rw [components, Field.componentCount, length, clamped, Option.getD_some]
  case others =>
    refine ⟨_, ?_, plain, type.keys_prefix_retag (Field.besides members) dimension⟩
    rw [resize_composite, Field.components_append_componentMembers plain count]
  case unchanged =>
    intro name plain apart free
    exact type.child?_resize_plain plain apart (fun square => free (shapeGroup?_eq_matrix.mp square).2)
      members dimension

/-- A step through a dimension that holds all components leaves no trace. -/
theorem resize_resize (field : Field) (first second : Nat)
    (holds : field.componentCount ≤ (type.resize field first).componentCount) :
    type.resize (type.resize field first) second = type.resize field second := by
  cases field with
  | composite members =>
      have plain := type.plain_of_mem_retag_besides members first
      have count := length_fit (Field.composite (type.retag (Field.besides members) first)).componentCount
        (Field.composite members).components
      rw [resize_composite, Field.componentCount_append_componentMembers] at holds
      rw [resize_composite, resize_composite, Field.besides_append_componentMembers plain, retag_retag,
        Field.components_append_componentMembers plain count,
        fit_fit (by rwa [Field.length_components]), ← resize_composite]
  | float | int | bool | tag | text | list => rfl

/-- Resizing a type of open length leaves of a composite what `Resizes` says and any other field
as it was, and a step through a dimension that holds all components makes no difference. -/
theorem resize_composes (opened : type.length = .any) (dimension : Nat) :
    (∀ members, type.Resizes dimension members (type.resize (.composite members) dimension)) ∧
      (∀ field, (∀ members, field ≠ .composite members) → type.resize field dimension = field) ∧
      ∀ field first, field.componentCount ≤ (type.resize field first).componentCount →
        type.resize (type.resize field first) dimension = type.resize field dimension := by
  refine ⟨fun members => type.resizes_resize opened members dimension, fun field bare => ?_,
    fun field first => type.resize_resize field first dimension⟩
  cases field with
  | composite members => exact absurd rfl (bare members)
  | float | int | bool | tag | text | list => rfl

/-- A matrix as it may be written by hand: a number beyond its shape, a height that is a text, a
whole number, no length, and a note. -/
def looseMatrix : List (String × Field) :=
  [ (Member.component 7, .float .one),
    (Member.height, .text "Three"),
    (Member.component 0, .int 2),
    ("Note", .bool true) ]

/-- Its three numbers are read under the height, and all of them have a place in a square of
side two. -/
theorem resize_looseMatrix :
    (named "Matrix" .float .any .any).Resizes 2 looseMatrix
        ((named "Matrix" .float .any .any).resize (.composite looseMatrix) 2) ∧
      (named "Matrix" .float .any .any).resize
          ((named "Matrix" .float .any .any).resize (.composite looseMatrix) 2) 0 =
        .composite
          [ (Member.height, .tag "One"),
            ("Note", .bool true),
            (Member.length, .tag "One"),
            (Member.component 0, .float (Binary32.ofInt 2)) ] ∧
      (named "Matrix" .float .any .any).resize (.bool true) 0 = .bool true := by
  have resizes := ((named "Matrix" .float .any .any).resize_composes rfl 2).1 looseMatrix
  obtain ⟨-, bare, composes⟩ := (named "Matrix" .float .any .any).resize_composes rfl 0
  refine ⟨resizes, ?_, bare _ nofun⟩
  rw [composes (.composite looseMatrix) 2 (by decide)]
  rfl

end NumericType

end ShadingGraph
