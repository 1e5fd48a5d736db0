import ShadingGraph.Proofs.DeclaredDefault

/-! # Fields carried over between numeric types

A numeric source gives a numeric target a field that consists of four tags and of the numbers
of the source, cut or filled up with zeros. Only an open length of the target takes
anything from the tags of the source. Nothing is asked of the field of the source, which
may be any tree. A source of height one is therefore carried over by way of a vector as it is
directly.
-/

namespace ShadingGraph

theorem fit_self {count : Nat} {values : List Binary32} (whole : values.length = count) :
    fit count values = values := by
  rw [fit_of_length_le (Nat.le_of_eq whole), whole, Nat.sub_self, List.replicate_zero, List.append_nil]

theorem Extent.ofCount_of_count? {extent : Extent} {count : Nat} (sized : extent.count? = some count) :
    Extent.ofCount count = extent := by
  cases extent <;> cases sized <;> rfl

theorem Extent.exists_count? {extent : Extent} (closed : extent ≠ .any) :
    ∃ count, extent.count? = some count := by
  cases extent with
  | any => exact absurd rfl closed
  | one | two | three | four => exact ⟨_, rfl⟩

@[simp] theorem Extent.ofCount_ne_any : ∀ count, Extent.ofCount count ≠ .any
  | 0 | 1 | 2 | 3 | _ + 4 => by simp [ofCount]

theorem Field.length?_eq_some {field : Field} {count : Nat} : field.length? = some count ↔
    ∃ extent : Extent, field.taggedChild? Member.length = some extent ∧ extent.count? = some count :=
  Option.bind_eq_some_iff

namespace NumericType

variable {type source target : NumericType} {length height : Extent} {values : List Binary32}
  {field : Field}

/-- The four tags of the type with the given extents, and the numbers. -/
def fieldOf (type : NumericType) (length height : Extent) (values : List Binary32) : Field :=
  .composite (type.tagMembers length height ++ Field.componentMembers 0 values)

theorem plain_of_mem_tagMembers :
    ∀ member ∈ type.tagMembers length height, Member.isComponent member.1 = false :=
  fun _ inside => Member.isComponent_of_mem_tags (List.mem_map_of_mem (f := (·.1)) inside)

theorem setComponents_fieldOf (others : List Binary32) :
    (type.fieldOf length height values).setComponents others = type.fieldOf length height others :=
  Field.setComponents_append_componentMembers plain_of_mem_tagMembers others

theorem child?_fieldOf {name : String} (plain : Member.isComponent name = false) :
    (type.fieldOf length height values).child? name =
      Table.find? (type.tagMembers length height) name := by
  rw [fieldOf, Field.child?, Table.find?_append, Field.find?_componentMembers_plain plain, Option.or_none]

theorem length?_fieldOf : (type.fieldOf length height values).length? = length.count? := by
  rw [Field.length?, Field.taggedChild?, child?_fieldOf (by decide)]
  exact congrArg (Option.bind · Extent.count?) (Field.taggedChild?_of_find? rfl)

theorem height?_fieldOf : (type.fieldOf length height values).height? = height.count? := by
  rw [Field.height?, Field.taggedChild?, child?_fieldOf (by decide)]
  exact congrArg (Option.bind · Extent.count?) (Field.taggedChild?_of_find? rfl)

theorem componentCount_fieldOf : (type.fieldOf length height values).componentCount =
    length.count?.getD 1 * height.count?.getD 1 := by
  rw [Field.componentCount, length?_fieldOf, height?_fieldOf]

theorem components_fieldOf (count : values.length = length.count?.getD 1 * height.count?.getD 1) :
    (type.fieldOf length height values).components = values := by
  have tags := Field.componentCount_append_componentMembers (type.tagMembers length height) values
  exact Field.components_append_componentMembers plain_of_mem_tagMembers
    (count.trans (componentCount_fieldOf.symm.trans tags))

theorem exists_defaultField (type : NumericType) : ∃ values, type.defaultField none =
    type.fieldOf (type.defaultShape none).1 (type.defaultShape none).2 values := by
  have empty : type.defaultField none = (type.fieldOf (type.defaultShape none).1
      (type.defaultShape none).2 []).setComponents _ := rfl
  exact ⟨_, empty.trans (setComponents_fieldOf _)⟩

/-- Of the tags, resizing replaces the length, and the height where both are open. -/
theorem exists_resize_fieldOf (type : NumericType) (length height : Extent) (values : List Binary32)
    (dimension : Nat) : ∃ others, type.resize (type.fieldOf length height values) dimension =
      type.fieldOf (.ofCount dimension)
        (if type.shapeGroup? = some .matrix then .ofCount dimension else height) others := by
  have length_inserted : ∀ extent, Table.insert (type.tagMembers length height ++
      Field.componentMembers 0 values) Member.length (.ofTagged extent) =
        type.tagMembers extent height ++ Field.componentMembers 0 values := fun _ => rfl
  have height_inserted : ∀ length extent, Table.insert (type.tagMembers length height ++
      Field.componentMembers 0 values) Member.height (.ofTagged extent) =
        type.tagMembers length extent ++ Field.componentMembers 0 values := fun _ _ => rfl
  rw [fieldOf, resize, length_inserted]
  split
  · rw [height_inserted]
    exact ⟨_, setComponents_fieldOf _⟩
  · exact ⟨_, setComponents_fieldOf _⟩

/-- Extents of the field that a source with the given field feeds to a target: those of a fresh
field, but an open length takes the length that the source states, and an open height with it. -/
def takenShape (target : NumericType) (field : Field) : Extent × Extent :=
  match target.shapeGroup?, field.length? with
  | some group, some count =>
    (.ofCount count, if group = .matrix then .ofCount count else (target.defaultShape none).2)
  | _, _ => target.defaultShape none

theorem adapt_eq (source target : NumericType) (field : Field) :
    (DataType.numeric source).adapt field (.numeric target) =
      target.fieldOf (target.takenShape field).1 (target.takenShape field).2
        (fit ((target.takenShape field).1.count?.getD 1 * (target.takenShape field).2.count?.getD 1)
          field.components) := by
  have filled : ∀ shaped length height values, shaped = target.fieldOf length height values →
      shaped.setComponents (fit shaped.componentCount field.components) =
        target.fieldOf length height
          (fit (length.count?.getD 1 * height.count?.getD 1) field.components) := by
    rintro _ length height values rfl
    rw [setComponents_fieldOf, componentCount_fieldOf]
  obtain ⟨values, fresh⟩ := target.exists_defaultField
  rw [DataType.adapt, takenShape, DataType.shapeGroup?, DataType.dimension?]
  cases grouped : target.shapeGroup? with
  | none => exact filled _ _ _ values fresh
  | some group =>
      cases stated : field.length? with
      | none => exact filled _ _ _ values fresh
      | some count =>
          obtain ⟨others, resized⟩ := target.exists_resize_fieldOf (target.defaultShape none).1
            (target.defaultShape none).2 values count
          rw [← fresh, grouped] at resized
          refine filled _ _ _ others (resized.trans ?_)
          simp only [Option.some.injEq]

theorem shapeGroup?_eq_none : type.shapeGroup? = none ↔ type.length ≠ .any := by
  cases length : type.length <;> cases height : type.height <;> simp [shapeGroup?, length, height]

/-- The tag of the source states no length that an open one could take. -/
def Unstated (field : Field) : Prop :=
  ∀ extent : Extent, field.taggedChild? Member.length = some extent → extent = .any

theorem takenShape_of_fresh (fresh : target.length ≠ .any ∨ Unstated field) :
    target.takenShape field = target.defaultShape none := by
  rw [takenShape]
  split
  · rename_i group count grouped stated
    obtain ⟨extent, tagged, sized⟩ := Field.length?_eq_some.mp stated
    rcases fresh with closed | unstated
    · rw [shapeGroup?_eq_none.mpr closed] at grouped
      cases grouped
    · rw [unstated extent tagged] at sized
      cases sized
  · rfl

theorem takenShape_of_stated (opened : target.length = .any) {extent : Extent}
    (tagged : field.taggedChild? Member.length = some extent) (stated : extent ≠ .any) :
    target.takenShape field =
      (extent, if target.height = .any then extent else (target.defaultShape none).2) := by
  obtain ⟨count, sized⟩ := Extent.exists_count? stated
  obtain ⟨group, grouped⟩ := Option.ne_none_iff_exists'.mp
    (shapeGroup?_eq_none.not.mpr (not_not.mpr opened))
  have square : group = .matrix ↔ target.height = .any := by
    rw [← Option.some.injEq, ← grouped, shapeGroup?_eq_matrix, and_iff_right opened]
  simp only [takenShape, grouped, Field.length?_eq_some.mpr ⟨extent, tagged, sized⟩, square,
    Extent.ofCount_of_count? sized]

theorem takenShape_snd (closed : target.height ≠ .any) :
    (target.takenShape field).2 = (target.defaultShape none).2 := by
  rw [takenShape]
  split
  · rename_i group count grouped _
    exact if_neg fun matrix => closed (shapeGroup?_eq_matrix.mp (matrix ▸ grouped)).2
  · rfl

theorem takenShape_ne_any (target : NumericType) (field : Field) :
    (target.takenShape field).1 ≠ .any ∧ (target.takenShape field).2 ≠ .any := by
  have fresh : (target.defaultShape none).1 ≠ .any ∧ (target.defaultShape none).2 ≠ .any := by
    unfold defaultShape
    cases target.length <;> cases target.height <;> simp
  unfold takenShape
  split
  · rename_i group count _ _
    refine ⟨Extent.ofCount_ne_any count, ?_⟩
    split
    · exact Extent.ofCount_ne_any count
    · exact fresh.2
  · exact fresh

/-- What the field of a source leaves in that of a target of the type. -/
structure TakesOver (target : NumericType) (field adapted : Field) : Prop where
  primitive : adapted.child? Member.primitive = some (.ofTagged target.primitive)
  precision : adapted.child? Member.precision = some (.ofTagged target.precision)
  unreferenced : adapted.child? Member.reference = none
  /-- An open length is the one that the source states, and an open height is equal to it. -/
  stated : target.length = .any → ∀ extent : Extent,
    field.taggedChild? Member.length = some extent → extent ≠ .any →
      adapted.child? Member.length = some (.ofTagged extent) ∧
        (target.height = .any → adapted.child? Member.height = some (.ofTagged extent))
  /-- In all other cases length and height are those of a fresh field. -/
  freshLength : target.length ≠ .any ∨ Unstated field →
    adapted.child? Member.length = (target.defaultField none).child? Member.length
  freshHeight : target.length ≠ .any ∨ target.height ≠ .any ∨ Unstated field →
    adapted.child? Member.height = (target.defaultField none).child? Member.height
  components : ∃ length height, adapted.length? = some length ∧ adapted.height? = some height ∧
    adapted.components = fit (length * height) field.components
  /-- There is nothing beside tags and components. -/
  members : ∃ tags, Table.keys tags = Member.tags ∧
    adapted = .composite (tags ++ Field.componentMembers 0 adapted.components)

theorem takesOver_adapt (source target : NumericType) (field : Field) :
    target.TakesOver field ((DataType.numeric source).adapt field (.numeric target)) := by
  obtain ⟨values, fresh⟩ := target.exists_defaultField
  obtain ⟨length, sizedLength⟩ := Extent.exists_count? (target.takenShape_ne_any field).1
  obtain ⟨height, sizedHeight⟩ := Extent.exists_count? (target.takenShape_ne_any field).2
  have whole := adapt_eq source target field
  rw [sizedLength, sizedHeight, Option.getD_some, Option.getD_some] at whole
  have numbers : ((DataType.numeric source).adapt field (.numeric target)).components =
      fit (length * height) field.components := by
    rw [whole]
    exact components_fieldOf (by rw [length_fit, sizedLength, sizedHeight]; rfl)
  constructor
  case primitive => rw [whole, child?_fieldOf (by decide)]; rfl
  case precision => rw [whole, child?_fieldOf (by decide)]; rfl
  case unreferenced => rw [whole, child?_fieldOf (by decide)]; rfl
  case stated =>
    intro opened extent tagged stated
    rw [whole, child?_fieldOf (by decide), child?_fieldOf (by decide),
      takenShape_of_stated opened tagged stated]
    exact ⟨rfl, fun square => by rw [if_pos square]; rfl⟩
  case freshLength =>
    intro unstated
    rw [whole, fresh, child?_fieldOf (by decide), child?_fieldOf (by decide), takenShape_of_fresh unstated]
  case freshHeight =>
    intro unstated
    have height : (target.takenShape field).2 = (target.defaultShape none).2 := by
      rcases unstated with closed | closed | unstated
      · rw [takenShape_of_fresh (.inl closed)]
      · exact takenShape_snd closed
      · rw [takenShape_of_fresh (.inr unstated)]
    rw [whole, fresh, child?_fieldOf (by decide), child?_fieldOf (by decide), height]
    rfl
  case components =>
    refine ⟨length, height, ?_, ?_, numbers⟩
    · rw [whole, length?_fieldOf, sizedLength]
    · rw [whole, height?_fieldOf, sizedHeight]
  case members =>
    rw [numbers, whole]
    exact ⟨_, target.keys_tagMembers _ _, rfl⟩

/-- A vector takes over all numbers of a source of height one, so that a target without an open
length receives from it what it would receive from the source. -/
theorem adapt_adapt (source : NumericType) {vector : NumericType} (length : vector.length = .any)
    (height : vector.height = .one) (closed : target.length ≠ .any) (flat : field.height?.getD 1 = 1) :
    (DataType.numeric vector).adapt ((DataType.numeric source).adapt field (.numeric vector))
        (.numeric target) =
      (DataType.numeric source).adapt field (.numeric target) := by
  have count : (vector.takenShape field).1.count?.getD 1 * (vector.takenShape field).2.count?.getD 1 =
      field.componentCount := by
    have grouped : vector.shapeGroup? = some .vector := by simp [shapeGroup?, length, height]
    have fresh : vector.defaultShape none = (.one, .one) := by
      simp [defaultShape, length, height, providedCount?, intrinsicDimension, grouped, Extent.ofCount]
    rw [Field.componentCount, flat, takenShape, grouped]
    cases stated : field.length? with
    | none => rw [fresh]; rfl
    | some count =>
        obtain ⟨extent, -, sized⟩ := Field.length?_eq_some.mp stated
        simp only [Extent.ofCount_of_count? sized, sized, reduceCtorEq, if_false, fresh]
        rfl
  have carried : ((DataType.numeric source).adapt field (.numeric vector)).components =
      field.components := by
    rw [adapt_eq, components_fieldOf (length_fit _ _), count, fit_self field.length_components]
  rw [adapt_eq, adapt_eq source target, takenShape_of_fresh (.inl closed),
    takenShape_of_fresh (.inl closed), carried]

/-- Carrying a field over to a numeric target leaves what `TakesOver` says, and a vector in
between makes no difference for sources of height one and targets without an open length. -/
theorem adapt_numeric (source target : NumericType) (field : Field) :
    target.TakesOver field ((DataType.numeric source).adapt field (.numeric target)) ∧
      ∀ vector : NumericType, vector.length = .any → vector.height = .one → target.length ≠ .any →
        field.height?.getD 1 = 1 →
          (DataType.numeric vector).adapt ((DataType.numeric source).adapt field (.numeric vector))
              (.numeric target) =
            (DataType.numeric source).adapt field (.numeric target) :=
  ⟨takesOver_adapt source target field, fun _ length height closed flat =>
    adapt_adapt source length height closed flat⟩

/-- A source as it may be written by hand: a length in a text, no height, a whole number among
the components, one that has no place, and a reference. -/
def looseVector : Field :=
  .composite
    [ (Member.reference, .text "UV0"),
      (Member.length, .text "Three"),
      (Member.component 0, .int 2),
      (Member.component 2, .float .one),
      (Member.component 7, .float .one) ]

/-- The vector takes the three numbers over, and the matrix has place for one more. -/
theorem adapt_looseVector :
    (named "Vector" .float .any .one).TakesOver looseVector
        ((DataType.numeric (named "Vec3" .float .three .one)).adapt looseVector
          (.numeric (named "Vector" .float .any .one))) ∧
      ((DataType.numeric (named "Vec3" .float .three .one)).adapt looseVector
        (.numeric (named "Vector" .float .any .one))).child? Member.length = some (.tag "Three") ∧
      (DataType.numeric (named "Vector" .float .any .one)).adapt
          ((DataType.numeric (named "Vec3" .float .three .one)).adapt looseVector
            (.numeric (named "Vector" .float .any .one)))
          (.numeric (named "Mat2" .float .two .two)) =
        .composite ((named "Mat2" .float .two .two).tagMembers .two .two ++
          Field.componentMembers 0 [Binary32.ofInt 2, .zero, .one, .zero]) := by
  have taken := (adapt_numeric (named "Vec3" .float .three .one) (named "Vector" .float .any .one)
    looseVector).1
  refine ⟨taken, (taken.stated rfl .three (by decide) nofun).1, ?_⟩
  rw [(adapt_numeric _ _ _).2 _ rfl rfl (by decide) (by decide)]
  rfl

end NumericType

end ShadingGraph
