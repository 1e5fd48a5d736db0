import Mathlib.Data.List.Nodup
import ShadingGraph.DataType.Basic
import ShadingGraph.Proofs.Table

/-! # Fields of numeric types

A field of a numeric type is well shaped when it holds all four tags and exactly the
components that these call for. Declared defaults and normalization make such fields,
and normalization keeps them as they are, so that normalizing twice is the same as
normalizing once.
-/

namespace ShadingGraph

namespace Member

def tags : List String := [primitive, precision, length, height]

theorem toList_component (index : Nat) :
    (component index).toList = 'c' :: Nat.toDigits 10 index := by
  simp [component]

theorem isComponent_component (index : Nat) : isComponent (component index) = true := by
  have digits : (Nat.toDigits 10 index).all isDigit = true := by
    rw [List.all_eq_true]
    intro c inside
    have digit := Nat.isDigit_of_mem_toDigits (by decide) (by decide) inside
    simp only [Char.isDigit, Bool.and_eq_true, decide_eq_true_eq] at digit
    simpa only [isDigit, Bool.and_eq_true, decide_eq_true_eq, Char.le_def] using digit
  have nonempty : (Nat.toDigits 10 index).isEmpty = false := by
    simp [Nat.toDigits_ne_nil]
  simp only [isComponent, toList_component, digits, nonempty, Bool.not_false, Bool.and_self]

theorem component_injective {i j : Nat} (same : component i = component j) : i = j := by
  have digits : Nat.toDigits 10 i = Nat.toDigits 10 j := by
    simpa only [toList_component, List.cons.injEq, true_and] using congrArg String.toList same
  rw [← Nat.ofDigitChars_ten_toDigits (n := i), digits, Nat.ofDigitChars_ten_toDigits]

theorem isComponent_of_mem_tags {name : String} (tag : name ∈ tags) : isComponent name = false := by
  simp only [tags, List.mem_cons, List.not_mem_nil, or_false] at tag
  rcases tag with rfl | rfl | rfl | rfl <;> decide

end Member

theorem Extent.one_le_of_count? {extent : Extent} {count : Nat} (sized : extent.count? = some count) :
    1 ≤ count := by
  cases extent <;> simp only [Extent.count?, Option.some.injEq, reduceCtorEq] at sized <;> omega

theorem Extent.le_four_of_count? {extent : Extent} {count : Nat} (sized : extent.count? = some count) :
    count ≤ 4 := by
  cases extent <;> simp only [Extent.count?, Option.some.injEq, reduceCtorEq] at sized <;> omega

theorem Extent.count?_ofCount {count : Nat} (least : 1 ≤ count) (greatest : count ≤ 4) :
    (Extent.ofCount count).count? = some count := by
  have cases : count = 1 ∨ count = 2 ∨ count = 3 ∨ count = 4 := by omega
  rcases cases with rfl | rfl | rfl | rfl <;> rfl

namespace Field

theorem isComponent_of_mem_componentMembers {start : Nat} {values : List Binary32}
    {member : String × Field} (inside : member ∈ componentMembers start values) :
    Member.isComponent member.1 = true := by
  induction values generalizing start with
  | nil => simp [componentMembers] at inside
  | cons value rest ih =>
      rcases List.mem_cons.mp inside with rfl | inside
      · exact Member.isComponent_component start
      · exact ih inside

theorem find?_componentMembers_plain {name : String} (plain : Member.isComponent name = false)
    (start : Nat) (values : List Binary32) :
    Table.find? (componentMembers start values) name = none := by
  rw [Table.find?_eq_none]
  intro inside
  obtain ⟨member, stored, rfl⟩ := List.mem_map.mp inside
  simp [isComponent_of_mem_componentMembers stored] at plain

theorem find?_componentMembers (start index : Nat) (values : List Binary32) :
    Table.find? (componentMembers start values) (Member.component (start + index)) =
      values[index]?.map .float := by
  induction values generalizing start index with
  | nil => rfl
  | cons value rest ih =>
      cases index with
      | zero => simp [componentMembers, Table.find?]
      | succ index =>
          have different : Member.component start ≠ Member.component (start + (index + 1)) :=
            fun same => by have := Member.component_injective same; omega
          simp only [componentMembers, Table.find?, different, if_false,
            List.getElem?_cons_succ]
          rw [← ih (start + 1) index, Nat.add_assoc, Nat.add_comm 1 index]

theorem find?_component_of_plain {members : List (String × Field)}
    (plain : ∀ member ∈ members, Member.isComponent member.1 = false) (index : Nat) :
    Table.find? members (Member.component index) = none := by
  rw [Table.find?_eq_none]
  intro inside
  obtain ⟨member, inside, same⟩ := List.mem_map.mp inside
  have named := plain member inside
  rw [same, Member.isComponent_component] at named
  cases named

theorem plain_of_mem_filter (members : List (String × Field)) :
    ∀ member ∈ members.filter (!Member.isComponent ·.1), Member.isComponent member.1 = false :=
  fun _ inside => by simpa using (List.mem_filter.mp inside).2

theorem find?_filter_plain {name : String} (plain : Member.isComponent name = false)
    (members : List (String × Field)) :
    Table.find? (members.filter (!Member.isComponent ·.1)) name = Table.find? members name := by
  induction members with
  | nil => rfl
  | cons member rest ih =>
      obtain ⟨k, v⟩ := member
      by_cases same : k = name
      · subst same
        simp [Table.find?, plain]
      · cases component : Member.isComponent k <;> simp [component, Table.find?, same, ih]

theorem componentCount_congr {field other : Field}
    (length : field.child? Member.length = other.child? Member.length)
    (height : field.child? Member.height = other.child? Member.height) :
    field.componentCount = other.componentCount := by
  simp only [componentCount, length?, height?, taggedChild?, length, height]

theorem componentCount_append_componentMembers (rest : List (String × Field))
    (values : List Binary32) :
    (composite (rest ++ componentMembers 0 values)).componentCount =
      (composite rest).componentCount := by
  apply componentCount_congr <;>
    simp only [child?, Table.find?_append, Option.or_none,
      find?_componentMembers_plain (show Member.isComponent Member.length = false by decide),
      find?_componentMembers_plain (show Member.isComponent Member.height = false by decide)]

theorem componentCount_filter_plain (members : List (String × Field)) :
    (composite (members.filter (!Member.isComponent ·.1))).componentCount =
      (composite members).componentCount := by
  apply componentCount_congr
  · exact find?_filter_plain (by decide) members
  · exact find?_filter_plain (by decide) members

theorem componentCount_le {field other : Field}
    (stated : ∀ name ∈ [Member.length, Member.height], ∀ value, field.child? name = some value →
      other.child? name = some value) : field.componentCount ≤ other.componentCount := by
  have side : ∀ name ∈ [Member.length, Member.height],
      ((field.taggedChild? name : Option Extent).bind Extent.count?).getD 1 ≤
        ((other.taggedChild? name : Option Extent).bind Extent.count?).getD 1 := by
    intro name among
    cases found : field.child? name with
    | some value =>
        have same : other.child? name = field.child? name :=
          (stated name among value found).trans found.symm
        exact Nat.le_of_eq (by rw [taggedChild?, taggedChild?, same])
    | none =>
        rw [taggedChild?, found, Option.bind_none, Option.bind_none, Option.getD_none]
        cases sized : (other.taggedChild? name : Option Extent).bind Extent.count? with
        | none => exact Nat.le_refl 1
        | some count =>
            obtain ⟨extent, -, sized⟩ := Option.bind_eq_some_iff.mp sized
            exact Extent.one_le_of_count? sized
  exact Nat.mul_le_mul (side Member.length (by simp)) (side Member.height (by simp))

/-- The other field holds all that the field does, except for components that are no floats
or have no place in its shape, and its shape is no smaller. -/
structure RetainedIn (field other : Field) : Prop where
  plain : ∀ name value, Member.isComponent name = false → field.child? name = some value →
    other.child? name = some value
  components : ∀ index < other.componentCount, ∀ value,
    field.child? (Member.component index) = some (.float value) →
      other.child? (Member.component index) = some (.float value)
  componentCount : field.componentCount ≤ other.componentCount

/-- A composite with all four tags that holds exactly the components they call for. -/
inductive Shaped : Field → Prop where
  | mk {rest : List (String × Field)} {values : List Binary32}
    (plain : ∀ member ∈ rest, Member.isComponent member.1 = false)
    (tagged : ∀ name ∈ Member.tags, Table.contains rest name = true)
    (count : values.length = (composite rest).componentCount) :
    Shaped (composite (rest ++ componentMembers 0 values))

theorem components_append_componentMembers {rest : List (String × Field)}
    {values : List Binary32} (plain : ∀ member ∈ rest, Member.isComponent member.1 = false)
    (count : values.length = (composite rest).componentCount) :
    (composite (rest ++ componentMembers 0 values)).components = values := by
  have read : ∀ index : Nat, (composite (rest ++ componentMembers 0 values)).component index =
      values[index]?.getD .zero := by
    intro index
    have apart := find?_component_of_plain plain index
    have found := find?_componentMembers 0 index values
    rw [Nat.zero_add] at found
    simp only [component, child?, Table.find?_append, apart, Option.none_or, found]
    cases values[index]? <;> rfl
  rw [components, componentCount_append_componentMembers, ← count]
  apply List.ext_getElem
  · simp
  · intro index inside bound
    simp [read, List.getElem?_eq_getElem bound]

theorem setComponents_append_componentMembers {rest : List (String × Field)}
    {values : List Binary32} (plain : ∀ member ∈ rest, Member.isComponent member.1 = false)
    (others : List Binary32) :
    (composite (rest ++ componentMembers 0 values)).setComponents others =
      composite (rest ++ componentMembers 0 others) := by
  have kept : rest.filter (!Member.isComponent ·.1) = rest :=
    List.filter_eq_self.mpr fun member inside => by simp [plain member inside]
  have dropped : (componentMembers 0 values).filter (!Member.isComponent ·.1) = [] :=
    List.filter_eq_nil_iff.mpr fun member inside => by
      simp [isComponent_of_mem_componentMembers inside]
  simp only [setComponents, List.filter_append, kept, dropped, List.append_nil]

theorem child?_setComponents_plain {name : String} (plain : Member.isComponent name = false)
    (members : List (String × Field)) (values : List Binary32) :
    ((composite members).setComponents values).child? name = (composite members).child? name := by
  simp only [setComponents, child?, Table.find?_append, find?_filter_plain plain,
    find?_componentMembers_plain plain, Option.or_none]

theorem child?_setComponents_component (members : List (String × Field)) (values : List Binary32)
    (index : Nat) : ((composite members).setComponents values).child? (Member.component index) =
      values[index]?.map .float := by
  have apart := find?_component_of_plain (plain_of_mem_filter members) index
  have found := find?_componentMembers 0 index values
  rw [Nat.zero_add] at found
  rw [setComponents, child?, Table.find?_append, apart, Option.none_or, found]

theorem componentCount_setComponents (members : List (String × Field)) (values : List Binary32) :
    ((composite members).setComponents values).componentCount = (composite members).componentCount :=
  componentCount_congr (child?_setComponents_plain (by decide) members values)
    (child?_setComponents_plain (by decide) members values)

theorem length?_setComponents (members : List (String × Field)) (values : List Binary32) :
    ((composite members).setComponents values).length? = (composite members).length? := by
  rw [length?, length?, taggedChild?, taggedChild?, child?_setComponents_plain (by decide)]

theorem height?_setComponents (members : List (String × Field)) (values : List Binary32) :
    ((composite members).setComponents values).height? = (composite members).height? := by
  rw [height?, height?, taggedChild?, taggedChild?, child?_setComponents_plain (by decide)]

theorem taggedChild?_of_find? {members : List (String × Field)} {name : String} {extent : Extent}
    (found : Table.find? members name = some (.ofTagged extent)) :
    ((composite members).taggedChild? name : Option Extent) = some extent := by
  rw [taggedChild?, child?, found, Option.bind_some]
  cases extent <;> rfl

/-- Writing as many components as are called for makes a tagged composite well shaped. -/
theorem shaped_setComponents {members : List (String × Field)} {values : List Binary32}
    (tagged : ∀ name ∈ Member.tags, Table.contains members name = true)
    (count : values.length = (composite members).componentCount) :
    Shaped ((composite members).setComponents values) := by
  refine Shaped.mk (plain_of_mem_filter members) ?_ ?_
  · intro name tag
    rw [Table.contains, find?_filter_plain (Member.isComponent_of_mem_tags tag)]
    exact tagged name tag
  · rw [count, componentCount_filter_plain]

/-- What a shaped field holds, as a reader of its members sees it. -/
structure HoldsComponents (field : Field) (members : List (String × Field)) (values : List Binary32) :
    Prop where
  table : field = composite members
  tagged : ∀ name ∈ Member.tags, Table.contains members name = true
  components : members.filter (Member.isComponent ·.1) = componentMembers 0 values
  count : values.length = field.length?.getD 1 * field.height?.getD 1

theorem HoldsComponents.exists_of_shaped {field : Field} (shaped : field.Shaped) :
    ∃ members values, field.HoldsComponents members values ∧ field.components = values := by
  cases shaped with
  | @mk rest values plain tagged count =>
      refine ⟨_, values, ⟨rfl, ?_, ?_, ?_⟩, components_append_componentMembers plain count⟩
      · exact fun name tag => Table.contains_append (tagged name tag) _
      · have dropped : rest.filter (Member.isComponent ·.1) = [] :=
          List.filter_eq_nil_iff.mpr fun member inside => by simp [plain member inside]
        have kept : (componentMembers 0 values).filter (Member.isComponent ·.1) =
            componentMembers 0 values :=
          List.filter_eq_self.mpr fun member inside => isComponent_of_mem_componentMembers inside
        rw [List.filter_append, dropped, kept, List.nil_append]
      · rw [count, ← componentCount_append_componentMembers rest values, componentCount]

end Field

@[simp] theorem length_fit (count : Nat) (values : List Binary32) :
    (fit count values).length = count := by
  simp only [fit, List.length_append, List.length_take, List.length_replicate]
  omega

theorem Field.Shaped.setComponents_fit {field : Field} (shaped : field.Shaped) (values : List Binary32) :
    (field.setComponents (fit field.componentCount values)).Shaped := by
  obtain ⟨members, _, held, -⟩ := HoldsComponents.exists_of_shaped shaped
  rw [held.table]
  exact shaped_setComponents held.tagged (length_fit _ _)

namespace NumericType

variable (type : NumericType)

theorem addMissing_eq_self {members tags : List (String × Field)}
    (present : ∀ tag ∈ tags, Table.contains members tag.1 = true) :
    addMissing members tags = members := by
  unfold addMissing
  induction tags with
  | nil => rfl
  | cons tag rest ih =>
      rw [List.foldl_cons, if_pos (present tag List.mem_cons_self)]
      exact ih fun other inside => present other (List.mem_cons_of_mem _ inside)

theorem find?_addMissing (members tags : List (String × Field)) (name : String) :
    Table.find? (addMissing members tags) name =
      (Table.find? members name).or (Table.find? tags name) := by
  unfold addMissing
  induction tags generalizing members with
  | nil => rw [List.foldl_nil, Table.find?, Option.or_none]
  | cons tag rest ih =>
      have first : Table.find? (tag :: rest) name =
          (Table.find? [tag] name).or (Table.find? rest name) :=
        Table.find?_append [tag] rest name
      rw [List.foldl_cons, ih, first, ← Option.or_assoc]
      split
      · rename_i present
        by_cases same : tag.1 = name
        · obtain ⟨value, found⟩ := Option.isSome_iff_exists.mp (same ▸ present)
          simp only [found, Option.some_or]
        · rw [Table.find?, if_neg same, Table.find?, Option.or_none]
      · rw [Table.find?_append]

theorem contains_addMissing (members tags : List (String × Field)) (name : String) :
    Table.contains (addMissing members tags) name = true ↔
      Table.contains members name = true ∨ name ∈ Table.keys tags := by
  rw [Table.contains, find?_addMissing, Option.isSome_or, Bool.or_eq_true]
  exact or_congr_right Table.contains_iff

theorem keys_tagMembers (length height : Extent) :
    Table.keys (type.tagMembers length height) = Member.tags := rfl

theorem length_defaultValues (count : Nat) (default : Option DeclaredDefault) :
    (defaultValues count default).length = count := by
  unfold defaultValues
  split <;> simp

theorem shaped_defaultField {default : Option DeclaredDefault}
    (computed : ∀ value, default ≠ some (.field value)) : (type.defaultField default).Shaped := by
  have tagged : ∀ length height, ∀ name ∈ Member.tags,
      Table.contains (type.tagMembers length height ++ defaultReference default) name = true := by
    intro length height name tag
    have present : Table.find? (type.tagMembers length height) name ≠ none := by
      rw [Ne, Table.find?_eq_none, keys_tagMembers]
      exact fun absent => absent tag
    exact Table.contains_append (Option.isSome_iff_ne_none.mpr present) _
  have count : ∀ length height,
      (Field.composite (type.tagMembers length height)).componentCount =
        (Field.composite (type.tagMembers length height ++ defaultReference default)).componentCount := by
    intro length height
    apply Field.componentCount_congr <;> rfl
  unfold defaultField
  split
  · exact absurd rfl (computed _)
  · exact Field.shaped_setComponents (tagged _ _)
      (by rw [length_defaultValues, count])

theorem shaped_resize {field : Field} (shaped : field.Shaped) (dimension : Nat) :
    (type.resize field dimension).Shaped := by
  obtain ⟨members, _, held, -⟩ := Field.HoldsComponents.exists_of_shaped shaped
  rw [held.table]
  refine Field.shaped_setComponents (fun name tag => ?_) (length_fit _ _)
  have resized := Table.contains_insert (held.tagged name tag) Member.length
    (.ofTagged (Extent.ofCount dimension))
  split
  · exact Table.contains_insert resized _ _
  · exact resized

theorem extents_defaultField {default : Option DeclaredDefault}
    (computed : ∀ value, default ≠ some (.field value)) :
    (type.defaultField default).length? = (type.defaultShape default).1.count? ∧
      (type.defaultField default).height? = (type.defaultShape default).2.count? := by
  unfold defaultField
  split
  · exact absurd rfl (computed _)
  · constructor
    · rw [Field.length?_setComponents, Field.length?, Field.taggedChild?_of_find? rfl, Option.bind_some]
    · rw [Field.height?_setComponents, Field.height?, Field.taggedChild?_of_find? rfl, Option.bind_some]

theorem extents_resize (members : List (String × Field)) (dimension : Nat) :
    (type.resize (.composite members) dimension).length? = (Extent.ofCount dimension).count? ∧
      (type.shapeGroup? = some .matrix →
        (type.resize (.composite members) dimension).height? = (Extent.ofCount dimension).count?) := by
  have length := Table.find?_insert_self members Member.length (.ofTagged (Extent.ofCount dimension))
  unfold resize
  refine ⟨?_, fun matrix => ?_⟩
  · rw [Field.length?_setComponents, Field.length?, Field.taggedChild?_of_find?, Option.bind_some]
    split
    · rw [Table.find?_insert_of_ne _ _ (by decide), length]
    · exact length
  · rw [Field.height?_setComponents, Field.height?, Field.taggedChild?_of_find?, Option.bind_some]
    rw [if_pos matrix, Table.find?_insert_self]

theorem shaped_normalize (field : Field) : (type.normalize field).Shaped := by
  cases field with
  | composite members =>
      refine Field.shaped_setComponents ?_ ?_
      · intro name tag
        rw [contains_addMissing, keys_tagMembers]
        exact Or.inr tag
      · rw [Field.components, List.length_map, List.length_range]
  | float | int | bool | tag | text | list =>
      simp only [normalize]
      split <;> exact type.shaped_defaultField (fun _ => nofun)

theorem normalize_of_shaped {field : Field} (shaped : field.Shaped) :
    type.normalize field = field := by
  cases shaped with
  | @mk rest values plain tagged count =>
      have present : ∀ tag ∈ type.tagMembers (type.defaultShape none).1 (type.defaultShape none).2,
          Table.contains (rest ++ Field.componentMembers 0 values) tag.1 = true := by
        intro tag inside
        have name : tag.1 ∈ Member.tags := List.mem_map_of_mem (f := (·.1)) inside
        exact Table.contains_append (tagged _ name) _
      simp only [normalize, addMissing_eq_self present,
        Field.components_append_componentMembers plain count,
        Field.setComponents_append_componentMembers plain]

/-- A composite with the tags that it lacks, those of a field without a default. -/
def tagged (type : NumericType) (members : List (String × Field)) : List (String × Field) :=
  addMissing members (type.tagMembers (type.defaultShape none).1 (type.defaultShape none).2)

theorem normalize_composite (members : List (String × Field)) : type.normalize (.composite members) =
    (Field.composite (type.tagged members)).setComponents
      (Field.composite (type.tagged members)).components := rfl

theorem child?_tagged {members : List (String × Field)} {name : String} {value : Field}
    (found : Table.find? members name = some value) :
    (Field.composite (type.tagged members)).child? name = some value := by
  rw [Field.child?, tagged, find?_addMissing, found, Option.some_or]

theorem child?_tagged_of_not_mem {name : String} (other : name ∉ Member.tags)
    (members : List (String × Field)) :
    (Field.composite (type.tagged members)).child? name = Table.find? members name := by
  have none : ∀ length height, Table.find? (type.tagMembers length height) name = none := by
    intro length height
    rwa [Table.find?_eq_none, keys_tagMembers]
  rw [Field.child?, tagged, find?_addMissing, none, Option.or_none]

theorem componentCount_tagged (members : List (String × Field)) :
    (Field.composite members).componentCount ≤ (Field.composite (type.tagged members)).componentCount :=
  Field.componentCount_le fun _ _ _ => type.child?_tagged

/-- Normalization keeps all that a composite holds but components that are no floats or lie
beyond the shape. -/
theorem retains_normalize (members : List (String × Field)) :
    (Field.composite members).RetainedIn (type.normalize (.composite members)) := by
  rw [normalize_composite]
  constructor
  · intro name value plain found
    rw [Field.child?_setComponents_plain plain]
    exact type.child?_tagged found
  · intro index inside value found
    rw [Field.componentCount_setComponents] at inside
    rw [Field.child?_setComponents_component, Field.components, List.getElem?_map,
      List.getElem?_range inside, Option.map_some, Option.map_some, Field.component,
      type.child?_tagged found]
    rfl
  · rw [Field.componentCount_setComponents]
    exact type.componentCount_tagged members

theorem child?_normalize_component {members : List (String × Field)} {index : Nat}
    (inside : index < (Field.composite members).componentCount) :
    (type.normalize (.composite members)).child? (Member.component index) =
      some (.float ((Field.composite members).component index)) := by
  have untagged : Member.component index ∉ Member.tags := fun tag => by
    have plain := Member.isComponent_of_mem_tags tag
    rw [Member.isComponent_component] at plain
    cases plain
  have same : (Field.composite (type.tagged members)).component index =
      (Field.composite members).component index := by
    rw [Field.component, child?_tagged_of_not_mem type untagged, Field.component, Field.child?]
  rw [normalize_composite, Field.child?_setComponents_component, Field.components, List.getElem?_map,
    List.getElem?_range (Nat.lt_of_lt_of_le inside (type.componentCount_tagged members)),
    Option.map_some, Option.map_some, same]

theorem child?_normalize_of_not_mem {name : String} (plain : Member.isComponent name = false)
    (other : name ∉ Member.tags) (members : List (String × Field)) :
    (type.normalize (.composite members)).child? name = (Field.composite members).child? name := by
  rw [normalize_composite, Field.child?_setComponents_plain plain, child?_tagged_of_not_mem type other,
    Field.child?]

theorem primitiveOf_normalize (members : List (String × Field)) :
    type.primitiveOf (type.normalize (.composite members)) = type.primitiveOf (.composite members) := by
  have added : ∀ length height,
      Table.find? (type.tagMembers length height) Member.primitive = some (.ofTagged type.primitive) :=
    fun _ _ => rfl
  have read : (Field.ofTagged type.primitive).tagged? = some type.primitive := by
    cases type.primitive <;> rfl
  rw [primitiveOf, primitiveOf, Field.taggedChild?, Field.taggedChild?, normalize_composite,
    Field.child?_setComponents_plain (by decide)]
  cases found : Table.find? members Member.primitive with
  | some value => rw [type.child?_tagged found, Field.child?, found]
  | none =>
      rw [Field.child?, tagged, find?_addMissing, found, Option.none_or, added, Option.bind_some, read,
        Field.child?, found, Option.bind_none, Option.getD_some, Option.getD_none]

end NumericType

theorem DataType.shaped_defaultField (shape : NumericType) {default : Option DeclaredDefault}
    (computed : ∀ value, default ≠ some (.field value)) :
    ((DataType.numeric shape).defaultField default).Shaped := by
  unfold defaultField
  split
  · exact absurd rfl (computed _)
  · exact shape.shaped_defaultField computed

/-- A source of numbers gives a numeric target a shaped field, whatever its own field is. -/
theorem DataType.shaped_adapt (source target : NumericType) (field : Field) :
    ((DataType.numeric source).adapt field (.numeric target)).Shaped := by
  have fresh : ((DataType.numeric target).defaultField none).Shaped :=
    shaped_defaultField target fun _ => nofun
  rw [adapt]
  refine Field.Shaped.setComponents_fit ?_ _
  split
  · exact target.shaped_resize fresh _
  · exact fresh

theorem DataType.exists_numeric_of_accepts {target : NumericType} {source : DataType}
    (accepted : (DataType.numeric target).accepts source = true) : ∃ shape, source = .numeric shape := by
  cases source with
  | numeric shape => exact ⟨shape, rfl⟩
  | gradient | texture2D | samplerState =>
      exact absurd accepted (by simp [accepts, category, NumericType.category])

theorem DataType.normalize_normalize (type : DataType) (field : Field) :
    type.normalize (type.normalize field) = type.normalize field := by
  cases type with
  | numeric shape => exact shape.normalize_of_shaped (shape.shaped_normalize field)
  | gradient | texture2D | samplerState => rfl

end ShadingGraph
