import Mathlib.Data.List.Perm.Subperm
import ShadingGraph.Proofs.NumericField
import ShadingGraph.Proofs.Paired

/-! # Fields with the same content

Two fields agree when they hold the same values leaf by leaf: numbers are compared as
arithmetic compares them, except that a not-a-number agrees with itself, and the members
of a composite may stand in any order. Fields that compare as equal agree. Everything that
is read from a numeric field is the same for fields that agree, and their normal forms agree
again.
-/

namespace ShadingGraph

/-- Equal as arithmetic compares numbers; a not-a-number agrees with itself. -/
def Binary32.Agrees (x y : Binary32) : Prop :=
  x = y ∨ x.equals y = true

/-- Fields with the same content. -/
inductive Field.Agrees : Field → Field → Prop where
  | refl (field : Field) : Agrees field field
  | float {x y : Binary32} (same : x.Agrees y) : Agrees (.float x) (.float y)
  | list {xs ys : List Field} (items : List.Forall₂ Agrees xs ys) : Agrees (.list xs) (.list ys)
  /-- The same names, and fields that agree under each. -/
  | composite {xs ys : List (String × Field)}
    (members : ∀ name, Option.Rel Agrees (Table.find? xs name) (Table.find? ys name)) :
    Agrees (.composite xs) (.composite ys)

namespace Field

/-- Members that agree name by name. -/
def AgreeingMembers (xs ys : List (String × Field)) : Prop :=
  ∀ name, Option.Rel Agrees (Table.find? xs name) (Table.find? ys name)

namespace AgreeingMembers

variable {xs ys xs' ys' : List (String × Field)}

theorem refl (members : List (String × Field)) : AgreeingMembers members members :=
  fun _ => .refl Agrees.refl _

theorem contains (agree : AgreeingMembers xs ys) (name : String) :
    Table.contains xs name = Table.contains ys name :=
  (agree name).isSome_eq

theorem append (front : AgreeingMembers xs ys) (back : AgreeingMembers xs' ys') :
    AgreeingMembers (xs ++ xs') (ys ++ ys') := by
  intro name
  rw [Table.find?_append, Table.find?_append]
  have found := front name
  generalize Table.find? xs name = x at found ⊢
  generalize Table.find? ys name = y at found ⊢
  cases found with
  | none => exact back name
  | some agrees => exact .some agrees

theorem filter_plain (agree : AgreeingMembers xs ys) :
    AgreeingMembers (xs.filter (!Member.isComponent ·.1)) (ys.filter (!Member.isComponent ·.1)) := by
  intro name
  cases kind : Member.isComponent name with
  | false =>
      rw [find?_filter_plain kind, find?_filter_plain kind]
      exact agree name
  | true =>
      have absent : ∀ members : List (String × Field),
          Table.find? (members.filter (!Member.isComponent ·.1)) name = none := by
        intro members
        rw [Table.find?_eq_none]
        intro inside
        obtain ⟨member, kept, rfl⟩ := List.mem_map.mp inside
        simp [kind] at kept
      rw [absent, absent]
      exact .none

theorem componentMembers {values others : List Binary32}
    (agree : List.Forall₂ Binary32.Agrees values others) (start : Nat) :
    AgreeingMembers (componentMembers start values) (componentMembers start others) := by
  induction agree generalizing start with
  | nil => exact .refl []
  | cons same _ ih =>
      intro name
      simp only [Field.componentMembers, Table.find?]
      split
      · exact .some (.float same)
      · exact ih (start + 1) name

theorem addMissing (agree : AgreeingMembers xs ys) (tags : List (String × Field)) :
    AgreeingMembers (NumericType.addMissing xs tags) (NumericType.addMissing ys tags) := by
  unfold NumericType.addMissing
  induction tags generalizing xs ys with
  | nil => exact agree
  | cons tag rest ih =>
      simp only [List.foldl_cons, agree.contains tag.1]
      split
      · exact ih agree
      · exact ih (agree.append (.refl [tag]))

end AgreeingMembers

namespace Agrees

variable {x y : Field}

/-! ## What is read from fields that agree -/

theorem child? (agrees : x.Agrees y) (segment : String) :
    Option.Rel Agrees (x.child? segment) (y.child? segment) := by
  cases agrees with
  | refl => exact .refl Agrees.refl _
  | float => exact .none
  | list items =>
      simp only [Field.child?]
      cases Path.index? segment with
      | none => exact .none
      | some index => exact items.getElem?_rel index
  | composite members => exact members segment

theorem string? (agrees : x.Agrees y) : x.string? = y.string? := by
  cases agrees <;> rfl

theorem taggedChild? {α : Type} [Tagged α] (agrees : x.Agrees y) (segment : String) :
    (x.taggedChild? segment : Option α) = y.taggedChild? segment := by
  have found := agrees.child? segment
  unfold Field.taggedChild?
  generalize x.child? segment = a at found ⊢
  generalize y.child? segment = b at found ⊢
  cases found with
  | none => rfl
  | some same => simp only [Option.bind_some, tagged?, same.string?]

theorem length? (agrees : x.Agrees y) : x.length? = y.length? := by
  rw [Field.length?, Field.length?, agrees.taggedChild?]

theorem componentCount (agrees : x.Agrees y) : x.componentCount = y.componentCount := by
  simp only [Field.componentCount, Field.length?, Field.height?, agrees.taggedChild?]

theorem real? (agrees : x.Agrees y) : Option.Rel Binary32.Agrees x.real? y.real? := by
  cases agrees with
  | refl => exact .refl (fun _ => .inl rfl) _
  | float same => exact .some same
  | list | composite => exact .none

theorem component (agrees : x.Agrees y) (index : Nat) :
    (x.component index).Agrees (y.component index) := by
  have found := agrees.child? (Member.component index)
  unfold Field.component
  generalize x.child? (Member.component index) = a at found ⊢
  generalize y.child? (Member.component index) = b at found ⊢
  cases found with
  | none => exact .inl rfl
  | @some a b same =>
      have number := same.real?
      simp only [Option.bind_some]
      generalize a.real? = m at number ⊢
      generalize b.real? = n at number ⊢
      cases number with
      | none => exact .inl rfl
      | some equal => exact equal

theorem components (agrees : x.Agrees y) :
    List.Forall₂ Binary32.Agrees x.components y.components := by
  rw [Field.components, Field.components, agrees.componentCount, List.forall₂_map_left_iff,
    List.forall₂_map_right_iff, List.forall₂_same]
  exact fun index _ => agrees.component index

/-! ## What is made from fields that agree -/

theorem setComponents (agrees : x.Agrees y) {values others : List Binary32}
    (same : List.Forall₂ Binary32.Agrees values others) :
    (x.setComponents values).Agrees (y.setComponents others) := by
  have ofMembers : ∀ {xs ys : List (String × Field)}, AgreeingMembers xs ys →
      ((Field.composite xs).setComponents values).Agrees ((Field.composite ys).setComponents others) :=
    fun agree => .composite (agree.filter_plain.append (.componentMembers same 0))
  cases agrees with
  | refl =>
      cases x with
      | composite members => exact ofMembers (.refl members)
      | float | int | bool | tag | text | list => exact .refl _
  | float equal => exact .float equal
  | list items => exact .list items
  | composite members => exact ofMembers members

end Agrees

/-! ## Fields that are equal -/

mutual

/-- Whether no composite within the field gives one name to two members. -/
def distinct : Field → Bool
  | .list items => distinctItems items
  | .composite members => (Table.keys members).Nodup && distinctMembers members
  | _ => true

def distinctItems : List Field → Bool
  | [] => true
  | item :: rest => item.distinct && distinctItems rest

def distinctMembers : List (String × Field) → Bool
  | [] => true
  | (_, field) :: rest => field.distinct && distinctMembers rest

end

theorem keys_subset_of_equalsMembers {xs ys : List (String × Field)}
    (same : equalsMembers xs ys = true) : Table.keys xs ⊆ Table.keys ys := by
  induction xs with
  | nil => simp [Table.keys]
  | cons x rest ih =>
      obtain ⟨name, x⟩ := x
      simp only [equalsMembers, Bool.and_eq_true] at same
      obtain ⟨first, others⟩ := same
      intro other inside
      simp only [Table.keys, List.map_cons, List.mem_cons] at inside
      rcases inside with rfl | inside
      · by_contra absent
        simp [Table.find?_eq_none.mpr absent] at first
      · exact ih others inside

mutual

theorem agrees_of_equals {x y : Field} (distinct : x.distinct = true)
    (same : x.equals y = true) : x.Agrees y := by
  unfold equals at same
  split at same
  · exact .float (.inr same)
  · exact eq_of_beq same ▸ .refl _
  · exact eq_of_beq same ▸ .refl _
  · exact eq_of_beq same ▸ .refl _
  · exact eq_of_beq same ▸ .refl _
  · rw [Field.distinct] at distinct
    exact .list (forall₂_of_equalsItems distinct same)
  · rename_i xs ys
    simp only [Field.distinct, Bool.and_eq_true, decide_eq_true_eq, beq_iff_eq] at distinct same
    obtain ⟨nodup, each⟩ := distinct
    obtain ⟨length, members⟩ := same
    -- As many names on both sides, and none is missing on the right: so none is missing on the left.
    have names : (Table.keys xs).Perm (Table.keys ys) := by
      have included := List.subperm_of_subset nodup (keys_subset_of_equalsMembers members)
      exact included.perm_of_length_le (by simp [Table.keys, length])
    refine .composite fun name => ?_
    cases found : Table.find? xs name with
    | some field =>
        obtain ⟨other, found', agrees⟩ := find?_of_equalsMembers each members found
        rw [found']
        exact .some agrees
    | none =>
        have absent : name ∉ Table.keys ys := names.mem_iff.not.mp (Table.find?_eq_none.mp found)
        rw [Table.find?_eq_none.mpr absent]
        exact .none
  · cases same

theorem forall₂_of_equalsItems : ∀ {xs ys : List Field}, distinctItems xs = true →
    equalsItems xs ys = true → List.Forall₂ Agrees xs ys
  | [], ys, _, same => by
      cases ys with
      | nil => exact .nil
      | cons => simp [equalsItems] at same
  | x :: xs, ys, distinct, same => by
      cases ys with
      | nil => simp [equalsItems] at same
      | cons y ys =>
          simp only [distinctItems, equalsItems, Bool.and_eq_true] at distinct same
          exact .cons (agrees_of_equals distinct.1 same.1) (forall₂_of_equalsItems distinct.2 same.2)

theorem find?_of_equalsMembers : ∀ {xs ys : List (String × Field)} {name : String} {x : Field},
    distinctMembers xs = true → equalsMembers xs ys = true → Table.find? xs name = some x →
      ∃ y, Table.find? ys name = some y ∧ x.Agrees y
  | [], _, _, _, _, _, found => by cases found
  | (key, field) :: xs, ys, name, x, distinct, same, found => by
      simp only [distinctMembers, equalsMembers, Bool.and_eq_true] at distinct same
      rw [Table.find?] at found
      split at found
      · rename_i equal
        cases found
        subst equal
        cases present : Table.find? ys key with
        | none => simp [present] at same
        | some y =>
            simp only [present] at same
            exact ⟨y, rfl, agrees_of_equals distinct.1 same.1⟩
      · exact find?_of_equalsMembers distinct.2 same.2 found

end

end Field

theorem agrees_fit {values others : List Binary32}
    (same : List.Forall₂ Binary32.Agrees values others) (count : Nat) :
    List.Forall₂ Binary32.Agrees (fit count values) (fit count others) := by
  rw [fit, fit, same.length_eq]
  exact List.rel_append (List.forall₂_take count same) (List.forall₂_same.mpr fun _ _ => .inl rfl)

namespace NumericType

variable (type : NumericType)

theorem agrees_defaultField {x y : Binary32} (same : x.Agrees y) :
    (type.defaultField (some (.components [x]))).Agrees
      (type.defaultField (some (.components [y]))) := by
  have shape : type.defaultShape (some (.components [x])) =
      type.defaultShape (some (.components [y])) := rfl
  simp only [defaultField, shape, defaultReference, defaultValues]
  exact .setComponents (.refl _) (agrees_fit (.cons same .nil) _)

theorem agrees_normalize {x y : Field} (agrees : x.Agrees y) :
    (type.normalize x).Agrees (type.normalize y) := by
  cases agrees with
  | refl => exact .refl _
  | float same => exact type.agrees_defaultField same
  | list => exact .refl _
  | composite members =>
      have tagged := Field.Agrees.composite
        (Field.AgreeingMembers.addMissing members
          (type.tagMembers (type.defaultShape none).1 (type.defaultShape none).2))
      exact tagged.setComponents tagged.components

end NumericType

namespace DataType

variable (type : DataType)

theorem agrees_normalize {x y : Field} (agrees : x.Agrees y) :
    (type.normalize x).Agrees (type.normalize y) := by
  cases type with
  | numeric shape => exact shape.agrees_normalize agrees
  | gradient | texture2D | samplerState => exact agrees

theorem dimension?_of_agrees {x y : Field} (agrees : x.Agrees y) :
    type.dimension? x = type.dimension? y := by
  cases type with
  | numeric => exact agrees.length?
  | gradient | texture2D | samplerState => rfl

end DataType

end ShadingGraph
