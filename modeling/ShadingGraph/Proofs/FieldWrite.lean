import ShadingGraph.Proofs.Outcome
import ShadingGraph.Proofs.Path
import ShadingGraph.Proofs.Table

/-! # Writing at a path

A write changes one place of a field: a member of a composite, or an item of a list. What is
written is read back under the same path, unless the path ends with a point. Then the member
has an empty name, over which reading passes. Every other place keeps its sub-field, and every
container its names and its length, except that the parent of the place may get one entry more
at its end. A write that fails leaves the field as it was.
-/

namespace ShadingGraph

namespace Field

variable {field below value other changed result : Field} {segment step : String}

/-! ## Steps -/

/-- Two segments lead to one place of a container: they are one name, or one index. -/
def SameStep : Field → String → String → Prop
  | .composite _, segment, step => segment = step
  | .list _, segment, step => ∃ index, Path.index? segment = some index ∧ Path.index? step = some index
  | _, _, _ => False

theorem child?_congr (same : field.SameStep segment step) : field.child? segment = field.child? step := by
  cases field with
  | composite members => exact congrArg _ same
  | list items =>
      obtain ⟨index, first, second⟩ := same
      rw [child?, child?, first, second]
  | float | int | bool | tag | text => exact same.elim

theorem child?_list {items : List Field} (found : (list items).child? segment = some below) :
    ∃ index, Path.index? segment = some index ∧ items[index]? = some below :=
  Option.bind_eq_some_iff.mp found

theorem sameStep_self (found : field.child? segment = some below) : field.SameStep segment segment := by
  cases field with
  | composite members => exact rfl
  | list items =>
      obtain ⟨index, names, -⟩ := child?_list found
      exact ⟨index, names, names⟩
  | float | int | bool | tag | text => cases found

theorem child?_ne_self (field : Field) (segment : String) : field.child? segment ≠ some field := by
  intro found
  cases field with
  | composite members =>
      have inside := List.sizeOf_lt_of_mem (Table.mem_of_find?_eq_some found)
      simp only [Prod.mk.sizeOf_spec, composite.sizeOf_spec] at inside
      omega
  | list items =>
      obtain ⟨index, -, inside⟩ := child?_list found
      have smaller := List.sizeOf_lt_of_mem (List.mem_of_getElem? inside)
      simp only [list.sizeOf_spec] at smaller
      omega
  | float | int | bool | tag | text => cases found

/-! ## Putting a sub-field in the place of another -/

theorem child?_replaceChild_of_same (found : field.child? segment = some below)
    (same : field.SameStep segment step) : (field.replaceChild segment value).child? step = some value := by
  cases field with
  | composite members =>
      cases same
      exact Table.find?_insert_self members segment value
  | list items =>
      obtain ⟨index, names, inside⟩ := child?_list found
      obtain ⟨index', names', second⟩ := same
      cases names.symm.trans names'
      obtain ⟨bound, -⟩ := List.getElem?_eq_some_iff.mp inside
      simp only [replaceChild, names, child?, second, Option.bind_some]
      exact List.getElem?_set_self bound
  | float | int | bool | tag | text => cases found

theorem child?_replaceChild_of_not_same (apart : ¬field.SameStep segment step) (value : Field) :
    (field.replaceChild segment value).child? step = field.child? step := by
  cases field with
  | composite members => exact Table.find?_insert_of_ne members value (Ne.symm apart)
  | list items =>
      simp only [replaceChild]
      cases names : Path.index? segment with
      | none => rfl
      | some index =>
          simp only [child?]
          cases names' : Path.index? step with
          | none => rfl
          | some index' =>
              have different : index ≠ index' := by
                rintro rfl
                exact apart ⟨index, names, names'⟩
              exact List.getElem?_set_ne different
  | float | int | bool | tag | text => rfl

theorem replaceChild_self (found : field.child? segment = some below) :
    field.replaceChild segment below = field := by
  cases field with
  | composite members => exact congrArg composite (Table.insert_eq_self found)
  | list items =>
      obtain ⟨index, names, inside⟩ := child?_list found
      obtain ⟨bound, rfl⟩ := List.getElem?_eq_some_iff.mp inside
      simp only [replaceChild, names, List.set_getElem_self]
  | float | int | bool | tag | text => cases found

theorem replaceChild_replaceChild (field : Field) (segment : String) (value other : Field) :
    (field.replaceChild segment value).replaceChild segment other = field.replaceChild segment other := by
  cases field with
  | composite members => exact congrArg composite (Table.insert_insert members segment value other)
  | list items =>
      cases names : Path.index? segment with
      | none => simp only [replaceChild, names]
      | some index => simp only [replaceChild, names, List.set_set]
  | float | int | bool | tag | text => rfl

variable {others : List String}

theorem follow?_of_same (found : field.child? segment = some below)
    (same : field.SameStep segment step) :
    field.follow? (step :: others) = below.follow? others := by
  rw [follow?, ← child?_congr same, found, Option.bind_some]

theorem follow?_replaceChild_of_same (found : field.child? segment = some below)
    (same : field.SameStep segment step) :
    (field.replaceChild segment changed).follow? (step :: others) = changed.follow? others := by
  rw [follow?, child?_replaceChild_of_same found same, Option.bind_some]

theorem follow?_replaceChild_of_not_same (apart : ¬field.SameStep segment step) :
    (field.replaceChild segment changed).follow? (step :: others) = field.follow? (step :: others) := by
  rw [follow?, child?_replaceChild_of_not_same apart, follow?]

/-! ## Outlines -/

/-- What a field shows of itself without its sub-fields. -/
inductive Outline where
  | leaf (content : Field)
  /-- Names of the members of a composite, in order. -/
  | members (names : List String)
  /-- Number of items of a list. -/
  | items (count : Nat)

def outline : Field → Outline
  | .composite members => .members (Table.keys members)
  | .list items => .items items.length
  | content => .leaf content

/-- Outline of a container in which a place has been filled: a new name goes to the end, and
the index after the last item makes one item more. -/
def Outline.filled (last : String) : Outline → Outline
  | .members names => .members (Table.addNew names last)
  | .items count => .items (if Path.index? last = some count then count + 1 else count)
  | .leaf content => .leaf content

theorem outline_replaceChild (found : field.child? segment = some below) (value : Field) :
    (field.replaceChild segment value).outline = field.outline := by
  cases field with
  | composite members =>
      have inside : segment ∈ Table.keys members := by
        have present := List.mem_map_of_mem (f := (·.1)) (Table.mem_of_find?_eq_some found)
        exact present
      simp only [replaceChild, outline, Table.keys_insert, Table.addNew, if_pos inside]
  | list items =>
      obtain ⟨index, names, -⟩ := child?_list found
      simp only [replaceChild, names, outline, List.length_set]
  | float | int | bool | tag | text => cases found

/-! ## Filling a place of a container -/

/-- A value put under a name of a composite, or at an index of a list up to its length. -/
inductive Puts (last : String) (value : Field) : Field → Field → Prop where
  | member (members : List (String × Field)) :
    Puts last value (.composite members) (.composite (Table.insert members last value))
  | item {items : List Field} {index : Nat} (names : Path.index? last = some index)
    (inside : index < items.length) : Puts last value (.list items) (.list (items.set index value))
  | append {items : List Field} (names : Path.index? last = some items.length) :
    Puts last value (.list items) (.list (items ++ [value]))

variable {path parent last : String}

theorem putLast_eq_ok : putLast path parent last value field = .ok result ↔
    Puts last value field result := by
  constructor
  · intro put
    cases field with
    | composite members =>
        cases put
        exact .member members
    | list items =>
        rw [putLast] at put
        split at put
        · cases put
        · rename_i index names
          split at put
          · rename_i inside
            cases put
            exact .item names inside
          · split at put
            · rename_i same
              cases put
              exact .append (same ▸ names)
            · cases put
    | float | int | bool | tag | text => cases put
  · intro puts
    cases puts with
    | member members => rfl
    | item names inside => simp only [putLast, names, if_pos inside]
    | append names => simp only [putLast, names, Nat.lt_irrefl, if_false, if_true]

theorem Puts.child?_last (puts : Puts last value field result) : result.child? last = some value := by
  cases puts with
  | member members => exact Table.find?_insert_self members last value
  | item names inside =>
      rw [child?, names, Option.bind_some, List.getElem?_set_self inside]
  | append names => rw [child?, names, Option.bind_some, List.getElem?_concat_length]

theorem Puts.child?_of_not_same (puts : Puts last value field result)
    (apart : ¬field.SameStep last step) : result.child? step = field.child? step := by
  cases puts with
  | member members => exact Table.find?_insert_of_ne members value (Ne.symm apart)
  | @item items index names inside =>
      simpa only [replaceChild, names] using child?_replaceChild_of_not_same apart value
  | @append items names =>
      simp only [child?]
      cases names' : Path.index? step with
      | none => rfl
      | some index =>
          have different : index ≠ items.length := by
            rintro rfl
            exact apart ⟨_, names, names'⟩
          rw [Option.bind_some, Option.bind_some, List.getElem?_append]
          split
          · rfl
          · rename_i beyond
            have past : items.length < index := by omega
            rw [List.getElem?_eq_none (Nat.le_of_lt past),
              List.getElem?_eq_none (by rw [List.length_singleton]; omega)]

theorem Puts.follow?_of_not_same (puts : Puts last value field result)
    (apart : ¬field.SameStep last step) :
    result.follow? (step :: others) = field.follow? (step :: others) := by
  rw [follow?, puts.child?_of_not_same apart, follow?]

theorem Puts.outline (puts : Puts last value field result) :
    result.outline = field.outline.filled last := by
  cases puts with
  | member members => simp only [Field.outline, Outline.filled, Table.keys_insert]
  | item names inside =>
      simp only [Field.outline, Outline.filled, names, List.length_set, Option.some.injEq,
        if_neg (Nat.ne_of_lt inside)]
  | append names =>
      simp only [Field.outline, Outline.filled, names, List.length_append, List.length_singleton,
        if_true]

theorem Puts.exists_again (puts : Puts last value field result) (other : Field) :
    ∃ again, Puts last other field again ∧ Puts last other result again := by
  cases puts with
  | member members =>
      have again : Puts last other (.composite (Table.insert members last value)) _ := .member _
      rw [Table.insert_insert] at again
      exact ⟨_, .member members, again⟩
  | @item items index names inside =>
      have again : Puts last other (.list (items.set index value)) _ :=
        .item names (by rwa [List.length_set])
      rw [List.set_set] at again
      exact ⟨_, .item names inside, again⟩
  | @append items names =>
      have again : Puts last other (.list (items ++ [value])) _ := .item names (by simp)
      rw [List.set_append_right _ _ (Nat.le_refl _), Nat.sub_self, List.set_cons_zero] at again
      exact ⟨_, .append names, again⟩

/-! ## Filling a place of a field -/

/-- A value put into the container at the end of some steps, and the containers on the way put
back around it. -/
inductive Written (last : String) (value : Field) : List String → Field → Field → Prop where
  | here {field result : Field} (puts : Puts last value field result) :
    Written last value [] field result
  | under {segment : String} {rest : List String} {field below changed : Field}
    (found : field.child? segment = some below) (deeper : Written last value rest below changed) :
    Written last value (segment :: rest) field (field.replaceChild segment changed)

variable {steps : List String}

theorem changeAt_putLast_eq_ok {missing : FieldError} :
    changeAt missing (putLast path parent last value) steps field = .ok result ↔
      Written last value steps field result := by
  induction steps generalizing field result with
  | nil =>
      rw [changeAt, putLast_eq_ok]
      constructor
      · exact .here
      · rintro ⟨puts⟩
        exact puts
  | cons segment rest ih =>
      rw [changeAt]
      constructor
      · intro done
        split at done
        · cases done
        · rename_i below found
          obtain ⟨changed, deeper, done⟩ := Outcome.bind_eq_ok.mp done
          cases Outcome.pure_eq_ok.mp done
          exact .under found (ih.mp deeper)
      · intro written
        cases written with
        | under found deeper =>
            rw [found]
            dsimp only
            rw [ih.mpr deeper]
            rfl

theorem set_eq_ok (nonempty : path ≠ "") : field.set path value = .ok result ↔
    Written (Path.last path) value (Path.parent path) field result := by
  rw [set, if_neg nonempty]
  exact changeAt_putLast_eq_ok

theorem follow?_append (field : Field) (steps rest : List String) :
    field.follow? (steps ++ rest) = (field.follow? steps).bind (follow? · rest) := by
  induction steps generalizing field with
  | nil => rfl
  | cons segment steps ih =>
      rw [List.cons_append, follow?, follow?]
      cases field.child? segment with
      | none => rfl
      | some below => exact ih below

theorem follow?_singleton (field : Field) (segment : String) :
    field.follow? [segment] = field.child? segment := by
  rw [follow?]
  cases field.child? segment <;> rfl

theorem Written.exists_container (written : Written last value steps field result) :
    ∃ container, result.follow? steps = some container ∧ container.child? last = some value := by
  induction written with
  | here puts => exact ⟨_, rfl, puts.child?_last⟩
  | @under segment rest field below changed found deeper ih =>
      obtain ⟨container, reached, holds⟩ := ih
      exact ⟨container, (follow?_replaceChild_of_same found (sameStep_self found)).trans reached, holds⟩

/-- Another value may be put in the place instead, and put there again. -/
theorem Written.exists_again (written : Written last value steps field result) (other : Field) :
    ∃ again, Written last other steps field again ∧ Written last other steps result again := by
  induction written with
  | here puts =>
      obtain ⟨again, first, second⟩ := puts.exists_again other
      exact ⟨again, .here first, .here second⟩
  | @under segment rest field below changed found deeper ih =>
      obtain ⟨again, first, second⟩ := ih
      have anew := Written.under (child?_replaceChild_of_same found (sameStep_self found)) second
      rw [replaceChild_replaceChild] at anew
      exact ⟨_, .under found first, anew⟩

/-! ## Reading back -/

/-- A member with an empty name is all that a write below a point at the end can fill. -/
theorem child?_empty (found : field.child? "" = some below) :
    ∃ members, field = composite members ∧ Table.find? members "" = some below := by
  cases field with
  | composite members => exact ⟨members, rfl, found⟩
  | list items =>
      obtain ⟨index, names, -⟩ := child?_list found
      have none : Path.index? "" = none := by decide
      cases none.symm.trans names
  | float | int | bool | tag | text => cases found

/-- What has been written is read back under its path unless the path ends with a point. There
the value is a member with an empty name, and the composite that holds it is read instead. -/
theorem get?_set_iff (wrote : field.set path value = .ok result) :
    (result.get? path = some value ↔ path.toList.getLast? ≠ some Path.separator) ∧
      (path.toList.getLast? = some Path.separator → ∃ members,
        result.get? path = some (composite members) ∧ Table.find? members "" = some value) := by
  by_cases root : path = ""
  · subst root
    rw [set, if_pos rfl] at wrote
    cases wrote
    have read : value.get? "" = some value := by
      have none : Path.segments "" = [] := by decide
      rw [get?, none, follow?]
    exact ⟨iff_of_true read (by decide), fun ends => absurd ends (by decide)⟩
  · obtain ⟨container, reached, holds⟩ := ((set_eq_ok root).mp wrote).exists_container
    have read : result.get? path =
        container.follow? (if Path.last path = "" then [] else [Path.last path]) := by
      rw [get?, Path.segments_eq, follow?_append, reached, Option.bind_some]
    by_cases empty : Path.last path = ""
    · have ends := (Path.last_eq_empty.mp empty).resolve_left root
      rw [if_pos empty, follow?] at read
      rw [empty] at holds
      obtain ⟨members, rfl, inside⟩ := child?_empty holds
      refine ⟨iff_of_false ?_ (not_not_intro ends), fun _ => ⟨members, read, inside⟩⟩
      intro back
      cases read.symm.trans back
      exact child?_ne_self _ _ holds
    · have plain : path.toList.getLast? ≠ some Path.separator := fun ends =>
        empty (Path.last_eq_empty.mpr (.inr ends))
      rw [if_neg empty, follow?_singleton, holds] at read
      exact ⟨iff_of_true read plain, fun ends => absurd ends plain⟩

/-- An appended item is read back under the index at which it was written. -/
theorem get?_set_append :
    ((composite [("Keys", list [.bool true])]).set "Keys.+1" (.int 7)) =
        .ok (composite [("Keys", list [.bool true, .int 7])]) ∧
      (composite [("Keys", list [.bool true, .int 7])]).get? "Keys.+1" = some (.int 7) := by
  have wrote : (composite [("Keys", list [.bool true])]).set "Keys.+1" (.int 7) =
      .ok (composite [("Keys", list [.bool true, .int 7])]) := by rfl
  exact ⟨wrote, (get?_set_iff wrote).1.mpr (by decide)⟩

/-- A write below a point at the end of the path succeeds, and something else is read there. -/
theorem get?_set_trailing :
    ∃ result, (composite [("a", composite [])]).set "a." (.int 7) = .ok result ∧
      result.get? "a." = some (composite [("", .int 7)]) ∧ result.get? "a." ≠ some (.int 7) := by
  refine ⟨composite [("a", composite [("", .int 7)])], by rfl, by rfl, ?_⟩
  intro back
  cases back

/-! ## Everything else -/

/-- Two lists of steps part in a field: they lead the same way for a while and then to
different places of one container. -/
inductive Part : Field → List String → List String → Prop where
  | here {field : Field} {segment step : String} {rest others : List String}
    (apart : ¬field.SameStep segment step) : Part field (segment :: rest) (step :: others)
  | under {field below : Field} {segment step : String} {rest others : List String}
    (found : field.child? segment = some below) (later : Part below rest others) :
    Part field (segment :: rest) (step :: others)

/-- The second list of steps leads to the place at the end of the first, or on from there. The
last place on the way need not be filled yet. -/
def Within : Field → List String → List String → Prop
  | _, [], _ => True
  | field, segment :: rest, step :: others =>
      field.SameStep segment step ∧
        ∀ below, field.child? segment = some below → below.Within rest others
  | _, _ :: _, [] => False

/-- Two lists of steps lead to one place. -/
def Meets (field : Field) (steps others : List String) : Prop :=
  field.Within steps others ∧ others.length = steps.length

section

variable {rest : List String} (found : field.child? segment = some below)
include found

theorem within_cons_iff : field.Within (segment :: rest) (step :: others) ↔
    field.SameStep segment step ∧ below.Within rest others := by
  constructor
  · rintro ⟨same, onwards⟩
    exact ⟨same, onwards below found⟩
  · rintro ⟨same, deeper⟩
    refine ⟨same, fun below' found' => ?_⟩
    cases found.symm.trans found'
    exact deeper

theorem meets_cons_iff : field.Meets (segment :: rest) (step :: others) ↔
    field.SameStep segment step ∧ below.Meets rest others := by
  rw [Meets, within_cons_iff found, and_assoc, Meets, List.length_cons, List.length_cons,
    Nat.add_right_cancel_iff]

end

theorem Part.append (parts : field.Part steps others) (more : List String) :
    field.Part (steps ++ more) others := by
  induction parts with
  | here apart => exact .here apart
  | under found later ih => exact .under found ih

theorem Written.follow?_of_part (written : Written last value steps field result)
    (parts : field.Part (steps ++ [last]) others) : result.follow? others = field.follow? others := by
  induction written generalizing others with
  | here puts =>
      cases parts with
      | here apart => exact puts.follow?_of_not_same apart
      | under found later => cases later
  | @under segment rest field below changed found deeper ih =>
      cases parts with
      | here apart => exact follow?_replaceChild_of_not_same apart
      | @under _ below' _ step _ others found' later =>
          cases found.symm.trans found'
          by_cases same : field.SameStep segment step
          · rw [follow?_replaceChild_of_same found same, follow?_of_same found same, ih later]
          · exact follow?_replaceChild_of_not_same same

/-- Outside the place and its parent every outline stays. -/
theorem Written.outline_of_outside (written : Written last value steps field result)
    (outside : ¬field.Within (steps ++ [last]) others) (elsewhere : ¬field.Meets steps others) :
    (result.follow? others).map outline = (field.follow? others).map outline := by
  induction written generalizing others with
  | @here field result puts =>
      cases others with
      | nil => exact absurd ⟨trivial, rfl⟩ elsewhere
      | cons step others =>
          have apart : ¬field.SameStep last step := fun same => outside ⟨same, fun _ _ => trivial⟩
          rw [puts.follow?_of_not_same apart]
  | @under segment rest field below changed found deeper ih =>
      cases others with
      | nil => exact congrArg some (outline_replaceChild found changed)
      | cons step others =>
          by_cases same : field.SameStep segment step
          · have beyond : ¬below.Within (rest ++ [last]) others := fun within =>
              outside ((within_cons_iff found).mpr ⟨same, within⟩)
            have aside : ¬below.Meets rest others := fun meets =>
              elsewhere ((meets_cons_iff found).mpr ⟨same, meets⟩)
            rw [follow?_replaceChild_of_same found same, follow?_of_same found same, ih beyond aside]
          · rw [follow?_replaceChild_of_not_same same]

/-- The parent of the place gets at most one entry more. -/
theorem Written.outline_of_meets (written : Written last value steps field result)
    (meets : field.Meets steps others) :
    (result.follow? others).map outline = (field.follow? others).map (·.outline.filled last) := by
  induction written generalizing others with
  | here puts =>
      cases List.length_eq_zero_iff.mp meets.2
      exact congrArg some puts.outline
  | @under segment rest field below changed found deeper ih =>
      cases others with
      | nil => exact meets.1.elim
      | cons step others =>
          obtain ⟨same, deeper⟩ := (meets_cons_iff found).mp meets
          rw [follow?_replaceChild_of_same found same, follow?_of_same found same, ih deeper]

/-! ## Writing in place -/

theorem alterAt_attempt (missing : FieldError) (change : Field → Except FieldError Field)
    (steps : List String) (field : Field) :
    alterAt missing (attempt change) steps field = attempt (changeAt missing change steps) field := by
  induction steps generalizing field with
  | nil => rfl
  | cons segment rest ih =>
      rw [alterAt]
      cases found : field.child? segment with
      | none => simp only [attempt, changeAt, found]
      | some below =>
          dsimp only
          rw [ih below]
          simp only [attempt, changeAt, found]
          cases done : changeAt missing change rest below with
          | ok changed => rfl
          | error error =>
              -- What could not be changed is put back in its own place.
              exact congrArg (·, some error) (replaceChild_self found)

theorem write_eq (field : Field) (path : String) (value : Field) :
    field.write path value = attempt (set · path value) field := by
  by_cases root : path = ""
  · simp only [write, attempt, set, if_pos root]
  · simp only [write, attempt, set, if_neg root, alterAt_attempt]

/-! ## The write as a whole -/

/-- After a write at a path everything outside the place that it fills is as before. -/
structure KeepsRest (field : Field) (path : String) (result : Field) : Prop where
  /-- Paths that part from the written one lead to what they led to before. -/
  parted : ∀ other, field.Part (Path.segments path) (Path.segments other) →
    result.get? other = field.get? other
  /-- Outside the place and its parent no composite gets another name or another order, and no
  list another length. -/
  outlines : ∀ steps, ¬field.Within (Path.place path) steps → ¬field.Meets (Path.parent path) steps →
    (result.follow? steps).map outline = (field.follow? steps).map outline
  /-- The parent gets no more than the last name, or one item, at its end. -/
  parent : path ≠ "" → ∀ steps, field.Meets (Path.parent path) steps →
    (result.follow? steps).map outline = (field.follow? steps).map (·.outline.filled (Path.last path))

theorem keepsRest_of_set (wrote : field.set path value = .ok result) : field.KeepsRest path result := by
  by_cases root : path = ""
  · subst root
    have none : Path.segments "" = [] := by decide
    refine ⟨fun other parts => ?_, fun steps outside => absurd ?_ outside, (absurd rfl ·)⟩
    · rw [none] at parts
      cases parts
    · rw [Path.place, if_pos rfl]
      trivial
  · have written := (set_eq_ok root).mp wrote
    refine ⟨fun other parts => ?_, fun steps outside elsewhere => ?_,
      fun _ steps meets => written.outline_of_meets meets⟩
    · apply written.follow?_of_part
      rw [Path.segments_eq] at parts
      by_cases empty : Path.last path = ""
      · rw [if_pos empty, List.append_nil] at parts
        exact parts.append _
      · rw [if_neg empty] at parts
        exact parts
    · rw [Path.place, if_neg root] at outside
      exact written.outline_of_outside outside elsewhere

theorem set_set (wrote : field.set path value = .ok result) (other : Field) :
    result.set path other = field.set path other := by
  by_cases root : path = ""
  · rw [set, set, if_pos root, if_pos root]
  · obtain ⟨again, first, second⟩ := ((set_eq_ok root).mp wrote).exists_again other
    rw [(set_eq_ok root).mpr first, (set_eq_ok root).mpr second]

/-- A write that fails leaves the field as it was. One that succeeds keeps everything outside its
place, and a second write there has the effect that it would have had alone. -/
theorem write_touches_target (field : Field) (path : String) (value : Field) :
    (∀ error, field.set path value = .error error → field.write path value = (field, some error)) ∧
      ∀ result, field.set path value = .ok result →
        field.write path value = (result, none) ∧ field.KeepsRest path result ∧
          ∀ other, result.set path other = field.set path other := by
  constructor
  · intro error failed
    simp only [write_eq, attempt, failed]
  · intro result wrote
    refine ⟨?_, keepsRest_of_set wrote, set_set wrote⟩
    simp only [write_eq, attempt, wrote]

/-- An item is written under one spelling of its index, and its neighbour read under another. -/
theorem write_touches_item :
    ∃ result, (composite [("Keys", list [.bool true, .bool false])]).set "Keys.01" (.int 7) =
        .ok result ∧
      result.get? "Keys.+0" = some (.bool true) ∧
      result.set "Keys.01" (.int 8) = .ok (composite [("Keys", list [.bool true, .int 8])]) := by
  have wrote : (composite [("Keys", list [.bool true, .bool false])]).set "Keys.01" (.int 7) =
      .ok (composite [("Keys", list [.bool true, .int 7])]) := by rfl
  obtain ⟨-, kept, again⟩ := (write_touches_target _ _ _).2 _ wrote
  have read : (composite [("Keys", list [.bool true, .int 7])]).get? "Keys.+0" =
      (composite [("Keys", list [.bool true, .bool false])]).get? "Keys.+0" := by
    apply kept.parted
    have segments : Path.segments "Keys.01" = ["Keys", "01"] := by decide
    have segments' : Path.segments "Keys.+0" = ["Keys", "+0"] := by decide
    rw [segments, segments']
    have found : (composite [("Keys", list [.bool true, .bool false])]).child? "Keys" =
        some (list [.bool true, .bool false]) := by rfl
    refine .under found (.here ?_)
    rintro ⟨index, first, second⟩
    cases (by decide : Path.index? "01" = some 1).symm.trans first
    cases (by decide : Path.index? "+0" = some 0).symm.trans second
  refine ⟨_, wrote, ?_, ?_⟩
  · rw [read]
    rfl
  · rw [again]
    rfl

end Field

end ShadingGraph
