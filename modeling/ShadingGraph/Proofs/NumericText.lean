import Mathlib.Data.List.TakeWhile
import ShadingGraph.Proofs.NumericField
import ShadingGraph.Proofs.Scan

/-! # Written values of numeric fields

No number contains a comma, a parenthesis, a space or a line feed. So the commas of a literal tell how
many components it writes, and those are as many as the shader type in front of it, or in the
declaration, has cells. The components themselves can be read back from between the marks.
-/

namespace ShadingGraph

/-- What stands between the components of a literal and around them, and what ends a line. -/
def punctuation : List Char := [',', '(', ')', ' ', '\n']

theorem forall_mem_punctuation {p : Char → Prop} :
    (∀ mark ∈ punctuation, p mark) ↔ p ',' ∧ p '(' ∧ p ')' ∧ p ' ' ∧ p '\n' := by
  simp [punctuation]

section Marks

variable {mark : Char} (isMark : mark ∈ punctuation)
include isMark

theorem ne_of_mem_punctuation : ∀ c ∈ "0.-+eNainf".toList, mark ≠ c := by
  have apart : ∀ mark ∈ punctuation, mark ∉ "0.-+eNainf".toList :=
    forall_mem_punctuation.mpr (by decide)
  rintro c inside rfl
  exact apart mark isMark inside

theorem mark_not_mem_toDigits (n : Nat) : mark ∉ Nat.toDigits 10 n := by
  have undigit : ∀ mark ∈ punctuation, mark.isDigit ≠ true := forall_mem_punctuation.mpr (by decide)
  exact fun inside =>
    undigit mark isMark (Nat.isDigit_of_mem_toDigits (by decide) (by decide) inside)

namespace FloatLayout

variable {digits : List Char}

theorem mark_not_mem_positionalChars (plain : mark ∉ digits) (exponent : Int) :
    mark ∉ positionalChars digits exponent := by
  have zero : mark ≠ '0' := ne_of_mem_punctuation isMark _ (by decide)
  have point : mark ≠ '.' := ne_of_mem_punctuation isMark _ (by decide)
  have zeros : ∀ n, mark ∉ List.replicate n '0' := fun n inside =>
    zero (List.eq_of_mem_replicate inside)
  have front : ∀ n, mark ∉ digits.take n := fun n inside => plain (List.mem_of_mem_take inside)
  have back : ∀ n, mark ∉ digits.drop n := fun n inside => plain (List.mem_of_mem_drop inside)
  unfold positionalChars
  dsimp only
  split
  · simp [plain, zeros, zero, point]
  · split <;> simp [plain, zeros, front, back, zero, point]

theorem mark_not_mem_exponentChars (plain : mark ∉ digits) (plus : Bool) (exponent : Int) :
    mark ∉ exponentChars plus digits exponent := by
  have other : ∀ c ∈ "0.-+eNainf".toList, mark ≠ c := ne_of_mem_punctuation isMark
  unfold exponentChars
  simp only [List.mem_append, List.mem_cons, not_or]
  refine ⟨⟨?_, other 'e' (by decide), ?_⟩, mark_not_mem_toDigits isMark _⟩
  · split
    · simpa [other '.' (by decide)] using plain
    · exact plain
  · split
    · simp [other '-' (by decide)]
    · split <;> simp [other '+' (by decide)]

theorem mark_not_mem_chars (layout : FloatLayout) (x : Binary32) : mark ∉ layout.chars x := by
  have special : ∀ mark ∈ punctuation, ∀ word ∈ ["NaN", "-NaN", "inf", "-inf"],
      mark ∉ word.toList :=
    forall_mem_punctuation.mpr (by decide)
  have other : ∀ c ∈ "0.-+eNainf".toList, mark ≠ c := ne_of_mem_punctuation isMark
  have magnitude : ∀ exponent fraction, mark ∉ layout.magnitudeChars exponent fraction := by
    intro exponent fraction
    have digits : ∀ n, mark ∉ Nat.toDigits 10 n := mark_not_mem_toDigits isMark
    have either : ∀ (inPlace : Bool) (n : Nat) (power : Int), mark ∉
        if inPlace then positionalChars (Nat.toDigits 10 n) power
        else exponentChars layout.exponentPlus (Nat.toDigits 10 n) power := by
      intro inPlace n power
      cases inPlace with
      | true => exact mark_not_mem_positionalChars isMark (digits n) power
      | false => exact mark_not_mem_exponentChars isMark (digits n) _ power
    unfold magnitudeChars
    split
    · simp [other '0' (by decide), other '.' (by decide)]
    · exact either _ _ _
  cases x with
  | nan negative =>
      rw [chars]
      split
      · exact special mark isMark "-NaN" (by decide)
      · exact special mark isMark "NaN" (by decide)
  | infinity negative =>
      rw [chars]
      split
      · exact special mark isMark "-inf" (by decide)
      · exact special mark isMark "inf" (by decide)
  | finite negative exponent fraction =>
      rw [chars]
      split
      · simp [magnitude, other '-' (by decide)]
      · exact magnitude exponent fraction

end FloatLayout

theorem NumericType.mark_not_mem_componentText (primitive : Primitive) (value : Binary32) :
    mark ∉ (componentText primitive value).toList := by
  cases primitive with
  | float =>
      rw [componentText, Binary32.shaderText, String.toList_ofList]
      exact FloatLayout.mark_not_mem_chars isMark _ _
  | int =>
      rw [componentText, Int.toString_eq_repr, Int.repr_eq_if]
      split
      · rw [Nat.toList_repr]
        exact mark_not_mem_toDigits isMark _
      · rw [String.toList_append, Nat.toList_repr, List.mem_append, not_or]
        have minus : ∀ mark ∈ punctuation, mark ∉ "-".toList :=
          forall_mem_punctuation.mpr (by decide)
        exact ⟨minus mark isMark, mark_not_mem_toDigits isMark _⟩
  | bool =>
      rw [componentText]
      have words : ∀ mark ∈ punctuation, ∀ word ∈ ["true", "false"], mark ∉ word.toList :=
        forall_mem_punctuation.mpr (by decide)
      split
      · exact words mark isMark "false" (by decide)
      · exact words mark isMark "true" (by decide)

end Marks

namespace NumericType

variable {type : NumericType} {field : Field}

/-- Height and length that the name of a shader type states after its letters: `2x3` for a
matrix, `4` for a vector, nothing for a scalar. -/
def statedExtents? (name : String) : Option (Nat × Nat) :=
  match name.toList.dropWhile isLetter with
  | [] => some (1, 1)
  | [length] => some (1, digitsValue [length])
  | [height, 'x', length] => some (digitsValue [height], digitsValue [length])
  | _ => none

/-- Name of a shader type of the given component and extents. -/
def extendedName (base : String) (height length : Nat) : String :=
  if height = 1 then
    if length = 1 then base else base ++ toString length
  else base ++ toString height ++ "x" ++ toString length

theorem shaderType_eq (type : NumericType) (field : Field) : type.shaderType field = extendedName
    (componentType (type.primitiveOf field) (type.precisionOf field)) (field.height?.getD 1)
      (field.length?.getD 1) := rfl

theorem extendedName_spec : ∀ base ∈ ["half", "float", "int", "bool"],
    ∀ height ∈ [1, 2, 3, 4], ∀ length ∈ [1, 2, 3, 4],
      statedExtents? (extendedName base height length) = some (height, length) ∧
        ∀ mark ∈ punctuation, mark ∉ (extendedName base height length).toList := by
  simp only [forall_mem_punctuation]
  decide

theorem count_mem (extent : Option Extent) : (extent.bind Extent.count?).getD 1 ∈ [1, 2, 3, 4] := by
  rcases extent with _ | extent
  · decide
  · cases extent <;> decide

/-- The name of a shader type states the extents of the field. -/
theorem shaderType_spec (type : NumericType) (field : Field) :
    statedExtents? (type.shaderType field) = some (field.height?.getD 1, field.length?.getD 1) ∧
      ∀ mark ∈ punctuation, mark ∉ (type.shaderType field).toList := by
  have base : componentType (type.primitiveOf field) (type.precisionOf field) ∈
      ["half", "float", "int", "bool"] := by
    cases type.primitiveOf field <;> cases type.precisionOf field <;> decide
  rw [shaderType_eq]
  exact extendedName_spec _ base _ (count_mem _) _ (count_mem _)

theorem count_comma_intercalate {texts : List String} (some_ : texts ≠ [])
    (plain : ∀ text ∈ texts, ',' ∉ text.toList) :
    (String.intercalate ", " texts).toList.count ',' + 1 = texts.length := by
  induction texts with
  | nil => exact absurd rfl some_
  | cons text rest ih =>
      obtain ⟨here, later⟩ := List.forall_mem_cons.mp plain
      have none := List.count_eq_zero_of_not_mem here
      cases rest with
      | nil => simpa using none
      | cons next rest =>
          have joint : (", " : String).toList.count ',' = 1 := by decide
          rw [String.intercalate_cons_cons, String.toList_append, String.toList_append,
            List.count_append, List.count_append, none, joint, List.length_cons, ← ih (by simp) later]
          omega

theorem length_components_pos (field : Field) : 0 < field.components.length := by
  have positive : ∀ count ∈ [1, 2, 3, 4], 0 < count := by decide
  rw [Field.components, List.length_map, List.length_range]
  exact Nat.mul_pos (positive _ (count_mem _)) (positive _ (count_mem _))

/-- The shader type of a field and the literal of its numbers agree: the name states the
extents of the field, and the literal writes each number once. -/
structure WritesComponents (type : NumericType) (field : Field) (values : List Binary32) : Prop where
  extents : statedExtents? (type.shaderType field) = some (field.height?.getD 1, field.length?.getD 1)
  single : ∀ value, values = [value] →
    type.literal field = componentText (type.primitiveOf field) value
  call : values.length ≠ 1 → type.literal field = type.shaderType field ++ "(" ++
    String.intercalate ", " (values.map (componentText (type.primitiveOf field))) ++ ")"
  count : (type.literal field).toList.count ',' + 1 = values.length

theorem writesComponents (type : NumericType) {field : Field}
    (unreferenced : (field.child? Member.reference).bind Field.string? = none) :
    type.WritesComponents field field.components := by
  obtain ⟨extents, unbroken⟩ := type.shaderType_spec field
  have plain : ∀ values : List Binary32, ∀ text ∈ values.map (componentText (type.primitiveOf field)),
      ',' ∉ text.toList := by
    intro values text inside
    obtain ⟨value, -, rfl⟩ := List.mem_map.mp inside
    exact mark_not_mem_componentText (by decide) _ value
  have positive := length_components_pos field
  cases held : field.components with
  | nil =>
      rw [held] at positive
      cases positive
  | cons value rest =>
      cases rest with
      | nil =>
          have written : type.literal field = componentText (type.primitiveOf field) value := by
            simp only [literal, unreferenced, held, List.map_cons, List.map_nil]
          have none := List.count_eq_zero_of_not_mem (plain [value] _ List.mem_cons_self)
          refine ⟨extents, fun other same => ?_, fun several => absurd rfl several, ?_⟩
          · cases same
            exact written
          · rw [written, none, List.length_singleton]
      | cons next rest =>
          have written : type.literal field = type.shaderType field ++ "(" ++ String.intercalate ", "
              ((value :: next :: rest).map (componentText (type.primitiveOf field))) ++ ")" := by
            simp only [literal, unreferenced, held, List.map_cons]
          have opening : ("(" : String).toList.count ',' = 0 := by decide
          have closing : (")" : String).toList.count ',' = 0 := by decide
          have joints := count_comma_intercalate (by simp) (plain (value :: next :: rest))
          refine ⟨extents, nofun, fun _ => written, ?_⟩
          rw [written, String.toList_append, String.toList_append, String.toList_append,
            List.count_append, List.count_append, List.count_append,
            List.count_eq_zero_of_not_mem (unbroken ',' (by decide)), opening, closing, Nat.zero_add,
            Nat.add_zero, joints, List.length_map]

/-- Components that a text shows: the arguments of a constructor call, without the space in
front of each, else the text as a whole. -/
def writtenComponents (text : String) : List String :=
  match text.toList.dropWhile (· ≠ '(') with
  | '(' :: arguments => ((arguments.takeWhile (· ≠ ')')).splitOn ',').map fun argument =>
      String.ofList (argument.dropWhile (· = ' '))
  | _ => [text]

theorem writtenComponents_of_not_mem {text : String} (plain : '(' ∉ text.toList) :
    writtenComponents text = [text] := by
  have none : text.toList.dropWhile (· ≠ '(') = [] := by
    refine List.dropWhile_eq_nil_iff.mpr fun c inside => decide_eq_true ?_
    rintro rfl
    exact plain inside
  rw [writtenComponents, none]

theorem writtenComponents_call {name inner : String} (opens : '(' ∉ name.toList)
    (closes : ')' ∉ inner.toList) :
    writtenComponents (name ++ "(" ++ inner ++ ")") =
      (inner.toList.splitOn ',').map fun argument => String.ofList (argument.dropWhile (· = ' ')) := by
  have before : ∀ c ∈ name.toList, decide (c ≠ '(') = true := fun c inside =>
    decide_eq_true fun same => opens (same ▸ inside)
  have within : ∀ c ∈ inner.toList, decide (c ≠ ')') = true := fun c inside =>
    decide_eq_true fun same => closes (same ▸ inside)
  have split : (name ++ "(" ++ inner ++ ")").toList =
      name.toList ++ ('(' :: (inner.toList ++ [')'])) := by
    simp
  have arguments : (inner.toList ++ [')']).takeWhile (· ≠ ')') = inner.toList :=
    takeWhile_run within (by simp)
  rw [writtenComponents, split, dropWhile_run before (by simp)]
  simp only [arguments]

theorem splitOn_space (cs : List Char) :
    (((' ' :: cs).splitOn ',').map fun argument => String.ofList (argument.dropWhile (· = ' '))) =
      (cs.splitOn ',').map fun argument => String.ofList (argument.dropWhile (· = ' ')) := by
  rw [List.splitOn_cons_eq_if_modifyHead, if_neg (by decide)]
  cases cs.splitOn ',' <;> simp

theorem splitOn_intercalate {texts : List String} (some_ : texts ≠ [])
    (plain : ∀ mark ∈ punctuation, ∀ text ∈ texts, mark ∉ text.toList) :
    (((String.intercalate ", " texts).toList.splitOn ',').map fun argument =>
      String.ofList (argument.dropWhile (· = ' '))) = texts := by
  induction texts with
  | nil => exact absurd rfl some_
  | cons text rest ih =>
      have whole : ',' ∉ text.toList := plain ',' (by decide) text List.mem_cons_self
      have tight : String.ofList (text.toList.dropWhile (· = ' ')) = text := by
        have apart : ' ' ∉ text.toList := plain ' ' (by decide) text List.mem_cons_self
        rw [← List.nil_append text.toList, dropWhile_run (by simp), String.ofList_toList]
        exact fun c first => decide_eq_false fun same => apart (same ▸ List.mem_of_mem_head? first)
      cases rest with
      | nil => simp [List.splitOn_eq_singleton whole, tight]
      | cons next rest =>
          have joint : (", " : String).toList = [',', ' '] := by decide
          rw [String.intercalate_cons_cons, String.toList_append, String.toList_append, joint,
            List.append_assoc, List.cons_append, List.cons_append, List.nil_append,
            List.splitOn_append_cons_self_of_not_mem whole, List.map_cons, splitOn_space, tight,
            ih (by simp) fun mark isMark text inside =>
              plain mark isMark text (List.mem_cons_of_mem _ inside)]

theorem not_mem_intercalate {c : Char} (apart : c ∉ (", " : String).toList) {texts : List String}
    (plain : ∀ text ∈ texts, c ∉ text.toList) : c ∉ (String.intercalate ", " texts).toList := by
  induction texts with
  | nil => simp
  | cons text rest ih =>
      obtain ⟨here, later⟩ := List.forall_mem_cons.mp plain
      cases rest with
      | nil => simpa using here
      | cons next rest =>
          rw [String.intercalate_cons_cons, String.toList_append, String.toList_append]
          simp only [List.mem_append, not_or]
          exact ⟨⟨here, apart⟩, ih later⟩

/-- The components of a field can be read back from its literal. -/
theorem writtenComponents_literal (type : NumericType) {field : Field}
    (unreferenced : (field.child? Member.reference).bind Field.string? = none) :
    writtenComponents (type.literal field) =
      field.components.map (componentText (type.primitiveOf field)) := by
  have written := type.writesComponents unreferenced
  have plain : ∀ mark ∈ punctuation,
      ∀ text ∈ field.components.map (componentText (type.primitiveOf field)), mark ∉ text.toList := by
    intro mark isMark text inside
    obtain ⟨value, -, rfl⟩ := List.mem_map.mp inside
    exact mark_not_mem_componentText isMark _ value
  by_cases alone : field.components.length = 1
  · obtain ⟨value, held⟩ := List.length_eq_one_iff.mp alone
    rw [held] at plain
    rw [written.single value held, held]
    exact writtenComponents_of_not_mem (plain '(' (by decide) _ List.mem_cons_self)
  · have nonempty : field.components.map (componentText (type.primitiveOf field)) ≠ [] := by
      rw [← List.length_pos_iff, List.length_map]
      exact length_components_pos field
    rw [written.call alone, writtenComponents_call ((type.shaderType_spec field).2 '(' (by decide))
      (not_mem_intercalate (by decide) (plain ')' (by decide))), splitOn_intercalate nonempty plain]

end NumericType

end ShadingGraph
