import ShadingGraph.DataType.Basic
import ShadingGraph.Proofs.NumericText
import ShadingGraph.Proofs.Split

/-! # Gradients as fields and as shader code

A field of a gradient holds eight keys of each kind at most, and so does the code, whose two
counts are those of the keys it spells out. So a gradient, the field made of it and the gradient
read from that field have one code. A field may hold more and still read as a gradient: other
members, whole numbers for numbers, further keys. The code shows nothing of it and is a call of
nineteen arguments in any case.
-/

namespace ShadingGraph

/-! ## Reading -/

theorem exists_mapM_iff {α β : Type} {read : α → Option β} {items : List α} :
    (∃ results, items.mapM read = some results) ↔
      ∀ item ∈ items, ∃ result, read item = some result := by
  induction items with
  | nil => simp
  | cons item rest ih =>
      rw [List.mapM_cons, List.forall_mem_cons, ← ih]
      cases read item <;> cases rest.mapM read <;> simp

namespace Field

/-- The field has a number under each of the names. -/
def HasNumbers (field : Field) (names : List String) : Prop :=
  ∀ name ∈ names, ∃ number, (field.child? name).bind real? = some number

/-- The field has a list of keys under a name, each with all its numbers. -/
def HasKeys (field : Field) (name : String) (numbers : List String) : Prop :=
  ∃ keys, (field.child? name).bind items? = some keys ∧ ∀ key ∈ keys, key.HasNumbers numbers

/-- The field spells out a gradient, with any number of keys. -/
structure HasGradient (field : Field) : Prop where
  mode : ∃ mode : GradientMode, field.taggedChild? "Mode" = some mode
  colorKeys : field.HasKeys "ColorKeys" ["r", "g", "b", "time"]
  alphaKeys : field.HasKeys "AlphaKeys" ["alpha", "time"]

theorem exists_keys_iff {κ : Type} {read : Field → Option κ} {numbers : List String}
    (complete : ∀ key, (∃ result, read key = some result) ↔ key.HasNumbers numbers) (field : Field)
    (name : String) :
    (∃ keys, ((field.child? name).bind items?).bind (·.mapM read) = some keys) ↔
      field.HasKeys name numbers := by
  unfold HasKeys
  cases (field.child? name).bind items? with
  | none => simp
  | some keys => simp [exists_mapM_iff, complete]

end Field

theorem ColorKey.exists_ofField?_iff (field : Field) :
    (∃ key, ofField? field = some key) ↔ field.HasNumbers ["r", "g", "b", "time"] := by
  simp only [ofField?, Option.bind_eq_bind, ← Option.bind_assoc, Field.HasNumbers, List.forall_mem_cons]
  generalize (field.child? "r").bind Field.real? = red
  generalize (field.child? "g").bind Field.real? = green
  generalize (field.child? "b").bind Field.real? = blue
  generalize (field.child? "time").bind Field.real? = time
  cases red <;> cases green <;> cases blue <;> cases time <;> simp

theorem AlphaKey.exists_ofField?_iff (field : Field) :
    (∃ key, ofField? field = some key) ↔ field.HasNumbers ["alpha", "time"] := by
  simp only [ofField?, Option.bind_eq_bind, ← Option.bind_assoc, Field.HasNumbers, List.forall_mem_cons]
  generalize (field.child? "alpha").bind Field.real? = alpha
  generalize (field.child? "time").bind Field.real? = time
  cases alpha <;> cases time <;> simp

theorem Gradient.exists_ofField?_iff {field : Field} :
    (∃ gradient, ofField? field = some gradient) ↔ field.HasGradient := by
  have colors := field.exists_keys_iff ColorKey.exists_ofField?_iff "ColorKeys"
  have alphas := field.exists_keys_iff AlphaKey.exists_ofField?_iff "AlphaKeys"
  simp only [ofField?, Option.bind_eq_bind, ← Option.bind_assoc]
  constructor
  · rintro ⟨gradient, read⟩
    obtain ⟨mode, named, read⟩ := Option.bind_eq_some_iff.mp read
    obtain ⟨colorKeys, colored, read⟩ := Option.bind_eq_some_iff.mp read
    obtain ⟨alphaKeys, faded, -⟩ := Option.bind_eq_some_iff.mp read
    exact ⟨⟨mode, named⟩, colors.mp ⟨colorKeys, colored⟩, alphas.mp ⟨alphaKeys, faded⟩⟩
  · rintro ⟨⟨mode, named⟩, colored, faded⟩
    obtain ⟨colorKeys, colored⟩ := colors.mpr colored
    obtain ⟨alphaKeys, faded⟩ := alphas.mpr faded
    rw [named, Option.bind_some, colored, Option.bind_some, faded]
    exact ⟨⟨mode, colorKeys, alphaKeys⟩, rfl⟩

/-! ## Writing -/

theorem mapM_map {α β : Type} {write : α → β} {read : β → Option α}
    (same : ∀ value, read (write value) = some value) (values : List α) :
    (values.map write).mapM read = some values := by
  induction values with
  | nil => rfl
  | cons value rest ih =>
      rw [List.map_cons, List.mapM_cons, same, ih]
      rfl

theorem ColorKey.ofField?_toField (key : ColorKey) : ofField? key.toField = some key := rfl

theorem AlphaKey.ofField?_toField (key : AlphaKey) : ofField? key.toField = some key := rfl

namespace Gradient

/-- A gradient with the first eight keys of each kind. -/
def cut (gradient : Gradient) : Gradient where
  mode := gradient.mode
  colorKeys := gradient.colorKeys.take maxKeys
  alphaKeys := gradient.alphaKeys.take maxKeys

theorem ofField?_toField (gradient : Gradient) : ofField? gradient.toField = some gradient.cut := by
  have mode : gradient.toField.taggedChild? "Mode" = some gradient.mode := by
    cases mode : gradient.mode <;> simp only [toField, mode] <;> rfl
  have colors : (gradient.toField.child? "ColorKeys").bind Field.items? =
      some ((gradient.colorKeys.take maxKeys).map ColorKey.toField) := rfl
  have alphas : (gradient.toField.child? "AlphaKeys").bind Field.items? =
      some ((gradient.alphaKeys.take maxKeys).map AlphaKey.toField) := rfl
  simp only [ofField?, Option.bind_eq_bind, ← Option.bind_assoc]
  rw [mode, Option.bind_some, colors, Option.bind_some, mapM_map ColorKey.ofField?_toField,
    Option.bind_some, alphas, Option.bind_some, mapM_map AlphaKey.ofField?_toField]
  rfl

theorem toField_cut (gradient : Gradient) : gradient.cut.toField = gradient.toField := by
  simp only [toField, cut, List.take_take, Nat.min_self]

theorem padded_take {κ : Type} (keys : List κ) (zero : κ) :
    padded (keys.take maxKeys) zero = padded keys zero := by
  have missing : maxKeys - min maxKeys keys.length = maxKeys - keys.length := by omega
  rw [padded, padded, List.take_take, Nat.min_self, List.length_take, missing]

theorem length_padded {κ : Type} (keys : List κ) (zero : κ) : (padded keys zero).length = maxKeys := by
  rw [padded, List.length_append, List.length_take, List.length_replicate]
  omega

theorem arguments_cut (gradient : Gradient) : gradient.cut.arguments = gradient.arguments := by
  have count : ∀ length, min (min maxKeys length) maxKeys = min length maxKeys := by omega
  simp only [arguments, cut, padded_take, List.length_take, count]

theorem length_arguments (gradient : Gradient) : gradient.arguments.length = 3 + maxKeys + maxKeys := by
  simp only [arguments, List.length_append, List.length_map, length_padded, List.length_cons,
    List.length_nil]

end Gradient

/-! ## Calls in shader code -/

/-- How many brackets are open after a character. -/
def deeper (depth : Nat) (c : Char) : Nat :=
  if c = '(' then depth + 1 else if c = ')' then depth - 1 else depth

/-- Pieces of a text between the commas outside of brackets. -/
def splitArguments : Nat → List Char → List (List Char)
  | _, [] => [[]]
  | depth, c :: rest =>
    if depth = 0 ∧ c = ',' then [] :: splitArguments 0 rest
    else (splitArguments (deeper depth c) rest).modifyHead (c :: ·)

/-- A piece without the spaces in front of it. -/
def argumentOf (piece : List Char) : String :=
  String.ofList (piece.dropWhile (· = ' '))

/-- Arguments of a call of a function, as a reader of shader code finds them. -/
def callArguments? (function text : String) : Option (List String) := do
  let inner ← Text.dropStart? (function ++ "(").toList text.toList
  guard (inner.getLast? = some ')')
  return (splitArguments 0 inner.dropLast).map argumentOf

theorem splitArguments_run {depth : Nat} {run : List Char} (opens : '(' ∉ run) (closes : ')' ∉ run)
    (separates : depth = 0 → ',' ∉ run) (rest : List Char) :
    splitArguments depth (run ++ rest) = (splitArguments depth rest).modifyHead (run ++ ·) := by
  induction run with
  | nil => exact (congrFun List.modifyHead_id _).symm
  | cons c run ih =>
      simp only [List.mem_cons, not_or] at opens closes separates
      have inside : ¬(depth = 0 ∧ c = ',') := fun ends => (separates ends.1).1 ends.2.symm
      have level : deeper depth c = depth := by
        rw [deeper, if_neg (Ne.symm opens.1), if_neg (Ne.symm closes.1)]
      rw [List.cons_append, splitArguments, if_neg inside, level,
        ih opens.2 closes.2 fun outer => (separates outer).2, List.modifyHead_modifyHead]
      rfl

/-- A text that belongs to one argument wherever it stands, and begins with no space. -/
structure IsArgument (text : String) : Prop where
  whole : ∀ rest, splitArguments 0 (text.toList ++ rest) =
    (splitArguments 0 rest).modifyHead (text.toList ++ ·)
  tight : text.toList.head? ≠ some ' '

theorem isArgument_plain {text : String} (plain : ∀ mark ∈ punctuation, mark ∉ text.toList) :
    IsArgument text where
  whole := splitArguments_run (plain '(' (by decide)) (plain ')' (by decide)) fun _ =>
    plain ',' (by decide)
  tight space := plain ' ' (by decide) (List.mem_of_mem_head? space)

/-- The commas of an inner call separate no arguments of the outer one. -/
theorem isArgument_call {function inner : String} (name : ∀ mark ∈ punctuation, mark ∉ function.toList)
    (opens : '(' ∉ inner.toList) (closes : ')' ∉ inner.toList) :
    IsArgument (function ++ "(" ++ inner ++ ")") := by
  have text : (function ++ "(" ++ inner ++ ")").toList =
      function.toList ++ '(' :: (inner.toList ++ [')']) := by
    simp
  constructor
  case whole =>
    intro rest
    have before (rest : List Char) : splitArguments 0 (function.toList ++ rest) =
        (splitArguments 0 rest).modifyHead (function.toList ++ ·) :=
      splitArguments_run (name '(' (by decide)) (name ')' (by decide)) (fun _ => name ',' (by decide)) rest
    have within (rest : List Char) : splitArguments 1 (inner.toList ++ rest) =
        (splitArguments 1 rest).modifyHead (inner.toList ++ ·) :=
      splitArguments_run opens closes (absurd · one_ne_zero) rest
    have outer : (')' :: rest) = [')'] ++ rest := rfl
    rw [text, List.append_assoc, before, List.cons_append, splitArguments, if_neg (by decide), deeper,
      if_pos rfl, List.append_assoc, within, List.singleton_append, splitArguments, if_neg (by decide),
      deeper, if_neg (by decide), if_pos rfl]
    simp only [List.modifyHead_modifyHead]
    congr 1
    funext piece
    simp
  case tight =>
    rw [text, List.head?_append]
    cases first : function.toList.head? with
    | none => simp
    | some c =>
        rintro ⟨⟩
        exact name ' ' (by decide) (List.mem_of_mem_head? first)

theorem argumentOf_tight {text : String} (tight : text.toList.head? ≠ some ' ') :
    argumentOf text.toList = text := by
  have kept : ([] ++ text.toList).dropWhile (· = ' ') = text.toList := by
    refine dropWhile_run (by simp) fun c first => decide_eq_false fun space => tight ?_
    rw [← space, first]
  rw [argumentOf, ← List.nil_append text.toList, kept, String.ofList_toList]

theorem map_argumentOf_space (pieces : List (List Char)) :
    (pieces.modifyHead (' ' :: ·)).map argumentOf = pieces.map argumentOf := by
  cases pieces <;> simp [argumentOf]

theorem splitArguments_intercalate {arguments : List String} (some_ : arguments ≠ [])
    (each : ∀ argument ∈ arguments, IsArgument argument) :
    (splitArguments 0 (String.intercalate ", " arguments).toList).map argumentOf = arguments := by
  induction arguments with
  | nil => exact absurd rfl some_
  | cons argument rest ih =>
      obtain ⟨⟨whole, tight⟩, later⟩ := List.forall_mem_cons.mp each
      cases rest with
      | nil =>
          have alone := whole []
          rw [List.append_nil] at alone
          simp [alone, splitArguments, argumentOf_tight tight]
      | cons next rest =>
          have joint : (", " : String).toList = [',', ' '] := by decide
          have space : ∀ more, splitArguments 0 (' ' :: more) =
              (splitArguments 0 more).modifyHead (' ' :: ·) := fun _ => rfl
          rw [String.intercalate_cons_cons, String.toList_append, String.toList_append, joint,
            List.append_assoc, whole, List.cons_append, splitArguments, if_pos ⟨rfl, rfl⟩,
            List.modifyHead_cons, List.map_cons, List.cons_append, List.nil_append, space,
            map_argumentOf_space, ih (by simp) later, List.append_nil, argumentOf_tight tight]

theorem callArguments?_call {function : String} {arguments : List String} (some_ : arguments ≠ [])
    (each : ∀ argument ∈ arguments, IsArgument argument) :
    callArguments? function (function ++ "(" ++ String.intercalate ", " arguments ++ ")") =
      some arguments := by
  have text : (function ++ "(" ++ String.intercalate ", " arguments ++ ")").toList =
      (function ++ "(").toList ++ ((String.intercalate ", " arguments).toList ++ [')']) := by
    simp
  rw [callArguments?, Text.dropStart?_eq_some.mpr text, Option.bind_eq_bind, Option.bind_some,
    List.getLast?_concat, List.dropLast_concat, splitArguments_intercalate some_ each]
  rfl

/-! ## Gradients as calls -/

theorem isArgument_toString (n : Nat) : IsArgument (toString n) :=
  isArgument_plain fun mark isMark => by simpa using mark_not_mem_toDigits isMark n

theorem mark_not_mem_numbers {mark : Char} (isMark : mark ∈ punctuation) (numbers : List Binary32) :
    ∀ text ∈ numbers.map Binary32.shaderText, mark ∉ text.toList :=
  List.forall_mem_map.mpr fun number _ => NumericType.mark_not_mem_componentText isMark .float number

theorem isArgument_numbers {function : String} (name : ∀ mark ∈ punctuation, mark ∉ function.toList)
    (numbers : List Binary32) :
    IsArgument (function ++ "(" ++ String.intercalate ", " (numbers.map Binary32.shaderText) ++ ")") :=
  isArgument_call name
    (NumericType.not_mem_intercalate (by decide) (mark_not_mem_numbers (by decide) numbers))
    (NumericType.not_mem_intercalate (by decide) (mark_not_mem_numbers (by decide) numbers))

theorem ColorKey.shaderText_eq_call (key : ColorKey) : key.shaderText = "float4" ++ "(" ++
    String.intercalate ", " ([key.red, key.green, key.blue, key.time].map Binary32.shaderText) ++ ")" := by
  rw [← String.toList_inj]
  simp [shaderText, String.intercalate_cons_cons]

theorem AlphaKey.shaderText_eq_call (key : AlphaKey) : key.shaderText = "float2" ++ "(" ++
    String.intercalate ", " ([key.alpha, key.time].map Binary32.shaderText) ++ ")" := by
  rw [← String.toList_inj]
  simp [shaderText, String.intercalate_cons_cons]

theorem ColorKey.isArgument_shaderText (key : ColorKey) : IsArgument key.shaderText :=
  key.shaderText_eq_call ▸ isArgument_numbers (forall_mem_punctuation.mpr (by decide)) _

theorem AlphaKey.isArgument_shaderText (key : AlphaKey) : IsArgument key.shaderText :=
  key.shaderText_eq_call ▸ isArgument_numbers (forall_mem_punctuation.mpr (by decide)) _

namespace Gradient

/-- A reader of the code finds the arguments that were written. -/
theorem callArguments?_shaderText (gradient : Gradient) :
    callArguments? "NewGradient" gradient.shaderText = some gradient.arguments := by
  refine callArguments?_call (by simp [arguments]) fun argument inside => ?_
  simp only [arguments, List.mem_append, List.mem_cons, List.not_mem_nil, or_false, List.mem_map] at inside
  rcases inside with ((rfl | rfl | rfl) | ⟨key, -, rfl⟩) | ⟨key, -, rfl⟩
  · exact isArgument_toString _
  · exact isArgument_toString _
  · exact isArgument_toString _
  · exact key.isArgument_shaderText
  · exact key.isArgument_shaderText

theorem getElem?_padded {κ : Type} (keys : List κ) (zero : κ) {index : Nat} (inside : index < maxKeys) :
    (padded keys zero)[index]? = some (keys[index]?.getD zero) := by
  rw [padded, List.getElem?_append, List.length_take]
  split
  · rename_i present
    rw [List.getElem?_take_of_lt inside, List.getElem?_eq_getElem (by omega), Option.getD_some]
  · rename_i absent
    rw [List.getElem?_replicate, if_pos (by omega), List.getElem?_eq_none (by omega), Option.getD_none]

/-- The arguments spell out the gradient: its mode, the numbers of its keys up to eight, and eight
keys of each kind, keys of zeros for those it does not have. -/
structure SpelledBy (gradient : Gradient) (arguments : List String) : Prop where
  length : arguments.length = 3 + 8 + 8
  mode : arguments[0]? = some (toString gradient.mode.index)
  colorCount : arguments[1]? = some (toString (min gradient.colorKeys.length 8))
  alphaCount : arguments[2]? = some (toString (min gradient.alphaKeys.length 8))
  colorKeys : ∀ index < 8, arguments[3 + index]? =
    some (gradient.colorKeys[index]?.getD ⟨.zero, .zero, .zero, .zero⟩).shaderText
  alphaKeys : ∀ index < 8, arguments[11 + index]? =
    some (gradient.alphaKeys[index]?.getD ⟨.zero, .zero⟩).shaderText

theorem spelledBy_arguments (gradient : Gradient) : gradient.SpelledBy gradient.arguments where
  length := gradient.length_arguments
  mode := rfl
  colorCount := rfl
  alphaCount := rfl
  colorKeys index inside := by
    have place : 3 + index - 3 = index := by omega
    rw [arguments, List.getElem?_append_left, List.getElem?_append_right (by simp)]
    · rw [List.length_cons, List.length_cons, List.length_singleton, place, List.getElem?_map,
        getElem?_padded _ _ inside, Option.map_some]
    · rw [List.length_append, List.length_map, length_padded]
      exact Nat.add_lt_add_left inside 3
  alphaKeys index inside := by
    have place : 11 + index - (3 + maxKeys) = index := by rw [maxKeys]; omega
    rw [arguments, List.getElem?_append_right]
    · rw [List.length_append, List.length_cons, List.length_cons, List.length_singleton, List.length_map,
        length_padded, place, List.getElem?_map, getElem?_padded _ _ inside, Option.map_some]
    · rw [List.length_append, List.length_map, length_padded]
      exact Nat.le_add_right 11 index

/-- Lists of keys in the field of a gradient, each with the numbers of a key. -/
def keyLists : List (String × List String) :=
  [("ColorKeys", ["r", "g", "b", "time"]), ("AlphaKeys", ["alpha", "time"])]

theorem ofField?_eq_none {field : Field} {name : String} {numbers : List String}
    (listed : (name, numbers) ∈ keyLists) {keys : List Field}
    (held : (field.child? name).bind Field.items? = some keys) {key : Field} (inside : key ∈ keys)
    {number : String} (asked : number ∈ numbers) (lacks : (key.child? number).bind Field.real? = none) :
    ofField? field = none := by
  have incomplete : ¬field.HasKeys name numbers := by
    rintro ⟨_, held', complete⟩
    cases held.symm.trans held'
    obtain ⟨_, has⟩ := complete key inside number asked
    cases lacks.symm.trans has
  by_contra reads
  have has := exists_ofField?_iff.mp (Option.ne_none_iff_exists'.mp reads)
  simp only [keyLists, List.mem_cons, Prod.mk.injEq, List.not_mem_nil, or_false] at listed
  rcases listed with ⟨rfl, rfl⟩ | ⟨rfl, rfl⟩
  · exact incomplete has.colorKeys
  · exact incomplete has.alphaKeys

/-- The field of a gradient is read as its first eight keys of each kind, which have the same field.
A field that reads as a gradient has the code of the field made of that gradient, a call whose
nineteen arguments spell it out. A field with an incomplete key reads as none. -/
theorem field_codec (gradient : Gradient) (field : Field) :
    ofField? gradient.toField = some gradient.cut ∧ gradient.cut.toField = gradient.toField ∧
      (∀ read, ofField? field = some read →
        DataType.gradient.literal? field = DataType.gradient.literal? read.toField ∧
          ∃ text arguments, DataType.gradient.literal? field = some text ∧
            callArguments? "NewGradient" text = some arguments ∧ read.SpelledBy arguments) ∧
      ∀ name numbers, (name, numbers) ∈ keyLists → ∀ keys,
        (field.child? name).bind Field.items? = some keys → ∀ key ∈ keys, ∀ number ∈ numbers,
          (key.child? number).bind Field.real? = none → ofField? field = none := by
  refine ⟨gradient.ofField?_toField, gradient.toField_cut, fun read held => ?_,
    fun name numbers listed keys held key inside number asked lacks =>
      ofField?_eq_none listed held inside asked lacks⟩
  have written : DataType.gradient.literal? field = some read.shaderText := by
    rw [DataType.literal?, held, Option.map_some]
  refine ⟨?_, read.shaderText, read.arguments, written, read.callArguments?_shaderText,
    read.spelledBy_arguments⟩
  rw [written, DataType.literal?, ofField?_toField, Option.map_some, shaderText, shaderText, arguments_cut]

/-- A gradient with one colour key too many. -/
def crowded : Gradient where
  mode := .fixed
  colorKeys := List.replicate 9 ⟨.one, .zero, .zero, .one⟩
  alphaKeys := [⟨.one, .zero⟩]

/-- A field that reads as the gradient: the mode is a text, the reds are whole numbers, and there is
a note. -/
def looseGradient : Field :=
  .composite
    [ ("Note", .bool true),
      ("AlphaKeys", .list [AlphaKey.toField ⟨.one, .zero⟩]),
      ("ColorKeys", .list (List.replicate 9 (.composite
        [("r", .int 1), ("g", .float .zero), ("b", .float .zero), ("time", .float .one)]))),
      ("Mode", .text "Fixed") ]

/-- A field whose second alpha key has no alpha. -/
def brokenGradient : Field :=
  .composite
    [ ("Mode", .tag "Blend"),
      ("ColorKeys", .list []),
      ("AlphaKeys", .list [AlphaKey.toField ⟨.one, .zero⟩, .composite [("time", .float .one)]]) ]

theorem field_codec_crowded :
    ofField? looseGradient = some crowded ∧ ofField? crowded.toField = some crowded.cut ∧
      DataType.gradient.literal? looseGradient = DataType.gradient.literal? crowded.toField ∧
      (∃ text arguments, DataType.gradient.literal? looseGradient = some text ∧
        callArguments? "NewGradient" text = some arguments ∧ arguments.length = 19 ∧
        arguments[1]? = some "8" ∧ arguments[2]? = some "1") ∧
      ofField? brokenGradient = none := by
  have reads : ofField? looseGradient = some crowded := by decide
  obtain ⟨back, -, agrees, -⟩ := field_codec crowded looseGradient
  obtain ⟨-, -, -, broken⟩ := field_codec crowded brokenGradient
  obtain ⟨same, text, arguments, written, called, spelled⟩ := agrees crowded reads
  exact ⟨reads, back, same, ⟨text, arguments, written, called, spelled.length, spelled.colorCount,
    spelled.alphaCount⟩, broken "AlphaKeys" ["alpha", "time"] (by decide) _ rfl _
      (List.mem_cons_of_mem _ List.mem_cons_self) "alpha" (by decide) rfl⟩

end Gradient

end ShadingGraph
