import ShadingGraph.Proofs.Json.Number
import ShadingGraph.Proofs.Json.Text

/-! # Reading written JSON

The text of a datum is read as one value, with what comes after it left over. The fuel
that is spent on a text is never more than the text is long.
-/

namespace ShadingGraph

namespace Json

theorem skipSpace_of_head {text : List Char} (head : ∀ c ∈ text.head?, isSpace c = false) :
    skipSpace text = text := by
  cases text with
  | nil => rfl
  | cons c text => simp [skipSpace, head c rfl]

theorem skipSpace_of_ends {rest : List Char} (ends : ∀ c ∈ rest.head?, isEnd c = true) :
    skipSpace rest = rest :=
  skipSpace_of_head fun c first => (ne_of_isEnd (ends c first)).2.1

/-- The text is read as the value, up to the mark that comes after it. -/
structure Reads (text : List Char) (value : Json) : Prop where
  reads : ∀ (fuel : ℕ) (rest : List Char), text.length < fuel → (∀ c ∈ rest.head?, isEnd c = true) →
    value? fuel (text ++ rest) = some (value, rest)
  begins : ∃ c cs, text = c :: cs ∧ isSpace c = false ∧ c ≠ ']'

theorem Reads.null : Reads ['n', 'u', 'l', 'l'] .null where
  reads fuel rest enough _ := by
    obtain ⟨fuel, rfl⟩ := Nat.exists_eq_succ_of_ne_zero (by omega : fuel ≠ 0)
    rfl
  begins := ⟨_, _, rfl, by decide, by decide⟩

theorem Reads.bool (value : Bool) : Reads (Datum.json (.bool value)) (.bool value) where
  reads fuel rest enough _ := by
    obtain ⟨fuel, rfl⟩ := Nat.exists_eq_succ_of_ne_zero (by omega : fuel ≠ 0)
    cases value <;> rfl
  begins := by
    cases value
    · exact ⟨'f', _, rfl, by decide, by decide⟩
    · exact ⟨'t', _, rfl, by decide, by decide⟩

theorem Reads.string (text : String) : Reads (Datum.jsonString text.toList) (.string (some text)) where
  reads fuel rest enough _ := by
    obtain ⟨fuel, rfl⟩ := Nat.exists_eq_succ_of_ne_zero (by omega : fuel ≠ 0)
    obtain ⟨inside, written, read⟩ := string?_jsonString text rest
    rw [written, value?, skipSpace_of_head (by rintro c ⟨⟩; decide)]
    simp [read]
  begins := ⟨_, _, rfl, by decide, by decide⟩

theorem ne_of_isNumeralStart {c : Char} (start : isDigit c = true ∨ c = '-') :
    isSpace c = false ∧ c ≠ ']' ∧ c ∉ ['\x7b', '[', '"', 'n', 't', 'f'] := by
  rcases start with digit | rfl
  · refine ⟨?_, ?_, ?_⟩
    · simp only [isSpace, Bool.or_eq_false_iff, beq_eq_false_iff_ne]
      refine ⟨⟨⟨?_, ?_⟩, ?_⟩, ?_⟩ <;> rintro rfl <;> cases digit
    · rintro rfl
      cases digit
    · intro inside
      simp only [List.mem_cons, List.not_mem_nil, or_false] at inside
      rcases inside with rfl | rfl | rfl | rfl | rfl | rfl <;> cases digit
  · decide

theorem exists_of_numeral? {text rest : List Char} {numeral : Numeral}
    (read : numeral? text = some (numeral, rest)) :
    ∃ c cs, text = c :: cs ∧ (isDigit c = true ∨ c = '-') := by
  have digit : ∀ {text : List Char} {x : List Char × List Char}, wholePart? text = some x →
      ∃ c cs, text = c :: cs ∧ isDigit c = true := by
    intro text x whole
    unfold wholePart? digits? at whole
    cases text with
    | nil => simp at whole
    | cons c cs =>
        refine ⟨c, cs, rfl, ?_⟩
        by_contra other
        simp [other] at whole
  unfold numeral? at read
  split at read
  rename_i negative magnitude signed
  obtain ⟨x, whole, -⟩ := Option.bind_eq_some_iff.mp read
  obtain ⟨c, cs, rfl, first⟩ := digit whole
  split at signed
  · exact ⟨_, _, rfl, .inr rfl⟩
  · cases signed
    exact ⟨c, cs, rfl, .inl first⟩

theorem Reads.number {text : List Char} {numeral : Numeral}
    (read : ∀ rest : List Char, (∀ c ∈ rest.head?, isEnd c = true) →
      numeral? (text ++ rest) = some (numeral, rest)) : Reads text (.number numeral) := by
  have alone := read [] (by simp)
  rw [List.append_nil] at alone
  obtain ⟨c, cs, rfl, start⟩ := exists_of_numeral? alone
  obtain ⟨space, bracket, other⟩ := ne_of_isNumeralStart start
  refine ⟨fun fuel rest enough ends => ?_, c, cs, rfl, space, bracket⟩
  obtain ⟨fuel, rfl⟩ := Nat.exists_eq_succ_of_ne_zero (by omega : fuel ≠ 0)
  have read := read rest ends
  rw [List.cons_append] at read ⊢
  rw [value?, skipSpace_of_head (by rintro d ⟨⟩; exact space)]
  split <;> simp_all

/-- The text is read as the items of an array, up to its closing bracket. -/
structure ReadsItems (text : List Char) (items : List Json) : Prop where
  reads : ∀ (fuel : ℕ) (rest : List Char), text.length + 1 < fuel →
    items? fuel (text ++ ']' :: rest) = some (items, rest)
  begins : ∃ c cs, text = c :: cs ∧ isSpace c = false ∧ c ≠ ']'

theorem ReadsItems.last {text : List Char} {item : Json} (read : Reads text item) :
    ReadsItems text [item] where
  reads fuel rest enough := by
    obtain ⟨fuel, rfl⟩ := Nat.exists_eq_succ_of_ne_zero (by omega : fuel ≠ 0)
    have found := read.reads fuel (']' :: rest) (by omega) (by rintro c ⟨⟩; decide)
    have space : skipSpace (']' :: rest) = ']' :: rest := skipSpace_of_ends (by rintro c ⟨⟩; decide)
    rw [items?, found]
    simp [space]
  begins := read.begins

theorem ReadsItems.cons {text texts : List Char} {item : Json} {items : List Json}
    (read : Reads text item) (others : ReadsItems texts items) :
    ReadsItems (text ++ ',' :: texts) (item :: items) where
  reads fuel rest enough := by
    simp only [List.length_append, List.length_cons] at enough
    obtain ⟨fuel, rfl⟩ := Nat.exists_eq_succ_of_ne_zero (by omega : fuel ≠ 0)
    have found := read.reads fuel (',' :: (texts ++ ']' :: rest)) (by omega)
      (by rintro c ⟨⟩; decide)
    have space : skipSpace (',' :: (texts ++ ']' :: rest)) = ',' :: (texts ++ ']' :: rest) :=
      skipSpace_of_ends (by rintro c ⟨⟩; decide)
    rw [List.append_assoc, List.cons_append, items?, found]
    simp [space, others.reads fuel rest (by omega)]
  begins := by
    obtain ⟨c, cs, rfl, first⟩ := read.begins
    exact ⟨c, _, rfl, first⟩

theorem Reads.emptyArray : Reads ['[', ']'] (.array []) where
  reads fuel rest enough _ := by
    obtain ⟨fuel, rfl⟩ := Nat.exists_eq_succ_of_ne_zero (by omega : fuel ≠ 0)
    rfl
  begins := ⟨_, _, rfl, by decide, by decide⟩

theorem Reads.array {text : List Char} {items : List Json} (read : ReadsItems text items) :
    Reads ('[' :: text ++ [']']) (.array items) where
  reads fuel rest enough _ := by
    simp only [List.length_append, List.length_cons, List.length_nil] at enough
    obtain ⟨fuel, rfl⟩ := Nat.exists_eq_succ_of_ne_zero (by omega : fuel ≠ 0)
    have found := read.reads fuel rest (by omega)
    obtain ⟨c, cs, rfl, space, bracket⟩ := read.begins
    rw [List.append_assoc, List.cons_append, value?, skipSpace_of_head (by rintro d ⟨⟩; decide)]
    have start : skipSpace (c :: (cs ++ ']' :: rest)) = c :: (cs ++ ']' :: rest) :=
      skipSpace_of_head (by rintro d ⟨⟩; exact space)
    rw [List.cons_append] at found
    simp [start, bracket, found]
  begins := ⟨_, _, rfl, by decide, by decide⟩

/-- The text is read as the members of an object, up to its closing brace. -/
structure ReadsMembers (text : List Char) (members : List (Option String × Json)) : Prop where
  reads : ∀ (fuel : ℕ) (rest : List Char), text.length < fuel →
    members? fuel (text ++ '\x7d' :: rest) = some (members, rest)
  begins : ∃ cs, text = '"' :: cs

theorem skipSpace_colon (rest : List Char) : skipSpace (':' :: rest) = ':' :: rest :=
  skipSpace_of_head (by rintro c ⟨⟩; decide)

theorem ReadsMembers.last (name : String) {text : List Char} {value : Json} (read : Reads text value) :
    ReadsMembers (Datum.jsonString name.toList ++ ':' :: text) [(some name, value)] where
  reads fuel rest enough := by
    simp only [List.length_append, List.length_cons] at enough
    obtain ⟨fuel, rfl⟩ := Nat.exists_eq_succ_of_ne_zero (by omega : fuel ≠ 0)
    have ends : ∀ c ∈ ('\x7d' :: rest).head?, isEnd c = true := by
      rintro c ⟨⟩
      decide
    obtain ⟨inside, written, found⟩ := string?_jsonString name (':' :: (text ++ '\x7d' :: rest))
    have value := read.reads fuel _ (by omega) ends
    rw [List.append_assoc, List.cons_append, written, members?,
      skipSpace_of_head (by rintro c ⟨⟩; decide)]
    simp [found, skipSpace_colon, value, skipSpace_of_ends ends]
  begins := ⟨_, rfl⟩

theorem ReadsMembers.cons (name : String) {text texts : List Char} {value : Json}
    {members : List (Option String × Json)} (read : Reads text value)
    (others : ReadsMembers texts members) :
    ReadsMembers (Datum.jsonString name.toList ++ ':' :: text ++ ',' :: texts)
      ((some name, value) :: members) where
  reads fuel rest enough := by
    simp only [List.length_append, List.length_cons] at enough
    obtain ⟨fuel, rfl⟩ := Nat.exists_eq_succ_of_ne_zero (by omega : fuel ≠ 0)
    have ends : ∀ c ∈ (',' :: (texts ++ '\x7d' :: rest)).head?, isEnd c = true := by
      rintro c ⟨⟩
      decide
    obtain ⟨inside, written, found⟩ :=
      string?_jsonString name (':' :: (text ++ ',' :: (texts ++ '\x7d' :: rest)))
    have value := read.reads fuel _ (by omega) ends
    simp only [List.append_assoc, List.cons_append]
    rw [written, members?, skipSpace_of_head (by rintro c ⟨⟩; decide)]
    simp [found, skipSpace_colon, value, skipSpace_of_ends ends, others.reads fuel rest (by omega)]
  begins := ⟨_, rfl⟩

theorem Reads.emptyObject : Reads ['\x7b', '\x7d'] (.object []) where
  reads fuel rest enough _ := by
    obtain ⟨fuel, rfl⟩ := Nat.exists_eq_succ_of_ne_zero (by omega : fuel ≠ 0)
    rfl
  begins := ⟨_, _, rfl, by decide, by decide⟩

theorem Reads.object {text : List Char} {members : List (Option String × Json)}
    (read : ReadsMembers text members) : Reads ('\x7b' :: text ++ ['\x7d']) (.object members) where
  reads fuel rest enough _ := by
    simp only [List.length_append, List.length_cons, List.length_nil] at enough
    obtain ⟨fuel, rfl⟩ := Nat.exists_eq_succ_of_ne_zero (by omega : fuel ≠ 0)
    have found := read.reads fuel rest (by omega)
    obtain ⟨cs, rfl⟩ := read.begins
    rw [List.append_assoc, List.cons_append, value?, skipSpace_of_head (by rintro d ⟨⟩; decide)]
    have start : skipSpace ('"' :: (cs ++ '\x7d' :: rest)) = '"' :: (cs ++ '\x7d' :: rest) :=
      skipSpace_of_head (by rintro d ⟨⟩; decide)
    rw [List.cons_append] at found
    simp [start, found]
  begins := ⟨_, _, rfl, by decide, by decide⟩

theorem Reads.parse?_eq {text : List Char} {value : Json} (read : Reads text value) :
    parse? (String.ofList text) = some value := by
  have found := read.reads _ [] (Nat.lt_succ_self _) (by simp)
  rw [List.append_nil] at found
  rw [parse?, String.toList_ofList, found]
  simp [skipSpace]

def floatValue (x : Binary32) : Json :=
  match numeral? (Datum.jsonFloat x) with
  | some (numeral, _) => .number numeral
  | none => .null

theorem reads_float (x : Binary32) : Reads (Datum.jsonFloat x) (floatValue x) := by
  cases x with
  | nan => exact Reads.null
  | infinity => exact Reads.null
  | finite negative exponent fraction =>
      obtain ⟨decimal, -, read⟩ := exists_numeral negative exponent fraction
      have alone := read [] (by simp)
      rw [List.append_nil] at alone
      rw [floatValue, Datum.jsonFloat, alone]
      exact Reads.number read

end Json

namespace Datum

mutual

/-- The value that the text of a datum is read as. -/
def jsonValue : Datum → Json
  | .bool value => .bool value
  | .int value => .number (Json.integerNumeral value)
  | .float value => Json.floatValue value
  | .char value => .string (some (String.ofList [value]))
  | .text value => .string (some value)
  | .absent => .null
  | .present value => jsonValue value
  | .list items => .array (itemValues items)
  | .tuple items => .array (itemValues items)
  | .map entries => .object (memberValues entries)
  | .record _ members => .object (memberValues members)
  | .unit name => .string (some name)
  | .variant name payload => .object [(some name, jsonValue payload)]

def itemValues : List Datum → List Json
  | [] => []
  | item :: rest => jsonValue item :: itemValues rest

def memberValues : List (String × Datum) → List (Option String × Json)
  | [] => []
  | (name, value) :: rest => (some name, jsonValue value) :: memberValues rest

end

mutual

theorem reads_json : ∀ datum : Datum, Json.Reads (json datum) (jsonValue datum)
  | .bool value => .bool value
  | .int value => .number fun _ ends => Json.numeral?_integerChars value ends
  | .float value => Json.reads_float value
  | .char value => by
      have read := Json.Reads.string (String.ofList [value])
      rwa [String.toList_ofList] at read
  | .text value => .string value
  | .absent => .null
  | .present value => reads_json value
  | .list [] => .emptyArray
  | .list (item :: rest) => .array (readsItems_json (item :: rest) (by simp))
  | .tuple [] => .emptyArray
  | .tuple (item :: rest) => .array (readsItems_json (item :: rest) (by simp))
  | .map [] => .emptyObject
  | .map (entry :: rest) => .object (readsMembers_json (entry :: rest) (by simp))
  | .record _ [] => .emptyObject
  | .record _ (member :: rest) => .object (readsMembers_json (member :: rest) (by simp))
  | .unit name => .string name
  | .variant name payload => .object (.last name (reads_json payload))

theorem readsItems_json : ∀ items : List Datum, items ≠ [] → Json.ReadsItems (jsonItems items) (itemValues items)
  | [], nonempty => absurd rfl nonempty
  | [item], _ => .last (reads_json item)
  | item :: next :: rest, _ => .cons (reads_json item) (readsItems_json (next :: rest) (by simp))

theorem readsMembers_json : ∀ members : List (String × Datum), members ≠ [] →
    Json.ReadsMembers (jsonMembers members) (memberValues members)
  | [], nonempty => absurd rfl nonempty
  | [(name, value)], _ => .last name (reads_json value)
  | (name, value) :: next :: rest, _ =>
      .cons name (reads_json value) (readsMembers_json (next :: rest) (by simp))

end

theorem parse?_toJson (datum : Datum) : Json.parse? datum.toJson = some datum.jsonValue :=
  (reads_json datum).parse?_eq

end Datum

end ShadingGraph
