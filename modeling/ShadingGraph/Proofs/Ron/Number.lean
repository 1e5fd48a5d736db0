import ShadingGraph.Proofs.Number.Decimal
import ShadingGraph.Proofs.Split
import ShadingGraph.Ron.Numeral
import ShadingGraph.Ron.Writer

/-! # Numbers in RON

A number that is written in RON is read back from its characters, by the reader of its
type.
-/

namespace ShadingGraph

namespace FloatLayout

/-- Without an exponent, the magnitude of a number is written as digits around a point, and
the decimal that they stand for is rounded to the number. -/
theorem exists_point (layout : FloatLayout) (positional : layout.positional = none) (negative : Bool)
    (exponent : Fin 255) (fraction : Fin 8388608) : ∃ whole part : List Char,
      layout.magnitudeChars exponent fraction = whole ++ '.' :: part ∧
        (∀ c ∈ whole, isDigit c) ∧ (∀ c ∈ part, isDigit c) ∧ whole ≠ [] ∧
          Decimal.toBinary32 ⟨negative, digitsValue (whole ++ part), -part.length⟩ =
            .finite negative exponent fraction := by
  unfold magnitudeChars
  split_ifs with zero
  · refine ⟨['0'], ['0'], rfl, by simp [isDigit], by simp [isDigit], by simp, ?_⟩
    have exponentZero : exponent = 0 := Fin.ext zero.1
    have fractionZero : fraction = 0 := Fin.ext zero.2
    rw [exponentZero, fractionZero]
    exact if_pos (.inl rfl)
  · have shortest := Binary32.shortDecimal_shortest layout.tie zero
    generalize Binary32.shortest layout.tie exponent fraction = decimal at shortest
    obtain ⟨digits, power⟩ := decimal
    obtain ⟨whole, part, parts⟩ := exists_positionalParts (Nat.toDigits 10 digits)
      (fun c inside => isDigit_of_mem_toDigits inside) Nat.toDigits_ne_nil power
    refine ⟨whole, part, ?_, parts.digits_whole, parts.digits_fraction, parts.nonempty, ?_⟩
    · simp only [positional, if_true]
      exact parts.text
    · refine Decimal.toBinary32_of_attracts zero ?_
      rw [parts.value_eq, digitsValue_toDigits]
      exact shortest.attracts

end FloatLayout

namespace Ron

theorem dropType_eq_self {type chars : List Char} {c : Char} (inside : c ∈ type)
    (outside : c ∉ chars) : dropType type chars = chars := by
  rw [dropType, Text.dropStart?_eq_none (List.mem_reverse.mpr inside) (by simpa using outside)]

theorem separatorsInPlace_of_not_mem {chars : List Char} (plain : '_' ∉ chars) (allowed : Bool) :
    separatorsInPlace allowed chars = true := by
  induction chars generalizing allowed with
  | nil => rfl
  | cons c chars ih =>
      simp only [List.mem_cons, not_or] at plain
      rw [separatorsInPlace, if_neg (Ne.symm plain.1)]
      split_ifs <;> exact ih plain.2 _

section point

variable (negative : Bool) {whole part : List Char} (digits : ∀ c ∈ whole, isDigit c)
  (digits' : ∀ c ∈ part, isDigit c)
include digits digits'

theorem mem_point {c : Char} (inside : c ∈ withSign negative (whole ++ '.' :: part)) :
    isDigit c ∨ c = '.' ∨ c = '-' := by
  have magnitude : c ∈ whole ++ '.' :: part → isDigit c ∨ c = '.' ∨ c = '-' := by
    intro inside
    rw [List.mem_append, List.mem_cons] at inside
    rcases inside with inside | point | inside
    · exact .inl (digits c inside)
    · exact .inr (.inl point)
    · exact .inl (digits' c inside)
  unfold withSign at inside
  split_ifs at inside
  · rcases List.mem_cons.mp inside with sign | inside
    · exact .inr (.inr sign)
    · exact magnitude inside
  · exact magnitude inside

variable (nonempty : whole ≠ [])
include nonempty

theorem ofChars?_point : Decimal.ofChars? (withSign negative (whole ++ '.' :: part)) =
    some ⟨negative, digitsValue (whole ++ part), -part.length⟩ := by
  rw [← Decimal.unsigned?_point negative digits digits' nonempty]
  cases negative with
  | true => rfl
  | false =>
      obtain ⟨c, whole, rfl⟩ := List.exists_cons_of_ne_nil nonempty
      have digit := digits c List.mem_cons_self
      change Decimal.ofChars? (c :: (whole ++ '.' :: part)) = _
      unfold Decimal.ofChars?
      split
      · rename_i same
        cases (List.cons.inj same).1
        cases digit
      · rename_i same
        cases (List.cons.inj same).1
        cases digit
      · rfl

theorem float?_point : float? (withSign negative (whole ++ '.' :: part)) =
    some (Decimal.toBinary32 ⟨negative, digitsValue (whole ++ part), -part.length⟩) := by
  have chars : ∀ c ∈ withSign negative (whole ++ '.' :: part), isDigit c ∨ c = '.' ∨ c = '-' :=
    fun c inside => mem_point negative digits digits' inside
  have read := ofChars?_point negative digits digits' nonempty
  have point : '.' ∈ withSign negative (whole ++ '.' :: part) := by
    unfold withSign
    split_ifs <;> simp
  generalize withSign negative (whole ++ '.' :: part) = text at chars read point
  have plain : ∀ c ∈ text, c ≠ '_' ∧ c ≠ 'f' ∧ isFloatChar c := by
    intro c inside
    rcases chars c inside with digit | rfl | rfl
    · refine ⟨?_, ?_, by simp [isFloatChar, digit]⟩ <;> rintro rfl <;> cases digit
    · decide
    · decide
  have unnamed : namedFloat? text = none := by
    unfold namedFloat?
    split <;> simp at point ⊢
  have separated := separatorsInPlace_of_not_mem (fun inside => (plain _ inside).1 rfl) false
  have same : text.filter (· ≠ '_') = text :=
    List.filter_eq_self.mpr fun c inside => by simpa using (plain c inside).1
  have all : text.all isFloatChar = true :=
    List.all_eq_true.mpr fun c inside => (plain c inside).2.2
  rw [float?, dropType_eq_self (c := 'f') (by simp) fun inside => (plain _ inside).2.1 rfl,
    untypedFloat?, unnamed]
  dsimp only
  rw [all, separated, same, read]
  rfl

end point

theorem float?_chars (x : Binary32) : float? (FloatLayout.ron.chars x) = some x := by
  cases x with
  | nan negative => cases negative <;> rfl
  | infinity negative => cases negative <;> rfl
  | finite negative exponent fraction =>
      obtain ⟨whole, part, text, digits, digits', nonempty, rounded⟩ :=
        FloatLayout.exists_point FloatLayout.ron rfl negative exponent fraction
      have read := float?_point negative digits digits' nonempty
      rw [rounded, ← text] at read
      exact read

theorem signed_withSign (negative : Bool) {digits : List Char} (all : ∀ c ∈ digits, isDigit c) :
    signed (withSign negative digits) = (negative, digits) := by
  cases negative with
  | true => rfl
  | false =>
      cases digits with
      | nil => rfl
      | cons c digits =>
          have digit := all c List.mem_cons_self
          change signed (c :: digits) = _
          unfold signed
          split
          · rename_i same
            cases (List.cons.inj same).1
            cases digit
          · rename_i same
            cases (List.cons.inj same).1
            cases digit
          · rfl

theorem hexValue?_of_isDigit {c : Char} (digit : isDigit c = true) :
    hexValue? c = some (c.toNat - '0'.toNat) ∧ c.toNat - '0'.toNat < 10 := by
  refine ⟨by rw [hexValue?, if_pos digit], ?_⟩
  simp only [isDigit, Bool.and_eq_true, decide_eq_true_eq, Char.le_def] at digit
  have last : c.toNat ≤ '9'.toNat := digit.2
  have : '9'.toNat = '0'.toNat + 9 := rfl
  omega

theorem digitsIn?_digits {digits : List Char} (all : ∀ c ∈ digits, isDigit c) (nonempty : digits ≠ []) :
    digitsIn? 10 digits = some (digitsValue digits) := by
  have plain : ∀ c ∈ digits, c ≠ '_' := by
    rintro c inside rfl
    cases all _ inside
  have head : digits.head? ≠ some '_' := fun first =>
    plain _ (List.mem_of_head? first) rfl
  have same : digits.filter (· ≠ '_') = digits :=
    List.filter_eq_self.mpr fun c inside => by simpa using plain c inside
  have fold : ∀ (digits : List Char) (value : ℕ), (∀ c ∈ digits, isDigit c) →
      digits.foldlM (fun value c => do
        let digit ← hexValue? c
        if digit < 10 then return 10 * value + digit else none) value =
      some (digits.foldl (fun value c => 10 * value + (c.toNat - '0'.toNat)) value) := by
    intro digits
    induction digits with
    | nil => exact fun _ _ => rfl
    | cons c digits ih =>
        intro value all
        obtain ⟨digit, small⟩ := hexValue?_of_isDigit (all c List.mem_cons_self)
        rw [List.foldlM_cons, digit]
        simp only [Option.bind_eq_bind, Option.bind_some, if_pos small, Option.pure_def]
        exact ih _ fun c inside => all c (List.mem_cons_of_mem _ inside)
  rw [digitsIn?, if_neg (by simp [nonempty, head]), same]
  exact fold digits 0 all

theorem natural?_digits {digits : List Char} (all : ∀ c ∈ digits, isDigit c) (nonempty : digits ≠ []) :
    natural? digits = some (digitsValue digits) := by
  unfold natural?
  -- The mark of another base is none of the digits.
  split
  · cases all 'b' (by simp)
  · cases all 'o' (by simp)
  · cases all 'x' (by simp)
  · exact digitsIn?_digits all nonempty

theorem integerOf?_integerChars {type : IntegerType} {i : ℤ} (inside : type.contains i = true) :
    integerOf? type (integerChars i) = some i := by
  have digits : ∀ c ∈ Nat.toDigits 10 i.natAbs, isDigit c := fun c inside => isDigit_of_mem_toDigits inside
  have letters : (Nat.toDigits 10 i.natAbs).dropWhile isIntegerChar = [] := by
    rw [List.dropWhile_eq_nil_iff]
    intro c inside
    simp [isIntegerChar, hexValue?, digits c inside]
  have unnamed : IntegerType.ofName? (String.ofList []) = none := by decide
  have value : (if decide (i < 0) then -(i.natAbs : ℤ) else i.natAbs) = i := by
    simp only [decide_eq_true_eq]
    omega
  simp only [integerOf?, integer?, integerChars_eq, signed_withSign _ digits, letters, unnamed,
    Option.isSome_none, Bool.false_eq_true, if_false, natural?_digits digits Nat.toDigits_ne_nil,
    digitsValue_toDigits, Option.map_some, value, Option.bind_eq_bind, Option.bind_some,
    Option.getD_none, inside, and_self, if_true, Option.pure_def]

end Ron

end ShadingGraph
