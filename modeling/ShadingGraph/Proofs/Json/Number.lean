import ShadingGraph.Json.Parser
import ShadingGraph.Json.Writer
import ShadingGraph.Proofs.Number.Scaling

/-! # Numbers in JSON

A number that is written in JSON is read back as a numeral, whatever comes after it in an
object or an array. Numerals have a point or an exponent unless they stand for integers.
-/

namespace ShadingGraph

namespace Json

/-- Marks that come after a value. -/
def isEnd (c : Char) : Bool :=
  c == ',' || c == ']' || c == '\x7d'

theorem ne_of_isEnd {c : Char} (ends : isEnd c = true) :
    isDigit c = false ∧ isSpace c = false ∧ c ≠ '.' ∧ c ≠ 'e' ∧ c ≠ 'E' := by
  simp only [isEnd, Bool.or_eq_true, beq_iff_eq] at ends
  rcases ends with (rfl | rfl) | rfl <;> decide

section

variable {digits rest : List Char} (all : ∀ c ∈ digits, isDigit c) (nonempty : digits ≠ [])
  (stops : ∀ c ∈ rest.head?, isDigit c = false)
include all nonempty stops

theorem digits?_run : digits? (digits ++ rest) = some (digits, rest) := by
  unfold digits?
  simp only [takeWhile_run all stops, dropWhile_run all stops]
  rw [if_neg (by simp [nonempty])]

theorem wholePart?_run (noZero : digits = ['0'] ∨ digits.head? ≠ some '0') :
    wholePart? (digits ++ rest) = some (digits, rest) := by
  unfold wholePart?
  simp only [digits?_run all nonempty stops, Option.bind_eq_bind, Option.bind_some]
  rw [if_neg]
  · rfl
  · rintro ⟨zero, more⟩
    rcases noZero with rfl | other
    · simp at more
    · exact other zero

theorem fractionPart?_point : fractionPart? ('.' :: (digits ++ rest)) = some (digits, rest) :=
  digits?_run all nonempty stops

theorem exponentPart?_sign (negative : Bool) :
    exponentPart? ('e' :: (if negative then '-' else '+') :: (digits ++ rest)) =
      some (some (if negative then -(digitsValue digits : ℤ) else digitsValue digits), rest) := by
  cases negative <;> simp [exponentPart?, digits?_run all nonempty stops]

end

theorem fractionPart?_none {rest : List Char} (stops : rest.head? ≠ some '.') :
    fractionPart? rest = some ([], rest) := by
  unfold fractionPart?
  split
  · exact absurd rfl stops
  · rfl

theorem exponentPart?_none {rest : List Char} (ends : ∀ c ∈ rest.head?, isEnd c = true) :
    exponentPart? rest = some (none, rest) := by
  cases rest with
  | nil => rfl
  | cons c rest =>
      obtain ⟨-, -, -, lower, upper⟩ := ne_of_isEnd (ends c rfl)
      simp [exponentPart?, lower, upper]

theorem addDigits_eq {significand : ℕ} {digits : List Char}
    (small : 10 ^ digits.length * significand + digitsValue digits ≤ maxSignificand) :
    addDigits significand digits = (10 ^ digits.length * significand + digitsValue digits, 0) := by
  induction digits generalizing significand with
  | nil => simp [addDigits, digitsValue]
  | cons c digits ih =>
      have split : 10 ^ (c :: digits).length * significand + digitsValue (c :: digits) =
          10 ^ digits.length * (10 * significand + digitsValue [c]) + digitsValue digits := by
        rw [← List.singleton_append, digitsValue_append, List.singleton_append, List.length_cons, pow_succ]
        ring
      rw [split] at small ⊢
      have next : 10 * significand + digitsValue [c] ≤ maxSignificand :=
        le_trans (Nat.le_mul_of_pos_left _ (Nat.pow_pos (by omega))) (le_of_add_le_left small)
      rw [addDigits, if_pos next, ih small]

theorem numeral?_parts (negative : Bool) {whole fraction after after' rest : List Char}
    {exponent : Option ℤ} {significand dropped significand' dropped' : ℕ}
    (digits : ∀ c ∈ whole, isDigit c) (nonempty : whole ≠ [])
    (noZero : whole = ['0'] ∨ whole.head? ≠ some '0') (stops : ∀ c ∈ after.head?, isDigit c = false)
    (fractionPart : fractionPart? after = some (fraction, after'))
    (exponentPart : exponentPart? after' = some (exponent, rest))
    (added : addDigits 0 whole = (significand, dropped))
    (added' : addDigits significand fraction = (significand', dropped')) :
    numeral? (withSign negative (whole ++ after)) =
      some (⟨⟨negative, significand', exponent.getD 0 + dropped + dropped' - fraction.length⟩,
        decide (after.head? ≠ some '.') && exponent.isNone && dropped == 0⟩, rest) := by
  unfold numeral?
  split
  rename_i negative' text signed
  obtain ⟨rfl, rfl⟩ : negative = negative' ∧ whole ++ after = text := by
    cases negative with
    | true =>
        cases signed
        exact ⟨rfl, rfl⟩
    | false =>
        obtain ⟨c, whole, rfl⟩ := List.exists_cons_of_ne_nil nonempty
        have digit := digits c List.mem_cons_self
        rw [show withSign false (c :: whole ++ after) = c :: (whole ++ after) from rfl] at signed
        split at signed
        · rename_i same
          cases (List.cons.inj same).1
          cases digit
        · cases signed
          exact ⟨rfl, rfl⟩
  simp only [wholePart?_run digits nonempty stops noZero, fractionPart, exponentPart, added, added',
    Option.bind_eq_bind, Option.bind_some, Option.pure_def]

theorem numeral?_short (negative : Bool) {whole fraction after after' rest : List Char}
    {exponent : Option ℤ} (digits : ∀ c ∈ whole, isDigit c) (nonempty : whole ≠ [])
    (noZero : whole = ['0'] ∨ whole.head? ≠ some '0') (stops : ∀ c ∈ after.head?, isDigit c = false)
    (fractionPart : fractionPart? after = some (fraction, after'))
    (exponentPart : exponentPart? after' = some (exponent, rest))
    (real : after.head? = some '.' ∨ exponent.isSome)
    (small : digitsValue (whole ++ fraction) ≤ maxSignificand) :
    numeral? (withSign negative (whole ++ after)) =
      some (⟨⟨negative, digitsValue (whole ++ fraction), exponent.getD 0 - fraction.length⟩, false⟩, rest) := by
  rw [digitsValue_append] at small ⊢
  have added : addDigits 0 whole = (digitsValue whole, 0) := by
    have : digitsValue whole ≤ maxSignificand :=
      le_trans (Nat.le_mul_of_pos_left _ (Nat.pow_pos (by omega))) (le_of_add_le_left small)
    rw [addDigits_eq (by simpa using this)]
    simp
  rw [numeral?_parts negative digits nonempty noZero stops fractionPart exponentPart added
    (addDigits_eq small)]
  rcases real with point | exponential
  · simp [point]
  · simp [exponential]

theorem not_digit_of_ends {rest : List Char} (ends : ∀ c ∈ rest.head?, isEnd c = true) :
    ∀ c ∈ rest.head?, isDigit c = false :=
  fun c first => (ne_of_isEnd (ends c first)).1

theorem numeral?_point (negative : Bool) {whole part rest : List Char} (digits : ∀ c ∈ whole, isDigit c)
    (digits' : ∀ c ∈ part, isDigit c) (nonempty : whole ≠ []) (nonempty' : part ≠ [])
    (noZero : whole = ['0'] ∨ whole.head? ≠ some '0')
    (small : digitsValue (whole ++ part) ≤ maxSignificand) (ends : ∀ c ∈ rest.head?, isEnd c = true) :
    numeral? (withSign negative (whole ++ '.' :: part) ++ rest) =
      some (⟨⟨negative, digitsValue (whole ++ part), -part.length⟩, false⟩, rest) := by
  have read := numeral?_short negative digits nonempty noZero (by rintro c ⟨⟩; decide)
    (fractionPart?_point digits' nonempty' (not_digit_of_ends ends)) (exponentPart?_none ends) (.inl rfl)
    small
  have text : withSign negative (whole ++ '.' :: part) ++ rest =
      withSign negative (whole ++ '.' :: (part ++ rest)) := by
    cases negative <;> simp [withSign]
  rw [text, read]
  simp

theorem exponentPart?_leading (leading : ℤ) {rest : List Char} (ends : ∀ c ∈ rest.head?, isEnd c = true) :
    exponentPart? ('e' :: ((if leading < 0 then ['-'] else ['+']) ++ Nat.toDigits 10 leading.natAbs) ++
      rest) = some (some leading, rest) := by
  have read := exponentPart?_sign (fun c inside => isDigit_of_mem_toDigits inside)
    (Nat.toDigits_ne_nil (n := leading.natAbs)) (not_digit_of_ends ends) (leading < 0)
  have value : (if decide (leading < 0) then -(leading.natAbs : ℤ) else leading.natAbs) = leading := by
    simp only [decide_eq_true_eq]
    omega
  rw [digitsValue_toDigits, value] at read
  rw [← read]
  simp only [decide_eq_true_eq]
  split_ifs <;> simp

theorem numeral?_exponentChars (negative : Bool) {digits rest : List Char} (exponent : ℤ)
    (all : ∀ c ∈ digits, isDigit c) (nonempty : digits ≠ []) (noZero : digits.head? ≠ some '0')
    (small : digitsValue digits ≤ maxSignificand) (ends : ∀ c ∈ rest.head?, isEnd c = true) :
    numeral? (withSign negative (FloatLayout.exponentChars true digits exponent) ++ rest) =
      some (⟨⟨negative, digitsValue digits, exponent⟩, false⟩, rest) := by
  obtain ⟨c, digits, rfl⟩ := List.exists_cons_of_ne_nil nonempty
  have digit : ∀ d ∈ [c], isDigit d := by simpa using all c List.mem_cons_self
  have first : [c] = ['0'] ∨ [c].head? ≠ some '0' := .inr noZero
  have exponentPart := exponentPart?_leading (exponent + (c :: digits).length - 1) ends
  cases digits with
  | nil =>
      have read := numeral?_short negative digit (by simp) first (by rintro c ⟨⟩; decide)
        (fractionPart?_none (by simp)) exponentPart (.inr rfl) small
      convert read using 1
      · cases negative <;> simp [FloatLayout.exponentChars, withSign]
      · simp
  | cons d digits =>
      have read := numeral?_short negative digit (by simp) first (by rintro c ⟨⟩; decide)
        (fractionPart?_point (fun e inside => all e (List.mem_cons_of_mem _ inside)) (by simp)
          (by rintro c ⟨⟩; decide)) exponentPart (.inr rfl) small
      convert read using 1
      · cases negative <;> simp [FloatLayout.exponentChars, withSign]
      · simp
        omega

/-- A positional decimal stands for the decimal it was laid out from, or for a whole number
with a zero after the point. -/
theorem toBinary32ByDouble?_positional (negative : Bool) {exponent : Fin 255} {fraction : Fin 8388608}
    (nonzero : ¬(exponent.val = 0 ∧ fraction.val = 0)) {digits : ℕ} {power : ℤ}
    (shortest : Binary32.shortest .even exponent fraction = (digits, power)) {whole part : List Char}
    (parts : PositionalParts (Nat.toDigits 10 digits) power whole part)
    (inPlace : power + (Nat.toDigits 10 digits).length - 1 ≤ 12) :
    Decimal.toBinary32ByDouble? ⟨negative, digitsValue (whole ++ part), -part.length⟩ =
        some (.finite negative exponent fraction) ∧
      digitsValue (whole ++ part) ≤ maxSignificand := by
  have short := Binary32.shortDecimal_shortest .even nonzero
  have read := Decimal.toBinary32ByDouble?_shortest negative nonzero
  rw [shortest] at short read
  have size := lt_pow_digitCount digits
  have length := parts.length
  rw [parts.value, digitsValue_toDigits]
  rcases lt_or_ge power 0 with below | whole
  · have lt := short.lt
    rw [show (power + part.length).toNat = 0 by omega, show -(part.length : ℤ) = power by omega,
      pow_zero, mul_one]
    exact ⟨read, lt.le.trans (by decide)⟩
  · obtain ⟨n, rfl⟩ := Int.eq_ofNat_of_zero_le whole
    have small : 10 * (digits * 10 ^ n) < 10 ^ 14 := by
      have := Nat.pow_le_pow_right (n := 10) (by omega)
        (show digitCount digits + n ≤ 13 by rw [digitCount]; omega)
      have := Nat.mul_lt_mul_of_pos_right size (Nat.pow_pos (n := n) (show 0 < 10 by omega))
      rw [← pow_add] at this
      omega
    have value : digits * 10 ^ ((n : ℤ) + part.length).toNat = 10 * (digits * 10 ^ n) := by
      rw [show ((n : ℤ) + part.length).toNat = n + 1 by omega, pow_succ]
      ring
    rw [value, show -(part.length : ℤ) = -1 by omega]
    refine ⟨Decimal.toBinary32ByDouble?_whole negative (small.trans (by decide)) nonzero ?_,
      small.le.trans (by decide)⟩
    have attracts := short.attracts
    rw [zpow_natCast] at attracts
    exact_mod_cast attracts

/-- A finite number is read back from its numeral. -/
theorem exists_numeral (negative : Bool) (exponent : Fin 255) (fraction : Fin 8388608) :
    ∃ x : Decimal, x.toBinary32ByDouble? = some (.finite negative exponent fraction) ∧
      ∀ rest : List Char, (∀ c ∈ rest.head?, isEnd c = true) →
        numeral? (FloatLayout.json.chars (.finite negative exponent fraction) ++ rest) =
          some (⟨x, false⟩, rest) := by
  change ∃ x : Decimal, _ ∧ ∀ rest : List Char, _ →
    numeral? (withSign negative (FloatLayout.json.magnitudeChars exponent fraction) ++ rest) = _
  unfold FloatLayout.magnitudeChars
  by_cases zero : exponent.val = 0 ∧ fraction.val = 0
  · obtain rfl : exponent = 0 := Fin.ext zero.1
    obtain rfl : fraction = 0 := Fin.ext zero.2
    refine ⟨⟨negative, 0, -1⟩, ?_, fun rest ends => ?_⟩
    · cases negative <;> decide +kernel
    · rw [if_pos zero]
      have digits : ∀ c ∈ ['0'], isDigit c := by simp [isDigit]
      exact numeral?_point negative digits digits (by simp) (by simp) (.inl rfl) (by decide) ends
  rw [if_neg zero]
  have short := Binary32.shortDecimal_shortest .even zero
  have read := Decimal.toBinary32ByDouble?_shortest negative zero
  cases shortest : Binary32.shortest .even exponent fraction with
  | mk digits power =>
  rw [shortest] at short read
  have positive := (usualPower_of_shortDecimal zero short).1
  have all : ∀ c ∈ Nat.toDigits 10 digits, isDigit c := fun c inside => isDigit_of_mem_toDigits inside
  simp only [show FloatLayout.json.tie = Tie.even from rfl, shortest,
    show FloatLayout.json.positional = some (-6, 12) from rfl,
    show FloatLayout.json.exponentPlus = true from rfl, decide_eq_true_eq]
  split_ifs with inPlace
  · obtain ⟨whole, part, parts⟩ := exists_positionalParts _ all Nat.toDigits_ne_nil power
    obtain ⟨value, small⟩ := toBinary32ByDouble?_positional negative zero shortest parts inPlace.2
    have nonempty : part ≠ [] := by
      have := parts.length
      rintro rfl
      simp at this
      omega
    refine ⟨_, value, fun rest ends => ?_⟩
    rw [parts.text]
    exact numeral?_point negative parts.digits_whole parts.digits_fraction parts.nonempty nonempty
      (parts.noZero (head?_toDigits positive)) small ends
  · refine ⟨_, read, fun rest ends => ?_⟩
    have small : digitsValue (Nat.toDigits 10 digits) ≤ maxSignificand := by
      rw [digitsValue_toDigits]
      exact short.lt.le.trans (by decide)
    have found := numeral?_exponentChars negative power all Nat.toDigits_ne_nil (head?_toDigits positive)
      small ends
    rwa [digitsValue_toDigits] at found

/-- The numeral of an integer: digits that 64 bits do not hold are left out. -/
def integerNumeral (i : ℤ) : Numeral :=
  let (significand, dropped) := addDigits 0 (Nat.toDigits 10 i.natAbs)
  ⟨⟨i < 0, significand, dropped⟩, dropped == 0⟩

theorem integerNumeral_eq {i : ℤ} (small : i.natAbs ≤ maxSignificand) :
    integerNumeral i = ⟨⟨i < 0, i.natAbs, 0⟩, true⟩ := by
  have added : addDigits 0 (Nat.toDigits 10 i.natAbs) = (i.natAbs, 0) := by
    rw [addDigits_eq (by simpa [digitsValue_toDigits] using small)]
    simp [digitsValue_toDigits]
  rw [integerNumeral, added]
  rfl

theorem numeral?_integerChars (i : ℤ) {rest : List Char} (ends : ∀ c ∈ rest.head?, isEnd c = true) :
    numeral? (integerChars i ++ rest) = some (integerNumeral i, rest) := by
  have noZero : Nat.toDigits 10 i.natAbs = ['0'] ∨ (Nat.toDigits 10 i.natAbs).head? ≠ some '0' := by
    rcases Nat.eq_zero_or_pos i.natAbs with zero | pos
    · exact .inl (by rw [zero]; rfl)
    · exact .inr (head?_toDigits pos)
  have notPoint : rest.head? ≠ some '.' := fun point => (ne_of_isEnd (ends '.' point)).2.2.1 rfl
  rw [integerChars_eq, integerNumeral]
  cases added : addDigits 0 (Nat.toDigits 10 i.natAbs) with
  | mk significand dropped =>
  have read := numeral?_parts (decide (i < 0)) (fun c inside => isDigit_of_mem_toDigits inside)
    Nat.toDigits_ne_nil noZero (not_digit_of_ends ends) (fractionPart?_none notPoint)
    (exponentPart?_none ends) added (show addDigits significand [] = (significand, 0) from rfl)
  convert read using 1
  · cases decide (i < 0) <;> rfl
  · simp [notPoint]

end Json

end ShadingGraph
