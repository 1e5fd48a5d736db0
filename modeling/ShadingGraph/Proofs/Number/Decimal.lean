import Mathlib.Data.List.TakeWhile
import ShadingGraph.Number.Layout
import ShadingGraph.Proofs.Scan
import ShadingGraph.Proofs.Number.Shortest

/-! # Decimals as text

Digits with a point among them are read as the decimal that they were laid out from, up
to zeros at the end. When a number attracts the decimal, it is what the decimal is
rounded to.
-/

namespace ShadingGraph

theorem isDigit_of_mem_toDigits {n : ℕ} {c : Char} (inside : c ∈ Nat.toDigits 10 n) :
    isDigit c = true := by
  have digit := Nat.isDigit_of_mem_toDigits (by omega) (by omega) inside
  simp only [Char.isDigit, Bool.and_eq_true, decide_eq_true_eq] at digit
  simpa only [isDigit, Bool.and_eq_true, decide_eq_true_eq, Char.le_def] using digit

theorem digitsValue_eq (cs : List Char) : digitsValue cs = Nat.ofDigitChars 10 cs 0 :=
  Nat.ofDigitChars_eq_foldl.symm

theorem digitsValue_append (cs ds : List Char) :
    digitsValue (cs ++ ds) = 10 ^ ds.length * digitsValue cs + digitsValue ds := by
  rw [digitsValue_eq, Nat.ofDigitChars_append, Nat.ofDigitChars_eq_ofDigitChars_zero,
    ← digitsValue_eq, ← digitsValue_eq]

theorem digitsValue_replicate_zero (n : ℕ) : digitsValue (List.replicate n '0') = 0 := by
  rw [digitsValue_eq, Nat.ofDigitChars_replicate_zero, mul_zero]

theorem digitsValue_toDigits (n : ℕ) : digitsValue (Nat.toDigits 10 n) = n := by
  rw [digitsValue_eq, Nat.ofDigitChars_ten_toDigits]

theorem head?_toDigits {n : ℕ} (pos : 0 < n) : (Nat.toDigits 10 n).head? ≠ some '0' := by
  induction n using Nat.strong_induction_on with
  | _ n ih =>
      rw [Nat.toDigits_eq_if (by omega)]
      split_ifs with single
      · simp only [List.head?_cons, ne_eq, Option.some.injEq, Nat.digitChar_eq_zero]
        omega
      · rw [List.head?_append_of_ne_nil _ Nat.toDigits_ne_nil]
        exact ih _ (by omega) (by omega)

def withSign (negative : Bool) (magnitude : List Char) : List Char :=
  if negative then '-' :: magnitude else magnitude

theorem integerChars_eq (i : ℤ) : integerChars i = withSign (i < 0) (Nat.toDigits 10 i.natAbs) := by
  simp [integerChars, withSign]

/-- Digits around a point. -/
structure PositionalParts (digits : List Char) (exponent : ℤ) (whole fraction : List Char) : Prop where
  text : FloatLayout.positionalChars digits exponent = whole ++ '.' :: fraction
  digits_whole : ∀ c ∈ whole, isDigit c
  digits_fraction : ∀ c ∈ fraction, isDigit c
  nonempty : whole ≠ []
  length : fraction.length = max 1 (-exponent).toNat
  value : digitsValue (whole ++ fraction) = digitsValue digits * 10 ^ (exponent + fraction.length).toNat
  noZero : digits.head? ≠ some '0' → whole = ['0'] ∨ whole.head? ≠ some '0'

theorem positionalParts_of_nonneg {digits : List Char} {exponent : ℤ}
    (all : ∀ c ∈ digits, isDigit c) (nonempty : digits ≠ []) (nonneg : 0 ≤ exponent) :
    PositionalParts digits exponent (digits ++ List.replicate exponent.toNat '0') ['0'] where
  text := by simp [FloatLayout.positionalChars, nonneg]
  digits_whole := by
    intro c inside
    rcases List.mem_append.mp inside with inside | inside
    · exact all c inside
    · rw [List.eq_of_mem_replicate inside]
      decide
  digits_fraction := by simp [isDigit]
  nonempty := by simp [nonempty]
  length := by
    rw [List.length_singleton]
    omega
  value := by
    rw [digitsValue_append, digitsValue_append, digitsValue_replicate_zero, List.length_replicate,
      List.length_singleton, add_zero, show digitsValue ['0'] = 0 by decide]
    rw [show (exponent + (1 : ℕ)).toNat = exponent.toNat + 1 by omega, pow_succ]
    ring
  noZero := by
    intro noZero
    right
    rwa [List.head?_append_of_ne_nil _ nonempty]

theorem positionalParts_inside {digits : List Char} {exponent : ℤ}
    (all : ∀ c ∈ digits, isDigit c) (negative : exponent < 0)
    (leading : 0 ≤ exponent + digits.length - 1) :
    PositionalParts digits exponent (digits.take ((exponent + digits.length - 1).toNat + 1))
      (digits.drop ((exponent + digits.length - 1).toNat + 1)) where
  text := by
    unfold FloatLayout.positionalChars
    dsimp only
    rw [if_neg (not_le.mpr negative), if_pos leading]
  digits_whole := fun c inside => all c (List.mem_of_mem_take inside)
  digits_fraction := fun c inside => all c (List.mem_of_mem_drop inside)
  nonempty := by
    rw [← List.length_pos_iff, List.length_take]
    omega
  length := by
    rw [List.length_drop]
    omega
  value := by
    rw [List.take_append_drop, List.length_drop]
    rw [show (exponent + (digits.length - ((exponent + digits.length - 1).toNat + 1) : ℕ)).toNat = 0
      by omega, pow_zero, mul_one]
  noZero := by
    intro noZero
    right
    cases digits with
    | nil => simp
    | cons c digits => simpa using noZero

theorem positionalParts_below {digits : List Char} {exponent : ℤ}
    (all : ∀ c ∈ digits, isDigit c) (negative : exponent < 0)
    (leading : exponent + digits.length - 1 < 0) :
    PositionalParts digits exponent ['0']
      (List.replicate (-(exponent + digits.length - 1) - 1).toNat '0' ++ digits) where
  text := by
    unfold FloatLayout.positionalChars
    dsimp only
    rw [if_neg (not_le.mpr negative), if_neg (not_le.mpr leading)]
    rfl
  digits_whole := by simp [isDigit]
  digits_fraction := by
    intro c inside
    rcases List.mem_append.mp inside with inside | inside
    · rw [List.eq_of_mem_replicate inside]
      decide
    · exact all c inside
  nonempty := by simp
  length := by
    rw [List.length_append, List.length_replicate]
    omega
  value := by
    rw [List.length_append, List.length_replicate, digitsValue_append, digitsValue_append,
      digitsValue_replicate_zero, show digitsValue ['0'] = 0 by decide]
    rw [show (exponent + ((-(exponent + digits.length - 1) - 1).toNat + digits.length : ℕ)).toNat = 0
      by omega]
    ring
  noZero := fun _ => .inl rfl

theorem exists_positionalParts (digits : List Char) (all : ∀ c ∈ digits, isDigit c)
    (nonempty : digits ≠ []) (exponent : ℤ) :
    ∃ whole fraction, PositionalParts digits exponent whole fraction := by
  rcases le_or_gt 0 exponent with nonneg | negative
  · exact ⟨_, _, positionalParts_of_nonneg all nonempty nonneg⟩
  · rcases le_or_gt 0 (exponent + digits.length - 1) with leading | below
    · exact ⟨_, _, positionalParts_inside all negative leading⟩
    · exact ⟨_, _, positionalParts_below all negative below⟩

namespace PositionalParts

variable {digits whole fraction : List Char} {exponent : ℤ}

theorem value_eq (parts : PositionalParts digits exponent whole fraction) :
    (digitsValue (whole ++ fraction) : ℚ) * 10 ^ (-(fraction.length : ℤ)) =
      digitsValue digits * 10 ^ exponent := by
  have nonneg : 0 ≤ exponent + fraction.length := by
    have := parts.length
    omega
  rw [parts.value]
  push_cast
  rw [← zpow_natCast, Int.toNat_of_nonneg nonneg, mul_assoc, ← zpow_add₀ (by norm_num)]
  congr 2
  ring

end PositionalParts

namespace Decimal

theorem unsigned?_point (negative : Bool) {whole fraction : List Char}
    (digits : ∀ c ∈ whole, isDigit c) (digits' : ∀ c ∈ fraction, isDigit c) (nonempty : whole ≠ []) :
    unsigned? negative (whole ++ '.' :: fraction) =
      some ⟨negative, digitsValue (whole ++ fraction), -fraction.length⟩ := by
  have point : ∀ c ∈ ('.' :: fraction).head?, isDigit c = false := by simp [isDigit]
  have rest : fraction.takeWhile isDigit = fraction ∧ fraction.dropWhile isDigit = [] :=
    ⟨List.takeWhile_eq_self_iff.mpr digits', List.dropWhile_eq_nil_iff.mpr digits'⟩
  unfold unsigned?
  simp only [takeWhile_run digits point, dropWhile_run digits point, rest]
  rw [if_neg (by simp [nonempty])]
  simp [exponentOf?]

theorem magnitude_spec (x : Decimal) (nonzero : x.digits ≠ 0) :
    (10 : ℚ) ^ (x.magnitude - 1) ≤ x.digits * 10 ^ x.exponent ∧
      (x.digits * 10 ^ x.exponent : ℚ) < 10 ^ x.magnitude := by
  have low := pow_digitCount_le (Nat.pos_of_ne_zero nonzero)
  have high := lt_pow_digitCount x.digits
  have nonempty : 0 < digitCount x.digits := Nat.length_toDigits_pos
  have lowQ : (10 : ℚ) ^ ((digitCount x.digits : ℤ) - 1) ≤ x.digits := by
    rw [show (digitCount x.digits : ℤ) - 1 = (digitCount x.digits - 1 : ℕ) by omega, zpow_natCast]
    exact_mod_cast low
  have highQ : (x.digits : ℚ) < 10 ^ (digitCount x.digits : ℤ) := by
    rw [zpow_natCast]
    exact_mod_cast high
  have unit := ten_zpow_pos x.exponent
  constructor
  · rw [magnitude, show x.exponent + digitCount x.digits - 1 =
      (digitCount x.digits - 1) + x.exponent by ring, zpow_add₀ (by norm_num)]
    exact mul_le_mul_of_nonneg_right lowQ unit.le
  · rw [magnitude, add_comm x.exponent, zpow_add₀ (by norm_num)]
    exact mul_lt_mul_of_pos_right highQ unit

theorem numerator_div_denominator (x : Decimal) :
    (x.numerator : ℚ) / x.denominator = x.digits * 10 ^ x.exponent := by
  rw [numerator, denominator, ← pow_toNat_div_pow_toNat]
  push_cast [Nat.pow_eq]
  rw [mul_div_assoc]

/-- A decimal that a number attracts is rounded to it, within the bounds too. -/
theorem toBinary32_of_attracts {x : Decimal} {exponent : Fin 255} {fraction : Fin 8388608}
    (nonzero : ¬(exponent.val = 0 ∧ fraction.val = 0))
    (attracts : (Binary32.dyadic exponent fraction).Attracts (fraction.val == 0 && 1 < exponent.val)
      (x.digits * 10 ^ x.exponent)) :
    x.toBinary32 = .finite x.negative exponent fraction := by
  have positive := attracts.pos (Binary32.significand_dyadic_ne_zero nonzero)
  have nonzero' : x.digits ≠ 0 := by
    intro zero
    simp [zero] at positive
  obtain ⟨low, high⟩ := x.magnitude_spec nonzero'
  obtain ⟨above, below⟩ := Binary32.bounds_of_attracts nonzero attracts
  have large : -50 ≤ x.magnitude := by
    by_contra less
    have : (10 : ℚ) ^ x.magnitude ≤ 10 ^ (-51 : ℤ) := zpow_le_zpow_right₀ (by norm_num) (by omega)
    have : (10 : ℚ) ^ (-51 : ℤ) < 2 ^ (-151 : ℤ) := by norm_num
    linarith
  have small : x.magnitude ≤ 50 := by
    by_contra more
    have : (10 : ℚ) ^ (50 : ℤ) ≤ 10 ^ (x.magnitude - 1) :=
      zpow_le_zpow_right₀ (by norm_num) (by omega)
    have : (2 : ℚ) ^ (128 : ℤ) < 10 ^ (50 : ℤ) := by norm_num
    linarith
  unfold toBinary32
  rw [if_neg (by omega), if_neg (by omega)]
  refine Binary32.ofRatio_of_attracts x.negative ?_ ?_ nonzero ?_
  · exact Nat.mul_pos (Nat.pos_of_ne_zero nonzero') (Nat.pow_pos (by omega))
  · exact Nat.pow_pos (by omega)
  · rw [numerator_div_denominator]
    exact attracts

end Decimal

end ShadingGraph
