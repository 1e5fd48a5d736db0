import ShadingGraph.Proofs.Number.Shortest

/-! # Integers in single precision

Single precision holds an integer of at most 24 binary digits exactly, with any number of
zeros behind them, and rounds every other. What comes back from it is therefore always such an
integer, or the greatest one, at which numbers out of range end.
-/

namespace ShadingGraph

/-- A magnitude of at most 24 binary digits and zeros behind them. -/
def FitsSignificand (magnitude : ℕ) : Prop :=
  ∃ m e : ℕ, m < 2 ^ 24 ∧ magnitude = m * 2 ^ e

theorem fitsSignificand_of_lt {magnitude : ℕ} (short : magnitude < 2 ^ 24) : FitsSignificand magnitude :=
  ⟨magnitude, 0, short, by rw [pow_zero, mul_one]⟩

theorem Int32.toInt_ofInt_clamp (i : ℤ) :
    (Int32.ofInt (max (-2147483648) (min 2147483647 i))).toInt = max (-2147483648) (min 2147483647 i) :=
  Int32.toInt_ofInt_of_le (by omega) (by omega)

namespace Dyadic

theorem attracts_toRat (x : Dyadic) (narrow : Bool) : x.Attracts narrow x.toRat := by
  have own : x.toRat / 2 ^ x.scale = x.significand :=
    mul_div_cancel_right₀ _ (two_zpow_pos x.scale).ne'
  constructor
  · rw [own]
    split_ifs <;> linarith
  · rw [own]
    linarith
  · right
    rw [own]
    constructor
    · split_ifs <;> linarith
    · linarith

theorem numerator_div_denominator_of_toRat {x : Dyadic} {magnitude : ℕ} (value : x.toRat = magnitude) :
    x.numerator / x.denominator = magnitude := by
  have positive : (x.denominator : ℚ) ≠ 0 := by exact_mod_cast x.denominator_pos.ne'
  rw [← x.numerator_div_denominator, div_eq_iff positive] at value
  rw [show x.numerator = magnitude * x.denominator by exact_mod_cast value,
    Nat.mul_div_cancel _ x.denominator_pos]

end Dyadic

namespace Binary32

theorem exists_dyadic {m e : ℕ} (positive : 0 < m) (short : m < 2 ^ 24) (small : m * 2 ^ e < 2 ^ 32) :
    ∃ (exponent : Fin 255) (fraction : Fin 8388608), exponent.val ≠ 0 ∧
      (dyadic exponent fraction).toRat = (m * 2 ^ e : ℕ) := by
  obtain ⟨j, least, most⟩ : ∃ j, 2 ^ j ≤ m ∧ m < 2 ^ (j + 1) :=
    ⟨m.log2, Nat.log2_self_le positive.ne', Nat.lt_log2_self⟩
  have digits : j < 24 := (Nat.pow_lt_pow_iff_right one_lt_two).mp (least.trans_lt short)
  have scaled : j + e < 32 := by
    apply (Nat.pow_lt_pow_iff_right one_lt_two).mp
    calc 2 ^ (j + e) = 2 ^ j * 2 ^ e := pow_add 2 j e
      _ ≤ m * 2 ^ e := Nat.mul_le_mul_right _ least
      _ < 2 ^ 32 := small
  -- The digits are moved up until the first of them has the place of the implicit one.
  have lower : 2 ^ 23 ≤ m * 2 ^ (23 - j) := by
    calc 2 ^ 23 = 2 ^ j * 2 ^ (23 - j) := by rw [← pow_add]; congr 1; omega
      _ ≤ m * 2 ^ (23 - j) := Nat.mul_le_mul_right _ least
  have upper : m * 2 ^ (23 - j) < 2 ^ 24 := by
    calc m * 2 ^ (23 - j) < 2 ^ (j + 1) * 2 ^ (23 - j) :=
          Nat.mul_lt_mul_of_pos_right most (Nat.two_pow_pos _)
      _ = 2 ^ 24 := by rw [← pow_add]; congr 1; omega
  have exponentZero : j + e + 127 ≠ 0 := by omega
  refine ⟨⟨j + e + 127, by omega⟩, ⟨m * 2 ^ (23 - j) - 8388608, by omega⟩, exponentZero, ?_⟩
  have significand : 8388608 + (m * 2 ^ (23 - j) - 8388608) = m * 2 ^ (23 - j) := by omega
  have scale : ((j + e + 127 : ℕ) : ℤ) - 150 = e - (23 - j : ℕ) := by omega
  rw [dyadic, if_neg exponentZero, Dyadic.toRat]
  dsimp only
  rw [significand, scale, zpow_sub₀ two_ne_zero, zpow_natCast, zpow_natCast]
  push_cast
  field_simp

theorem toInt32_finite {negative : Bool} {exponent : Fin 255} {fraction : Fin 8388608} {magnitude : ℕ}
    (value : (dyadic exponent fraction).toRat = magnitude) :
    (finite negative exponent fraction).toInt32 =
      Int32.ofInt (max (-2147483648) (min 2147483647 (if negative then -magnitude else magnitude))) := by
  rw [toInt32, Dyadic.numerator_div_denominator_of_toRat value]

theorem toInt32_ofInt_of_fits {n : Int32} (fits : FitsSignificand n.toInt.natAbs) :
    (ofInt n.toInt).toInt32 = n := by
  obtain ⟨m, e, short, value⟩ := fits
  have least := n.le_toInt
  have most := n.toInt_lt
  by_cases zero : m = 0
  · have none : n = 0 := by
      apply Int32.toInt_inj.mp
      rw [zero, zero_mul, Int.natAbs_eq_zero] at value
      exact value
    rw [none]
    decide
  · obtain ⟨exponent, fraction, normal, whole⟩ :=
      exists_dyadic (Nat.pos_of_ne_zero zero) short (e := e) (by omega)
    rw [← value] at whole
    have positive : 0 < n.toInt.natAbs := by
      rw [value]
      exact Nat.mul_pos (Nat.pos_of_ne_zero zero) (Nat.two_pow_pos e)
    have attracts := (dyadic exponent fraction).attracts_toRat (fraction.val == 0 && 1 < exponent.val)
    rw [whole, ← div_one (n.toInt.natAbs : ℚ), ← Nat.cast_one] at attracts
    rw [ofInt, ofRatio_of_attracts _ positive one_pos (fun both => normal both.1) attracts,
      toInt32_finite whole]
    have clamped : max (-2147483648) (min 2147483647
        (if decide (n.toInt < 0) then -(n.toInt.natAbs : ℤ) else n.toInt.natAbs)) = n.toInt := by
      simp only [decide_eq_true_eq]
      omega
    rw [clamped, Int32.ofInt_toInt]

/-- The integer part of a finite number has few digits: either the number is an integer, or it
is smaller than its significand. -/
theorem fitsSignificand_whole (exponent : Fin 255) (fraction : Fin 8388608) :
    FitsSignificand ((dyadic exponent fraction).numerator / (dyadic exponent fraction).denominator) := by
  have short := (canonical_dyadic exponent fraction).significand_lt
  generalize dyadic exponent fraction = x at short
  rw [Dyadic.numerator, Dyadic.denominator]
  rcases le_total 0 x.scale with whole | part
  · refine ⟨x.significand, x.scale.toNat, short, ?_⟩
    rw [show (-x.scale).toNat = 0 by omega]
    exact Nat.div_one _
  · apply fitsSignificand_of_lt
    rw [show x.scale.toNat = 0 by omega]
    exact (Nat.div_le_self _ _).trans_lt (by rwa [Nat.pow_eq, pow_zero, mul_one])

theorem toInt32_eq_maxValue_or_fits (x : Binary32) :
    x.toInt32 = Int32.maxValue ∨ FitsSignificand x.toInt32.toInt.natAbs := by
  have power : FitsSignificand 2147483648 := ⟨1, 31, by norm_num, by norm_num⟩
  cases x with
  | nan negative =>
      have zero : FitsSignificand 0 := fitsSignificand_of_lt (by norm_num)
      exact .inr zero
  | infinity negative =>
      cases negative with
      | false => exact .inl rfl
      | true => exact .inr power
  | finite negative exponent fraction =>
      have fits := fitsSignificand_whole exponent fraction
      rw [toInt32]
      generalize (dyadic exponent fraction).numerator / (dyadic exponent fraction).denominator = whole
        at fits
      cases negative with
      | true =>
          right
          rw [Int32.toInt_ofInt_clamp, if_pos rfl]
          rcases le_total whole 2147483648 with inside | beyond
          · rwa [show (max (-2147483648) (min 2147483647 (-(whole : ℤ)))).natAbs = whole by omega]
          · rwa [show (max (-2147483648) (min 2147483647 (-(whole : ℤ)))).natAbs = 2147483648 by omega]
      | false =>
          rw [if_neg Bool.false_ne_true]
          rcases le_total whole 2147483647 with inside | beyond
          · right
            rw [Int32.toInt_ofInt_clamp]
            rwa [show (max (-2147483648) (min 2147483647 (whole : ℤ))).natAbs = whole by omega]
          · left
            rw [show max (-2147483648) (min 2147483647 (whole : ℤ)) = 2147483647 by omega]
            rfl

/-- The integers that single precision gives back are those that it holds exactly, and the
greatest one, which is rounded up and brought back into range. -/
theorem toInt32_ofInt_iff (n : Int32) : (ofInt n.toInt).toInt32 = n ↔
    n = Int32.maxValue ∨ FitsSignificand n.toInt.natAbs := by
  constructor
  · intro back
    have read := toInt32_eq_maxValue_or_fits (ofInt n.toInt)
    rwa [back] at read
  · rintro (rfl | fits)
    · decide +kernel
    · exact toInt32_ofInt_of_fits fits

end Binary32

end ShadingGraph
