import ShadingGraph.Number.Scaling
import ShadingGraph.Proofs.Number.Rounding

/-! # Decimals in double precision

On the way to double precision the power of ten is rounded, and so is the product or the
quotient with it. Each of the two changes a number by `2 ^ (-53)` of it or less, and by
nothing at all if the number has no more digits than the format.
-/

namespace ShadingGraph

namespace BinaryFormat

variable {format : BinaryFormat} {n d : ℕ}

/-- Within the normal range the error of rounding is relative to the quotient. -/
theorem exists_round_near (pos : 0 < n) (pos' : 0 < d) (precise : 1 < format.precision)
    (scales : format.minScale < format.maxScale)
    (normal : 2 ^ (format.minScale + format.precision - 1) ≤ (n : ℚ) / d)
    (small : (n : ℚ) / d < 2 ^ (format.maxScale + format.precision - 1)) :
    ∃ y, format.round n d = some y ∧ |y.toRat - n / d| ≤ n / d / 2 ^ format.precision := by
  obtain ⟨y, significand, rounded, nearest, value⟩ := exists_round pos pos' precise scales small
  have positive : (0 : ℚ) < n / d := by positivity
  have unit := two_zpow_pos (format.scaleOf n d)
  have scale : format.scaleOf n d = Int.log 2 ((n : ℚ) / d) + 1 - format.precision := by
    have := le_log_of_le positive normal
    rw [scaleOf_eq format pos pos']
    omega
  have step : (2 : ℚ) ^ format.scaleOf n d / 2 ≤ n / d / 2 ^ format.precision := by
    have log := Int.zpow_log_le_self one_lt_two positive
    rw [scale, zpow_sub₀ two_ne_zero, zpow_add_one₀ two_ne_zero, zpow_natCast, mul_div_right_comm,
      mul_div_cancel_right₀ _ two_ne_zero]
    exact div_le_div_of_nonneg_right (by exact_mod_cast log) (by positivity)
  refine ⟨y, rounded, le_trans ?_ step⟩
  have error := mul_le_mul_of_nonneg_right nearest.error_le unit.le
  rw [← abs_of_pos unit, ← abs_mul, sub_mul, abs_of_pos unit, div_mul_cancel₀ _ unit.ne', ← value,
    abs_sub_comm] at error
  linarith

theorem exists_round_exact {m : ℕ} {e : ℤ} (pos : 0 < n) (pos' : 0 < d) (precise : 1 < format.precision)
    (scales : format.minScale < format.maxScale) (value : (n : ℚ) / d = m * 2 ^ e)
    (short : m < 2 ^ format.precision) (least : format.minScale ≤ e)
    (small : (n : ℚ) / d < 2 ^ (format.maxScale + format.precision - 1)) :
    ∃ y, format.round n d = some y ∧ y.toRat = n / d := by
  obtain ⟨y, significand, rounded, nearest, written⟩ := exists_round pos pos' precise scales small
  have positive : (0 : ℚ) < n / d := by positivity
  have below : (n : ℚ) / d < 2 ^ (format.precision + e) := by
    rw [value, zpow_add₀ two_ne_zero, zpow_natCast]
    exact mul_lt_mul_of_pos_right (by exact_mod_cast short) (two_zpow_pos e)
  have scale : format.scaleOf n d ≤ e := by
    have := log_le_of_lt (e := format.precision + e - 1) positive (by rwa [sub_add_cancel])
    rw [scaleOf_eq format pos pos']
    omega
  obtain ⟨j, rfl⟩ : ∃ j : ℕ, e = format.scaleOf n d + j := ⟨(e - format.scaleOf n d).toNat, by omega⟩
  have whole : (n : ℚ) / d / 2 ^ format.scaleOf n d = (m * 2 ^ j : ℕ) := by
    rw [value, zpow_add₀ two_ne_zero, div_eq_iff (two_zpow_pos _).ne', zpow_natCast]
    push_cast
    ring
  have same : significand = m * 2 ^ j := nearest.unique (.inl (by rw [whole]; norm_num))
  refine ⟨y, rounded, ?_⟩
  rw [written, same, ← whole, div_mul_cancel₀ _ (two_zpow_pos _).ne']

end BinaryFormat

/-- Greatest relative error of a rounding to double precision. -/
def roundoff : ℚ := 1 / 2 ^ 53

theorem roundoff_nonneg : 0 ≤ roundoff := by norm_num [roundoff]

theorem roundoff_le : roundoff ≤ 1 / 4 := by norm_num [roundoff]

namespace Dyadic

/-- Numbers far from both ends of the range of double precision. -/
def Moderate (v : ℚ) : Prop :=
  2 ^ (-255 : ℤ) ≤ v ∧ v < 2 ^ (255 : ℤ)

/-- What is left of a number after rounding to double precision. -/
structure Approximates (y : Dyadic) (v : ℚ) : Prop where
  near : |y.toRat - v| ≤ v * roundoff
  exact : ∀ (m : ℕ) (e : ℤ), v = m * 2 ^ e → m < 2 ^ 53 → -1074 ≤ e → y.toRat = v

theorem exists_approximates {n d : ℕ} {v : ℚ} (pos : 0 < n) (pos' : 0 < d) (value : (n : ℚ) / d = v)
    (moderate : Moderate v) : ∃ y, BinaryFormat.binary64.round n d = some y ∧ y.Approximates v := by
  subst value
  have normal : (2 : ℚ) ^ (BinaryFormat.binary64.minScale + BinaryFormat.binary64.precision - 1) ≤ n / d :=
    (zpow_le_zpow_right₀ one_le_two (by decide)).trans moderate.1
  have small : (n : ℚ) / d < 2 ^ (BinaryFormat.binary64.maxScale + BinaryFormat.binary64.precision - 1) :=
    moderate.2.trans_le (zpow_le_zpow_right₀ one_le_two (by decide))
  obtain ⟨y, rounded, near⟩ :=
    BinaryFormat.exists_round_near pos pos' (by decide) (by decide) normal small
  refine ⟨y, rounded, by rwa [roundoff, mul_one_div], fun m e value short least => ?_⟩
  obtain ⟨z, rounded', exact⟩ :=
    BinaryFormat.exists_round_exact pos pos' (by decide) (by decide) value short least small
  rw [rounded, Option.some.injEq] at rounded'
  rw [rounded', exact]

theorem numerator_pos {x : Dyadic} (positive : 0 < x.toRat) : 0 < x.numerator := by
  refine Nat.pos_of_ne_zero fun zero => ?_
  rw [← x.numerator_div_denominator, zero] at positive
  simp at positive

variable {x y : Dyadic} (positive : 0 < x.toRat) (positive' : 0 < y.toRat)
include positive positive'

theorem exists_mulDouble? (moderate : Moderate (x.toRat * y.toRat)) :
    ∃ z, x.mulDouble? y = some z ∧ z.Approximates (x.toRat * y.toRat) := by
  refine exists_approximates (Nat.mul_pos (numerator_pos positive) (numerator_pos positive'))
    (Nat.mul_pos x.denominator_pos y.denominator_pos) ?_ moderate
  push_cast
  rw [mul_div_mul_comm, numerator_div_denominator, numerator_div_denominator]

theorem exists_divDouble? (moderate : Moderate (x.toRat / y.toRat)) :
    ∃ z, x.divDouble? y = some z ∧ z.Approximates (x.toRat / y.toRat) := by
  refine exists_approximates (Nat.mul_pos (numerator_pos positive) y.denominator_pos)
    (Nat.mul_pos x.denominator_pos (numerator_pos positive')) ?_ moderate
  push_cast
  rw [← x.numerator_div_denominator, ← y.numerator_div_denominator, div_div_div_eq]

end Dyadic

namespace Decimal

/-- What double precision makes of a decimal with a short significand. -/
structure BecomesDouble (x : Decimal) (y : Dyadic) : Prop where
  near : |y.toRat - x.digits * 10 ^ x.exponent| ≤ 3 * (x.digits * 10 ^ x.exponent) * roundoff
  exact : x.exponent.natAbs ≤ 22 → ∀ (m : ℕ) (e : ℤ), x.digits * 10 ^ x.exponent = (m : ℚ) * 2 ^ e →
    m < 2 ^ 53 → -1074 ≤ e → y.toRat = x.digits * 10 ^ x.exponent

/-- Greatest power of ten that is looked at here. -/
def moderatePower : ℕ := 60

theorem exists_powerOfTen? {k : ℕ} (usual : k ≤ moderatePower) :
    ∃ p, powerOfTen? k = some p ∧ |p.toRat - 10 ^ k| ≤ 10 ^ k * roundoff ∧ (k ≤ 22 → p.toRat = 10 ^ k) := by
  have one_le : (1 : ℚ) ≤ 10 ^ k := one_le_pow₀ (by norm_num)
  have below : (10 : ℚ) ^ k ≤ 10 ^ moderatePower := pow_le_pow_right₀ (by norm_num) usual
  have moderate : Dyadic.Moderate (10 ^ k) :=
    ⟨le_trans (by norm_num) one_le, below.trans_lt (by norm_num [moderatePower])⟩
  obtain ⟨p, rounded, near⟩ := Dyadic.exists_approximates (n := Nat.pow 10 k) (d := 1)
    (Nat.pow_pos (by omega)) one_pos (by push_cast [Nat.pow_eq]; ring) moderate
  refine ⟨p, rounded, near.near, fun few => near.exact (5 ^ k) k ?_ ?_ (by omega)⟩
  · rw [zpow_natCast]
    push_cast
    rw [← mul_pow]
    norm_num
  · exact (Nat.pow_le_pow_right (by omega) few).trans_lt (by norm_num)

theorem toDouble?_eq (x : Decimal) (within : x.exponent.natAbs ≤ maxPower) :
    x.toDouble? = (BinaryFormat.binary64.round x.digits 1).bind fun significand =>
      (powerOfTen? x.exponent.natAbs).bind fun power =>
        if 0 ≤ x.exponent then significand.mulDouble? power else significand.divDouble? power := by
  unfold toDouble? scaleDouble?
  simp only [if_pos within]
  rfl

section

variable {a P p y : ℚ} (pos : 0 < a) (pos' : 0 < P) (near : |p - P| ≤ P * roundoff)
include pos pos' near

/-- The error of the rounded power of ten and that of the product with it. -/
theorem abs_sub_mul_le (near' : |y - a * p| ≤ a * p * roundoff) :
    |y - a * P| ≤ 3 * (a * P) * roundoff := by
  have carried : |a * p - a * P| ≤ a * P * roundoff := by
    rw [← mul_sub, abs_mul, abs_of_pos pos, mul_assoc]
    exact mul_le_mul_of_nonneg_left near pos.le
  have bounded : p ≤ 2 * P := by
    have := (abs_le.mp near).2
    have := mul_le_mul_of_nonneg_left roundoff_le pos'.le
    linarith
  calc |y - a * P| ≤ |y - a * p| + |a * p - a * P| := abs_sub_le _ _ _
    _ ≤ a * p * roundoff + a * P * roundoff := add_le_add near' carried
    _ ≤ a * (2 * P) * roundoff + a * P * roundoff := by
        have := roundoff_nonneg
        gcongr
    _ = 3 * (a * P) * roundoff := by ring

theorem abs_sub_div_le (near' : |y - a / p| ≤ a / p * roundoff) :
    |y - a / P| ≤ 3 * (a / P) * roundoff := by
  have bounded : 2 / 3 * P ≤ p := by
    have := (abs_le.mp near).1
    have := mul_le_mul_of_nonneg_left roundoff_le pos'.le
    linarith
  have positive : 0 < p := lt_of_lt_of_le (by linarith) bounded
  have larger : a / p ≤ 3 / 2 * (a / P) := by
    rw [← mul_div_assoc, div_le_div_iff₀ positive pos']
    have := mul_le_mul_of_nonneg_left bounded pos.le
    linarith
  have carried : |a / p - a / P| ≤ a / p * roundoff := by
    rw [div_sub_div _ _ positive.ne' pos'.ne', mul_comm p a, ← mul_sub, abs_div, abs_mul, abs_of_pos pos,
      abs_of_pos (mul_pos positive pos'), abs_sub_comm, div_mul_eq_mul_div,
      div_le_div_iff₀ (mul_pos positive pos') positive]
    have := mul_le_mul_of_nonneg_left near (mul_pos pos positive).le
    linarith
  calc |y - a / P| ≤ |y - a / p| + |a / p - a / P| := abs_sub_le _ _ _
    _ ≤ a / p * roundoff + a / p * roundoff := add_le_add near' carried
    _ ≤ 3 / 2 * (a / P) * roundoff + 3 / 2 * (a / P) * roundoff := by
        have := roundoff_nonneg
        gcongr
    _ = 3 * (a / P) * roundoff := by ring

end

theorem exists_toDouble? {x : Decimal} (positive : 0 < x.digits) (short : x.digits < 2 ^ 53)
    (usual : x.exponent.natAbs ≤ moderatePower) : ∃ y, x.toDouble? = some y ∧ x.BecomesDouble y := by
  obtain ⟨p, power, near, exact⟩ := exists_powerOfTen? usual
  have one_le : (1 : ℚ) ≤ x.digits := by exact_mod_cast positive
  have below : (x.digits : ℚ) < 2 ^ 53 := by exact_mod_cast short
  obtain ⟨s, significand, approximates⟩ := Dyadic.exists_approximates (n := x.digits) (d := 1)
    positive one_pos (by rw [Nat.cast_one, div_one])
    (v := x.digits) ⟨le_trans (by norm_num) one_le, below.trans (by norm_num)⟩
  have whole : s.toRat = x.digits := approximates.exact x.digits 0 (by simp) short (by omega)
  have least : (1 : ℚ) ≤ 10 ^ x.exponent.natAbs := one_le_pow₀ (by norm_num)
  have greatest : (10 : ℚ) ^ x.exponent.natAbs ≤ 2 ^ 200 :=
    (pow_le_pow_right₀ (by norm_num) usual).trans (by norm_num [moderatePower])
  have error := mul_le_mul_of_nonneg_left roundoff_le (zero_le_one.trans least)
  have lower : 1 / 2 ≤ p.toRat := by
    have := (abs_le.mp near).1
    linarith
  have upper : p.toRat ≤ 2 ^ 201 := by
    have := (abs_le.mp near).2
    norm_num at greatest ⊢
    linarith
  have positive' : 0 < s.toRat := by linarith
  rw [toDouble?_eq x (usual.trans (by decide)), significand, power, Option.bind_some, Option.bind_some]
  rcases le_or_gt 0 x.exponent with nonneg | negative
  · have value : (x.digits : ℚ) * 10 ^ x.exponent = x.digits * 10 ^ x.exponent.natAbs := by
      rw [← zpow_natCast, Int.natAbs_of_nonneg nonneg]
    have moderate : Dyadic.Moderate (s.toRat * p.toRat) := by
      rw [whole]
      constructor
      · exact le_trans (by norm_num) (mul_le_mul one_le lower (by norm_num) (by linarith))
      · exact (mul_lt_mul below upper (by linarith) (by norm_num)).trans (by norm_num)
    obtain ⟨y, product, rounded⟩ := Dyadic.exists_mulDouble? positive' (by linarith) moderate
    rw [whole] at rounded
    rw [if_pos nonneg]
    refine ⟨y, product, ?_, fun few => ?_⟩
    · rw [value]
      exact abs_sub_mul_le (by linarith) (by linarith) near rounded.near
    · rw [value, ← exact few]
      exact rounded.exact
  · have value : (x.digits : ℚ) * 10 ^ x.exponent = x.digits / 10 ^ x.exponent.natAbs := by
      rw [← zpow_natCast, Int.ofNat_natAbs_of_nonpos negative.le, zpow_neg, div_inv_eq_mul]
    have moderate : Dyadic.Moderate (s.toRat / p.toRat) := by
      rw [whole]
      constructor
      · exact le_trans (by norm_num) (div_le_div₀ (by linarith) one_le (by linarith) upper)
      · exact (div_lt_div₀ below lower (by norm_num) (by norm_num)).trans (by norm_num)
    obtain ⟨y, quotient, rounded⟩ := Dyadic.exists_divDouble? positive' (by linarith) moderate
    rw [whole] at rounded
    rw [if_neg (not_le.mpr negative)]
    refine ⟨y, quotient, ?_, fun few => ?_⟩
    · rw [value]
      exact abs_sub_div_le (by linarith) (by linarith) near rounded.near
    · rw [value, ← exact few]
      exact rounded.exact

end Decimal

end ShadingGraph
