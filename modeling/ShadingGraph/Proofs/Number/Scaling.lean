import ShadingGraph.Proofs.Number.Decimal
import ShadingGraph.Proofs.Number.Double
import ShadingGraph.Proofs.Number.Gap

/-! # Shortest decimals by way of double precision

The three roundings of the way through double precision move the shortest decimal of a
number, but not past the bounds of the interval of the number. Where the unit of the
decimal is small against that of the number, the decimal is far from the bounds. Where it
is large, the decimal is a small multiple of it and the bounds are integers in units of
half the last digit, so the decimal is a bound or well away from it.
-/

namespace ShadingGraph

/-- Whether two numbers compare to a third one in the same way. -/
structure SameSide (bound v w : ℚ) : Prop where
  above : bound < v → bound < w
  below : v < bound → w < bound
  equal : v = bound → w = bound

namespace SameSide

variable {bound v w : ℚ}

theorem le (same : SameSide bound v w) (above : bound ≤ v) : bound ≤ w := by
  rcases above.lt_or_eq with more | equal
  · exact (same.above more).le
  · exact (same.equal equal.symm).ge

theorem ge (same : SameSide bound v w) (below : v ≤ bound) : w ≤ bound := by
  rcases below.lt_or_eq with less | equal
  · exact (same.below less).le
  · exact (same.equal equal).le

theorem of_near {error : ℚ} (near : |w - v| ≤ error) (far : error < |v - bound|) :
    SameSide bound v w := by
  obtain ⟨lower, upper⟩ := abs_le.mp near
  have nonneg := (abs_nonneg _).trans near
  refine ⟨fun more => ?_, fun less => ?_, fun equal => ?_⟩
  · rw [abs_of_pos (by linarith)] at far
    linarith
  · rw [abs_of_neg (by linarith)] at far
    linarith
  · rw [equal, sub_self, abs_zero] at far
    linarith

end SameSide

theorem Dyadic.Attracts.of_sameSide {x : Dyadic} {v w : ℚ} (attracts : x.Attracts false v)
    (lower : SameSide ((x.significand - 1 / 2) * 2 ^ x.scale) v w)
    (upper : SameSide ((x.significand + 1 / 2) * 2 ^ x.scale) v w) : x.Attracts false w := by
  have unit := two_zpow_pos x.scale
  obtain ⟨above, below, strict⟩ := attracts
  simp only [Bool.false_eq_true, if_false, le_div_iff₀ unit, div_le_iff₀ unit, lt_div_iff₀ unit,
    div_lt_iff₀ unit] at above below strict
  refine ⟨?_, ?_, ?_⟩
  all_goals simp only [Bool.false_eq_true, if_false, le_div_iff₀ unit, div_le_iff₀ unit, lt_div_iff₀ unit,
    div_lt_iff₀ unit]
  · exact lower.le above
  · exact upper.ge below
  · exact strict.imp_right fun ⟨above, below⟩ => ⟨lower.above above, upper.below below⟩

theorem Dyadic.Attracts.of_lt {x : Dyadic} {v : ℚ} (close : |v - x.toRat| < 2 ^ x.scale / 2) :
    x.Attracts false v := by
  have unit := two_zpow_pos x.scale
  obtain ⟨lower, upper⟩ := abs_lt.mp close
  rw [Dyadic.toRat] at lower upper
  have above : (x.significand : ℚ) - 1 / 2 < v / 2 ^ x.scale := by
    rw [lt_div_iff₀ unit]
    linarith
  have below : v / 2 ^ x.scale < x.significand + 1 / 2 := by
    rw [div_lt_iff₀ unit]
    linarith
  exact ⟨above.le, below.le, .inr ⟨above, below⟩⟩

theorem unitNumerator_div (k : ℤ) :
    (unitNumerator k : ℚ) / unitDenominator k = 10 ^ k / 2 ^ pairScale k := by
  rw [unitNumerator, unitDenominator, BinaryFormat.scaled_eq]
  push_cast [Nat.pow_eq]
  rw [pow_toNat_div_pow_toNat]

theorem unitDenominator_pos (k : ℤ) : 0 < unitDenominator k :=
  Nat.mul_pos (Nat.pow_pos (by omega)) (Nat.pow_pos (by omega))

/-- What differs enough as an integer differs enough as a number. -/
theorem Clear.lt_abs {k scale : ℤ} {m n : ℕ} {v : ℚ}
    (clear : Clear (unitNumerator k) (unitDenominator k) m n)
    (value : v = m * (10 ^ k / 2 ^ pairScale k) * 2 ^ scale) :
    3 * v * roundoff < |v - n * 2 ^ scale| := by
  have unit := two_zpow_pos scale
  have pos : (0 : ℚ) < unitDenominator k := by exact_mod_cast unitDenominator_pos k
  have apart : (n : ℚ) * 2 ^ 53 < m * (10 ^ k / 2 ^ pairScale k) * (2 ^ 53 - 3) ∨
      (m : ℚ) * (10 ^ k / 2 ^ pairScale k) * (2 ^ 53 + 3) < n * 2 ^ 53 := by
    rw [← unitNumerator_div, mul_div_assoc', div_mul_eq_mul_div, div_mul_eq_mul_div, lt_div_iff₀ pos,
      div_lt_iff₀ pos]
    refine clear.imp (fun below => ?_) fun above => ?_
    · have : ((n * unitDenominator k * 2 ^ 53 : ℕ) : ℚ) < (m * unitNumerator k * (2 ^ 53 - 3) : ℕ) := by
        exact_mod_cast below
      push_cast at this
      linarith
    · have : ((m * unitNumerator k * (2 ^ 53 + 3) : ℕ) : ℚ) < (n * unitDenominator k * 2 ^ 53 : ℕ) := by
        exact_mod_cast above
      push_cast at this
      linarith
  rw [value]
  generalize (m : ℚ) * (10 ^ k / 2 ^ pairScale k) = a at apart
  rw [← sub_mul, abs_mul, abs_of_pos unit, ← mul_assoc, mul_right_comm]
  refine mul_lt_mul_of_pos_right ?_ unit
  rw [roundoff, mul_one_div, div_lt_iff₀ (by norm_num)]
  rcases apart with below | above
  · have := le_abs_self (a - n)
    linarith
  · have := neg_abs_le (a - n)
    linarith

/-- A decimal of a large unit stays on its side of the numbers that have a digit more than
single precision. -/
theorem Decimal.BecomesDouble.sameSide {x : Decimal} {y : Dyadic} (becomes : x.BecomesDouble y)
    (positive : 0 < x.digits) (usual : UsualPower x.exponent)
    (other : ¬IsClose x.exponent x.digits) {scale : ℤ} (large : scale ≤ pairScale x.exponent)
    (small : x.digits * 10 ^ x.exponent < (2 ^ 25 * 2 ^ scale : ℚ)) (least : -1074 ≤ scale) {n : ℕ}
    (short : n < 2 ^ 53) : SameSide (n * 2 ^ scale) (x.digits * 10 ^ x.exponent) y.toRat := by
  obtain ⟨j, difference⟩ : ∃ j : ℕ, pairScale x.exponent = scale + j :=
    ⟨(pairScale x.exponent - scale).toNat, by omega⟩
  have value : (x.digits * 10 ^ x.exponent : ℚ) =
      (x.digits * 2 ^ j : ℕ) * (10 ^ x.exponent / 2 ^ pairScale x.exponent) * 2 ^ scale := by
    rw [difference, zpow_add₀ two_ne_zero, zpow_natCast]
    have := (two_zpow_pos scale).ne'
    push_cast
    field_simp
  have pos : (0 : ℚ) < unitDenominator x.exponent := by exact_mod_cast unitDenominator_pos x.exponent
  have below : x.digits * 2 ^ j * unitNumerator x.exponent < 2 ^ 25 * unitDenominator x.exponent := by
    rw [value, mul_lt_mul_iff_left₀ (two_zpow_pos scale), ← unitNumerator_div, mul_div_assoc',
      div_lt_iff₀ pos] at small
    exact_mod_cast small
  rcases unit_clear usual (Nat.mul_pos positive (Nat.pow_pos two_pos)) below (n := n) with
    clear | ⟨few, same⟩ | ⟨power, close⟩
  · exact SameSide.of_near becomes.near (clear.lt_abs value)
  · have equal : (x.digits * 10 ^ x.exponent : ℚ) = n * 2 ^ scale := by
      rw [value, ← unitNumerator_div, mul_div_assoc', mul_eq_mul_right_iff, div_eq_iff pos.ne']
      exact .inl (by exact_mod_cast same)
    rw [becomes.exact (by omega) n scale equal short least]
    exact ⟨id, id, id⟩
  · exfalso
    cases j with
    | zero => exact other ⟨power, by simpa using close⟩
    | succ j =>
        rw [pow_succ, ← mul_assoc] at close
        omega

/-- A decimal of a small unit stays near the number it is nearest to. -/
theorem Decimal.BecomesDouble.attracts_of_small {x : Decimal} {y z : Dyadic} (becomes : x.BecomesDouble y)
    (usual : UsualPower x.exponent) (small : pairScale x.exponent + 2 ≤ z.scale)
    (bounded : z.significand < 2 ^ 24)
    (nearest : |x.digits * 10 ^ x.exponent - z.toRat| ≤ 10 ^ x.exponent / 2) : z.Attracts false y.toRat := by
  have unit := two_zpow_pos z.scale
  have pos : (0 : ℚ) < unitDenominator x.exponent := by exact_mod_cast unitDenominator_pos x.exponent
  -- The unit is not close to the power of two above it.
  have step : (10 : ℚ) ^ x.exponent ≤ 511 / 512 * 2 ^ z.scale := by
    have checked : (unitNumerator x.exponent : ℚ) * 128 ≤ unitDenominator x.exponent * 511 := by
      exact_mod_cast (unitChecked usual).1
    have quotient : (10 : ℚ) ^ x.exponent / 2 ^ pairScale x.exponent ≤ 511 / 128 := by
      rw [← unitNumerator_div, div_le_div_iff₀ pos (by norm_num)]
      linarith
    have larger : (2 : ℚ) ^ pairScale x.exponent * 4 ≤ 2 ^ z.scale := by
      have := zpow_le_zpow_right₀ (one_le_two (α := ℚ)) small
      rw [zpow_add₀ two_ne_zero] at this
      norm_num at this
      linarith
    rw [div_le_iff₀ (two_zpow_pos _)] at quotient
    linarith
  have significand : (z.significand : ℚ) + 1 ≤ 2 ^ 24 := by exact_mod_cast bounded
  have size : z.toRat ≤ (2 ^ 24 - 1) * 2 ^ z.scale :=
    mul_le_mul_of_nonneg_right (by linarith) unit.le
  have upper := (abs_le.mp nearest).2
  have error := becomes.near
  refine Dyadic.Attracts.of_lt (lt_of_le_of_lt (abs_sub_le _ (x.digits * 10 ^ x.exponent : ℚ) _) ?_)
  rw [roundoff] at error
  linarith

/-- The shortest decimal of a number with neighbours at the same distance is still attracted
after the roundings. -/
theorem Decimal.BecomesDouble.attracts {x : Decimal} {y z : Dyadic} (becomes : x.BecomesDouble y)
    (positive : 0 < x.digits) (usual : UsualPower x.exponent)
    (other : ¬IsClose x.exponent x.digits) (canonical : BinaryFormat.binary32.Canonical z)
    (nonzero : z.significand ≠ 0) (short : z.ShortDecimal false x.digits x.exponent) :
    z.Attracts false y.toRat := by
  rcases le_or_gt z.scale (pairScale x.exponent + 1) with large | small
  · have half : (2 : ℚ) ^ z.scale = 2 * 2 ^ (z.scale - 1) := by
      rw [zpow_sub_one₀ two_ne_zero]
      field_simp
    have bounded : (z.significand : ℚ) + 1 ≤ 2 ^ 24 := by exact_mod_cast canonical.significand_lt
    have least : -149 ≤ z.scale := canonical.minScale_le
    have below : (x.digits * 10 ^ x.exponent : ℚ) < 2 ^ 25 * 2 ^ (z.scale - 1) := by
      have upper := short.attracts.upper
      rw [div_le_iff₀ (two_zpow_pos _), half] at upper
      have := mul_le_mul_of_nonneg_right bounded (two_zpow_pos (z.scale - 1)).le
      have := two_zpow_pos (z.scale - 1)
      linarith
    have side := fun n : ℕ => becomes.sameSide positive usual other
      (show z.scale - 1 ≤ pairScale x.exponent by omega) below (by omega) (n := n)
    have fits := canonical.significand_lt
    simp only [BinaryFormat.binary32] at fits
    refine short.attracts.of_sameSide ?_ ?_
    · have lower := side (2 * z.significand - 1) (by omega)
      rw [Nat.cast_sub (by omega)] at lower
      convert lower using 1
      rw [half]
      push_cast
      ring
    · have upper := side (2 * z.significand + 1) (by omega)
      convert upper using 1
      rw [half]
      push_cast
      ring
  · exact becomes.attracts_of_small usual (by omega) canonical.significand_lt (short.nearest rfl)

theorem usualPower_of_shortDecimal {exponent : Fin 255} {fraction : Fin 8388608} {narrow : Bool}
    {digits : ℕ} {power : ℤ} (nonzero : ¬(exponent.val = 0 ∧ fraction.val = 0))
    (short : (Binary32.dyadic exponent fraction).ShortDecimal narrow digits power) :
    0 < digits ∧ UsualPower power := by
  obtain ⟨above, below⟩ := Binary32.bounds_of_attracts nonzero short.attracts
  have positive : 0 < digits := by
    by_contra zero
    rw [Nat.eq_zero_of_not_pos zero, Nat.cast_zero, zero_mul] at above
    exact absurd above (not_lt.mpr (two_zpow_pos _).le)
  have one_le : (1 : ℚ) ≤ digits := by exact_mod_cast positive
  have lt : (digits : ℚ) < 10 ^ 9 := by exact_mod_cast short.lt
  refine ⟨positive, ?_, ?_⟩
  · by_contra less
    have unit : (10 : ℚ) ^ power ≤ 10 ^ (-55 : ℤ) := zpow_le_zpow_right₀ (by norm_num) (by omega)
    have := mul_le_mul lt.le unit (ten_zpow_pos _).le (by norm_num)
    norm_num at this above
    linarith
  · by_contra more
    have unit : (10 : ℚ) ^ (39 : ℤ) ≤ 10 ^ power := zpow_le_zpow_right₀ (by norm_num) (by omega)
    have := mul_le_mul one_le unit (by norm_num) (by linarith)
    norm_num at this below
    linarith

namespace Decimal

/-- The nearest number of single precision to what double precision makes of a decimal. -/
def throughDouble? (x : Decimal) : Option Dyadic :=
  x.toDouble?.bind fun y => BinaryFormat.binary32.round y.numerator y.denominator

theorem toBinary32ByDouble?_eq_some {x : Decimal} {exponent : Fin 255} {fraction : Fin 8388608}
    (reaches : x.throughDouble? = some (Binary32.dyadic exponent fraction)) :
    x.toBinary32ByDouble? = some (.finite x.negative exponent fraction) := by
  obtain ⟨y, double, rounded⟩ := Option.bind_eq_some_iff.mp reaches
  rw [toBinary32ByDouble?, double, Option.map_some, Dyadic.toBinary32, Binary32.ofRatio, rounded]
  exact congrArg some (Binary32.ofDyadic_dyadic _ _ _)

theorem throughDouble?_eq_some {x : Decimal} {y : Dyadic} {exponent : Fin 255} {fraction : Fin 8388608}
    (double : x.toDouble? = some y) (nonzero : ¬(exponent.val = 0 ∧ fraction.val = 0))
    (attracts : (Binary32.dyadic exponent fraction).Attracts (fraction.val == 0 && 1 < exponent.val)
      y.toRat) : x.throughDouble? = some (Binary32.dyadic exponent fraction) := by
  have significand := Binary32.significand_dyadic_ne_zero nonzero
  have positive := Dyadic.numerator_pos (attracts.pos significand)
  rw [← Binary32.narrowBelow_dyadic, ← y.numerator_div_denominator] at attracts
  rw [throughDouble?, double]
  exact BinaryFormat.round_of_attracts positive y.denominator_pos (Binary32.canonical_dyadic _ _)
    (by decide) significand attracts

/-- The shortest decimals of the powers of two, one by one. -/
theorem throughDouble?_narrow (negative : Bool) : ∀ exponent : Fin 255, 1 < exponent.val →
    throughDouble? ⟨negative, (Binary32.shortest .even exponent 0).1,
      (Binary32.shortest .even exponent 0).2⟩ = some (Binary32.dyadic exponent 0) := by
  change ∀ exponent : Fin 255, 1 < exponent.val →
    throughDouble? ⟨false, (Binary32.shortest .even exponent 0).1,
      (Binary32.shortest .even exponent 0).2⟩ = some (Binary32.dyadic exponent 0)
  decide +kernel

/-- The decimal that comes closer to a bound than double precision tells. -/
theorem throughDouble?_close (negative : Bool) : throughDouble? ⟨negative, 7038531, -32⟩ =
    BinaryFormat.binary32.round (numerator ⟨negative, 7038531, -32⟩)
      (denominator ⟨negative, 7038531, -32⟩) := by
  change throughDouble? ⟨false, 7038531, -32⟩ =
    BinaryFormat.binary32.round (numerator ⟨false, 7038531, -32⟩) (denominator ⟨false, 7038531, -32⟩)
  decide +kernel

theorem throughDouble?_shortest (negative : Bool) {exponent : Fin 255} {fraction : Fin 8388608}
    (nonzero : ¬(exponent.val = 0 ∧ fraction.val = 0)) :
    throughDouble? ⟨negative, (Binary32.shortest .even exponent fraction).1,
      (Binary32.shortest .even exponent fraction).2⟩ = some (Binary32.dyadic exponent fraction) := by
  have short := Binary32.shortDecimal_shortest .even nonzero
  obtain ⟨positive, usual⟩ := usualPower_of_shortDecimal nonzero short
  have canonical := Binary32.canonical_dyadic exponent fraction
  have significand := Binary32.significand_dyadic_ne_zero nonzero
  cases narrow : fraction.val == 0 && 1 < exponent.val with
  | true =>
      simp only [Bool.and_eq_true, beq_iff_eq, decide_eq_true_eq] at narrow
      obtain rfl : fraction = 0 := Fin.ext narrow.1
      exact throughDouble?_narrow negative exponent narrow.2
  | false =>
      rw [narrow] at short
      generalize Binary32.shortest .even exponent fraction = decimal at *
      obtain ⟨digits, power⟩ := decimal
      dsimp only at *
      by_cases close : IsClose power digits
      · obtain ⟨rfl, rfl⟩ := close
        rw [throughDouble?_close]
        refine BinaryFormat.round_of_attracts (Nat.mul_pos positive (Nat.pow_pos (by decide)))
          (Nat.pow_pos (by decide)) canonical (by decide) significand ?_
        rw [Binary32.narrowBelow_dyadic, narrow, numerator_div_denominator]
        exact short.attracts
      · have moderate : power.natAbs ≤ moderatePower := by
          obtain ⟨low, high⟩ := usual
          rw [moderatePower]
          omega
        obtain ⟨y, double, becomes⟩ := exists_toDouble? (x := ⟨negative, digits, power⟩) positive
          (short.lt.trans (by norm_num)) moderate
        refine throughDouble?_eq_some double nonzero ?_
        rw [narrow]
        exact becomes.attracts positive usual close canonical significand short

/-- The shortest decimal of a number is read as the number by way of double precision. -/
theorem toBinary32ByDouble?_shortest (negative : Bool) {exponent : Fin 255} {fraction : Fin 8388608}
    (nonzero : ¬(exponent.val = 0 ∧ fraction.val = 0)) :
    toBinary32ByDouble? ⟨negative, (Binary32.shortest .even exponent fraction).1,
      (Binary32.shortest .even exponent fraction).2⟩ = some (.finite negative exponent fraction) :=
  toBinary32ByDouble?_eq_some (throughDouble?_shortest negative nonzero)

theorem toBinary32ByDouble?_whole (negative : Bool) {n : ℕ} (small : 10 * n < 2 ^ 53)
    {exponent : Fin 255} {fraction : Fin 8388608} (nonzero : ¬(exponent.val = 0 ∧ fraction.val = 0))
    (attracts : (Binary32.dyadic exponent fraction).Attracts (fraction.val == 0 && 1 < exponent.val) n) :
    toBinary32ByDouble? ⟨negative, 10 * n, -1⟩ = some (.finite negative exponent fraction) := by
  have positive : 0 < n := by
    exact_mod_cast attracts.pos (Binary32.significand_dyadic_ne_zero nonzero)
  obtain ⟨y, double, becomes⟩ := exists_toDouble? (x := ⟨negative, 10 * n, -1⟩) (by simpa using positive)
    small (show (-1 : ℤ).natAbs ≤ moderatePower by decide)
  have value : (((10 * n : ℕ) : ℚ) * 10 ^ (-1 : ℤ)) = n := by
    push_cast
    norm_num
    ring
  have exact := becomes.exact (show (-1 : ℤ).natAbs ≤ 22 by decide) n 0
  dsimp only at exact
  rw [value] at exact
  refine toBinary32ByDouble?_eq_some (throughDouble?_eq_some double nonzero ?_)
  rwa [exact (by simp) (by omega) (by decide)]

end Decimal

end ShadingGraph
