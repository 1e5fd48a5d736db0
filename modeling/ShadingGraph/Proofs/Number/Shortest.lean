import ShadingGraph.Number.Shortest
import ShadingGraph.Proofs.Number.Rounding

/-! # Shortest decimals read back

The grid of nine digits is finer than the intervals of single precision, so the search
for the shortest decimal always finds one. Whatever it finds lies in the interval of the
number and is therefore rounded to the number.
-/

namespace ShadingGraph

namespace Binary32

theorem canonical_dyadic (exponent : Fin 255) (fraction : Fin 8388608) :
    BinaryFormat.binary32.Canonical (dyadic exponent fraction) := by
  have bound := fraction.isLt
  have bound' := exponent.isLt
  unfold dyadic BinaryFormat.binary32
  split_ifs with zero
  · exact ⟨by norm_num; omega, by norm_num, by norm_num, by simp⟩
  · refine ⟨by norm_num; omega, ?_, ?_, fun _ => by norm_num⟩ <;> dsimp only <;> omega

theorem narrowBelow_dyadic (exponent : Fin 255) (fraction : Fin 8388608) :
    BinaryFormat.binary32.narrowBelow (dyadic exponent fraction) =
      (fraction.val == 0 && 1 < exponent.val) := by
  have bound := fraction.isLt
  rw [Bool.eq_iff_iff]
  simp only [BinaryFormat.narrowBelow, BinaryFormat.binary32, dyadic, decide_eq_true_eq,
    Bool.and_eq_true, beq_iff_eq]
  split_ifs with zero <;> norm_num <;> omega

theorem ofDyadic_dyadic (negative : Bool) (exponent : Fin 255) (fraction : Fin 8388608) :
    ofDyadic negative (dyadic exponent fraction) = .finite negative exponent fraction := by
  have bound := fraction.isLt
  have bound' := exponent.isLt
  unfold dyadic ofDyadic
  split_ifs with zero small fits
  · simp only [finite.injEq, true_and]
    exact ⟨Fin.ext zero.symm, Fin.ext (Nat.mod_eq_of_lt bound)⟩
  all_goals
    dsimp only at *
    try omega
  simp only [finite.injEq, true_and]
  refine ⟨Fin.ext ?_, Fin.ext ?_⟩ <;> simp only [Fin.ofNat] <;> omega

theorem significand_dyadic_ne_zero {exponent : Fin 255} {fraction : Fin 8388608}
    (nonzero : ¬(exponent.val = 0 ∧ fraction.val = 0)) : (dyadic exponent fraction).significand ≠ 0 := by
  unfold dyadic
  split_ifs with zero <;> dsimp only <;> omega

theorem ofRatio_of_attracts {n d : ℕ} (negative : Bool) {exponent : Fin 255} {fraction : Fin 8388608}
    (pos : 0 < n) (pos' : 0 < d) (nonzero : ¬(exponent.val = 0 ∧ fraction.val = 0))
    (attracts : (dyadic exponent fraction).Attracts (fraction.val == 0 && 1 < exponent.val) (n / d)) :
    ofRatio negative n d = .finite negative exponent fraction := by
  rw [← narrowBelow_dyadic] at attracts
  rw [ofRatio, BinaryFormat.round_of_attracts pos pos' (canonical_dyadic _ _) (by decide)
    (significand_dyadic_ne_zero nonzero) attracts]
  exact ofDyadic_dyadic negative exponent fraction

theorem bounds_of_attracts {exponent : Fin 255} {fraction : Fin 8388608} {narrow : Bool} {v : ℚ}
    (nonzero : ¬(exponent.val = 0 ∧ fraction.val = 0))
    (attracts : (dyadic exponent fraction).Attracts narrow v) :
    (2 : ℚ) ^ (-151 : ℤ) < v ∧ v < 2 ^ (128 : ℤ) := by
  have canonical := canonical_dyadic exponent fraction
  have one_le : (1 : ℚ) ≤ (dyadic exponent fraction).significand := by
    exact_mod_cast Nat.one_le_iff_ne_zero.mpr (significand_dyadic_ne_zero nonzero)
  have significand : ((dyadic exponent fraction).significand : ℚ) + 1 ≤ 2 ^ 24 := by
    exact_mod_cast canonical.significand_lt
  have low := attracts.isNearest.error_le
  rw [abs_le] at low
  have least := canonical.minScale_le
  have greatest := canonical.scale_le
  simp only [BinaryFormat.binary32] at least greatest
  constructor
  · have half : (2 : ℚ) ^ (-1 : ℤ) ≤ v / 2 ^ (dyadic exponent fraction).scale := by
      norm_num
      linarith
    refine lt_of_lt_of_le ?_ (BinaryFormat.le_scaled.mp half)
    exact zpow_lt_zpow_right₀ one_lt_two (by omega)
  · have whole : v / 2 ^ (dyadic exponent fraction).scale < 2 ^ (24 : ℤ) := by
      norm_num at significand ⊢
      linarith
    refine (BinaryFormat.scaled_lt.mp whole).trans_le ?_
    exact zpow_le_zpow_right₀ one_le_two (by omega)

end Binary32

namespace RoundingInterval

variable {x : Dyadic} {n d : ℕ}

theorem cross_iff (a : ℕ) (pos : 0 < d) :
    (a * Nat.pow 2 x.scale.toNat * d ≤ n * (4 * x.denominator) ↔
      (a : ℚ) / 4 ≤ n / d / 2 ^ x.scale) ∧
    (n * (4 * x.denominator) ≤ a * Nat.pow 2 x.scale.toNat * d ↔
      (n : ℚ) / d / 2 ^ x.scale ≤ a / 4) := by
  have posD : (0 : ℚ) < d := by exact_mod_cast pos
  have value : (n : ℚ) / d / 2 ^ x.scale =
      n * 2 ^ (-x.scale).toNat / (d * 2 ^ x.scale.toNat) := by
    rw [← pow_toNat_div_pow_toNat]
    field_simp
  have left : (a : ℚ) * (d * 2 ^ x.scale.toNat) = (a * Nat.pow 2 x.scale.toNat * d : ℕ) := by
    push_cast [Nat.pow_eq]
    ring
  have right : (n : ℚ) * 2 ^ (-x.scale).toNat * 4 = (n * (4 * x.denominator) : ℕ) := by
    push_cast [Nat.pow_eq, Dyadic.denominator]
    ring
  rw [value, div_le_div_iff₀ four_pos (by positivity), div_le_div_iff₀ (by positivity) four_pos,
    left, right]
  constructor <;> norm_cast

theorem contains_ofDyadic (narrow : Bool) (nonzero : x.significand ≠ 0) (pos : 0 < d) :
    (ofDyadic x narrow).contains n d = true ↔ x.Attracts narrow (n / d) := by
  have low : ((4 * x.significand - (if narrow then 1 else 2) : ℕ) : ℚ) / 4 =
      x.significand - if narrow then 1 / 4 else 1 / 2 := by
    rw [Nat.cast_sub (by split_ifs <;> omega)]
    split_ifs <;> push_cast <;> ring
  have high : ((4 * x.significand + 2 : ℕ) : ℚ) / 4 = x.significand + 1 / 2 := by
    push_cast
    ring
  have cross := cross_iff (x := x) (n := n) (4 * x.significand - if narrow then 1 else 2) pos
  have cross' := cross_iff (x := x) (n := n) (4 * x.significand + 2) pos
  rw [low] at cross
  rw [high] at cross'
  unfold contains ofDyadic
  dsimp only
  by_cases even : x.significand % 2 = 0
  · rw [if_pos (by simpa using even)]
    simp only [decide_eq_true_eq, cross.1, cross'.2]
    constructor
    · rintro ⟨lower, upper⟩
      exact ⟨lower, upper, .inl even⟩
    · intro attracts
      exact ⟨attracts.lower, attracts.upper⟩
  · rw [if_neg (by simpa using even)]
    simp only [decide_eq_true_eq, ← not_le (a := _ * d), ← not_le (b := _ * d), cross.2, cross'.1]
    constructor
    · rintro ⟨lower, upper⟩
      rw [not_le] at lower upper
      exact ⟨lower.le, upper.le, .inr ⟨lower, upper⟩⟩
    · intro attracts
      rw [not_le, not_le]
      exact attracts.strict.resolve_left even

theorem value_div_denominator (x : Dyadic) (narrow : Bool) :
    ((ofDyadic x narrow).value : ℚ) / (ofDyadic x narrow).denominator = x.toRat := by
  rw [← x.numerator_div_denominator]
  simp only [ofDyadic, Dyadic.numerator]
  push_cast
  field_simp

end RoundingInterval

theorem ten_zpow_pos (k : ℤ) : (0 : ℚ) < 10 ^ k := zpow_pos (by norm_num) k

theorem lt_pow_digitCount (n : ℕ) : n < 10 ^ digitCount n :=
  (Nat.length_toDigits_le_iff (by omega) Nat.length_toDigits_pos).mp le_rfl

theorem pow_digitCount_le {n : ℕ} (pos : 0 < n) : 10 ^ (digitCount n - 1) ≤ n := by
  have nonempty : 0 < digitCount n := Nat.length_toDigits_pos
  rcases Nat.eq_zero_or_pos (digitCount n - 1) with single | more
  · rw [single]
    exact pos
  · by_contra below
    have := (Nat.length_toDigits_le_iff (by omega) more).mpr (not_le.mp below)
    rw [← digitCount] at this
    omega

theorem floorLog10_spec {n d : ℕ} (pos : 0 < n) (pos' : 0 < d) :
    (10 : ℚ) ^ floorLog10 n d ≤ n / d ∧ (n : ℚ) / d < 10 ^ (floorLog10 n d + 1) := by
  have posN : (0 : ℚ) < n := by exact_mod_cast pos
  have posD : (0 : ℚ) < d := by exact_mod_cast pos'
  rw [le_div_iff₀ posD, div_lt_iff₀ posD]
  unfold floorLog10
  split_ifs with large
  · have whole : 0 < n / d := Nat.div_pos large pos'
    have low := pow_digitCount_le whole
    have high := lt_pow_digitCount (n / d)
    have nonempty : 0 < digitCount (n / d) := Nat.length_toDigits_pos
    obtain ⟨c, count⟩ : ∃ c, digitCount (n / d) = c + 1 := ⟨digitCount (n / d) - 1, by omega⟩
    rw [count] at low high
    rw [count, sub_add_cancel, Nat.cast_succ, add_sub_cancel_right]
    rw [Nat.add_sub_cancel, Nat.le_div_iff_mul_le pos'] at low
    rw [Nat.div_lt_iff_lt_mul pos'] at high
    exact ⟨by exact_mod_cast low, by exact_mod_cast high⟩
  · have whole : 0 < (d - 1) / n := Nat.div_pos (by omega) pos
    have low := pow_digitCount_le whole
    have high := lt_pow_digitCount ((d - 1) / n)
    have nonempty : 0 < digitCount ((d - 1) / n) := Nat.length_toDigits_pos
    obtain ⟨c, count⟩ : ∃ c, digitCount ((d - 1) / n) = c + 1 := ⟨digitCount ((d - 1) / n) - 1, by omega⟩
    rw [count] at low high
    rw [Nat.add_sub_cancel, Nat.le_div_iff_mul_le pos] at low
    rw [Nat.div_lt_iff_lt_mul pos] at high
    have least : (10 : ℚ) ^ (-((c + 1 : ℕ) : ℤ)) = (10 ^ (c + 1))⁻¹ := by
      rw [zpow_neg, zpow_natCast]
    have next : (10 : ℚ) ^ (-((c + 1 : ℕ) : ℤ) + 1) = (10 ^ c)⁻¹ := by
      rw [Nat.cast_succ, neg_add, neg_add_cancel_right, zpow_neg, zpow_natCast]
    rw [count, least, next, inv_mul_le_iff₀ (by positivity), lt_inv_mul_iff₀ (by positivity)]
    have upper : d ≤ 10 ^ (c + 1) * n := by omega
    have lower : 10 ^ c * n < d := by omega
    exact ⟨by exact_mod_cast upper, by exact_mod_cast lower⟩

/-- What the search may find: a decimal of at most nine digits that the number attracts,
and the nearest of its grid unless the gap below the number is narrow. -/
structure Dyadic.ShortDecimal (x : Dyadic) (narrow : Bool) (digits : ℕ) (exponent : ℤ) : Prop where
  lt : digits < 10 ^ 9
  attracts : x.Attracts narrow (digits * 10 ^ exponent)
  nearest : narrow = false → |digits * 10 ^ exponent - x.toRat| ≤ 10 ^ exponent / 2

theorem Dyadic.Attracts.of_closer {x : Dyadic} {v w : ℚ} (attracts : x.Attracts false v)
    (closer : |w - x.toRat| ≤ |v - x.toRat|) : x.Attracts false w := by
  have scaled : ∀ u : ℚ, |u - x.toRat| = |u / 2 ^ x.scale - x.significand| * 2 ^ x.scale := by
    intro u
    rw [← abs_of_pos (two_zpow_pos x.scale), ← abs_mul, abs_of_pos (two_zpow_pos x.scale), sub_mul,
      div_mul_cancel₀ _ (two_zpow_pos x.scale).ne']
    rfl
  rw [scaled, scaled, mul_le_mul_iff_left₀ (two_zpow_pos x.scale)] at closer
  have lower := attracts.lower
  have upper := attracts.upper
  have strict := attracts.strict
  simp only [Bool.false_eq_true, if_false] at lower strict
  have near : |v / 2 ^ x.scale - x.significand| ≤ 1 / 2 := abs_le.mpr ⟨by linarith, by linarith⟩
  have near' := abs_le.mp (closer.trans near)
  refine ⟨by simp only [Bool.false_eq_true, if_false]; linarith, by linarith, strict.imp_right ?_⟩
  rintro ⟨above, below⟩
  have inside : |v / 2 ^ x.scale - x.significand| < 1 / 2 := abs_lt.mpr ⟨by linarith, by linarith⟩
  have inside' := abs_lt.mp (closer.trans_lt inside)
  simp only [Bool.false_eq_true, if_false]
  constructor <;> linarith

namespace RoundingInterval

variable {x : Dyadic} {narrow : Bool} {tie : Tie} {count : ℕ}

theorem contains_decimal (narrow : Bool) (nonzero : x.significand ≠ 0) (digits : ℕ) (exponent : ℤ) :
    (ofDyadic x narrow).contains (digits * Nat.pow 10 exponent.toNat) (Nat.pow 10 (-exponent).toNat) =
      true ↔ x.Attracts narrow (digits * 10 ^ exponent) := by
  have pos : 0 < Nat.pow 10 (-exponent).toNat := Nat.pow_pos (by omega)
  rw [contains_ofDyadic narrow nonzero pos, ← pow_toNat_div_pow_toNat]
  push_cast [Nat.pow_eq]
  rw [mul_div_assoc]

/-- Power of ten of the last of `count` significant digits. -/
def gridExponent (i : RoundingInterval) (count : ℕ) : ℤ :=
  floorLog10 i.value i.denominator + 1 - count

/-- Quotient of the value and a step of the grid. -/
def gridNumerator (i : RoundingInterval) (count : ℕ) : ℕ :=
  i.value * Nat.pow 10 (-i.gridExponent count).toNat

def gridDenominator (i : RoundingInterval) (count : ℕ) : ℕ :=
  i.denominator * Nat.pow 10 (i.gridExponent count).toNat

theorem gridDenominator_pos (x : Dyadic) (narrow : Bool) (count : ℕ) :
    0 < (ofDyadic x narrow).gridDenominator count :=
  Nat.mul_pos (Nat.mul_pos four_pos x.denominator_pos) (Nat.pow_pos (by omega))

theorem gridNumerator_div (x : Dyadic) (narrow : Bool) (count : ℕ) :
    ((ofDyadic x narrow).gridNumerator count : ℚ) / (ofDyadic x narrow).gridDenominator count =
      x.toRat / 10 ^ (ofDyadic x narrow).gridExponent count := by
  rw [← value_div_denominator x narrow, ← pow_toNat_div_pow_toNat, gridNumerator, gridDenominator]
  push_cast [Nat.pow_eq]
  have : ((ofDyadic x narrow).denominator : ℚ) ≠ 0 := by
    exact_mod_cast (Nat.mul_pos four_pos x.denominator_pos).ne'
  field_simp

/-- The point of the grid that is taken, before ten times the last one is written with one
digit. -/
def gridChoice? (i : RoundingInterval) (tie : Tie) (count : ℕ) : Option ℕ :=
  let up := Nat.pow 10 (i.gridExponent count).toNat
  let down := Nat.pow 10 (-i.gridExponent count).toNat
  let below := i.gridNumerator count / i.gridDenominator count
  match i.contains (below * up) down, i.contains ((below + 1) * up) down with
  | true, true =>
    let twice := 2 * (i.gridNumerator count % i.gridDenominator count)
    if twice < i.gridDenominator count then some below
    else if i.gridDenominator count < twice then some (below + 1)
    else match tie with
      | .upper => some (below + 1)
      | .even => some (if below % 2 = 0 then below else below + 1)
  | true, false => some below
  | false, true => some (below + 1)
  | false, false => none

theorem onGrid?_eq (i : RoundingInterval) : i.onGrid? tie count = (i.gridChoice? tie count).map
    fun digits => if digits = 10 ^ count then (1, i.gridExponent count + count)
      else (digits, i.gridExponent count) := rfl

theorem gridFloor_lt (nonzero : x.significand ≠ 0) :
    (ofDyadic x narrow).gridNumerator count / (ofDyadic x narrow).gridDenominator count < 10 ^ count := by
  have value : 0 < (ofDyadic x narrow).value :=
    Nat.mul_pos (by omega) (Nat.pow_pos two_pos)
  have log := (floorLog10_spec value (Nat.mul_pos four_pos x.denominator_pos)).2
  rw [Nat.div_lt_iff_lt_mul (gridDenominator_pos x narrow count)]
  have posD : (0 : ℚ) < (ofDyadic x narrow).gridDenominator count := by
    exact_mod_cast gridDenominator_pos x narrow count
  have quotient : ((ofDyadic x narrow).gridNumerator count : ℚ) /
      (ofDyadic x narrow).gridDenominator count < 10 ^ count := by
    rw [gridNumerator_div, div_lt_iff₀ (ten_zpow_pos _), ← zpow_natCast, ← zpow_add₀ (by norm_num),
      gridExponent, add_sub_cancel]
    rwa [← value_div_denominator x narrow]
  rw [div_lt_iff₀ posD] at quotient
  exact_mod_cast quotient

/-- A point that is taken is attracted, and it is one of the two points around the value;
where the other one is attracted as well, it is not nearer. -/
theorem gridChoice?_spec {digits : ℕ} (nonzero : x.significand ≠ 0)
    (chosen : (ofDyadic x narrow).gridChoice? tie count = some digits) :
    x.Attracts narrow (digits * 10 ^ (ofDyadic x narrow).gridExponent count) ∧
      (narrow = false → |(digits : ℚ) * 10 ^ (ofDyadic x narrow).gridExponent count - x.toRat| ≤
        10 ^ (ofDyadic x narrow).gridExponent count / 2) ∧
      digits ≤ 10 ^ count := by
  have small : (ofDyadic x narrow).gridNumerator count / (ofDyadic x narrow).gridDenominator count <
      10 ^ count := gridFloor_lt nonzero
  obtain ⟨t, value, nonneg, less, below, above⟩ :=
    exists_fraction ((ofDyadic x narrow).gridNumerator count) (gridDenominator_pos x narrow count)
  rw [gridNumerator_div] at value
  have attracts := fun digits =>
    contains_decimal narrow nonzero digits ((ofDyadic x narrow).gridExponent count)
  unfold gridChoice? at chosen
  simp only [below, above] at chosen
  generalize (ofDyadic x narrow).gridNumerator count / (ofDyadic x narrow).gridDenominator count = b at *
  generalize (ofDyadic x narrow).gridExponent count = k at *
  have distance : ∀ c : ℚ, |c * 10 ^ k - x.toRat| = |c - (b + t)| * 10 ^ k := by
    intro c
    rw [← abs_of_pos (ten_zpow_pos k), ← abs_mul, abs_of_pos (ten_zpow_pos k), ← value, sub_mul,
      div_mul_cancel₀ _ (ten_zpow_pos k).ne']
  have near : ∀ c : ℚ, |c - (b + t)| ≤ 1 / 2 → |c * 10 ^ k - x.toRat| ≤ 10 ^ k / 2 := by
    intro c near
    rw [distance]
    have := mul_le_mul_of_nonneg_right near (ten_zpow_pos k).le
    linarith
  have stay : |(b : ℚ) - (b + t)| = t := by
    rw [sub_add_cancel_left, abs_neg, abs_of_nonneg nonneg]
  have step : |((b + 1 : ℕ) : ℚ) - (b + t)| = 1 - t := by
    rw [Nat.cast_succ, add_sub_add_left_eq_sub, abs_of_pos (by linarith)]
  -- Where only one of the two points is attracted, the other one cannot be nearer.
  have other : ∀ {c c' : ℕ}, narrow = false → x.Attracts narrow (c * 10 ^ k) →
      ¬x.Attracts narrow (c' * 10 ^ k) → |(c : ℚ) - (b + t)| ≤ |(c' : ℚ) - (b + t)| := by
    rintro c c' rfl inside outside
    by_contra closer
    refine outside (inside.of_closer ?_)
    rw [distance, distance]
    exact mul_le_mul_of_nonneg_right (not_le.mp closer).le (ten_zpow_pos k).le
  split at chosen
  · rename_i insideBelow insideAbove
    rw [attracts] at insideBelow insideAbove
    have down : t ≤ 1 / 2 → x.Attracts narrow (b * 10 ^ k) ∧
        (narrow = false → |(b : ℚ) * 10 ^ k - x.toRat| ≤ 10 ^ k / 2) ∧ b ≤ 10 ^ count :=
      fun half => ⟨insideBelow, fun _ => near b (stay.trans_le half), small.le⟩
    have up : 1 / 2 ≤ t → x.Attracts narrow ((b + 1 : ℕ) * 10 ^ k) ∧
        (narrow = false → |((b + 1 : ℕ) : ℚ) * 10 ^ k - x.toRat| ≤ 10 ^ k / 2) ∧ b + 1 ≤ 10 ^ count :=
      fun half => ⟨insideAbove, fun _ => near (b + 1 : ℕ) (step.trans_le (by linarith)), small⟩
    split_ifs at chosen with first second even
    · rw [← Option.some.inj chosen]
      exact down first.le
    · rw [← Option.some.inj chosen]
      exact up second.le
    · cases tie with
      | upper =>
          rw [← Option.some.inj chosen]
          exact up (not_lt.mp first)
      | even =>
          rw [← Option.some.inj chosen]
          exact down (not_lt.mp second)
    · have next : some (b + 1) = some digits := by
        cases tie <;> exact chosen
      rw [← Option.some.inj next]
      exact up (not_lt.mp first)
  · rename_i inside outside
    rw [attracts] at inside
    rw [← Bool.not_eq_true, attracts] at outside
    rw [← Option.some.inj chosen]
    refine ⟨inside, fun wide => near b ?_, small.le⟩
    have := other wide inside outside
    rw [stay, step] at this
    linarith
  · rename_i outside inside
    rw [attracts] at inside
    rw [← Bool.not_eq_true, attracts] at outside
    rw [← Option.some.inj chosen]
    refine ⟨inside, fun wide => near (b + 1 : ℕ) ?_, small⟩
    have := other wide inside outside
    rw [stay, step] at this
    linarith
  · cases chosen

theorem onGrid?_spec {digits : ℕ} {exponent : ℤ} (nonzero : x.significand ≠ 0) (positive : 0 < count)
    (nine : count ≤ 9) (found : (ofDyadic x narrow).onGrid? tie count = some (digits, exponent)) :
    x.ShortDecimal narrow digits exponent := by
  rw [onGrid?_eq, Option.map_eq_some_iff] at found
  obtain ⟨chosen, choice, written⟩ := found
  obtain ⟨attracts, nearest, bounded⟩ := gridChoice?_spec nonzero choice
  split_ifs at written with carried
  · cases written
    have same : ((1 : ℕ) : ℚ) * 10 ^ ((ofDyadic x narrow).gridExponent count + count) =
        chosen * 10 ^ (ofDyadic x narrow).gridExponent count := by
      rw [carried, zpow_add₀ (by norm_num), zpow_natCast]
      push_cast
      ring
    refine ⟨by norm_num, same ▸ attracts, fun wide => ?_⟩
    rw [same]
    refine (nearest wide).trans (div_le_div_of_nonneg_right ?_ two_pos.le)
    exact zpow_le_zpow_right₀ (by norm_num) (by omega)
  · cases written
    exact ⟨(lt_of_le_of_ne bounded carried).trans_le (Nat.pow_le_pow_right (by omega) nine),
      attracts, nearest⟩

theorem attracts_gridFloor (nonzero : x.significand ≠ 0) (bounded : x.significand < 2 ^ 24)
    (narrow : Bool) : x.Attracts narrow
      (((ofDyadic x narrow).gridNumerator 9 / (ofDyadic x narrow).gridDenominator 9 : ℕ) *
        10 ^ (ofDyadic x narrow).gridExponent 9) := by
  have value : 0 < (ofDyadic x narrow).value := Nat.mul_pos (by omega) (Nat.pow_pos two_pos)
  have log := (floorLog10_spec value (Nat.mul_pos four_pos x.denominator_pos)).1
  obtain ⟨t, split, nonneg, less, -, -⟩ :=
    exists_fraction ((ofDyadic x narrow).gridNumerator 9) (gridDenominator_pos x narrow 9)
  rw [gridNumerator_div, div_eq_iff (ten_zpow_pos _).ne'] at split
  change (10 : ℚ) ^ floorLog10 (ofDyadic x narrow).value (ofDyadic x narrow).denominator ≤
    (ofDyadic x narrow).value / (ofDyadic x narrow).denominator at log
  have grid : (ofDyadic x narrow).gridExponent 9 =
      floorLog10 (ofDyadic x narrow).value (ofDyadic x narrow).denominator - 8 := by
    unfold gridExponent
    push_cast
    ring
  -- A step of the grid is less than a quarter of the unit of the significand.
  have fine : (10 : ℚ) ^ (ofDyadic x narrow).gridExponent 9 < 1 / 4 * 2 ^ x.scale := by
    rw [value_div_denominator, Dyadic.toRat] at log
    rw [grid, zpow_sub₀ (by norm_num), div_lt_iff₀ (by norm_num)]
    have small : (x.significand : ℚ) < 2 ^ 24 := by exact_mod_cast bounded
    have := mul_lt_mul_of_pos_right small (two_zpow_pos x.scale)
    have unit := two_zpow_pos x.scale
    norm_num at this ⊢
    linarith
  have positive := ten_zpow_pos ((ofDyadic x narrow).gridExponent 9)
  generalize (ofDyadic x narrow).gridNumerator 9 / (ofDyadic x narrow).gridDenominator 9 = b at *
  generalize (10 : ℚ) ^ (ofDyadic x narrow).gridExponent 9 = step at *
  rw [add_mul, Dyadic.toRat] at split
  have rest : 0 ≤ t * step := mul_nonneg nonneg positive.le
  have rest' : t * step < step := mul_lt_of_lt_one_left positive less
  have lower : (x.significand : ℚ) - 1 / 4 < b * step / 2 ^ x.scale := by
    rw [lt_div_iff₀ (two_zpow_pos _), sub_mul]
    linarith
  have upper : b * step / 2 ^ x.scale ≤ x.significand := by
    rw [div_le_iff₀ (two_zpow_pos _)]
    linarith
  have lower' : (x.significand : ℚ) - (if narrow then 1 / 4 else 1 / 2) < b * step / 2 ^ x.scale := by
    split_ifs <;> linarith
  exact ⟨lower'.le, by linarith, .inr ⟨lower', by linarith⟩⟩

/-- The grid of nine digits always has a point that is attracted. -/
theorem onGrid?_nine (nonzero : x.significand ≠ 0) (bounded : x.significand < 2 ^ 24)
    (narrow : Bool) (tie : Tie) : (ofDyadic x narrow).onGrid? tie 9 ≠ none := by
  have inside := (contains_decimal narrow nonzero _ _).mpr (attracts_gridFloor nonzero bounded narrow)
  rw [onGrid?_eq]
  unfold gridChoice?
  simp only [inside]
  cases (ofDyadic x narrow).contains _ _ with
  | false => simp
  | true =>
      dsimp only
      split_ifs <;> cases tie <;> simp

end RoundingInterval

/-- The shortest decimal of a number is one that it attracts. -/
theorem Binary32.shortDecimal_shortest (tie : Tie) {exponent : Fin 255} {fraction : Fin 8388608}
    (nonzero : ¬(exponent.val = 0 ∧ fraction.val = 0)) :
    (dyadic exponent fraction).ShortDecimal (fraction.val == 0 && 1 < exponent.val)
      (shortest tie exponent fraction).1 (shortest tie exponent fraction).2 := by
  have positive := significand_dyadic_ne_zero nonzero
  have bounded := (canonical_dyadic exponent fraction).significand_lt
  unfold shortest RoundingInterval.shortest
  cases found : (List.range' 1 9).findSome? ((RoundingInterval.ofDyadic (dyadic exponent fraction)
      (fraction.val == 0 && 1 < exponent.val)).onGrid? tie) with
  | none =>
      have none := List.findSome?_eq_none_iff.mp found 9 (by decide)
      exact absurd none (RoundingInterval.onGrid?_nine positive bounded _ tie)
  | some decimal =>
      obtain ⟨count, inside, found⟩ := List.exists_of_findSome?_eq_some found
      rw [List.mem_range'_1] at inside
      exact RoundingInterval.onGrid?_spec positive (by omega) (by omega) found

end ShadingGraph
