import Mathlib.Algebra.Order.Field.Power
import Mathlib.Data.Int.Log
import Mathlib.Data.Rat.Floor
import Mathlib.Tactic.FieldSimp
import Mathlib.Tactic.Linarith
import Mathlib.Tactic.Positivity
import Mathlib.Tactic.Ring
import ShadingGraph.Number.Rounding

/-! # Rounding is to the nearest value

Quotients of naturals are compared as rational numbers. A quotient is rounded to a
value of the format when it lies in the interval around that value whose bounds are
half way to the neighbours.
-/

namespace ShadingGraph

theorem pow_toNat_div_pow_toNat (b : ℚ) (k : ℤ) : b ^ k.toNat / b ^ (-k).toNat = b ^ k := by
  rcases le_total 0 k with nonneg | nonpos
  · obtain ⟨n, rfl⟩ := Int.eq_ofNat_of_zero_le nonneg
    simp
  · obtain ⟨n, rfl⟩ : ∃ n : ℕ, k = -n := ⟨(-k).toNat, by omega⟩
    simp [zpow_neg]

theorem two_zpow_pos (k : ℤ) : (0 : ℚ) < 2 ^ k := zpow_pos (by norm_num) k

namespace Dyadic

def toRat (x : Dyadic) : ℚ := x.significand * 2 ^ x.scale

theorem numerator_div_denominator (x : Dyadic) :
    (x.numerator : ℚ) / x.denominator = x.toRat := by
  simp only [numerator, denominator, toRat, Nat.pow_eq, Nat.cast_mul, Nat.cast_pow, Nat.cast_ofNat,
    mul_div_assoc, pow_toNat_div_pow_toNat]

theorem denominator_pos (x : Dyadic) : 0 < x.denominator :=
  Nat.pow_pos (by omega)

end Dyadic

section roundHalfEven

variable {n d m : ℕ}

/-- Either nearer than a half, or half way and even. -/
def IsNearest (m : ℕ) (v : ℚ) : Prop :=
  |v - m| < 1 / 2 ∨ |v - m| = 1 / 2 ∧ m % 2 = 0

theorem IsNearest.error_le {v : ℚ} (nearest : IsNearest m v) : |v - m| ≤ 1 / 2 := by
  rcases nearest with near | ⟨half, -⟩
  · exact near.le
  · exact half.le

theorem exists_fraction (n : ℕ) (pos : 0 < d) : ∃ t : ℚ, (n : ℚ) / d = (n / d : ℕ) + t ∧ 0 ≤ t ∧ t < 1 ∧
    (2 * (n % d) < d ↔ t < 1 / 2) ∧ (d < 2 * (n % d) ↔ 1 / 2 < t) := by
  have posQ : (0 : ℚ) < d := by exact_mod_cast pos
  have split : (n : ℚ) = d * (n / d : ℕ) + (n % d : ℕ) := by exact_mod_cast (Nat.div_add_mod n d).symm
  refine ⟨((n % d : ℕ) : ℚ) / d, ?_, by positivity, ?_, ?_, ?_⟩
  · rw [split]
    field_simp
  · rw [div_lt_one posQ]
    exact_mod_cast Nat.mod_lt n pos
  · rw [div_lt_div_iff₀ posQ two_pos, mul_comm 2]
    norm_cast
    rw [one_mul]
  · rw [div_lt_div_iff₀ two_pos posQ, mul_comm 2]
    norm_cast
    rw [one_mul]

theorem isNearest_roundHalfEven (pos : 0 < d) : IsNearest (roundHalfEven n d) (n / d) := by
  obtain ⟨t, value, nonneg, small, below, above⟩ := exists_fraction n pos
  rw [IsNearest, value]
  unfold roundHalfEven
  simp only [below, above]
  generalize n / d = w
  split_ifs with low high even
  · left
    rw [add_sub_cancel_left, abs_of_nonneg nonneg]
    exact low
  · left
    rw [Nat.cast_succ, add_sub_add_left_eq_sub, abs_sub_comm, abs_of_pos (by linarith)]
    linarith
  all_goals
    have tie : t = 1 / 2 := le_antisymm (not_lt.mp high) (not_lt.mp low)
    right
  · rw [add_sub_cancel_left, tie]
    exact ⟨abs_of_pos (by norm_num), even⟩
  · rw [Nat.cast_succ, add_sub_add_left_eq_sub, tie]
    exact ⟨by norm_num [abs_of_neg], by omega⟩

theorem IsNearest.unique {v : ℚ} {m' : ℕ} (nearest : IsNearest m v) (nearest' : IsNearest m' v) :
    m = m' := by
  have close : |(m : ℚ) - m'| ≤ 1 := by
    have := abs_sub_le (m : ℚ) v m'
    rw [abs_sub_comm (m : ℚ) v] at this
    linarith [nearest.error_le, nearest'.error_le]
  have closeZ : |(m : ℤ) - m'| ≤ 1 := by exact_mod_cast close
  by_contra different
  have apart : |(m : ℚ) - m'| = 1 := by
    have : |(m : ℤ) - m'| = 1 := by
      have : |(m : ℤ) - m'| ≠ 0 := by
        rw [abs_ne_zero]
        omega
      have := abs_nonneg ((m : ℤ) - m')
      omega
    exact_mod_cast this
  have far := abs_sub_le (m : ℚ) v m'
  rw [abs_sub_comm (m : ℚ) v, apart] at far
  -- Both are half way, so both are even, but they are neighbours.
  rcases nearest with near | ⟨half, even⟩
  · linarith [nearest'.error_le]
  · rcases nearest' with near' | ⟨half', even'⟩
    · linarith
    · rcases abs_le.mp closeZ with ⟨low, high⟩
      omega

theorem roundHalfEven_eq (pos : 0 < d) (nearest : IsNearest m (n / d)) : roundHalfEven n d = m :=
  (isNearest_roundHalfEven pos).unique nearest

end roundHalfEven

section

variable {n d : ℕ}

theorem log_eq {v : ℚ} {e : ℤ} (low : 2 ^ e ≤ v) (high : v < 2 ^ (e + 1)) : Int.log 2 v = e := by
  have pos : 0 < v := (two_zpow_pos e).trans_le low
  have atLeast := (Int.zpow_le_iff_le_log one_lt_two pos).mp (by exact_mod_cast low)
  have below := (Int.lt_zpow_iff_log_lt one_lt_two pos).mp (by exact_mod_cast high)
  omega

theorem log_le_of_lt {v : ℚ} {e : ℤ} (pos : 0 < v) (high : v < 2 ^ (e + 1)) : Int.log 2 v ≤ e := by
  have below := (Int.lt_zpow_iff_log_lt one_lt_two pos).mp (by exact_mod_cast high)
  omega

theorem le_log_of_le {v : ℚ} {e : ℤ} (pos : 0 < v) (low : 2 ^ e ≤ v) : e ≤ Int.log 2 v :=
  (Int.zpow_le_iff_le_log one_lt_two pos).mp (by exact_mod_cast low)

theorem floorLog2_eq (pos : 0 < n) (pos' : 0 < d) : floorLog2 n d = Int.log 2 ((n : ℚ) / d) := by
  have posD : (0 : ℚ) < d := by exact_mod_cast pos'
  have lowN : (2 : ℚ) ^ n.log2 ≤ n := by exact_mod_cast Nat.log2_self_le pos.ne'
  have highN : (n : ℚ) < 2 ^ (n.log2 + 1) := by exact_mod_cast Nat.lt_log2_self
  have lowD : (2 : ℚ) ^ d.log2 ≤ d := by exact_mod_cast Nat.log2_self_le pos'.ne'
  have highD : (d : ℚ) < 2 ^ (d.log2 + 1) := by exact_mod_cast Nat.lt_log2_self
  have split : ∀ i j : ℤ, (2 : ℚ) ^ (i - j) = 2 ^ i / 2 ^ j := fun i j => zpow_sub₀ two_ne_zero i j
  have low : (2 : ℚ) ^ ((n.log2 : ℤ) - d.log2 - 1) ≤ n / d := by
    rw [sub_sub, split, div_le_div_iff₀ (two_zpow_pos _) posD]
    exact_mod_cast mul_le_mul lowN highD.le posD.le (by positivity)
  have high : (n : ℚ) / d < 2 ^ ((n.log2 : ℤ) - d.log2 + 1) := by
    rw [sub_add_eq_add_sub, split, div_lt_div_iff₀ posD (two_zpow_pos _)]
    exact_mod_cast mul_lt_mul highN lowD (by positivity) (by positivity)
  have test : d * Nat.pow 2 ((n.log2 : ℤ) - d.log2).toNat ≤ n * Nat.pow 2 (-((n.log2 : ℤ) - d.log2)).toNat ↔
      (2 : ℚ) ^ ((n.log2 : ℤ) - d.log2) ≤ n / d := by
    rw [← pow_toNat_div_pow_toNat, div_le_div_iff₀ (by positivity) posD, mul_comm d]
    norm_cast
  unfold floorLog2
  by_cases fits : (2 : ℚ) ^ ((n.log2 : ℤ) - d.log2) ≤ n / d
  · rw [if_pos (test.mpr fits), log_eq fits high]
  · rw [if_neg (test.not.mpr fits), log_eq low (by rw [sub_add_cancel]; exact not_le.mp fits)]

namespace BinaryFormat

variable {format : BinaryFormat}

theorem scaleOf_eq (format : BinaryFormat) (pos : 0 < n) (pos' : 0 < d) : format.scaleOf n d =
    max format.minScale (Int.log 2 ((n : ℚ) / d) + 1 - format.precision) := by
  rw [scaleOf, floorLog2_eq pos pos']

theorem scaled_eq (n d : ℕ) (scale : ℤ) :
    ((n * Nat.pow 2 (-scale).toNat : ℕ) : ℚ) / (d * Nat.pow 2 scale.toNat : ℕ) =
      n / d / 2 ^ scale := by
  rw [← pow_toNat_div_pow_toNat]
  push_cast
  simp only [Nat.pow_eq, Nat.cast_pow, Nat.cast_ofNat]
  field_simp

/-- Significands of the format with their least scale. -/
structure Canonical (format : BinaryFormat) (x : Dyadic) : Prop where
  significand_lt : x.significand < 2 ^ format.precision
  minScale_le : format.minScale ≤ x.scale
  scale_le : x.scale ≤ format.maxScale
  normal : format.minScale < x.scale → 2 ^ (format.precision - 1) ≤ x.significand

/-- Whether the neighbour below has half the distance of the one above. -/
def narrowBelow (format : BinaryFormat) (x : Dyadic) : Bool :=
  x.significand = 2 ^ (format.precision - 1) ∧ format.minScale < x.scale

end BinaryFormat

/-- Whether a number lies half way or less from a value to its neighbours; half way only
to an even significand. -/
structure Dyadic.Attracts (x : Dyadic) (narrow : Bool) (v : ℚ) : Prop where
  lower : (x.significand - if narrow then 1 / 4 else 1 / 2) ≤ v / 2 ^ x.scale
  upper : v / 2 ^ x.scale ≤ x.significand + 1 / 2
  strict : x.significand % 2 = 0 ∨
    (x.significand - if narrow then 1 / 4 else 1 / 2) < v / 2 ^ x.scale ∧
      v / 2 ^ x.scale < x.significand + 1 / 2

theorem Dyadic.Attracts.isNearest {x : Dyadic} {narrow : Bool} {v : ℚ}
    (attracts : x.Attracts narrow v) : IsNearest x.significand (v / 2 ^ x.scale) := by
  obtain ⟨low, high, strict⟩ := attracts
  have low' : x.significand - 1 / 2 ≤ v / 2 ^ x.scale := by
    split_ifs at low <;> linarith
  have close : |v / 2 ^ x.scale - x.significand| ≤ 1 / 2 := abs_le.mpr ⟨by linarith, by linarith⟩
  rcases strict with even | ⟨above, below⟩
  · rcases close.lt_or_eq with near | half
    · exact .inl near
    · exact .inr ⟨half, even⟩
  · have above' : x.significand - 1 / 2 < v / 2 ^ x.scale := by
      split_ifs at above <;> linarith
    exact .inl (abs_lt.mpr ⟨by linarith, by linarith⟩)

theorem Dyadic.Attracts.pos {x : Dyadic} {narrow : Bool} {v : ℚ} (attracts : x.Attracts narrow v)
    (nonzero : x.significand ≠ 0) : 0 < v := by
  have one_le : (1 : ℚ) ≤ x.significand := by exact_mod_cast Nat.one_le_iff_ne_zero.mpr nonzero
  have low := attracts.lower
  have : 0 < v / 2 ^ x.scale := by
    split_ifs at low <;> linarith
  exact (div_pos_iff_of_pos_right (two_zpow_pos _)).mp this

namespace BinaryFormat

variable {format : BinaryFormat}

theorem scaled_lt {v : ℚ} {k l : ℤ} : v / 2 ^ k < 2 ^ l ↔ v < 2 ^ (l + k) := by
  rw [div_lt_iff₀ (two_zpow_pos k), ← zpow_add₀ two_ne_zero]

theorem le_scaled {v : ℚ} {k l : ℤ} : 2 ^ l ≤ v / 2 ^ k ↔ 2 ^ (l + k) ≤ v := by
  rw [le_div_iff₀ (two_zpow_pos k), ← zpow_add₀ two_ne_zero]

/-- What a canonical value attracts is rounded at its scale, or at the next lower one
when it lies below the least significand. -/
theorem scaleOf_of_attracts {x : Dyadic} (pos : 0 < n) (pos' : 0 < d)
    (canonical : format.Canonical x) (precise : 1 < format.precision) (nonzero : x.significand ≠ 0)
    (attracts : x.Attracts (format.narrowBelow x) (n / d)) :
    format.scaleOf n d = x.scale ∨
      format.narrowBelow x = true ∧ format.scaleOf n d = x.scale - 1 ∧
        (n : ℚ) / d / 2 ^ x.scale < 2 ^ (format.precision - 1) := by
  obtain ⟨p, precision⟩ : ∃ p, format.precision = p + 2 := ⟨format.precision - 2, by omega⟩
  have half : format.precision - 1 = p + 1 := by omega
  have positive := attracts.pos nonzero
  have fits : (x.significand : ℚ) + 1 ≤ 2 ^ (p + 2) := by
    exact_mod_cast precision ▸ canonical.significand_lt
  have below : (n : ℚ) / d / 2 ^ x.scale < 2 ^ ((p : ℤ) + 2) := by
    have := attracts.upper
    exact_mod_cast (by linarith : (n : ℚ) / d / 2 ^ x.scale < 2 ^ (p + 2))
  have high : Int.log 2 ((n : ℚ) / d) ≤ p + 1 + x.scale := by
    refine log_le_of_lt positive ?_
    have := scaled_lt.mp below
    rwa [show (p : ℤ) + 1 + x.scale + 1 = p + 2 + x.scale by ring]
  have atLeast := canonical.minScale_le
  rw [scaleOf_eq format pos pos', precision]
  push_cast
  rcases atLeast.eq_or_lt with least | more
  · left
    omega
  have normal : (2 : ℚ) ^ (p + 1) ≤ x.significand := by exact_mod_cast half ▸ canonical.normal more
  by_cases reaches : (2 : ℚ) ^ (p + 1) ≤ n / d / 2 ^ x.scale
  · left
    have low : p + 1 + x.scale ≤ Int.log 2 ((n : ℚ) / d) :=
      le_log_of_le positive (le_scaled.mp (by exact_mod_cast reaches))
    omega
  · right
    rw [not_le] at reaches
    have gap := attracts.lower
    -- Only the least significand reaches below the power of two.
    have least : x.significand = 2 ^ (p + 1) := by
      by_contra other
      have next : (2 : ℚ) ^ (p + 1) + 1 ≤ x.significand := by
        have := half ▸ canonical.normal more
        exact_mod_cast (by omega : 2 ^ (p + 1) + 1 ≤ x.significand)
      split_ifs at gap <;> linarith
    have narrow : format.narrowBelow x = true := by simp [narrowBelow, half, least, more]
    rw [if_pos narrow, least] at gap
    have big : (1 : ℚ) ≤ 2 ^ p := one_le_pow₀ one_le_two
    have low : p + x.scale ≤ Int.log 2 ((n : ℚ) / d) := by
      refine le_log_of_le positive (le_scaled.mp ?_)
      rw [zpow_natCast]
      push_cast [pow_succ] at gap
      linarith
    have high : Int.log 2 ((n : ℚ) / d) ≤ p + x.scale := by
      refine log_le_of_lt positive ?_
      have := scaled_lt.mp (by exact_mod_cast reaches : (n : ℚ) / d / 2 ^ x.scale < 2 ^ ((p : ℤ) + 1))
      rwa [show (p : ℤ) + x.scale + 1 = p + 1 + x.scale by ring]
    exact ⟨narrow, by omega, reaches⟩

/-- The value with a significand that may have grown to one more digit. -/
def carry (format : BinaryFormat) (significand : ℕ) (scale : ℤ) : Dyadic :=
  if significand = 2 ^ format.precision then ⟨2 ^ (format.precision - 1), scale + 1⟩
  else ⟨significand, scale⟩

theorem toRat_carry (precise : 1 < format.precision) (significand : ℕ) (scale : ℤ) :
    (format.carry significand scale).toRat = significand * 2 ^ scale := by
  unfold carry
  split_ifs with carried
  · obtain ⟨p, precision⟩ : ∃ p, format.precision = p + 1 := ⟨format.precision - 1, by omega⟩
    rw [carried, precision, Dyadic.toRat, Nat.add_sub_cancel, zpow_add_one₀ two_ne_zero]
    push_cast [pow_succ]
    ring
  · rfl

theorem round_eq {significand : ℕ} (pos : 0 < n) (pos' : 0 < d)
    (nearest : IsNearest significand (n / d / 2 ^ format.scaleOf n d)) :
    format.round n d =
      if (format.carry significand (format.scaleOf n d)).scale ≤ format.maxScale then
        some (format.carry significand (format.scaleOf n d)) else none := by
  rw [← scaled_eq] at nearest
  have scaledPos : 0 < d * Nat.pow 2 (format.scaleOf n d).toNat :=
    Nat.mul_pos pos' (Nat.pow_pos two_pos)
  have rounded := roundHalfEven_eq scaledPos nearest
  unfold round
  rw [if_neg pos.ne']
  dsimp only
  rw [rounded]
  rfl

/-- A quotient in the range of the format is rounded to the nearest multiple of the power
of two at its scale. -/
theorem exists_round (pos : 0 < n) (pos' : 0 < d) (precise : 1 < format.precision)
    (scales : format.minScale < format.maxScale)
    (small : (n : ℚ) / d < 2 ^ (format.maxScale + format.precision - 1)) :
    ∃ y significand, format.round n d = some y ∧
      IsNearest significand (n / d / 2 ^ format.scaleOf n d) ∧
        y.toRat = significand * 2 ^ format.scaleOf n d := by
  have positive : (0 : ℚ) < n / d := by positivity
  have scaledPos : 0 < d * Nat.pow 2 (format.scaleOf n d).toNat :=
    Nat.mul_pos pos' (Nat.pow_pos two_pos)
  have nearest := isNearest_roundHalfEven (n := n * Nat.pow 2 (-format.scaleOf n d).toNat) scaledPos
  rw [scaled_eq] at nearest
  have bounded : Int.log 2 ((n : ℚ) / d) ≤ format.maxScale + format.precision - 2 := by
    refine log_le_of_lt positive ?_
    rwa [show format.maxScale + format.precision - 2 + 1 = format.maxScale + format.precision - 1 by ring]
  have inside (significand : ℕ) :
      (format.carry significand (format.scaleOf n d)).scale ≤ format.maxScale := by
    have := scaleOf_eq format pos pos'
    unfold carry
    split_ifs <;> dsimp only <;> omega
  exact ⟨_, _, (round_eq pos pos' nearest).trans (if_pos (inside _)), nearest,
    toRat_carry precise _ _⟩

/-- A quotient that a canonical value attracts is rounded to that value. -/
theorem round_of_attracts {x : Dyadic} (pos : 0 < n) (pos' : 0 < d) (canonical : format.Canonical x)
    (precise : 1 < format.precision) (nonzero : x.significand ≠ 0)
    (attracts : x.Attracts (format.narrowBelow x) (n / d)) : format.round n d = some x := by
  rcases scaleOf_of_attracts pos pos' canonical precise nonzero attracts with
    same | ⟨narrow, lower, below⟩
  · have carried : format.carry x.significand x.scale = x := if_neg canonical.significand_lt.ne
    rw [round_eq pos pos' (same ▸ attracts.isNearest), same, carried, if_pos canonical.scale_le]
  · have least : x.significand = 2 ^ (format.precision - 1) := by
      simp only [narrowBelow, decide_eq_true_eq] at narrow
      exact narrow.1
    have nearest : IsNearest (2 ^ format.precision) (n / d / 2 ^ format.scaleOf n d) := by
      obtain ⟨p, precision⟩ : ∃ p, format.precision = p + 1 := ⟨format.precision - 1, by omega⟩
      have gap := attracts.lower
      have doubled : (n : ℚ) / d / 2 ^ (x.scale - 1) = 2 * (n / d / 2 ^ x.scale) := by
        rw [zpow_sub_one₀ two_ne_zero]
        field_simp
      rw [if_pos narrow, least] at gap
      rw [precision, Nat.add_sub_cancel] at gap below
      rw [lower, doubled, precision]
      generalize (n : ℚ) / d / 2 ^ x.scale = t at gap below
      push_cast [IsNearest, pow_succ] at gap ⊢
      rcases gap.lt_or_eq with near | tie
      · exact .inl (abs_lt.mpr ⟨by linarith, by linarith⟩)
      · refine .inr ⟨?_, by simp⟩
        rw [← tie, abs_of_neg (by linarith)]
        ring
    have carried : format.carry (2 ^ format.precision) (x.scale - 1) = x := by
      rw [carry, if_pos rfl, ← least, sub_add_cancel]
    rw [round_eq pos pos' nearest, lower, carried, if_pos canonical.scale_le]

end BinaryFormat

end

end ShadingGraph
