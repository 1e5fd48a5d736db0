import Mathlib.Data.Nat.GCD.Basic
import Mathlib.Tactic.Linarith
import Mathlib.Tactic.LinearCombination
import Mathlib.Tactic.Ring
import Mathlib.Tactic.Zify
import ShadingGraph.Number.Rounding

/-! # Multiples of powers of ten

A small multiple of a power of ten is compared with the numbers that have one digit more
than single precision. It differs from each of them by more than double precision can
blur, or it is one of them; a single multiple of `10 ^ (-32)` comes closer.

Between neighbouring fractions there is none with a small denominator. So neighbours
around the power of ten that differ enough from it keep all small multiples apart. They
are searched for without proof, and then checked.
-/

namespace ShadingGraph

/-- A fraction between neighbours has no smaller a denominator than both together. -/
theorem add_le_of_between {a b c d n m : ℕ} (neighbours : c * b = a * d + 1) (above : a * m < n * b)
    (below : n * d < c * m) : b + d ≤ m := by
  zify at *
  have split : (m : ℤ) = b * (c * m - n * d) + d * (n * b - a * m) := by
    linear_combination (-m : ℤ) * neighbours
  have left : (1 : ℤ) ≤ c * m - n * d := by linarith
  have right : (1 : ℤ) ≤ n * b - a * m := by linarith
  have b' := mul_le_mul_of_nonneg_left left (Int.natCast_nonneg b)
  have d' := mul_le_mul_of_nonneg_left right (Int.natCast_nonneg d)
  linarith

/-- Whether `m * (p / q)` differs from `n` by more than three roundings to double
precision. -/
def Clear (p q m n : ℕ) : Prop :=
  n * q * 2 ^ 53 < m * p * (2 ^ 53 - 3) ∨ m * p * (2 ^ 53 + 3) < n * q * 2 ^ 53

/-- Two fractions, each with its numerator first. -/
structure Neighbours where
  lower : ℕ × ℕ
  upper : ℕ × ℕ

namespace Neighbours

section

variable (p q : ℕ) (pair : Neighbours)

/-- Whether the fractions are neighbours, so close that the multiples of `p / q` by the
denominators between them reach `2 ^ 25`. -/
def Tight : Prop :=
  pair.upper.1 * pair.lower.2 = pair.lower.1 * pair.upper.2 + 1 ∧
    2 ^ 25 * q ≤ (pair.lower.2 + pair.upper.2) * p

/-- Whether the lower fraction differs enough from `p / q`. -/
def ClearBelow : Prop :=
  pair.lower.1 * q * 2 ^ 53 < pair.lower.2 * p * (2 ^ 53 - 3)

def ClearAbove : Prop :=
  pair.upper.2 * p * (2 ^ 53 + 3) < pair.upper.1 * q * 2 ^ 53

instance : Decidable (pair.Tight p q) := inferInstanceAs (Decidable (_ ∧ _))

instance : Decidable (pair.ClearBelow p q) := inferInstanceAs (Decidable (_ < _))

instance : Decidable (pair.ClearAbove p q) := inferInstanceAs (Decidable (_ < _))

/-- The neighbours of `p / q` that are close enough: the fraction between the two takes the
place of one of them. -/
def search (p q : ℕ) : ℕ → Neighbours → Neighbours
  | 0, pair => pair
  | steps + 1, ⟨(a, b), (c, d)⟩ =>
    if 2 ^ 25 * q ≤ (b + d) * p then ⟨(a, b), (c, d)⟩
    else if (a + c) * q < p * (b + d) then search p q steps ⟨(a + c, b + d), (c, d)⟩
    else search p q steps ⟨(a, b), (a + c, b + d)⟩

end

variable {p q m n : ℕ} {pair : Neighbours}

theorem Tight.outside (tight : pair.Tight p q) (small : m * p < 2 ^ 25 * q) :
    n * pair.lower.2 ≤ pair.lower.1 * m ∨ pair.upper.1 * m ≤ n * pair.upper.2 := by
  by_contra inside
  rw [not_or, not_le, not_le] at inside
  have := add_le_of_between tight.1 inside.1 inside.2
  have := (tight.2.trans (Nat.mul_le_mul_right p this)).trans_lt small
  exact this.false

theorem ClearBelow.clear (clear : pair.ClearBelow p q) (pos : 0 < m)
    (below : n * pair.lower.2 ≤ pair.lower.1 * m) : Clear p q m n := by
  refine .inl (Nat.lt_of_mul_lt_mul_left (a := pair.lower.2) ?_)
  calc pair.lower.2 * (n * q * 2 ^ 53) = n * pair.lower.2 * (q * 2 ^ 53) := by ring
    _ ≤ pair.lower.1 * m * (q * 2 ^ 53) := Nat.mul_le_mul_right _ below
    _ = m * (pair.lower.1 * q * 2 ^ 53) := by ring
    _ < m * (pair.lower.2 * p * (2 ^ 53 - 3)) := Nat.mul_lt_mul_of_pos_left clear pos
    _ = pair.lower.2 * (m * p * (2 ^ 53 - 3)) := by ring

theorem ClearAbove.clear (clear : pair.ClearAbove p q) (pos : 0 < m)
    (above : pair.upper.1 * m ≤ n * pair.upper.2) : Clear p q m n := by
  refine .inr (Nat.lt_of_mul_lt_mul_left (a := pair.upper.2) ?_)
  calc pair.upper.2 * (m * p * (2 ^ 53 + 3)) = m * (pair.upper.2 * p * (2 ^ 53 + 3)) := by ring
    _ < m * (pair.upper.1 * q * 2 ^ 53) := Nat.mul_lt_mul_of_pos_left clear pos
    _ = pair.upper.1 * m * (q * 2 ^ 53) := by ring
    _ ≤ n * pair.upper.2 * (q * 2 ^ 53) := Nat.mul_le_mul_right _ above
    _ = pair.upper.2 * (n * q * 2 ^ 53) := by ring

end Neighbours

theorem add_le_of_dvd {g a b : ℕ} (left : g ∣ a) (right : g ∣ b) (less : a < b) : a + g ≤ b := by
  have := Nat.le_of_dvd (Nat.sub_pos_of_lt less) (Nat.dvd_sub right left)
  omega

/-- The multiples of a fraction with a small denominator are integers or well away from
them. -/
theorem clear_or_eq {p q m n : ℕ} (coarse : 3 * q < 2 ^ 28 * Nat.gcd p q)
    (small : m * p < 2 ^ 25 * q) : Clear p q m n ∨ m * p = n * q := by
  have left : p.gcd q ∣ m * p := (Nat.gcd_dvd_left p q).mul_left m
  have right : p.gcd q ∣ n * q := (Nat.gcd_dvd_right p q).mul_left n
  rcases lt_trichotomy (m * p) (n * q) with less | same | more
  · have := add_le_of_dvd left right less
    exact .inl (.inr (by omega))
  · exact .inr same
  · have := add_le_of_dvd right left more
    exact .inl (.inl (by omega))

/-- Scale of the second of the two binary digits that the power of ten begins with. -/
def pairScale (k : ℤ) : ℤ :=
  floorLog2 (Nat.pow 10 k.toNat) (Nat.pow 10 (-k).toNat) - 1

/-- Numerator of `10 ^ k` in units of its scale. -/
def unitNumerator (k : ℤ) : ℕ :=
  Nat.pow 10 k.toNat * Nat.pow 2 (-pairScale k).toNat

def unitDenominator (k : ℤ) : ℕ :=
  Nat.pow 10 (-k).toNat * Nat.pow 2 (pairScale k).toNat

/-- What is found around a power of ten. -/
def unitNeighbours (k : ℤ) : Neighbours :=
  Neighbours.search (unitNumerator k) (unitDenominator k) 2000 ⟨(0, 1), (1, 0)⟩

def UnitChecked (k : ℤ) : Prop :=
  unitNumerator k * 128 ≤ unitDenominator k * 511 ∧
    if k.natAbs ≤ 10 then 3 * unitDenominator k < 2 ^ 28 * Nat.gcd (unitNumerator k) (unitDenominator k)
    else k = -32 ∨ (unitNeighbours k).Tight (unitNumerator k) (unitDenominator k) ∧
      (unitNeighbours k).ClearBelow (unitNumerator k) (unitDenominator k) ∧
      (unitNeighbours k).ClearAbove (unitNumerator k) (unitDenominator k)

instance (k : ℤ) : Decidable (UnitChecked k) := inferInstanceAs (Decidable (_ ∧ _))

/-- Powers of ten that decimals of single-precision numbers have. -/
def UsualPower (k : ℤ) : Prop :=
  -54 ≤ k ∧ k ≤ 38

theorem unitChecked {k : ℤ} (usual : UsualPower k) : UnitChecked k := by
  have all : ∀ i < 93, UnitChecked ((i : ℕ) - 54) := by decide +kernel
  obtain ⟨low, high⟩ := usual
  obtain ⟨i, rfl⟩ : ∃ i : ℕ, k = i - 54 := ⟨(k + 54).toNat, by omega⟩
  exact all i (by omega)

/-- The one multiple of a power of ten that comes closer to an integer. -/
def IsClose (k : ℤ) (m : ℕ) : Prop :=
  k = -32 ∧ m = 7038531

/-- The fraction that is too close to that power of ten, with its neighbours on both
sides. -/
def closeNeighbours : Neighbours × Neighbours :=
  (⟨(14495598, 4466801), (22841339, 7038531)⟩, ⟨(22841339, 7038531), (31187080, 9610261)⟩)

theorem clear_or_close {m n : ℕ} (pos : 0 < m)
    (small : m * unitNumerator (-32) < 2 ^ 25 * unitDenominator (-32)) :
    Clear (unitNumerator (-32)) (unitDenominator (-32)) m n ∨ m = 7038531 := by
  have tight : closeNeighbours.1.Tight (unitNumerator (-32)) (unitDenominator (-32)) := by decide +kernel
  have tight' : closeNeighbours.2.Tight (unitNumerator (-32)) (unitDenominator (-32)) := by decide +kernel
  have below : closeNeighbours.1.ClearBelow (unitNumerator (-32)) (unitDenominator (-32)) := by
    decide +kernel
  have above : closeNeighbours.2.ClearAbove (unitNumerator (-32)) (unitDenominator (-32)) := by
    decide +kernel
  rcases tight.outside small (n := n) with lower | atLeast
  · exact .inl (below.clear pos lower)
  rcases tight'.outside small (n := n) with atMost | upper
  · right
    have same : 22841339 * m = n * 7038531 := le_antisymm atLeast atMost
    obtain ⟨j, rfl⟩ : 7038531 ∣ m :=
      (by decide : Nat.Coprime 7038531 22841339).dvd_of_dvd_mul_left ⟨n, by rw [same, mul_comm]⟩
    have twice : 2 ^ 25 * unitDenominator (-32) ≤ 7038531 * 2 * unitNumerator (-32) := by decide +kernel
    have : j < 2 := by
      by_contra more
      have := Nat.mul_le_mul_right (unitNumerator (-32)) (Nat.mul_le_mul_left 7038531 (not_lt.mp more))
      omega
    have : j = 1 := by omega
    rw [this, mul_one]
  · exact .inl (above.clear pos upper)

/-- A multiple of a power of ten below `2 ^ 25` units is an integer or well away from all
integers, but for one. -/
theorem unit_clear {k : ℤ} (usual : UsualPower k) {m n : ℕ} (pos : 0 < m)
    (small : m * unitNumerator k < 2 ^ 25 * unitDenominator k) :
    Clear (unitNumerator k) (unitDenominator k) m n ∨
      k.natAbs ≤ 10 ∧ m * unitNumerator k = n * unitDenominator k ∨ IsClose k m := by
  have checked := (unitChecked usual).2
  split_ifs at checked with few
  · exact (clear_or_eq checked small).imp_right fun same => .inl ⟨few, same⟩
  · rcases checked with rfl | ⟨tight, below, above⟩
    · exact (clear_or_close pos small).imp_right fun close => .inr ⟨rfl, close⟩
    · rcases tight.outside small with lower | upper
      · exact .inl (below.clear pos lower)
      · exact .inl (above.clear pos upper)

end ShadingGraph
