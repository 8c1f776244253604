import Mathlib.Algebra.Order.Field.Basic
import Mathlib.Algebra.Order.Field.Rat
import Mathlib.Tactic.FieldSimp
import Mathlib.Tactic.Linarith
import Mathlib.Tactic.Ring
import MarketGateway.Decimal.Arithmetic

/-!
# Range of decimal arithmetic

A sum, difference or product has a result unless the exact one would have to be rounded to 2^96 or
more: `add_eq_none_iff`, `sub_eq_none_iff` and `mul_eq_none_iff`.
-/

namespace MarketGateway.Decimal

/-- The number that a decimal stands for. -/
def toRat (d : Decimal) : ℚ := d.coefficient / (10 : ℚ) ^ d.scale

/-- Half a unit past the largest decimal, or more. -/
def IsTooLarge (x : ℚ) : Prop := 2 ^ 96 - 1 / 2 ≤ |x|

/-! ### Rounding -/

/-- A tie below an even number is rounded up to it. -/
theorem le_roundHalfEven_iff {bound divisor : Nat} (n : Nat) (even : bound % 2 = 0)
    (positive : 0 < bound) (divides : 0 < divisor) :
    bound ≤ roundHalfEven n divisor ↔ (2 * bound - 1) * divisor ≤ 2 * n := by
  have split : divisor * (n / divisor) + n % divisor = n := Nat.div_add_mod n divisor
  have small : n % divisor < divisor := Nat.mod_lt n divides
  unfold roundHalfEven
  dsimp only
  generalize n / divisor = quotient at split ⊢
  generalize n % divisor = rest at split small ⊢
  obtain ⟨half, rfl⟩ : ∃ half, bound = half + 1 := ⟨bound - 1, by omega⟩
  have middle : (2 * (half + 1) - 1) * divisor = 2 * (divisor * half) + divisor := by
    rw [show 2 * (half + 1) - 1 = 2 * half + 1 by omega]
    ring
  rw [middle]
  -- One below the bound the rest decides; the quotient is odd there, so that a tie is rounded up.
  rcases Nat.lt_trichotomy quotient half with below | rfl | above
  · have far : divisor * (quotient + 1) ≤ divisor * half := Nat.mul_le_mul_left divisor below
    rw [Nat.mul_add_one] at far
    split <;> omega
  · have odd : quotient % 2 = 1 := by omega
    simp only [odd, beq_self_eq_true, Bool.and_true, Bool.or_eq_true, decide_eq_true_eq, beq_iff_eq]
    split <;> omega
  · have far : divisor * (half + 1) ≤ divisor * quotient := Nat.mul_le_mul_left divisor above
    rw [Nat.mul_add_one] at far
    split <;> omega

theorem shorten?_eq_none_iff {n scale places : Nat} :
    shorten? n scale places = none ↔
      (2 ^ 97 - 1) * 10 ^ places ≤ 2 * n ∨ 28 < scale - places := by
  have divides : 0 < 10 ^ places := Nat.pow_pos (by decide)
  have even : 2 ^ 96 % 2 = 0 := by decide
  have rounded := le_roundHalfEven_iff n even (by decide) divides
  rw [shorten?, dite_eq_right_iff]
  simp only [reduceCtorEq, imp_false, not_and_or, not_lt, not_le, rounded]

/-- Rounding off all digits behind the point makes a number as small as it gets. -/
theorem fit?_eq_none_iff {n scale : Nat} :
    fit? n scale = none ↔ (2 ^ 97 - 1) * 10 ^ scale ≤ 2 * n := by
  simp only [fit?, List.findSome?_eq_none_iff, List.mem_range, shorten?_eq_none_iff]
  constructor
  · intro none
    rcases none scale (Nat.lt_succ_self scale) with large | deep
    · exact large
    · omega
  · intro large places within
    have fewer : 10 ^ places ≤ 10 ^ scale := Nat.pow_le_pow_right (by decide) (by omega)
    exact .inl ((Nat.mul_le_mul_left (2 ^ 97 - 1) fewer).trans large)

theorem isTooLarge_div_iff {n scale : Nat} {x : ℚ} (size : |x| = (n : ℚ) / (10 : ℚ) ^ scale) :
    IsTooLarge x ↔ (2 ^ 97 - 1) * 10 ^ scale ≤ 2 * n := by
  have positive : (0 : ℚ) < (10 : ℚ) ^ scale := by positivity
  have cast : (2 ^ 97 - 1) * 10 ^ scale ≤ 2 * n ↔
      ((2 : ℚ) ^ 97 - 1) * (10 : ℚ) ^ scale ≤ 2 * n := by
    rw [← Nat.cast_le (α := ℚ)]
    push_cast
    norm_num
  rw [IsTooLarge, size, cast, le_div_iff₀ positive]
  constructor <;> intro le <;> linarith

theorem fit?_eq_none_iff_isTooLarge {n scale : Nat} {x : ℚ}
    (size : |x| = (n : ℚ) / (10 : ℚ) ^ scale) : fit? n scale = none ↔ IsTooLarge x := by
  rw [fit?_eq_none_iff, isTooLarge_div_iff size]

/-! ### Decimals in numbers -/

theorem natAbs_coefficient (d : Decimal) : d.coefficient.natAbs = d.value := by
  unfold coefficient
  split <;> simp

theorem abs_toRat (d : Decimal) : |d.toRat| = (d.value : ℚ) / (10 : ℚ) ^ d.scale := by
  have positive : (0 : ℚ) < (10 : ℚ) ^ d.scale := by positivity
  rw [toRat, abs_div, abs_of_pos positive, ← natAbs_coefficient d, Nat.cast_natAbs, Int.cast_abs]

theorem toRat_neg (d : Decimal) : d.neg.toRat = -d.toRat := by
  unfold toRat coefficient neg
  cases d.negative <;> simp [neg_div]

theorem isZero_iff {d : Decimal} : d.isZero = true ↔ d.value = 0 := by simp [isZero]

theorem toRat_of_isZero {d : Decimal} (zero : d.isZero = true) : d.toRat = 0 := by
  rw [← abs_eq_zero, abs_toRat, isZero_iff.mp zero]
  simp

theorem not_isTooLarge_zero : ¬ IsTooLarge 0 := by
  rw [IsTooLarge]
  norm_num

theorem not_isTooLarge_toRat (d : Decimal) : ¬ IsTooLarge d.toRat := by
  have small := d.value_lt
  have one : 1 ≤ 10 ^ d.scale := Nat.one_le_pow _ _ (by decide)
  rw [isTooLarge_div_iff (abs_toRat d)]
  intro large
  have := Nat.mul_le_mul_left (2 ^ 97 - 1) one
  omega

/-! ### Products -/

theorem abs_mul_toRat (a b : Decimal) :
    |a.toRat * b.toRat| = ((a.value * b.value : Nat) : ℚ) / (10 : ℚ) ^ (a.scale + b.scale) := by
  rw [abs_mul, abs_toRat, abs_toRat, div_mul_div_comm, pow_add]
  push_cast
  rfl

theorem mul_eq_none_iff (a b : Decimal) : a.mul b = none ↔ IsTooLarge (a.toRat * b.toRat) := by
  have wide := fit?_eq_none_iff_isTooLarge (abs_mul_toRat a b)
  unfold mul
  dsimp only
  split
  · rename_i zero
    have product : a.toRat * b.toRat = 0 := by
      rcases Bool.or_eq_true_iff.mp zero with left | right
      · rw [toRat_of_isZero left, zero_mul]
      · rw [toRat_of_isZero right, mul_zero]
    simp [product, not_isTooLarge_zero]
  · split
    · rename_i narrow
      split
      · -- The product of one-word factors is in range, however far below the point it lies.
        have bound : a.value * b.value ≤ 2 ^ 32 * 2 ^ 32 :=
          Nat.mul_le_mul (by omega) (by omega)
        have one : 1 ≤ 10 ^ (a.scale + b.scale) := Nat.one_le_pow _ _ (by decide)
        have scaled := Nat.mul_le_mul_left (2 ^ 97 - 1) one
        rw [isTooLarge_div_iff (abs_mul_toRat a b)]
        simp only [reduceCtorEq, false_iff, not_le]
        omega
      · rw [Option.map_eq_none_iff, wide]
    · rw [Option.map_eq_none_iff, wide]

/-! ### Sums and differences -/

theorem exactSum_toRat (a b : Decimal) :
    (exactSum a b : ℚ) / (10 : ℚ) ^ (max a.scale b.scale) = a.toRat + b.toRat := by
  have part : ∀ (c : Int) {scale : Nat}, scale ≤ max a.scale b.scale →
      ((c * 10 ^ (max a.scale b.scale - scale) : Int) : ℚ) / (10 : ℚ) ^ (max a.scale b.scale) =
        (c : ℚ) / (10 : ℚ) ^ scale := by
    intro c scale le
    have powers : (10 : ℚ) ^ (max a.scale b.scale) =
        (10 : ℚ) ^ (max a.scale b.scale - scale) * (10 : ℚ) ^ scale := by
      rw [← pow_add, Nat.sub_add_cancel le]
    rw [powers]
    push_cast
    field_simp
  rw [exactSum, Int.cast_add, add_div, part _ (Nat.le_max_left ..), part _ (Nat.le_max_right ..)]
  rfl

theorem ofExact?_eq_none_iff (a b : Decimal) :
    ofExact? (exactSum a b) (max a.scale b.scale) = none ↔ IsTooLarge (a.toRat + b.toRat) := by
  have positive : (0 : ℚ) < (10 : ℚ) ^ (max a.scale b.scale) := by positivity
  have size : |a.toRat + b.toRat| =
      ((exactSum a b).natAbs : ℚ) / (10 : ℚ) ^ (max a.scale b.scale) := by
    rw [← exactSum_toRat, abs_div, abs_of_pos positive, Nat.cast_natAbs, Int.cast_abs]
  rw [ofExact?, Option.map_eq_none_iff, fit?_eq_none_iff_isTooLarge size]

theorem add_eq_none_iff (a b : Decimal) : a.add b = none ↔ IsTooLarge (a.toRat + b.toRat) := by
  unfold add
  split
  · rename_i zero
    simp [toRat_of_isZero zero, not_isTooLarge_toRat b]
  · split
    · rename_i zero
      simp [toRat_of_isZero zero, not_isTooLarge_toRat a]
    · exact ofExact?_eq_none_iff a b

theorem sub_eq_none_iff (a b : Decimal) : a.sub b = none ↔ IsTooLarge (a.toRat - b.toRat) := by
  have opposite : a.toRat - b.toRat = a.toRat + b.neg.toRat := by rw [toRat_neg, sub_eq_add_neg]
  rw [opposite]
  unfold sub
  split
  · rename_i zero
    simp [toRat_of_isZero zero, not_isTooLarge_toRat b.neg]
  · split
    · rename_i zero
      simp [toRat_neg, toRat_of_isZero zero, not_isTooLarge_toRat a]
    · exact ofExact?_eq_none_iff a b.neg

theorem add_exists {a b : Decimal} (fits : ¬ IsTooLarge (a.toRat + b.toRat)) : ∃ s, a.add b = some s :=
  Option.ne_none_iff_exists'.mp (mt (add_eq_none_iff a b).mp fits)

theorem sub_exists {a b : Decimal} (fits : ¬ IsTooLarge (a.toRat - b.toRat)) : ∃ d, a.sub b = some d :=
  Option.ne_none_iff_exists'.mp (mt (sub_eq_none_iff a b).mp fits)

end MarketGateway.Decimal
