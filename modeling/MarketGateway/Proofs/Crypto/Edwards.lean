import Mathlib.Algebra.Field.Basic
import Mathlib.Algebra.Group.Even
import Mathlib.Tactic.FieldSimp
import Mathlib.Tactic.LinearCombination
import Mathlib.Tactic.Ring

/-!
# Edwards curves

The points of a curve `-x² + y² = 1 + d x² y²` form a group under addition if `-1` is a square and `d`
is not. The denominators of a sum are never zero then, so that one formula holds for all points. The
certificates of `add_isOn` and `add_assoc` are the quotients of the two sides by the curve equations.
-/

namespace MarketGateway.Crypto

structure EdwardsCurve (F : Type) [Field F] where
  d : F
  /-- A square root of `-1`. -/
  i : F
  i_mul_i : i * i = -1
  not_isSquare : ¬ IsSquare d
  two_ne_zero : (2 : F) ≠ 0

namespace EdwardsCurve

variable {F : Type} [Field F] (E : EdwardsCurve F)

def IsOn (x y : F) : Prop := y ^ 2 - x ^ 2 = 1 + E.d * x ^ 2 * y ^ 2

@[ext] structure Point where
  x : F
  y : F
  isOn : E.IsOn x y

variable {E} {x₁ y₁ x₂ y₂ x₃ y₃ : F}

/-! ### Denominators -/

/-- The curve constant is not the ratio of two squares. -/
theorem eq_zero_of_mul_sq {a b : F} (same : E.d * a ^ 2 = b ^ 2) : a = 0 := by
  by_contra nonzero
  refine E.not_isSquare ⟨b / a, ?_⟩
  field_simp
  linear_combination same

/-- The square of the first coordinate is a fraction with a denominator that is not zero. -/
theorem mul_sq_add_one_ne (E : EdwardsCurve F) (y : F) : E.d * y ^ 2 + 1 ≠ 0 := by
  intro zero
  have ratio : E.d * y ^ 2 = E.i ^ 2 := by linear_combination zero - E.i_mul_i
  rw [eq_zero_of_mul_sq ratio] at zero
  exact one_ne_zero (by linear_combination zero)

/-- The product that stands in the denominators of a sum is neither `1` nor `-1`. -/
theorem product_ne {s : F} (on₁ : E.IsOn x₁ y₁) (on₂ : E.IsOn x₂ y₂) (unit : s ^ 2 = 1) :
    E.d * x₁ * x₂ * y₁ * y₂ ≠ s := by
  intro product
  have root := E.i_mul_i
  have s_ne : s ≠ 0 := by
    rintro rfl
    simp at unit
  -- `d` times a square is a square in two ways, so both roots on the left vanish, and with them the product.
  have below : E.d * (x₁ * y₁ * (E.i * x₂ + y₂)) ^ 2 = (E.i * x₁ + s * y₁) ^ 2 := by
    unfold IsOn at on₁ on₂
    linear_combination (E.d * x₁ ^ 2 * y₁ ^ 2 * x₂ ^ 2 - x₁ ^ 2) * root - on₁ +
      E.d * x₁ ^ 2 * y₁ ^ 2 * on₂ + (E.d * x₁ * x₂ * y₁ * y₂ + s + 2 * E.i * x₁ * y₁) * product +
      (1 - y₁ ^ 2) * unit
  have above : E.d * (x₁ * y₁ * (E.i * x₂ - y₂)) ^ 2 = (E.i * x₁ - s * y₁) ^ 2 := by
    unfold IsOn at on₁ on₂
    linear_combination (E.d * x₁ ^ 2 * y₁ ^ 2 * x₂ ^ 2 - x₁ ^ 2) * root - on₁ +
      E.d * x₁ ^ 2 * y₁ ^ 2 * on₂ + (E.d * x₁ * x₂ * y₁ * y₂ + s - 2 * E.i * x₁ * y₁) * product +
      (1 - y₁ ^ 2) * unit
  have twice : x₁ * y₁ * (2 * y₂) = 0 := by
    linear_combination eq_zero_of_mul_sq below - eq_zero_of_mul_sq above
  apply s_ne
  rcases mul_eq_zero.mp twice with zero | zero
  · linear_combination -product + E.d * x₂ * y₂ * zero
  · have zero := (mul_eq_zero.mp zero).resolve_left E.two_ne_zero
    linear_combination -product + E.d * x₁ * x₂ * y₁ * zero

theorem one_add_ne (on₁ : E.IsOn x₁ y₁) (on₂ : E.IsOn x₂ y₂) :
    1 + E.d * x₁ * x₂ * y₁ * y₂ ≠ 0 := fun zero =>
  product_ne on₁ on₂ neg_one_sq (by linear_combination zero)

theorem one_sub_ne (on₁ : E.IsOn x₁ y₁) (on₂ : E.IsOn x₂ y₂) :
    1 - E.d * x₁ * x₂ * y₁ * y₂ ≠ 0 := fun zero =>
  product_ne on₁ on₂ (one_pow 2) (by linear_combination -zero)

/-! ### Addition -/

variable (E) in
def sumX (x₁ y₁ x₂ y₂ : F) : F := (x₁ * y₂ + x₂ * y₁) / (1 + E.d * x₁ * x₂ * y₁ * y₂)

variable (E) in
def sumY (x₁ y₁ x₂ y₂ : F) : F := (y₁ * y₂ + x₁ * x₂) / (1 - E.d * x₁ * x₂ * y₁ * y₂)

theorem isOn_div {n m p q : F} (hp : p ≠ 0) (hq : q ≠ 0)
    (cleared : m ^ 2 * p ^ 2 - n ^ 2 * q ^ 2 = p ^ 2 * q ^ 2 + E.d * n ^ 2 * m ^ 2) :
    E.IsOn (n / p) (m / q) := by
  unfold IsOn
  field_simp
  linear_combination cleared

theorem add_isOn (on₁ : E.IsOn x₁ y₁) (on₂ : E.IsOn x₂ y₂) :
    E.IsOn (E.sumX x₁ y₁ x₂ y₂) (E.sumY x₁ y₁ x₂ y₂) := by
  refine isOn_div (one_add_ne on₁ on₂) (one_sub_ne on₁ on₂) ?_
  unfold IsOn at on₁ on₂
  linear_combination
    (E.d ^ 3 * x₁ ^ 2 * y₁ ^ 2 * x₂ ^ 4 * y₂ ^ 4 - E.d ^ 2 * x₁ ^ 2 * x₂ ^ 4 * y₂ ^ 4 -
      E.d * x₁ ^ 2 * x₂ ^ 4 * y₂ ^ 2 + E.d * x₁ ^ 2 * x₂ ^ 2 * y₂ ^ 4 +
      E.d ^ 2 * y₁ ^ 2 * x₂ ^ 4 * y₂ ^ 4 + E.d * y₁ ^ 2 * x₂ ^ 4 * y₂ ^ 2 -
      E.d * y₁ ^ 2 * x₂ ^ 2 * y₂ ^ 4 - E.d ^ 2 * x₂ ^ 4 * y₂ ^ 4 - 2 * E.d * x₂ ^ 4 * y₂ ^ 4 -
      2 * x₂ ^ 4 * y₂ ^ 2 + x₂ ^ 4 + 2 * x₂ ^ 2 * y₂ ^ 4 - 2 * E.d * x₂ ^ 2 * y₂ ^ 2 -
      4 * x₂ ^ 2 * y₂ ^ 2 + y₂ ^ 4) * on₁ +
    (E.d * x₁ ^ 4 * x₂ ^ 2 * y₂ ^ 2 + 2 * E.d * x₁ ^ 2 * x₂ ^ 2 * y₂ ^ 2 +
      2 * x₁ ^ 2 * x₂ ^ 2 * y₂ ^ 2 - x₁ ^ 2 * x₂ ^ 2 + x₁ ^ 2 * y₂ ^ 2 +
      E.d * y₁ ^ 4 * x₂ ^ 2 * y₂ ^ 2 - 2 * E.d * y₁ ^ 2 * x₂ ^ 2 * y₂ ^ 2 -
      2 * y₁ ^ 2 * x₂ ^ 2 * y₂ ^ 2 + y₁ ^ 2 * x₂ ^ 2 - y₁ ^ 2 * y₂ ^ 2 + E.d * x₂ ^ 2 * y₂ ^ 2 +
      2 * x₂ ^ 2 * y₂ ^ 2 - x₂ ^ 2 + y₂ ^ 2 + 1) * on₂

theorem sumX_comm (x₁ y₁ x₂ y₂ : F) : E.sumX x₁ y₁ x₂ y₂ = E.sumX x₂ y₂ x₁ y₁ := by
  unfold sumX
  congr 1 <;> ring

theorem sumY_comm (x₁ y₁ x₂ y₂ : F) : E.sumY x₁ y₁ x₂ y₂ = E.sumY x₂ y₂ x₁ y₁ := by
  unfold sumY
  congr 1 <;> ring

theorem sumX_div {n m p q : F} (hp : p ≠ 0) (hq : q ≠ 0) :
    E.sumX (n / p) (m / q) x₃ y₃ =
      (n * q * y₃ + x₃ * (m * p)) / (p * q + E.d * n * m * x₃ * y₃) := by
  have denominator : p * q + E.d * n * m * x₃ * y₃ =
      p * q * (1 + E.d * (n / p) * x₃ * (m / q) * y₃) := by field_simp
  have numerator : n * q * y₃ + x₃ * (m * p) = p * q * (n / p * y₃ + x₃ * (m / q)) := by
    field_simp
  rw [sumX, denominator, numerator, mul_div_mul_left _ _ (mul_ne_zero hp hq)]

theorem sumY_div {n m p q : F} (hp : p ≠ 0) (hq : q ≠ 0) :
    E.sumY (n / p) (m / q) x₃ y₃ =
      (m * p * y₃ + n * q * x₃) / (p * q - E.d * n * m * x₃ * y₃) := by
  have denominator : p * q - E.d * n * m * x₃ * y₃ =
      p * q * (1 - E.d * (n / p) * x₃ * (m / q) * y₃) := by field_simp
  have numerator : m * p * y₃ + n * q * x₃ = p * q * (m / q * y₃ + n / p * x₃) := by
    field_simp
  rw [sumY, denominator, numerator, mul_div_mul_left _ _ (mul_ne_zero hp hq)]

/-- The denominators of a sum with a sum are not zero either when they are cleared. -/
theorem cleared_ne {n m p q : F} (hp : p ≠ 0) (hq : q ≠ 0) (on : E.IsOn (n / p) (m / q))
    (on₃ : E.IsOn x₃ y₃) :
    p * q + E.d * n * m * x₃ * y₃ ≠ 0 ∧ p * q - E.d * n * m * x₃ * y₃ ≠ 0 := by
  have plus : p * q + E.d * n * m * x₃ * y₃ =
      p * q * (1 + E.d * (n / p) * x₃ * (m / q) * y₃) := by field_simp
  have minus : p * q - E.d * n * m * x₃ * y₃ =
      p * q * (1 - E.d * (n / p) * x₃ * (m / q) * y₃) := by field_simp
  rw [plus, minus]
  exact ⟨mul_ne_zero (mul_ne_zero hp hq) (one_add_ne on on₃),
    mul_ne_zero (mul_ne_zero hp hq) (one_sub_ne on on₃)⟩

theorem sumX_sum (on₁ : E.IsOn x₁ y₁) (on₂ : E.IsOn x₂ y₂) (x₃ y₃ : F) :
    E.sumX (E.sumX x₁ y₁ x₂ y₂) (E.sumY x₁ y₁ x₂ y₂) x₃ y₃ =
      ((x₁ * y₂ + x₂ * y₁) * (1 - E.d * x₁ * x₂ * y₁ * y₂) * y₃ +
        x₃ * ((y₁ * y₂ + x₁ * x₂) * (1 + E.d * x₁ * x₂ * y₁ * y₂))) /
      ((1 + E.d * x₁ * x₂ * y₁ * y₂) * (1 - E.d * x₁ * x₂ * y₁ * y₂) +
        E.d * (x₁ * y₂ + x₂ * y₁) * (y₁ * y₂ + x₁ * x₂) * x₃ * y₃) :=
  sumX_div (one_add_ne on₁ on₂) (one_sub_ne on₁ on₂)

theorem sumX_assoc (on₁ : E.IsOn x₁ y₁) (on₂ : E.IsOn x₂ y₂) (on₃ : E.IsOn x₃ y₃) :
    E.sumX (E.sumX x₁ y₁ x₂ y₂) (E.sumY x₁ y₁ x₂ y₂) x₃ y₃ =
      E.sumX x₁ y₁ (E.sumX x₂ y₂ x₃ y₃) (E.sumY x₂ y₂ x₃ y₃) := by
  have left := cleared_ne (one_add_ne on₁ on₂) (one_sub_ne on₁ on₂) (add_isOn on₁ on₂) on₃
  have right := cleared_ne (one_add_ne on₂ on₃) (one_sub_ne on₂ on₃) (add_isOn on₂ on₃) on₁
  rw [sumX_comm x₁ y₁ (E.sumX x₂ y₂ x₃ y₃), sumX_sum on₁ on₂, sumX_sum on₂ on₃,
    div_eq_div_iff left.1 right.1]
  unfold IsOn at on₁ on₂ on₃
  linear_combination
    E.d * x₂ * y₂ * (-E.d * x₁ * x₂ ^ 3 * y₂ ^ 2 * x₃ ^ 2 * y₃ - x₁ * x₂ ^ 3 * x₃ ^ 2 * y₃ -
    E.d * x₁ * x₂ ^ 2 * y₂ ^ 3 * x₃ * y₃ ^ 2 - x₁ * x₂ ^ 2 * y₂ * x₃ ^ 3 -
    x₁ * x₂ ^ 2 * y₂ * x₃ + x₁ * x₂ * y₂ ^ 2 * y₃ ^ 3 - x₁ * x₂ * y₂ ^ 2 * y₃ +
    x₁ * y₂ ^ 3 * x₃ * y₃ ^ 2 + E.d * y₁ * x₂ ^ 3 * y₂ ^ 2 * x₃ * y₃ ^ 2 +
    y₁ * x₂ ^ 3 * x₃ * y₃ ^ 2 + E.d * y₁ * x₂ ^ 2 * y₂ ^ 3 * x₃ ^ 2 * y₃ +
    y₁ * x₂ ^ 2 * y₂ * y₃ ^ 3 - y₁ * x₂ ^ 2 * y₂ * y₃ - y₁ * x₂ * y₂ ^ 2 * x₃ ^ 3 -
    y₁ * x₂ * y₂ ^ 2 * x₃ - y₁ * y₂ ^ 3 * x₃ ^ 2 * y₃) * on₁ +
    E.d * x₂ * y₂ * (x₁ ^ 3 * x₂ * x₃ ^ 2 * y₃ + x₁ ^ 3 * y₂ * x₃ * y₃ ^ 2 - x₁ ^ 2 * y₁ * x₂ * x₃ ^ 3 -
    x₁ ^ 2 * y₁ * x₂ * x₃ - x₁ ^ 2 * y₁ * y₂ * y₃ ^ 3 + x₁ ^ 2 * y₁ * y₂ * y₃ -
    x₁ * y₁ ^ 2 * x₂ * y₃ ^ 3 + x₁ * y₁ ^ 2 * x₂ * y₃ - x₁ * y₁ ^ 2 * y₂ * x₃ ^ 3 -
    x₁ * y₁ ^ 2 * y₂ * x₃ + x₁ * x₂ * x₃ ^ 2 * y₃ + x₁ * y₂ * x₃ * y₃ ^ 2 +
    y₁ ^ 3 * x₂ * x₃ * y₃ ^ 2 + y₁ ^ 3 * y₂ * x₃ ^ 2 * y₃ - y₁ * x₂ * x₃ * y₃ ^ 2 -
    y₁ * y₂ * x₃ ^ 2 * y₃) * on₂ +
    E.d * x₂ * y₂ * (x₁ ^ 3 * x₂ ^ 2 * y₂ * x₃ + x₁ ^ 3 * x₂ * y₂ ^ 2 * y₃ +
    E.d * x₁ ^ 2 * y₁ * x₂ ^ 3 * y₂ ^ 2 * x₃ + x₁ ^ 2 * y₁ * x₂ ^ 3 * x₃ -
    E.d * x₁ ^ 2 * y₁ * x₂ ^ 2 * y₂ ^ 3 * y₃ + x₁ ^ 2 * y₁ * y₂ ^ 3 * y₃ -
    E.d * x₁ * y₁ ^ 2 * x₂ ^ 3 * y₂ ^ 2 * y₃ - x₁ * y₁ ^ 2 * x₂ ^ 3 * y₃ +
    E.d * x₁ * y₁ ^ 2 * x₂ ^ 2 * y₂ ^ 3 * x₃ - x₁ * y₁ ^ 2 * y₂ ^ 3 * x₃ +
    x₁ * x₂ ^ 2 * y₂ * x₃ + x₁ * x₂ * y₂ ^ 2 * y₃ - y₁ ^ 3 * x₂ ^ 2 * y₂ * y₃ -
    y₁ ^ 3 * x₂ * y₂ ^ 2 * x₃ + y₁ * x₂ ^ 2 * y₂ * y₃ + y₁ * x₂ * y₂ ^ 2 * x₃) * on₃

theorem sumY_sum (on₁ : E.IsOn x₁ y₁) (on₂ : E.IsOn x₂ y₂) (x₃ y₃ : F) :
    E.sumY (E.sumX x₁ y₁ x₂ y₂) (E.sumY x₁ y₁ x₂ y₂) x₃ y₃ =
      ((y₁ * y₂ + x₁ * x₂) * (1 + E.d * x₁ * x₂ * y₁ * y₂) * y₃ +
        (x₁ * y₂ + x₂ * y₁) * (1 - E.d * x₁ * x₂ * y₁ * y₂) * x₃) /
      ((1 + E.d * x₁ * x₂ * y₁ * y₂) * (1 - E.d * x₁ * x₂ * y₁ * y₂) -
        E.d * (x₁ * y₂ + x₂ * y₁) * (y₁ * y₂ + x₁ * x₂) * x₃ * y₃) :=
  sumY_div (one_add_ne on₁ on₂) (one_sub_ne on₁ on₂)

theorem sumY_assoc (on₁ : E.IsOn x₁ y₁) (on₂ : E.IsOn x₂ y₂) (on₃ : E.IsOn x₃ y₃) :
    E.sumY (E.sumX x₁ y₁ x₂ y₂) (E.sumY x₁ y₁ x₂ y₂) x₃ y₃ =
      E.sumY x₁ y₁ (E.sumX x₂ y₂ x₃ y₃) (E.sumY x₂ y₂ x₃ y₃) := by
  have left := cleared_ne (one_add_ne on₁ on₂) (one_sub_ne on₁ on₂) (add_isOn on₁ on₂) on₃
  have right := cleared_ne (one_add_ne on₂ on₃) (one_sub_ne on₂ on₃) (add_isOn on₂ on₃) on₁
  rw [sumY_comm x₁ y₁ (E.sumX x₂ y₂ x₃ y₃), sumY_sum on₁ on₂, sumY_sum on₂ on₃,
    div_eq_div_iff left.2 right.2]
  unfold IsOn at on₁ on₂ on₃
  linear_combination
    E.d * x₂ * y₂ * (E.d * x₁ * x₂ ^ 3 * y₂ ^ 2 * x₃ * y₃ ^ 2 + x₁ * x₂ ^ 3 * x₃ * y₃ ^ 2 +
    E.d * x₁ * x₂ ^ 2 * y₂ ^ 3 * x₃ ^ 2 * y₃ + x₁ * x₂ ^ 2 * y₂ * y₃ ^ 3 -
    x₁ * x₂ ^ 2 * y₂ * y₃ - x₁ * x₂ * y₂ ^ 2 * x₃ ^ 3 - x₁ * x₂ * y₂ ^ 2 * x₃ -
    x₁ * y₂ ^ 3 * x₃ ^ 2 * y₃ - E.d * y₁ * x₂ ^ 3 * y₂ ^ 2 * x₃ ^ 2 * y₃ -
    y₁ * x₂ ^ 3 * x₃ ^ 2 * y₃ - E.d * y₁ * x₂ ^ 2 * y₂ ^ 3 * x₃ * y₃ ^ 2 -
    y₁ * x₂ ^ 2 * y₂ * x₃ ^ 3 - y₁ * x₂ ^ 2 * y₂ * x₃ + y₁ * x₂ * y₂ ^ 2 * y₃ ^ 3 -
    y₁ * x₂ * y₂ ^ 2 * y₃ + y₁ * y₂ ^ 3 * x₃ * y₃ ^ 2) * on₁ +
    E.d * x₂ * y₂ * (-x₁ ^ 3 * x₂ * x₃ * y₃ ^ 2 - x₁ ^ 3 * y₂ * x₃ ^ 2 * y₃ + x₁ ^ 2 * y₁ * x₂ * y₃ ^ 3 -
    x₁ ^ 2 * y₁ * x₂ * y₃ + x₁ ^ 2 * y₁ * y₂ * x₃ ^ 3 + x₁ ^ 2 * y₁ * y₂ * x₃ +
    x₁ * y₁ ^ 2 * x₂ * x₃ ^ 3 + x₁ * y₁ ^ 2 * x₂ * x₃ + x₁ * y₁ ^ 2 * y₂ * y₃ ^ 3 -
    x₁ * y₁ ^ 2 * y₂ * y₃ - x₁ * x₂ * x₃ * y₃ ^ 2 - x₁ * y₂ * x₃ ^ 2 * y₃ -
    y₁ ^ 3 * x₂ * x₃ ^ 2 * y₃ - y₁ ^ 3 * y₂ * x₃ * y₃ ^ 2 + y₁ * x₂ * x₃ ^ 2 * y₃ +
    y₁ * y₂ * x₃ * y₃ ^ 2) * on₂ +
    E.d * x₂ * y₂ * (x₁ ^ 3 * x₂ ^ 2 * y₂ * y₃ + x₁ ^ 3 * x₂ * y₂ ^ 2 * x₃ +
    E.d * x₁ ^ 2 * y₁ * x₂ ^ 3 * y₂ ^ 2 * y₃ + x₁ ^ 2 * y₁ * x₂ ^ 3 * y₃ -
    E.d * x₁ ^ 2 * y₁ * x₂ ^ 2 * y₂ ^ 3 * x₃ + x₁ ^ 2 * y₁ * y₂ ^ 3 * x₃ -
    E.d * x₁ * y₁ ^ 2 * x₂ ^ 3 * y₂ ^ 2 * x₃ - x₁ * y₁ ^ 2 * x₂ ^ 3 * x₃ +
    E.d * x₁ * y₁ ^ 2 * x₂ ^ 2 * y₂ ^ 3 * y₃ - x₁ * y₁ ^ 2 * y₂ ^ 3 * y₃ +
    x₁ * x₂ ^ 2 * y₂ * y₃ + x₁ * x₂ * y₂ ^ 2 * x₃ - y₁ ^ 3 * x₂ ^ 2 * y₂ * x₃ -
    y₁ ^ 3 * x₂ * y₂ ^ 2 * y₃ + y₁ * x₂ ^ 2 * y₂ * x₃ + y₁ * x₂ * y₂ ^ 2 * y₃) * on₃

/-! ### The group -/

namespace Point

instance : Zero E.Point := ⟨⟨0, 1, by simp [IsOn]⟩⟩

instance : Add E.Point :=
  ⟨fun P Q => ⟨E.sumX P.x P.y Q.x Q.y, E.sumY P.x P.y Q.x Q.y, add_isOn P.isOn Q.isOn⟩⟩

instance : Neg E.Point := ⟨fun P => ⟨-P.x, P.y, by simpa [IsOn] using P.isOn⟩⟩

variable (P Q : E.Point)

@[simp] theorem zero_x : (0 : E.Point).x = 0 := rfl

@[simp] theorem zero_y : (0 : E.Point).y = 1 := rfl

@[simp] theorem neg_x : (-P).x = -P.x := rfl

@[simp] theorem neg_y : (-P).y = P.y := rfl

theorem add_x : (P + Q).x = E.sumX P.x P.y Q.x Q.y := rfl

theorem add_y : (P + Q).y = E.sumY P.x P.y Q.x Q.y := rfl

protected theorem add_comm : P + Q = Q + P :=
  Point.ext (sumX_comm P.x P.y Q.x Q.y) (sumY_comm P.x P.y Q.x Q.y)

protected theorem add_assoc (R : E.Point) : P + Q + R = P + (Q + R) :=
  Point.ext (sumX_assoc P.isOn Q.isOn R.isOn) (sumY_assoc P.isOn Q.isOn R.isOn)

protected theorem zero_add : 0 + P = P := by
  ext <;> simp [add_x, add_y, sumX, sumY]

protected theorem neg_add_cancel : -P + P = 0 := by
  have minus := one_sub_ne (-P).isOn P.isOn
  ext
  · simp [add_x, sumX, mul_comm]
  · rw [add_y, sumY, zero_y, div_eq_one_iff_eq minus]
    have on := P.isOn
    unfold IsOn at on
    rw [neg_x, neg_y]
    linear_combination on

instance : AddCommGroup E.Point where
  add_assoc := Point.add_assoc
  zero_add := Point.zero_add
  add_zero P := by rw [Point.add_comm, Point.zero_add]
  nsmul := nsmulRec
  zsmul := zsmulRec
  neg_add_cancel := Point.neg_add_cancel
  add_comm := Point.add_comm

end Point

end EdwardsCurve

end MarketGateway.Crypto
