import MarketGateway.Proofs.Crypto.Edwards
import MarketGateway.Proofs.Crypto.Primality
import Mathlib.NumberTheory.LegendreSymbol.Basic

/-!
# The field and the curve

The arithmetic of `sub`, `mul`, `pow` and `inverse` is that of the integers modulo the prime of the
field, and `curve` is the Edwards curve over it with the curve constant.
-/

namespace MarketGateway.Crypto.Ed25519

abbrev Residue : Type := ZMod fieldPrime

instance : Fact fieldPrime.Prime := ⟨fieldPrime_prime⟩

theorem fieldPrime_pos : 0 < fieldPrime := fieldPrime_prime.pos

theorem fieldPrime_lt : fieldPrime < 2 ^ 255 := by decide

/-! ### Arithmetic -/

theorem mul_lt (a b : Nat) : mul a b < fieldPrime := Nat.mod_lt _ fieldPrime_pos

theorem sub_lt (a b : Nat) : sub a b < fieldPrime := Nat.mod_lt _ fieldPrime_pos

@[simp] theorem mul_cast (a b : Nat) : (mul a b : Residue) = a * b := by
  simp [mul]

theorem sub_cast {a b : Nat} (small : b ≤ fieldPrime) : (sub a b : Residue) = a - b := by
  rw [sub, ZMod.natCast_mod, Nat.cast_sub (small.trans (Nat.le_add_left _ _)), Nat.cast_add,
    ZMod.natCast_self, add_zero]

theorem pow_cast (a : Nat) {n : Nat} (small : n < 2 ^ 256) : (pow a n : Residue) = (a : Residue) ^ n := by
  have computed := foldr_bits (fun (r : Nat) k => (r : Residue) = (a : Residue) ^ k)
    (fun r => mul r r) (fun r => mul r a) 1 (by simp)
    (fun r k same => by simp [same, two_mul, pow_add]) (fun r k same => by simp [same, pow_succ]) 256 n
  rw [Nat.mod_eq_of_lt small] at computed
  exact computed

theorem inverse_cast (a : Nat) : (inverse a : Residue) = (a : Residue)⁻¹ := by
  rw [inverse, pow_cast a (by decide)]
  by_cases zero : (a : Residue) = 0
  · rw [zero, inv_zero, zero_pow (by decide)]
  · have one : (a : Residue) ^ (fieldPrime - 2) * a = 1 := by
      rw [← pow_succ]
      exact ZMod.pow_card_sub_one_eq_one zero
    exact eq_inv_of_mul_eq_one_left one

/-- Reduced numbers are equal when they stand for the same residue. -/
theorem eq_of_cast_eq {a b : Nat} (ha : a < fieldPrime) (hb : b < fieldPrime)
    (same : (a : Residue) = b) : a = b := by
  rw [ZMod.natCast_eq_natCast_iff', Nat.mod_eq_of_lt ha, Nat.mod_eq_of_lt hb] at same
  exact same

theorem eq_val_of_cast_eq {a : Nat} {x : Residue} (reduced : a < fieldPrime) (same : (a : Residue) = x) :
    a = x.val := by
  rw [← same, ZMod.val_cast_of_lt reduced]

theorem neg_one_cast : ((fieldPrime - 1 : Nat) : Residue) = -1 := by
  rw [Nat.cast_sub fieldPrime_pos, ZMod.natCast_self]
  simp

theorem one_ne_neg_one : (1 : Residue) ≠ -1 := by
  intro same
  rw [← neg_one_cast, ← Nat.cast_one] at same
  exact absurd (eq_of_cast_eq (by decide) (by decide) same) (by decide)

/-! ### The curve -/

/-- Two is not a square, so that its power is a root of `-1`. -/
theorem two_pow_half : (2 : Residue) ^ ((fieldPrime - 1) / 2) = -1 := by
  have computed : pow 2 ((fieldPrime - 1) / 2) = fieldPrime - 1 := by decide +kernel
  have same : (pow 2 ((fieldPrime - 1) / 2) : Residue) = -1 := by rw [computed, neg_one_cast]
  rw [pow_cast 2 (by decide), Nat.cast_ofNat] at same
  exact same

theorem curveConstant_not_isSquare : ¬ IsSquare (curveConstant : Residue) := by
  have computed : pow curveConstant (fieldPrime / 2) = fieldPrime - 1 := by decide +kernel
  have nonzero : (curveConstant : Residue) ≠ 0 := by
    intro zero
    rw [← Nat.cast_zero] at zero
    exact absurd (eq_of_cast_eq (by decide) (by decide) zero) (by decide)
  rw [ZMod.euler_criterion fieldPrime nonzero, ← pow_cast _ (by decide), computed, neg_one_cast]
  exact one_ne_neg_one.symm

def curve : EdwardsCurve Residue where
  d := curveConstant
  i := 2 ^ ((fieldPrime - 1) / 4)
  i_mul_i := by
    rw [← pow_add, ← two_pow_half]
    congr 1
  not_isSquare := curveConstant_not_isSquare
  two_ne_zero := by
    intro zero
    apply one_ne_neg_one
    linear_combination zero

end MarketGateway.Crypto.Ed25519
