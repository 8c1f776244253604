import MarketGateway.Proofs.Crypto.Field

/-!
# Points in extended coordinates

Four coordinates stand for a point of the curve. Adding them, turning them around and scaling them is
what the group does with the points, and the bytes of a point do not depend on its coordinates:
`add_represents`, `scale_represents` and `toBytes_eq`.
-/

namespace MarketGateway.Crypto.Ed25519.Point

structure Represents (p : Point) (P : curve.Point) : Prop where
  z_ne : (p.z : Residue) ≠ 0
  x_eq : (p.x : Residue) = P.x * p.z
  y_eq : (p.y : Residue) = P.y * p.z
  t_eq : (p.t : Residue) = P.x * P.y * p.z
  x_lt : p.x < fieldPrime
  t_lt : p.t < fieldPrime

variable {p q : Point} {P Q : curve.Point}

/-! ### The group -/

theorem neutral_represents : Represents neutral 0 where
  z_ne := by simp [neutral]
  x_eq := by simp [neutral]
  y_eq := by simp [neutral]
  t_eq := by simp [neutral]
  x_lt := fieldPrime_pos
  t_lt := fieldPrime_pos

theorem neg_represents (hp : Represents p P) : Represents p.neg (-P) where
  z_ne := hp.z_ne
  x_eq := by
    have x := hp.x_eq
    simp only [neg, sub_cast hp.x_lt.le, EdwardsCurve.Point.neg_x]
    rw [x]
    push_cast
    ring
  y_eq := hp.y_eq
  t_eq := by
    have t := hp.t_eq
    simp only [neg, sub_cast hp.t_lt.le, EdwardsCurve.Point.neg_x, EdwardsCurve.Point.neg_y]
    rw [t]
    push_cast
    ring
  x_lt := sub_lt _ _
  t_lt := sub_lt _ _

section Sum
variable (p q)

/-- The values from which the coordinates of a sum are multiplied. -/
def sumE : Nat := sub (mul (p.y + p.x) (q.y + q.x)) (mul (sub p.y p.x) (sub q.y q.x))

def sumF : Nat := sub (mul (2 * p.z) q.z) (mul (mul (2 * p.t) q.t) curveConstant)

def sumG : Nat := (mul (2 * p.z) q.z + mul (mul (2 * p.t) q.t) curveConstant) % fieldPrime

def sumH : Nat := (mul (p.y + p.x) (q.y + q.x) + mul (sub p.y p.x) (sub q.y q.x)) % fieldPrime

theorem add_eq : p.add q =
    ⟨mul (sumE p q) (sumF p q), mul (sumG p q) (sumH p q), mul (sumF p q) (sumG p q),
      mul (sumE p q) (sumH p q)⟩ := rfl

end Sum

/-- Up to a common factor, the values are the numerators and the denominators of the sum. -/
theorem sum_values (hp : Represents p P) (hq : Represents q Q) :
    (sumE p q : Residue) = 2 * p.z * q.z * (P.x * Q.y + Q.x * P.y) ∧
      (sumF p q : Residue) = 2 * p.z * q.z * (1 - curve.d * P.x * Q.x * P.y * Q.y) ∧
      (sumG p q : Residue) = 2 * p.z * q.z * (1 + curve.d * P.x * Q.x * P.y * Q.y) ∧
      (sumH p q : Residue) = 2 * p.z * q.z * (P.y * Q.y + P.x * Q.x) := by
  have constant : (curveConstant : Residue) = curve.d := rfl
  refine ⟨?_, ?_, ?_, ?_⟩
  · rw [sumE, sub_cast (mul_lt _ _).le]
    simp only [mul_cast, sub_cast hp.x_lt.le, sub_cast hq.x_lt.le, Nat.cast_add, hp.x_eq, hp.y_eq,
      hq.x_eq, hq.y_eq]
    ring
  · rw [sumF, sub_cast (mul_lt _ _).le]
    simp only [mul_cast, Nat.cast_mul, Nat.cast_ofNat, hp.t_eq, hq.t_eq, constant]
    ring
  · rw [sumG, ZMod.natCast_mod]
    simp only [mul_cast, Nat.cast_add, Nat.cast_mul, Nat.cast_ofNat, hp.t_eq, hq.t_eq, constant]
    ring
  · rw [sumH, ZMod.natCast_mod]
    simp only [mul_cast, sub_cast hp.x_lt.le, sub_cast hq.x_lt.le, Nat.cast_add, hp.x_eq, hp.y_eq,
      hq.x_eq, hq.y_eq]
    ring

theorem add_represents (hp : Represents p P) (hq : Represents q Q) : Represents (p.add q) (P + Q) := by
  obtain ⟨e, f, g, h⟩ := sum_values hp hq
  have plus := EdwardsCurve.one_add_ne P.isOn Q.isOn
  have minus := EdwardsCurve.one_sub_ne P.isOn Q.isOn
  have factor : 2 * (p.z : Residue) * q.z ≠ 0 :=
    mul_ne_zero (mul_ne_zero curve.two_ne_zero hp.z_ne) hq.z_ne
  rw [add_eq]
  refine ⟨?_, ?_, ?_, ?_, mul_lt _ _, mul_lt _ _⟩
  · simp only [mul_cast, f, g]
    exact mul_ne_zero (mul_ne_zero factor minus) (mul_ne_zero factor plus)
  · simp only [mul_cast, e, f, g, EdwardsCurve.Point.add_x, EdwardsCurve.sumX]
    rw [div_mul_eq_mul_div, eq_div_iff plus]
    ring
  · simp only [mul_cast, f, g, h, EdwardsCurve.Point.add_y, EdwardsCurve.sumY]
    rw [div_mul_eq_mul_div, eq_div_iff minus]
    ring
  · simp only [mul_cast, e, f, g, h, EdwardsCurve.Point.add_x, EdwardsCurve.Point.add_y,
      EdwardsCurve.sumX, EdwardsCurve.sumY]
    rw [div_mul_div_comm, div_mul_eq_mul_div, eq_div_iff (mul_ne_zero plus minus)]
    ring

theorem double_represents (hp : Represents p P) : Represents p.double (P + P) :=
  add_represents hp hp

theorem scale_represents (hp : Represents p P) {n : Nat} (small : n < 2 ^ 256) :
    Represents (p.scale n) (n • P) := by
  have computed := foldr_bits (fun r k => Represents r (k • P)) double (fun r => r.add p) neutral
    (by rw [zero_nsmul]; exact neutral_represents)
    (fun r k stands => by rw [two_mul, add_nsmul]; exact double_represents stands)
    (fun r k stands => by rw [succ_nsmul]; exact add_represents stands hp) 256 n
  rw [Nat.mod_eq_of_lt small] at computed
  exact computed

/-! ### The base point -/

theorem ofAffine_represents {x y : Nat} (x_eq : (x : Residue) = P.x) (y_eq : (y : Residue) = P.y)
    (x_lt : x < fieldPrime) : Represents (ofAffine x y) P where
  z_ne := by simp [ofAffine]
  x_eq := by simp [ofAffine, x_eq]
  y_eq := by simp [ofAffine, y_eq]
  t_eq := by simp [ofAffine, x_eq, y_eq]
  x_lt := x_lt
  t_lt := mul_lt _ _

def basePoint : curve.Point where
  x := base.x
  y := base.y
  isOn := by
    have computed : sub (mul base.y base.y) (mul base.x base.x) =
        (1 + mul (mul curveConstant (mul base.x base.x)) (mul base.y base.y)) % fieldPrime := by
      decide +kernel
    have same := congrArg (Nat.cast (R := Residue)) computed
    rw [sub_cast (mul_lt _ _).le, ZMod.natCast_mod] at same
    simp only [mul_cast, Nat.cast_add, Nat.cast_one] at same
    have constant : (curveConstant : Residue) = curve.d := rfl
    unfold EdwardsCurve.IsOn
    linear_combination same + base.x ^ 2 * base.y ^ 2 * constant

theorem base_represents : Represents base basePoint :=
  ofAffine_represents rfl rfl (by decide)

/-- The order of the base point divides the number that is said to be its order. -/
theorem groupOrder_nsmul : groupOrder • basePoint = 0 := by
  have stands := scale_represents base_represents (show groupOrder < 2 ^ 256 by decide)
  have computed : (base.scale groupOrder).x = 0 ∧
      (base.scale groupOrder).y = (base.scale groupOrder).z := by decide +kernel
  have x := stands.x_eq
  have y := stands.y_eq
  rw [computed.1, Nat.cast_zero, eq_comm, mul_eq_zero, or_iff_left stands.z_ne] at x
  rw [computed.2] at y
  exact EdwardsCurve.Point.ext x (mul_right_cancel₀ stands.z_ne (y.symm.trans (one_mul _).symm))

theorem mod_nsmul (n : Nat) : (n % groupOrder) • basePoint = n • basePoint := by
  conv_rhs => rw [← Nat.mod_add_div n groupOrder]
  rw [add_nsmul, mul_nsmul, groupOrder_nsmul, nsmul_zero, add_zero]

/-! ### Bytes -/

def bytesOf (P : curve.Point) : List UInt8 := littleEndian (P.y.val + P.x.val % 2 * 2 ^ 255)

theorem toBytes_eq (hp : Represents p P) : p.toBytes = bytesOf P := by
  have x : mul p.x (inverse p.z) = P.x.val := by
    refine eq_val_of_cast_eq (mul_lt _ _) ?_
    rw [mul_cast, inverse_cast, hp.x_eq, mul_inv_cancel_right₀ hp.z_ne]
  have y : mul p.y (inverse p.z) = P.y.val := by
    refine eq_val_of_cast_eq (mul_lt _ _) ?_
    rw [mul_cast, inverse_cast, hp.y_eq, mul_inv_cancel_right₀ hp.z_ne]
  rw [toBytes, x, y, bytesOf]

end MarketGateway.Crypto.Ed25519.Point
