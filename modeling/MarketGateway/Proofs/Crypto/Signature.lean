import MarketGateway.Proofs.Crypto.Points

/-!
# Signatures

The bytes of a point can be read back, and what a secret key signs verifies under its public key:
`verify_sign`.
-/

namespace MarketGateway.Crypto.Ed25519

/-! ### Little-endian numbers -/

theorem ofLittleEndian_range (count n : Nat) :
    ofLittleEndian ((List.range count).map fun i => UInt8.ofNat (n / 256 ^ i)) = n % 256 ^ count := by
  induction count generalizing n with
  | zero => simp [ofLittleEndian, Nat.mod_one]
  | succ count ih =>
    have shifted : (fun i => UInt8.ofNat (n / 256 ^ i)) ∘ Nat.succ =
        fun i => UInt8.ofNat (n / 256 / 256 ^ i) := by
      funext i
      simp [Nat.pow_succ', Nat.div_div_eq_div_mul]
    have rest := ih (n / 256)
    unfold ofLittleEndian at rest ⊢
    rw [List.range_succ_eq_map, List.map_cons, List.map_map, shifted, List.foldr_cons, rest,
      Nat.pow_succ', Nat.mod_mul]
    simp

theorem ofLittleEndian_littleEndian {n : Nat} (small : n < 2 ^ 256) :
    ofLittleEndian (littleEndian n) = n := by
  rw [littleEndian, ofLittleEndian_range, Nat.mod_eq_of_lt (by omega)]

@[simp] theorem littleEndian_length (n : Nat) : (littleEndian n).length = 32 := by
  simp [littleEndian]

/-! ### Square roots -/

/-- The exponent of the candidate for a root, and what it comes to. -/
theorem rootExponent : ∃ e, (fieldPrime - 5) / 8 = e ∧ 8 * e + 4 = fieldPrime - 1 ∧
    4 * e + 2 = fieldPrime / 2 := ⟨_, rfl, by decide, by decide⟩

/-- The square of the candidate for a root of `u / v` is that ratio, or the ratio turned around. -/
theorem candidate_sq {e : Nat} (fermat : 8 * e + 4 = fieldPrime - 1) (euler : 4 * e + 2 = fieldPrime / 2)
    {v x : Residue} (nonzero : v ≠ 0) :
    let root := v * x ^ 2 * v ^ 3 * (v * x ^ 2 * v ^ 7) ^ e
    root ^ 2 = x ^ 2 ∨ root ^ 2 = -x ^ 2 := by
  intro root
  have one : v ^ (8 * e + 4) = 1 := by
    rw [fermat]
    exact ZMod.pow_card_sub_one_eq_one nonzero
  have power : root = x ^ (2 * e + 2) := by
    calc root = v ^ (8 * e + 4) * x ^ (2 * e + 2) := by ring
      _ = x ^ (2 * e + 2) := by rw [one, one_mul]
  have square : root ^ 2 = x ^ 2 * x ^ (4 * e + 2) := by
    rw [power]
    ring
  rw [square, euler]
  by_cases zero : x = 0
  · simp [zero]
  · rcases ZMod.pow_div_two_eq_neg_one_or_one fieldPrime zero with one | negative
    · exact .inl (by rw [one, mul_one])
    · exact .inr (by rw [negative, mul_neg_one])

/-- A root of the ratio of two numbers is found if there is one. -/
theorem squareRootOfRatio?_eq_some {u v : Nat} {x : Residue} (reduced : u < fieldPrime)
    (nonzero : (v : Residue) ≠ 0) (ratio : (u : Residue) = v * x ^ 2) :
    ∃ r, squareRootOfRatio? u v = some r ∧ r < fieldPrime ∧ (r : Residue) ^ 2 = x ^ 2 := by
  obtain ⟨e, exponent, fermat, euler⟩ := rootExponent
  have small : e < 2 ^ 256 := by have := fieldPrime_lt; omega
  unfold squareRootOfRatio?
  dsimp only
  rw [exponent]
  generalize computed : mul (mul u (mul (mul v v) v))
    (pow (mul u (mul (mul (mul (mul v v) v) (mul (mul v v) v)) v)) e) = root
  have root_lt : root < fieldPrime := computed ▸ mul_lt _ _
  have root_eq : (root : Residue) = v * x ^ 2 * v ^ 3 * (v * x ^ 2 * v ^ 7) ^ e := by
    rw [← computed]
    simp only [mul_cast, pow_cast _ small, ratio]
    ring
  have square := candidate_sq fermat euler (x := x) nonzero
  simp only [← root_eq] at square
  have value : (mul v (mul root root) : Residue) = v * (root : Residue) ^ 2 := by
    rw [mul_cast, mul_cast, pow_two]
  split
  · rename_i same
    refine ⟨root, rfl, root_lt, mul_left_cancel₀ nonzero ?_⟩
    rw [← value, same, Nat.mod_eq_of_lt reduced, ratio]
  · rename_i other
    have turned : (root : Residue) ^ 2 = -x ^ 2 := by
      refine square.resolve_left fun same => other ?_
      refine eq_of_cast_eq (mul_lt _ _) (Nat.mod_lt _ fieldPrime_pos) ?_
      rw [value, same, Nat.mod_eq_of_lt reduced, ratio]
    have negated : mul v (mul root root) = sub 0 u := by
      refine eq_of_cast_eq (mul_lt _ _) (sub_lt _ _) ?_
      rw [value, turned, sub_cast reduced.le, ratio, Nat.cast_zero]
      ring
    rw [if_pos negated]
    refine ⟨_, rfl, mul_lt _ _, ?_⟩
    have half : (fieldPrime - 1) / 4 * 2 = (fieldPrime - 1) / 2 := by decide
    rw [mul_cast, pow_cast 2 (by decide), mul_pow, turned, Nat.cast_ofNat, ← pow_mul, half,
      two_pow_half]
    ring

/-! ### Points from bytes -/

namespace Point

variable {P : curve.Point}

theorem val_lt (x : Residue) : x.val < fieldPrime := ZMod.val_lt x

theorem val_cast (x : Residue) : (x.val : Residue) = x := ZMod.natCast_zmod_val x

/-- Of the two roots of a square, the one with the parity of `x` is `x`. -/
theorem root_eq_val {r : Nat} {x : Residue} (reduced : r < fieldPrime)
    (square : (r : Residue) ^ 2 = x ^ 2) :
    (if r % 2 = x.val % 2 then r else sub 0 r) = x.val := by
  rcases sq_eq_sq_iff_eq_or_eq_neg.mp square with same | opposite
  · rw [eq_val_of_cast_eq reduced same, if_pos rfl]
  · split
    · rename_i parity
      -- the two roots add up to zero or to the prime, which is odd
      have sum : ((r + x.val : Nat) : Residue) = 0 := by
        rw [Nat.cast_add, opposite, val_cast, neg_add_cancel]
      obtain ⟨k, multiple⟩ := (ZMod.natCast_eq_zero_iff _ _).mp sum
      have below := val_lt x
      have odd : fieldPrime % 2 = 1 := by decide
      have few : k = 0 ∨ k = 1 := by
        by_contra many
        have : fieldPrime * 2 ≤ fieldPrime * k := Nat.mul_le_mul_left _ (by omega)
        omega
      rcases few with rfl | rfl <;> omega
    · refine eq_val_of_cast_eq (sub_lt _ _) ?_
      rw [sub_cast reduced.le, opposite, Nat.cast_zero, zero_sub, neg_neg]

theorem ofBytes?_bytesOf (P : curve.Point) :
    ofBytes? (bytesOf P) = some (ofAffine P.x.val P.y.val) := by
  have y_lt := val_lt P.y
  have prime_lt := fieldPrime_lt
  have number : ofLittleEndian (bytesOf P) = P.y.val + P.x.val % 2 * 2 ^ 255 :=
    ofLittleEndian_littleEndian (by omega)
  have odd : (P.y.val + P.x.val % 2 * 2 ^ 255) / 2 ^ 255 % 2 = P.x.val % 2 := by omega
  have y : (P.y.val + P.x.val % 2 * 2 ^ 255) % 2 ^ 255 % fieldPrime = P.y.val := by
    rw [Nat.add_mul_mod_self_right, Nat.mod_eq_of_lt (y_lt.trans prime_lt), Nat.mod_eq_of_lt y_lt]
  have u : (sub (mul P.y.val P.y.val) 1 : Residue) = P.y ^ 2 - 1 := by
    rw [sub_cast fieldPrime_pos, mul_cast, val_cast, Nat.cast_one, pow_two]
  have v : ((mul curveConstant (mul P.y.val P.y.val) + 1 : Nat) : Residue) = curve.d * P.y ^ 2 + 1 := by
    have constant : (curveConstant : Residue) = curve.d := rfl
    rw [Nat.cast_add, mul_cast, mul_cast, val_cast, constant, Nat.cast_one, pow_two]
  have on := P.isOn
  unfold EdwardsCurve.IsOn at on
  obtain ⟨r, found, r_lt, square⟩ := squareRootOfRatio?_eq_some (x := P.x) (sub_lt _ _)
    (v ▸ curve.mul_sq_add_one_ne P.y) (by rw [u, v]; linear_combination on)
  unfold ofBytes?
  simp only [number, odd, y, found, Option.map_some]
  rw [root_eq_val r_lt square]

end Point

/-! ### Signatures -/

theorem scalar_lt (key : SecretKey) : key.scalar < 2 ^ 256 := by
  unfold SecretKey.scalar
  dsimp only
  omega

theorem hashScalar_lt (bytes : List UInt8) : hashScalar bytes < groupOrder :=
  Nat.mod_lt _ (by decide)

theorem small_of_lt_groupOrder {n : Nat} (below : n < groupOrder) : n < 2 ^ 256 :=
  below.trans (by decide)

open Point in
theorem scale_base_toBytes {n : Nat} (small : n < 2 ^ 256) :
    (base.scale n).toBytes = bytesOf (n • basePoint) :=
  toBytes_eq (scale_represents base_represents small)

theorem bytesOf_length (P : curve.Point) : (Point.bytesOf P).length = 32 := littleEndian_length _

/-- When a signature of two halves is accepted. -/
theorem verify_append {publicKey message first : List UInt8} {second : Nat} {point : Point}
    (length : first.length = 32) (small : second < groupOrder)
    (found : Point.ofBytes? publicKey = some point)
    (combined : (Point.add (Point.base.scale second)
      (point.neg.scale (hashScalar (first ++ publicKey ++ message)))).toBytes = first) :
    verify publicKey message (first ++ littleEndian second) = true := by
  have whole : (first ++ littleEndian second).length = 64 := by simp [length]
  unfold verify
  simp only [List.take_left' length, List.drop_left' length,
    ofLittleEndian_littleEndian (small_of_lt_groupOrder small), found]
  rw [if_pos ⟨whole, small⟩, combined, beq_self_eq_true]

open Point in
/-- What is signed with a secret key verifies under its public key: the second half of the signature
is the nonce and a multiple of the secret scalar, and the public key takes that multiple off again. -/
theorem verify_sign (key : SecretKey) (message : List UInt8) :
    verify key.publicKey message (sign key message) = true := by
  have publicKey : key.publicKey = bytesOf (key.scalar • basePoint) :=
    scale_base_toBytes (scalar_lt key)
  unfold sign
  dsimp only
  have nonce_lt := hashScalar_lt ((Sha512.hash key.seed).drop 32 ++ message)
  generalize hashScalar ((Sha512.hash key.seed).drop 32 ++ message) = nonce at nonce_lt ⊢
  have first := scale_base_toBytes (small_of_lt_groupOrder nonce_lt)
  have challenge_lt := hashScalar_lt ((base.scale nonce).toBytes ++ key.publicKey ++ message)
  have second_lt : (nonce + hashScalar ((base.scale nonce).toBytes ++ key.publicKey ++ message) *
      key.scalar) % groupOrder < groupOrder := Nat.mod_lt _ (by decide)
  refine verify_append (first ▸ bytesOf_length _) second_lt (publicKey ▸ ofBytes?_bytesOf _) ?_
  generalize hashScalar ((base.scale nonce).toBytes ++ key.publicKey ++ message) = challenge at *
  have point := ofAffine_represents (val_cast (key.scalar • basePoint).x)
    (val_cast (key.scalar • basePoint).y) (val_lt _)
  have sum := add_represents
    (scale_represents base_represents (small_of_lt_groupOrder second_lt))
    (scale_represents (neg_represents point) (small_of_lt_groupOrder challenge_lt))
  rw [toBytes_eq sum, first, mod_nsmul, add_nsmul, mul_nsmul', neg_nsmul, add_neg_cancel_right]

end MarketGateway.Crypto.Ed25519
