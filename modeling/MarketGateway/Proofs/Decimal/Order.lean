import MarketGateway.Proofs.Decimal.Range

/-!
# Order of decimals

Decimals are compared as the numbers that they stand for. A sum may have to be rounded, but never to
less than a part of it: `toRat_le_of_add`.
-/

namespace MarketGateway.Decimal

variable {a b s : Decimal}

/-- Comparing two decimals compares the numbers that they stand for. -/
theorem atMost_iff (a b : Decimal) : atMost a b = true ↔ a.toRat ≤ b.toRat := by
  have positive : ∀ scale : Nat, (0 : ℚ) < (10 : ℚ) ^ scale := fun scale => by positivity
  rw [atMost, decide_eq_true_eq, toRat, toRat, div_le_div_iff₀ (positive _) (positive _)]
  exact_mod_cast Iff.rfl

theorem larger_toRat (a b : Decimal) : (larger a b).toRat = max a.toRat b.toRat := by
  unfold larger
  split
  · rename_i below
    exact (max_eq_left ((atMost_iff b a).mp below)).symm
  · rename_i above
    have less : a.toRat < b.toRat := lt_of_not_ge (mt (atMost_iff b a).mpr above)
    exact (max_eq_right less.le).symm

/-- A decimal without a sign is not negative. -/
theorem toRat_nonneg (m : Magnitude) : 0 ≤ toRat ⟨m, false⟩ := by
  simp only [toRat, coefficient, Bool.false_eq_true, ↓reduceIte]
  positivity

theorem zero_toRat : zero.toRat = 0 := toRat_of_isZero rfl

/-- A decimal that is not negative is its coefficient, whatever the sign of a zero. -/
theorem coefficient_of_nonneg {d : Decimal} (nonneg : 0 ≤ d.toRat) : d.coefficient = d.value := by
  have positive : (0 : ℚ) < (10 : ℚ) ^ d.scale := by positivity
  have size := natAbs_coefficient d
  have sign : (0 : ℚ) ≤ d.coefficient := by
    have product := mul_nonneg nonneg positive.le
    rwa [toRat, div_mul_cancel₀ _ positive.ne'] at product
  have := Int.cast_nonneg_iff.mp sign
  omega

/-! ### Rounded sums -/

theorem div_le_roundHalfEven (n divisor : Nat) : n / divisor ≤ roundHalfEven n divisor := by
  unfold roundHalfEven
  dsimp only
  split <;> omega

theorem shorten?_eq_some {n scale places : Nat} {m : Magnitude} (found : shorten? n scale places = some m) :
    m.value = roundHalfEven n (10 ^ places) ∧ m.scale = scale - places := by
  unfold shorten? at found
  split at found
  · obtain rfl := Option.some.inj found
    exact ⟨rfl, rfl⟩
  · cases found

/-- With fewer digits rounded off there would be no result. -/
theorem fit?_eq_some {n scale : Nat} {m : Magnitude} (fits : fit? n scale = some m) :
    ∃ places ≤ scale, m.value = roundHalfEven n (10 ^ places) ∧ m.scale = scale - places ∧
      ∀ fewer < places, shorten? n scale fewer = none := by
  obtain ⟨before, places, after, split, found, failed⟩ := List.findSome?_eq_some_iff.mp fits
  obtain ⟨value, place⟩ := shorten?_eq_some found
  have within : places < scale + 1 := List.mem_range.mp (split ▸ by simp)
  have ordered : (before ++ places :: after).Pairwise (· < ·) := split ▸ List.pairwise_lt_range
  obtain ⟨-, later, -⟩ := List.pairwise_append.mp ordered
  have above := (List.pairwise_cons.mp later).1
  refine ⟨places, by omega, value, place, fun fewer less => failed fewer ?_⟩
  have listed : fewer ∈ before ++ places :: after := split ▸ List.mem_range.mpr (by omega)
  rcases List.mem_append.mp listed with here | here
  · exact here
  · rcases List.mem_cons.mp here with rfl | here
    · omega
    · have := above fewer here
      omega

/-- What is left of a number that was too long with one digit more is nearly as long as a decimal can be. -/
theorem le_of_shorten?_eq_none {n scale fewer : Nat} (scales : scale ≤ 28)
    (failed : shorten? n scale fewer = none) : 2 ^ 96 ≤ roundHalfEven n (10 ^ (fewer + 1)) * 10 := by
  have large : (2 ^ 97 - 1) * 10 ^ fewer ≤ 2 * n := by
    rcases shorten?_eq_none_iff.mp failed with large | deep
    · exact large
    · omega
  have tenth : 2 ^ 96 / 10 + 1 ≤ roundHalfEven n (10 ^ (fewer + 1)) := by
    rw [le_roundHalfEven_iff n (by decide) (by decide) (Nat.pow_pos (by decide)), Nat.pow_succ]
    omega
  omega

/-- A rounded number is not less than any decimal that the exact number is not less than. -/
theorem le_of_fit? {n scale : Nat} {m d : Magnitude} (fits : fit? n scale = some m)
    (scales : scale ≤ 28) (deep : d.scale ≤ scale) (below : d.value * 10 ^ (scale - d.scale) ≤ n) :
    d.value * 10 ^ m.scale ≤ m.value * 10 ^ d.scale := by
  obtain ⟨places, within, value, place, failed⟩ := fit?_eq_some fits
  by_cases kept : d.scale ≤ m.scale
  · -- No digit of the decimal is among those that were rounded off.
    have powers : 10 ^ (scale - d.scale) = 10 ^ (m.scale - d.scale) * 10 ^ places := by
      rw [← Nat.pow_add]
      congr 1
      omega
    rw [powers, ← Nat.mul_assoc] at below
    have quotient := (Nat.le_div_iff_mul_le (Nat.pow_pos (by decide))).mpr below
    have rounded := quotient.trans (div_le_roundHalfEven n (10 ^ places))
    rw [← value] at rounded
    calc d.value * 10 ^ m.scale
        = d.value * 10 ^ (m.scale - d.scale) * 10 ^ d.scale := by
          rw [Nat.mul_assoc, ← Nat.pow_add, Nat.sub_add_cancel kept]
      _ ≤ m.value * 10 ^ d.scale := Nat.mul_le_mul_right _ rounded
  · -- Digits of the decimal were rounded off, but the number was longer than any decimal.
    obtain ⟨fewer, rfl⟩ : ∃ fewer, places = fewer + 1 := ⟨places - 1, by omega⟩
    have long := le_of_shorten?_eq_none scales (failed fewer (Nat.lt_succ_self fewer))
    rw [← value] at long
    calc d.value * 10 ^ m.scale
        ≤ m.value * 10 * 10 ^ m.scale := Nat.mul_le_mul_right _ (d.value_lt.le.trans long)
      _ = m.value * 10 ^ (m.scale + 1) := by rw [Nat.mul_assoc, Nat.pow_succ']
      _ ≤ m.value * 10 ^ d.scale :=
          Nat.mul_le_mul_left _ (Nat.pow_le_pow_right (by decide) (by omega))

theorem toRat_le_of_ofExact? {n scale : Nat} (made : ofExact? n scale = some s)
    (scales : scale ≤ 28) (nonneg : 0 ≤ a.toRat) (deep : a.scale ≤ scale)
    (below : a.value * 10 ^ (scale - a.scale) ≤ n) : a.toRat ≤ s.toRat := by
  obtain ⟨m, fits, rfl⟩ := Option.map_eq_some_iff.mp made
  have positive : ¬ (n : Int) < 0 := by omega
  rw [Int.natAbs_natCast] at fits
  have size := le_of_fit? (d := a.toMagnitude) fits scales deep below
  rw [← atMost_iff, atMost, decide_eq_true_eq, coefficient_of_nonneg nonneg]
  have plain : (ofMagnitude (decide ((n : Int) < 0)) m).coefficient = m.value := by
    simp [positive, ofMagnitude, coefficient]
  rw [plain]
  exact_mod_cast size

theorem exactSum_of_nonneg (left : 0 ≤ a.toRat) (right : 0 ≤ b.toRat) :
    exactSum a b = (a.value * 10 ^ (max a.scale b.scale - a.scale) +
      b.value * 10 ^ (max a.scale b.scale - b.scale) : Nat) := by
  rw [exactSum, coefficient_of_nonneg left, coefficient_of_nonneg right]
  push_cast
  rfl

/-- However a sum of decimals that are not negative is rounded, it is no less than either of them. -/
theorem toRat_le_of_add (left : 0 ≤ a.toRat) (right : 0 ≤ b.toRat) (made : a.add b = some s) :
    a.toRat ≤ s.toRat ∧ b.toRat ≤ s.toRat := by
  unfold add at made
  split at made
  · rename_i zero
    obtain rfl := Option.some.inj made
    exact ⟨(toRat_of_isZero zero).trans_le right, le_refl _⟩
  · split at made
    · rename_i zero
      obtain rfl := Option.some.inj made
      exact ⟨le_refl _, (toRat_of_isZero zero).trans_le left⟩
    · rw [exactSum_of_nonneg left right] at made
      have scales : max a.scale b.scale ≤ 28 := max_le a.scale_le b.scale_le
      exact ⟨toRat_le_of_ofExact? made scales left (le_max_left ..) (Nat.le_add_right ..),
        toRat_le_of_ofExact? made scales right (le_max_right ..) (Nat.le_add_left ..)⟩

end MarketGateway.Decimal
