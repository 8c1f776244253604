import MarketGateway.Stream.Backoff

/-!
# Delays

Delays rise with the failures up to the longest one. Neither the bound of the power nor that of a duration
shows in them if the largest power brings the base up to the longest delay. Main statement:
`delays_rise_exactly`.
-/

namespace MarketGateway.Backoff

variable {b : Backoff} {m n : Nat}

/-- The delay without a bound on powers and products. -/
def unboundedDelay (b : Backoff) (failures : Nat) : Nat := min (b.base * b.factor ^ failures) b.longest

/-! ### Powers -/

theorem maxCount_lt_pow {factor : Nat} (grows : 2 ≤ factor) (many : 32 ≤ n) : maxCount < factor ^ n :=
  calc
    maxCount < 2 ^ 32 := by decide
    _ ≤ 2 ^ n := Nat.pow_le_pow_right (by decide) many
    _ ≤ factor ^ n := Nat.pow_le_pow_left grows n

theorem multiplier_eq (factor n : Nat) : multiplier factor n = min (factor ^ n) maxCount := by
  unfold multiplier
  split
  · rename_i large
    have past := maxCount_lt_pow large.1 large.2
    exact (Nat.min_eq_right (Nat.le_of_lt past)).symm
  · rfl

theorem multiplier_mono {factor : Nat} (grows : 1 ≤ factor) (le : m ≤ n) :
    multiplier factor m ≤ multiplier factor n := by
  have powers : factor ^ m ≤ factor ^ n := Nat.pow_le_pow_right grows le
  rw [multiplier_eq, multiplier_eq]
  omega

/-! ### Delays -/

theorem delay_mono (grows : 1 ≤ b.factor) (le : m ≤ n) : b.delay m ≤ b.delay n := by
  have products : b.base * multiplier b.factor m ≤ b.base * multiplier b.factor n :=
    Nat.mul_le_mul_left b.base (multiplier_mono grows le)
  unfold delay
  omega

theorem delay_le_longest (b : Backoff) (n : Nat) : b.delay n ≤ b.longest := Nat.min_le_right ..

/-- A product that is too large for a duration is longer than the longest delay already. -/
theorem delay_eq (fits : b.longest ≤ maxDuration) (n : Nat) :
    b.delay n = min (b.base * min (b.factor ^ n) maxCount) b.longest := by
  rw [delay, multiplier_eq]
  omega

theorem delay_eq_unboundedDelay (fits : b.longest ≤ maxDuration)
    (reached : b.factor ^ n ≤ maxCount ∨ b.longest ≤ b.base * maxCount) :
    b.delay n = b.unboundedDelay n := by
  rw [delay_eq fits, unboundedDelay]
  by_cases small : b.factor ^ n ≤ maxCount
  · rw [Nat.min_eq_left small]
  · have enough : b.longest ≤ b.base * maxCount := reached.resolve_left small
    have large : maxCount ≤ b.factor ^ n := Nat.le_of_not_le small
    have more : b.base * maxCount ≤ b.base * b.factor ^ n := Nat.mul_le_mul_left b.base large
    rw [Nat.min_eq_right large]
    omega

/-- A base that the largest power does not bring up to the longest delay stays behind from the failure
with which the power is past its bound. -/
theorem delay_lt_unboundedDelay (fits : b.longest ≤ maxDuration) (some : 0 < b.base)
    (large : maxCount < b.factor ^ n) (short : b.base * maxCount < b.longest) :
    b.delay n < b.unboundedDelay n := by
  have more : b.base * maxCount < b.base * b.factor ^ n := Nat.mul_lt_mul_of_pos_left large some
  rw [delay_eq fits, unboundedDelay, Nat.min_eq_right (Nat.le_of_lt large)]
  omega

/-- Delays are exact for all counts of failures exactly if the base does not grow or can grow to the
longest delay. -/
theorem delays_exact_iff (grows : 1 ≤ b.factor) (fits : b.longest ≤ maxDuration) :
    (∀ n ≤ maxCount, b.delay n = b.unboundedDelay n) ↔
      b.base = 0 ∨ b.factor = 1 ∨ b.longest ≤ b.base * maxCount := by
  constructor
  · intro exact
    by_cases none : b.base = 0
    · exact .inl none
    by_cases one : b.factor = 1
    · exact .inr (.inl one)
    refine .inr (.inr (Nat.le_of_not_lt fun short => ?_))
    have large : maxCount < b.factor ^ 32 := maxCount_lt_pow (by omega) (Nat.le_refl 32)
    have behind := delay_lt_unboundedDelay fits (Nat.pos_of_ne_zero none) large short
    exact Nat.ne_of_lt behind (exact 32 (by decide))
  · rintro (none | one | reached) n -
    · rw [delay_eq fits, unboundedDelay, none, Nat.zero_mul, Nat.zero_mul]
    · refine delay_eq_unboundedDelay fits (.inl ?_)
      rw [one, Nat.one_pow]
      decide
    · exact delay_eq_unboundedDelay fits (.inr reached)

/-- Delays rise with the failures up to the longest one, and they are what unbounded arithmetic gives
wherever they can be. -/
theorem delays_rise_exactly (b : Backoff) (grows : 1 ≤ b.factor) (fits : b.longest ≤ maxDuration) :
    (∀ m n, m ≤ n → b.delay m ≤ b.delay n ∧ b.delay n ≤ b.longest) ∧
      ((∀ n ≤ maxCount, b.delay n = min (b.base * b.factor ^ n) b.longest) ↔
        b.base = 0 ∨ b.factor = 1 ∨ b.longest ≤ b.base * maxCount) :=
  ⟨fun _ n le => ⟨delay_mono grows le, b.delay_le_longest n⟩, delays_exact_iff grows fits⟩

/-- The longest of all durations as base and as bound: both the power and the product are past their
bounds. -/
theorem delays_rise_exactly_longest :
    let b : Backoff := ⟨maxDuration, 3, maxDuration⟩
    1 ≤ b.factor ∧ b.longest ≤ maxDuration ∧ maxCount < b.factor ^ 40 ∧
      maxDuration < b.base * maxCount ∧ b.delay 7 ≤ b.delay 40 ∧
      b.delay 40 = min (maxDuration * 3 ^ 40) maxDuration := by
  have exact := delays_rise_exactly ⟨maxDuration, 3, maxDuration⟩ (by decide) (by decide)
  refine ⟨by decide, by decide, by decide, by decide, (exact.1 7 40 (by decide)).1, ?_⟩
  exact exact.2.mpr (.inr (.inr (by decide))) 40 (by decide)

/-- A base of one nanosecond cannot grow to a minute. -/
example : Backoff.delay ⟨1, 2, 60 * 10 ^ 9⟩ 40 = 2 ^ 32 - 1 := by decide

end MarketGateway.Backoff
