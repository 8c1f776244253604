import MarketGateway.Crypto.Ed25519
import Mathlib.Data.List.Prime
import Mathlib.NumberTheory.LucasPrimality
import Mathlib.Tactic.NormNum.Prime

/-!
# The prime of the field

`2^255 - 19` is prime: `fieldPrime_prime`. The proof is a chain of Lucas tests, each of which needs the
primes of the number before the tested one; small primes start the chain. Powers are computed bit by bit,
with `foldr_bits` for what such a computation keeps.
-/

namespace MarketGateway.Crypto.Ed25519

/-! ### Doubling and adding -/

/-- What is doubled for every bit, and one more for a bit that is set, comes to the number. -/
theorem foldr_bits {β : Type} (holds : β → Nat → Prop) (double next : β → β) (start : β)
    (zero : holds start 0) (even : ∀ r k, holds r k → holds (double r) (2 * k))
    (odd : ∀ r k, holds r k → holds (next r) (k + 1)) (count n : Nat) :
    holds ((bits count n).foldr (fun bit r => if bit then next (double r) else double r) start)
      (n % 2 ^ count) := by
  induction count generalizing n with
  | zero =>
    rw [pow_zero, Nat.mod_one]
    exact zero
  | succ count ih =>
    rw [bits, List.foldr_cons]
    have doubled := even _ _ (ih (n / 2))
    have split : n % 2 ^ (count + 1) = 2 * (n / 2 % 2 ^ count) + n % 2 := by
      rw [pow_succ', Nat.mod_mul]
      omega
    rcases Nat.mod_two_eq_zero_or_one n with parity | parity
    · rw [split, parity]
      exact doubled
    · rw [split, parity]
      exact odd _ _ doubled

/-! ### Lucas tests -/

def powMod (m a n : Nat) : Nat :=
  (bits 256 n).foldr (fun bit r => if bit then r * r % m * a % m else r * r % m) 1

theorem powMod_cast (m a : Nat) {n : Nat} (small : n < 2 ^ 256) :
    (powMod m a n : ZMod m) = (a : ZMod m) ^ n := by
  have computed := foldr_bits (fun (r : Nat) k => (r : ZMod m) = (a : ZMod m) ^ k)
    (fun r => r * r % m) (fun r => r * a % m) 1 (by simp)
    (fun r k same => by simp [same, two_mul, pow_add]) (fun r k same => by simp [same, pow_succ]) 256 n
  rw [Nat.mod_eq_of_lt small] at computed
  exact computed

/-- The test of Lucas with the base `a`, where the product of `factors` is the number before `p`. -/
def lucasTest (p a : Nat) (factors : List Nat) : Bool :=
  2 ≤ p && p ≤ 2 ^ 256 && factors.prod == p - 1 && powMod p a (p - 1) % p == 1 &&
    factors.all fun q => powMod p a ((p - 1) / q) % p != 1

theorem prime_of_lucasTest {p : Nat} (a : Nat) (factors : List Nat)
    (tested : lucasTest p a factors = true) (primes : ∀ q ∈ factors, q.Prime) : p.Prime := by
  simp only [lucasTest, Bool.and_eq_true, decide_eq_true_eq, beq_iff_eq, List.all_eq_true,
    bne_iff_ne] at tested
  obtain ⟨⟨⟨⟨large, small⟩, product⟩, full⟩, parts⟩ := tested
  have cast_eq_one : ∀ r : Nat, (r : ZMod p) = 1 ↔ r % p = 1 := by
    intro r
    rw [← Nat.cast_one, ZMod.natCast_eq_natCast_iff', Nat.mod_eq_of_lt (show 1 < p from large)]
  refine lucas_primality p (a : ZMod p) ?_ ?_
  · rw [← powMod_cast p a (by omega), cast_eq_one]
    exact full
  · intro q prime divides
    obtain ⟨r, member, same⟩ := (Prime.dvd_prod_iff prime.prime).mp (product ▸ divides)
    obtain rfl := (Nat.prime_dvd_prime_iff_eq prime (primes r member)).mp same
    have below := Nat.div_le_self (p - 1) q
    rw [ne_eq, ← powMod_cast p a (by omega), cast_eq_one]
    exact parts q member

/-! ### The chain -/

/-- A number, the base of its test, and the primes of the number before it. -/
structure Certificate where
  number : Nat
  base : Nat
  factors : List Nat

/-- Each number passes its test with primes that are known by then. -/
def chainTest (known : List Nat) : List Certificate → Bool
  | [] => true
  | c :: rest =>
    lucasTest c.number c.base c.factors && c.factors.all (fun q => known.contains q) &&
      chainTest (c.number :: known) rest

theorem prime_of_chainTest {known : List Nat} {chain : List Certificate}
    (primes : ∀ q ∈ known, q.Prime) (tested : chainTest known chain = true) :
    ∀ c ∈ chain, c.number.Prime := by
  induction chain generalizing known with
  | nil => exact nofun
  | cons c rest ih =>
    simp only [chainTest, Bool.and_eq_true, List.all_eq_true, List.contains_iff_mem] at tested
    obtain ⟨⟨number, factors⟩, later⟩ := tested
    have prime : c.number.Prime :=
      prime_of_lucasTest c.base c.factors number fun q member => primes q (factors q member)
    intro d member
    rcases List.mem_cons.mp member with rfl | member
    · exact prime
    · exact ih (List.forall_mem_cons.mpr ⟨prime, primes⟩) later d member

def smallPrimes : List Nat :=
  [2, 3, 5, 7, 13, 19, 31, 47, 103, 107, 127, 223, 353, 991, 2437, 4153, 57467, 65147, 75707, 132049,
    430751, 569003, 1923133]

def fieldPrimeCertificate : Certificate :=
  ⟨fieldPrime, 2, [2, 2, 3, 65147,
    74058212732561358302231226437062788676166966415465897661863160754340907]⟩

def fieldPrimeChain : List Certificate := [
  ⟨2773320623, 5, [2, 2437, 569003]⟩,
  ⟨72106336199, 7, [2, 13, 2773320623]⟩,
  ⟨8574133, 2, [2, 2, 3, 7, 103, 991]⟩,
  ⟨1919519569386763, 2, [2, 3, 7, 19, 47, 47, 127, 8574133]⟩,
  ⟨75445702479781427272750846543864801, 7,
    [2, 2, 2, 2, 2, 3, 3, 5, 5, 75707, 72106336199, 1919519569386763]⟩,
  ⟨31757755568855353, 10, [2, 2, 2, 3, 31, 107, 223, 4153, 430751]⟩,
  ⟨74058212732561358302231226437062788676166966415465897661863160754340907, 2,
    [2, 3, 353, 57467, 132049, 1923133, 31757755568855353, 75445702479781427272750846543864801]⟩,
  fieldPrimeCertificate]

theorem fieldPrime_prime : fieldPrime.Prime := by
  have small : ∀ q ∈ smallPrimes, q.Prime := by norm_num [smallPrimes]
  have tested : chainTest smallPrimes fieldPrimeChain = true := by decide +kernel
  exact prime_of_chainTest small tested fieldPrimeCertificate (by simp [fieldPrimeChain])

end MarketGateway.Crypto.Ed25519
