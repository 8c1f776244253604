import MarketGateway.Text.Integer

/-!
# Backoff

How long to wait before the next connection. The delay grows by a factor with every failure, up to a
longest one. Durations are nanoseconds.
-/

namespace MarketGateway

structure Backoff where
  base : Nat
  factor : Nat
  longest : Nat
deriving DecidableEq

namespace Backoff

/-- Counts go up to this number and stay there. -/
def maxCount : Nat := 2 ^ 32 - 1

def maxDuration : Nat := 2 ^ 64 * 10 ^ 9 - 1

/-- A power, at most `maxCount`. A factor of two or more is past it at the power of 32. -/
def multiplier (factor failures : Nat) : Nat :=
  if 2 ≤ factor ∧ 32 ≤ failures then maxCount else min (factor ^ failures) maxCount

def delay (b : Backoff) (failures : Nat) : Nat :=
  min (min (b.base * multiplier b.factor failures) maxDuration) b.longest

end Backoff

end MarketGateway
