import MarketGateway.Decimal.Basic

/-!
# Decimal arithmetic

Sums and products are computed exactly and then fitted: as few digits as possible are rounded off,
half to even, until 96 bits and 28 places hold the result. Where no number of digits will do, there
is no result.
-/

namespace MarketGateway.Decimal

/-- The quotient rounded to the nearest integer, half to even. -/
def roundHalfEven (n divisor : Nat) : Nat :=
  let quotient := n / divisor
  let rest := n % divisor
  if 2 * rest > divisor || (2 * rest == divisor && quotient % 2 == 1) then quotient + 1 else quotient

/-- `n / 10 ^ scale` with `places` digits rounded off, if that is a decimal. -/
def shorten? (n scale places : Nat) : Option Magnitude :=
  if h : roundHalfEven n (10 ^ places) < 2 ^ 96 ∧ scale - places ≤ 28 then
    some ⟨roundHalfEven n (10 ^ places), scale - places, h.1, h.2⟩
  else none

/-- `n / 10 ^ scale` with the fewest digits rounded off. -/
def fit? (n scale : Nat) : Option Magnitude :=
  (List.range (scale + 1)).findSome? (shorten? n scale)

/-- The decimal nearest to `n / 10 ^ scale`. -/
def ofExact? (n : Int) (scale : Nat) : Option Decimal :=
  (fit? n.natAbs scale).map (ofMagnitude (decide (n < 0)))

/-- The exact sum over the larger of the two scales. -/
def exactSum (a b : Decimal) : Int :=
  a.coefficient * 10 ^ (max a.scale b.scale - a.scale) +
    b.coefficient * 10 ^ (max a.scale b.scale - b.scale)

/-- A zero operand leaves the other one as it is, with its own scale and sign. -/
def add (a b : Decimal) : Option Decimal :=
  if a.isZero then some b
  else if b.isZero then some a
  else ofExact? (exactSum a b) (max a.scale b.scale)

def sub (a b : Decimal) : Option Decimal :=
  if a.isZero then some (if b.isZero then b else neg b)
  else if b.isZero then some a
  else ofExact? (exactSum a (neg b)) (max a.scale b.scale)

/-- A product with zero is the plain zero. A product of two one-word coefficients that comes to zero has
no sign, and lies it more than 19 digits below the last place there is, no scale either; any other
product has the sign of its factors. -/
def mul (a b : Decimal) : Option Decimal :=
  let negative := a.negative != b.negative
  if a.isZero || b.isZero then some zero
  else if a.value < 2 ^ 32 ∧ b.value < 2 ^ 32 then
    if 47 < a.scale + b.scale then some zero
    else (fit? (a.value * b.value) (a.scale + b.scale)).map (ofMagnitude negative)
  else (fit? (a.value * b.value) (a.scale + b.scale)).map fun m => ⟨m, negative⟩

end MarketGateway.Decimal
