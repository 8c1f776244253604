import MarketGateway.Decimal.Arithmetic

/-!
# Double precision numbers

A finite double is a sign and a significand times a power of two. `nearest?` rounds a quotient to the
nearest double, half to even; `shortest` finds the fewest decimal digits that read back. Everything
is computed in exact integers.
-/

namespace MarketGateway.Json

/-- The number `± significand * 2 ^ exponent`. -/
structure Double where
  negative : Bool
  significand : Nat
  exponent : Int
deriving DecidableEq

namespace Double

def zero (negative : Bool) : Double := ⟨negative, 0, -1074⟩

/-- The exponent of the last binary place that a double near `n / divisor` has. -/
def lastPlace (n divisor : Nat) : Int :=
  let guess : Int := (Nat.log2 n : Int) - Nat.log2 divisor - 53
  let reaches := n * 2 ^ (-(guess + 53)).toNat ≥ divisor * 2 ^ (guess + 53).toNat
  max (if reaches then guess + 1 else guess) (-1074)

/-- The double nearest to `n / divisor`, half to even, unless that is past the largest one. -/
def nearest? (negative : Bool) (n divisor : Nat) : Option Double :=
  if n = 0 then some (zero negative)
  else
    let place := lastPlace n divisor
    let units := Decimal.roundHalfEven (n * 2 ^ (-place).toNat) (divisor * 2 ^ place.toNat)
    let (units, place) := if units = 2 ^ 53 then (2 ^ 52, place + 1) else (units, place)
    if place ≤ 971 then some ⟨negative, units, place⟩ else none

def ratio (d : Double) : Nat × Nat :=
  (d.significand * 2 ^ d.exponent.toNat, 2 ^ (-d.exponent).toNat)

def mul? (a b : Double) : Option Double :=
  nearest? (a.negative != b.negative) (a.ratio.1 * b.ratio.1) (a.ratio.2 * b.ratio.2)

def div? (a b : Double) : Option Double :=
  nearest? (a.negative != b.negative) (a.ratio.1 * b.ratio.2) (a.ratio.2 * b.ratio.1)

/-! ### The fewest digits that read back -/

/-- The count of decimal digits of `n`. -/
def digitCount (n : Nat) : Nat := (Nat.toDigits 10 n).length

/-- The power of ten of the first digit of `n / divisor`, for a positive quotient. -/
def leadingPower (n divisor : Nat) : Int :=
  if divisor ≤ n then (digitCount (n / divisor) : Int) - 1
  else -(digitCount ((divisor + n - 1) / n - 1) : Int)

/-- The interval of the quotients that round to a double, over one denominator, and whether its ends
belong to it. -/
structure Rounding where
  low : Nat
  value : Nat
  high : Nat
  divisor : Nat
  closed : Bool

def rounding (d : Double) : Rounding :=
  let (n, divisor) := d.ratio
  let unit := 2 ^ d.exponent.toNat
  -- Below a power of two the doubles lie twice as close.
  let below := if d.significand = 2 ^ 52 ∧ d.exponent > -1074 then unit else 2 * unit
  { low := 4 * n - below
    value := 4 * n
    high := 4 * n + 2 * unit
    divisor := 4 * divisor
    closed := d.significand % 2 = 0 }

/-- Whether `units * 10 ^ power` rounds to the double. -/
def Rounding.holds (r : Rounding) (units : Nat) (power : Int) : Bool :=
  let scaled := units * 10 ^ power.toNat * r.divisor
  let scale := 10 ^ (-power).toNat
  if r.closed then r.low * scale ≤ scaled && scaled ≤ r.high * scale
  else r.low * scale < scaled && scaled < r.high * scale

/-- The neighbour on the grid `10 ^ power` that rounds to the double, the nearer one of two. -/
def Rounding.onGrid? (r : Rounding) (power : Int) : Option Nat :=
  let n := r.value * 10 ^ (-power).toNat
  let divisor := r.divisor * 10 ^ power.toNat
  let below := n / divisor
  let rest := n % divisor
  let upper := 2 * rest > divisor || (2 * rest == divisor && below % 2 == 1)
  match r.holds below power, r.holds (below + 1) power with
  | true, true => some (if upper then below + 1 else below)
  | true, false => some below
  | false, true => some (below + 1)
  | false, false => none

/-- The digits of a positive decimal and the power of ten of the first one. -/
structure Digits where
  digits : List Char
  power : Int

/-- Zeros at the end of a digit string carry no information. -/
def trimZeros (digits : List Char) : List Char := (digits.reverse.dropWhile (· = '0')).reverse

def shortest (d : Double) : Digits :=
  let r := d.rounding
  let first := leadingPower r.value r.divisor
  let found := (List.range 17).findSome? fun (more : Nat) =>
    let power : Int := first - more
    (r.onGrid? power).map fun units =>
      let digits := Nat.toDigits 10 units
      ⟨trimZeros digits, power + (digits.length : Int) - 1⟩
  found.getD ⟨['0'], 0⟩

/-- Digits placed around a point, with zeros where there are no digits. -/
def Digits.positional (d : Digits) : List Char × List Char :=
  if d.power < 0 then (['0'], List.replicate ((-d.power).toNat - 1) '0' ++ d.digits)
  else
    let whole := d.power.toNat + 1
    (d.digits.take whole ++ List.replicate (whole - d.digits.length) '0', d.digits.drop whole)

/-- The text of a double in a JSON document: positional where the first digit is at one of the powers
-5 to 15 of ten, always with a digit after the point, and otherwise with an exponent. -/
def toText (d : Double) : String :=
  let sign := if d.negative then ['-'] else []
  if d.significand = 0 then String.ofList (sign ++ "0.0".toList)
  else
    let s := d.shortest
    if -5 ≤ s.power ∧ s.power ≤ 15 then
      let (whole, fraction) := s.positional
      String.ofList (sign ++ whole ++ '.' :: (if fraction.isEmpty then ['0'] else fraction))
    else
      let mantissa := s.digits.take 1 ++
        (if s.digits.length > 1 then '.' :: s.digits.drop 1 else [])
      let exponentSign := if s.power < 0 then '-' else '+'
      String.ofList (sign ++ mantissa ++ 'e' :: exponentSign :: Nat.toDigits 10 s.power.natAbs)

/-- The text of a double without an exponent, and without a point where it is whole. -/
def toPlainText (d : Double) : String :=
  let sign := if d.negative then ['-'] else []
  if d.significand = 0 then String.ofList (sign ++ ['0'])
  else
    let (whole, fraction) := d.shortest.positional
    String.ofList (sign ++ whole ++ (if fraction.isEmpty then [] else '.' :: fraction))

end Double

end MarketGateway.Json
