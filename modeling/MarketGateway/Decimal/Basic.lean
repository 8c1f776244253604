import MarketGateway.Text.Integer

/-!
# Exact decimals

A decimal is a sign, a coefficient of at most 96 bits and a scale of at most 28 digits. The scale is
part of the value: `1.5` and `1.50` are different decimals of equal size. Zero has a scale too, and
what was rounded down to zero keeps its sign.
-/

namespace MarketGateway

structure Magnitude where
  value : Nat
  scale : Nat
  value_lt : value < 2 ^ 96
  scale_le : scale ≤ 28
deriving DecidableEq

theorem Magnitude.zero_lt : 0 < 2 ^ 96 := by decide

def Magnitude.whole (value : Nat) (value_lt : value < 2 ^ 96) : Magnitude :=
  ⟨value, 0, value_lt, Nat.zero_le 28⟩

structure Decimal extends Magnitude where
  negative : Bool
deriving DecidableEq

namespace Decimal

/-- A decimal whose zero has no sign. -/
def ofMagnitude (negative : Bool) (m : Magnitude) : Decimal := ⟨m, negative && m.value != 0⟩

def zero : Decimal := ⟨.whole 0 Magnitude.zero_lt, false⟩

instance : Inhabited Decimal := ⟨zero⟩

def isZero (d : Decimal) : Bool := d.value == 0

def coefficient (d : Decimal) : Int := if d.negative then -(d.value : Int) else d.value

def neg (d : Decimal) : Decimal := { d with negative := !d.negative }

/-- `a` is at most as large as `b`; neither the scale nor the sign of a zero matters. -/
def atMost (a b : Decimal) : Bool :=
  decide (a.coefficient * 10 ^ b.scale ≤ b.coefficient * 10 ^ a.scale)

/-- The larger of two decimals, the first one where they are equally large. -/
def larger (a b : Decimal) : Decimal := if atMost b a then a else b

/-! ### Decimal notation -/

/-- The digits of a natural number, with zeros in front up to `width`. -/
def paddedDigits (width n : Nat) : List Char :=
  let digits := Nat.toDigits 10 n
  List.replicate (width - digits.length) '0' ++ digits

/-- A decimal is written with all the digits of its scale and at least one before the point. -/
def toText (d : Decimal) : String :=
  let digits := paddedDigits (d.scale + 1) d.value
  let whole := digits.take (digits.length - d.scale)
  let fraction := digits.drop (digits.length - d.scale)
  String.ofList ((if d.negative then ['-'] else []) ++ whole ++
    (if fraction.isEmpty then [] else '.' :: fraction))

end Decimal

end MarketGateway
