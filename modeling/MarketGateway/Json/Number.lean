import MarketGateway.Json.Double
import MarketGateway.Text.Integer

/-!
# JSON numbers

A number in integer notation that fits 64 bits, signed or unsigned, stays an integer. Every other
number becomes a double: its first digits are taken as a 64-bit integer and scaled by a power of ten,
so digits past those 64 bits do not count.
-/

namespace MarketGateway.Json

inductive Number where
  | integer (value : Int)
  | double (value : Double)
deriving DecidableEq

namespace Number

def toText : Number → String
  | .integer n => toString n
  | .double d => d.toText

structure Parts where
  negative : Bool
  whole : List Char
  fraction : Option (List Char)
  exponent : Option (Bool × List Char)

/-- The grammar of JSON numbers: no zero in front of further digits, and at least one digit in every
part that is there. -/
def Parts.wellFormed (p : Parts) : Bool :=
  !p.whole.isEmpty && (p.whole.head? != some '0' || p.whole.length == 1) &&
    p.fraction.all (fun f => !f.isEmpty) && p.exponent.all (fun e => !e.2.isEmpty)

def splitSign : List Char → Bool × List Char
  | '-' :: cs => (true, cs)
  | cs => (false, cs)

def splitExponentSign : List Char → Bool × List Char
  | '-' :: cs => (true, cs)
  | '+' :: cs => (false, cs)
  | cs => (false, cs)

/-- The parts of a number and what is left of the text. -/
def Parts.ofChars (cs : List Char) : Parts × List Char :=
  let (negative, cs) := splitSign cs
  let whole := cs.takeWhile Char.isDigit
  let rest := cs.dropWhile Char.isDigit
  let (fraction, rest) := match rest with
    | '.' :: cs => (some (cs.takeWhile Char.isDigit), cs.dropWhile Char.isDigit)
    | cs => (none, cs)
  let (exponent, rest) := match rest with
    | c :: cs =>
      if c = 'e' || c = 'E' then
        let (minus, cs) := splitExponentSign cs
        (some (minus, cs.takeWhile Char.isDigit), cs.dropWhile Char.isDigit)
      else (none, c :: cs)
    | [] => (none, [])
  (⟨negative, whole, fraction, exponent⟩, rest)

/-- The longest start of the digits that is a 64-bit number, and how many digits are left. -/
def significant : Nat → List Char → Nat × Nat
  | value, [] => (value, 0)
  | value, c :: cs =>
    let next := value * 10 + (c.toNat - 48)
    if next < 2 ^ 64 then significant next cs else (value, cs.length + 1)

/-- `significand * 10 ^ power`, both factors rounded to doubles first. -/
def scaled? (negative : Bool) (significand : Nat) (power : Int) : Option Double :=
  (Double.nearest? negative significand 1).bind fun base =>
    if power.natAbs ≤ 308 then
      (Double.nearest? false (10 ^ power.natAbs) 1).bind fun scale =>
        if power < 0 then base.div? scale else base.mul? scale
    else if base.significand = 0 then some base
    else if 0 < power then none
    else
      (Double.nearest? false (10 ^ 308) 1).bind fun scale => (base.div? scale).bind fun base =>
        if base.significand = 0 then some base
        else if 616 < power.natAbs then some (Double.zero negative)
        else (Double.nearest? false (10 ^ (power.natAbs - 308)) 1).bind base.div?

/-- The value of the exponent part; none where it needs more than 31 bits. -/
def exponentValue? (digits : List Char) : Option Nat :=
  let value := Nat.ofDigitChars 10 digits 0
  if value < 2 ^ 31 then some value else none

def Parts.toDouble? (p : Parts) : Option Double :=
  let (lead, dropped) := significant 0 p.whole
  let fraction := p.fraction.getD []
  let (significand, left) := significant lead fraction
  let power : Int := dropped - ((fraction.length - left : Nat) : Int)
  match p.exponent with
  | none => scaled? p.negative significand power
  | some (minus, digits) =>
    match exponentValue? digits with
    | some e => scaled? p.negative significand (if minus then power - e else power + e)
    | none => if significand = 0 || minus then some (Double.zero p.negative) else none

/-- An integer where notation and size allow it, else a double. -/
def Parts.toNumber? (p : Parts) : Option Number :=
  let value := Nat.ofDigitChars 10 p.whole 0
  if p.fraction.isNone && p.exponent.isNone then
    if p.negative then
      if 0 < value ∧ value ≤ 2 ^ 63 then some (.integer (-(value : Int)))
      else p.toDouble?.map .double
    else if value < 2 ^ 64 then some (.integer value)
    else p.toDouble?.map .double
  else p.toDouble?.map .double

def ofChars? (cs : List Char) : Option Number :=
  match Parts.ofChars cs with
  | (p, []) => if p.wellFormed then p.toNumber? else none
  | _ => none

end Number

end MarketGateway.Json
