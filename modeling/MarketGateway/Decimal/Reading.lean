import MarketGateway.Decimal.Arithmetic
import MarketGateway.Text.Integer

/-!
# Reading decimals

The notation is an optional sign, digits, and at most one point; an underscore may stand anywhere
after the first digit. A fraction that does not fit is rounded half up at the first digit that is
left out, and what follows that digit only has to be well formed. A text with an `e` in it is a decimal
in this notation and a power of ten, such as `1e5`.
-/

namespace MarketGateway.Decimal

inductive ReadError where
  | empty
  | noDigits
  | unknownCharacter
  | twoPoints
  | leadingSeparator
  | tooManyDigits
  | roundedOverflow
  | noPower
  | powerTooLarge (power : Nat)
  | tooLarge
deriving DecidableEq

def ReadError.message : ReadError → String
  | .empty => "Invalid decimal: empty"
  | .noDigits => "Invalid decimal: no digits found"
  | .unknownCharacter => "Invalid decimal: unknown character"
  | .twoPoints => "Invalid decimal: two decimal points"
  | .leadingSeparator => "Invalid decimal: must start lead with a number"
  | .tooManyDigits => "Invalid decimal: overflow from too many digits"
  | .roundedOverflow => "Invalid decimal: overflow from mantissa after rounding"
  | .noPower => "Failed to parse"
  | .powerTooLarge power =>
    "Scale exceeds the maximum precision allowed: " ++ toString power ++ " > 28"
  | .tooLarge => "Number exceeds maximum value that can be represented."

/-- What is wrong with a character that is no digit and stands where only digits may. -/
def strangeCharacter (c : Char) (seen : Bool) : ReadError :=
  if c = '.' then .twoPoints else if c = '_' && !seen then .leadingSeparator else .unknownCharacter

/-- The characters after a rounded digit change nothing but have to be digits or separators. -/
def checkRest (m : Magnitude) : List Char → Except ReadError Magnitude
  | [] => .ok m
  | c :: cs =>
    if c.isDigit || c = '_' then checkRest m cs else .error (strangeCharacter c true)

/-- Rounds half up on the first digit that is left out. -/
def roundUp (m : Magnitude) (digit : Nat) : Except ReadError Magnitude :=
  if digit < 5 then .ok m
  else if h : m.value + 1 < 2 ^ 96 then .ok { m with value := m.value + 1, value_lt := h }
  else if m.scale = 0 then .error .roundedOverflow
  else .ok {
    value := (m.value + 1 + 4) / 10
    scale := m.scale - 1
    value_lt := by have := m.value_lt; omega
    scale_le := by have := m.scale_le; omega }

/-- The digits before the last one no longer fit into one word, with some room to spare. -/
def isLong (m : Magnitude) : Bool := decide ((2 ^ 64 - 1) / 10 - 255 ≤ m.value / 10)

/-- Reads what follows the point. A separator in the place of the digit that decides on rounding is
passed over if many digits came before it, and counts as a zero otherwise. -/
def readFraction (seen : Bool) (m : Magnitude) : List Char → Except ReadError Magnitude
  | [] => if seen then .ok m else .error .noDigits
  | c :: cs =>
    match Text.digit? c with
    | some d =>
      if h : m.scale < 28 ∧ m.value * 10 + d < 2 ^ 96 then
        readFraction true ⟨m.value * 10 + d, m.scale + 1, h.2, h.1⟩ cs
      else do checkRest (← roundUp m d) cs
    | none =>
      if c = '_' && seen then
        if m.scale < 28 || isLong m then readFraction seen m cs else checkRest m cs
      else .error (strangeCharacter c seen)

/-- Reads what stands before the point, after `value`. -/
def readWhole (seen : Bool) (value : Nat) (value_lt : value < 2 ^ 96) :
    List Char → Except ReadError Magnitude
  | [] => if seen then .ok ⟨value, 0, value_lt, by omega⟩ else .error .noDigits
  | c :: cs =>
    match Text.digit? c with
    | some d =>
      if h : value * 10 + d < 2 ^ 96 then readWhole true (value * 10 + d) h cs
      else .error .tooManyDigits
    | none =>
      if c = '.' then readFraction seen ⟨value, 0, value_lt, by omega⟩ cs
      else if c = '_' && seen then readWhole seen value value_lt cs
      else .error (strangeCharacter c seen)

def readUnsigned (cs : List Char) : Except ReadError Magnitude :=
  readWhole false 0 Magnitude.zero_lt cs

def readPositional : List Char → Except ReadError Decimal
  | [] => .error .empty
  | '-' :: cs => (readUnsigned cs).map (ofMagnitude true)
  | '+' :: cs => (readUnsigned cs).map (ofMagnitude false)
  | cs => (readUnsigned cs).map (ofMagnitude false)

/-! ### Powers of ten -/

/-- Divides by a power of ten; what lies below the last place there is, is rounded half up. -/
def pointLeft (m : Magnitude) (places : Nat) : Magnitude :=
  if h : m.scale + places ≤ 28 then { m with scale := m.scale + places, scale_le := h }
  else
    { value := (m.value + 10 ^ (m.scale + places - 28) / 2) / 10 ^ (m.scale + places - 28)
      scale := 28
      value_lt := by
        have hm := m.value_lt
        have hd : 10 ^ 1 ≤ 10 ^ (m.scale + places - 28) :=
          Nat.pow_le_pow_right (by omega) (by omega)
        rw [Nat.div_lt_iff_lt_mul (by omega)]
        omega
      scale_le := by omega }

/-- Multiplies by a power of ten: the point moves right as far as there are digits behind it, and
past them the coefficient grows. -/
def pointRight (m : Magnitude) (places : Nat) : Except ReadError Magnitude :=
  if places ≤ m.scale then
    .ok { m with scale := m.scale - places, scale_le := by have := m.scale_le; omega }
  else if 28 < places then .error (.powerTooLarge places)
  else if h : m.value * 10 ^ (places - m.scale) < 2 ^ 96 then
    .ok ⟨m.value * 10 ^ (places - m.scale), 0, h, by omega⟩
  else .error .tooLarge

def readPower (cs : List Char) : Except ReadError Nat :=
  ((Text.readUInt32 (String.ofList cs)).mapError fun _ => .noPower).map UInt32.toNat

/-- Applies the power of ten that stands after the `e`. What is rounded down to zero keeps its sign. -/
def applyPower (d : Decimal) : List Char → Except ReadError Decimal
  | '-' :: cs => do
    let places ← readPower cs
    if 28 < places then .error (.powerTooLarge places)
    else return { d with toMagnitude := pointLeft d.toMagnitude places }
  | cs => do
    return { d with toMagnitude := ← pointRight d.toMagnitude (← readPower cs) }

def isPowerMark (c : Char) : Bool := c = 'e' || c = 'E'

def ofChars (cs : List Char) : Except ReadError Decimal := do
  let d ← readPositional (cs.takeWhile fun c => !isPowerMark c)
  match cs.dropWhile fun c => !isPowerMark c with
  | [] => return d
  | _ :: power => applyPower d power

def ofText (s : String) : Except ReadError Decimal := ofChars s.toList

end MarketGateway.Decimal
