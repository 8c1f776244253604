/-!
# Integers in decimal notation

A text is an integer when it is an optional sign followed by ASCII digits only. `readBetween` reads
it left to right and reports the first thing that is wrong: a character that is no digit, or a
digit with which the value leaves its range.
-/

-- The ranges are powers, here and wherever integers are bounded; they are those of the core library, also
-- where another library has powers of its own.
attribute [instance (2000), default_instance (20000)] instPowNat

namespace MarketGateway.Text

inductive IntegerError where
  | empty
  | invalidDigit
  | tooLarge
  | tooSmall
deriving DecidableEq

def IntegerError.message : IntegerError → String
  | .empty => "cannot parse integer from empty string"
  | .invalidDigit => "invalid digit found in string"
  | .tooLarge => "number too large to fit in target type"
  | .tooSmall => "number too small to fit in target type"

def digit? (c : Char) : Option Nat := if c.isDigit then some (c.toNat - 48) else none

/-- Reads digits after `value` while it stays at most `limit`. -/
def readDigits (limit : Nat) (overflow : IntegerError) : Nat → List Char → Except IntegerError Nat
  | value, [] => .ok value
  | value, c :: cs =>
    match digit? c with
    | none => .error .invalidDigit
    | some d =>
      if value * 10 + d ≤ limit then readDigits limit overflow (value * 10 + d) cs
      else .error overflow

/-- At least one digit has to follow the sign. -/
def readSigned (limit : Nat) (overflow : IntegerError) (cs : List Char) : Except IntegerError Nat :=
  if cs.isEmpty then .error .invalidDigit else readDigits limit overflow 0 cs

/-- An integer from `-below` to `above`; a minus sign is a foreign character where `below` is
zero. -/
def readBetween (below above : Nat) (s : String) : Except IntegerError Int :=
  match s.toList with
  | [] => .error .empty
  | '+' :: cs => (readSigned above .tooLarge cs).map Int.ofNat
  | '-' :: cs =>
    if below = 0 then .error .invalidDigit
    else (readSigned below .tooSmall cs).map fun n => -Int.ofNat n
  | cs => (readSigned above .tooLarge cs).map Int.ofNat

def readInt64 (s : String) : Except IntegerError Int64 :=
  (readBetween (2 ^ 63) (2 ^ 63 - 1) s).map Int64.ofInt

def readUInt64 (s : String) : Except IntegerError Nat :=
  (readBetween 0 (2 ^ 64 - 1) s).map Int.toNat

def readUInt32 (s : String) : Except IntegerError UInt32 :=
  (readBetween 0 (2 ^ 32 - 1) s).map fun n => UInt32.ofNat n.toNat

end MarketGateway.Text
