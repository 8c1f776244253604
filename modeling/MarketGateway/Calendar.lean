import MarketGateway.Text.Blank
import MarketGateway.Text.Integer

/-!
# Calendar times

Dates of the proleptic Gregorian calendar with a time of day, read from the notation
`YYYY-MM-DDTHH:MM:SS` with an optional fraction, and counted in milliseconds from the start of 1970.
-/

namespace MarketGateway.Calendar

/-! ### Dates -/

def isLeap (year : Int) : Bool := year % 4 == 0 && (year % 100 != 0 || year % 400 == 0)

def daysInMonth (year : Int) : Nat → Nat
  | 2 => if isLeap year then 29 else 28
  | 4 | 6 | 9 | 11 => 30
  | _ => 31

def daysBeforeMonth (year : Int) (month : Nat) : Nat :=
  (List.range (month - 1)).foldl (fun days m => days + daysInMonth year (m + 1)) 0

/-- The days from the first day of year 1 to the first day of a year. -/
def daysBeforeYear (year : Int) : Int :=
  365 * (year - 1) + (year - 1) / 4 - (year - 1) / 100 + (year - 1) / 400

structure DateTime where
  year : Int
  month : Nat
  day : Nat
  hour : Nat
  minute : Nat
  second : Nat
  nanosecond : Nat
deriving DecidableEq

namespace DateTime

def epochDay (t : DateTime) : Int :=
  daysBeforeYear t.year + daysBeforeMonth t.year t.month + t.day - 1 - daysBeforeYear 1970

/-- The time of day; second 60 lies within the second before it. -/
def msOfDay (t : DateTime) : Nat :=
  ((t.hour * 60 + t.minute) * 60 + t.second) * 1000 + t.nanosecond / 1000000

def epochMs (t : DateTime) : Int := t.epochDay * 86400000 + t.msOfDay

/-- The date exists, and its year is within the range of years there are. -/
def hasDate (t : DateTime) : Bool :=
  (-262143 ≤ t.year && t.year ≤ 262142) && (1 ≤ t.month && t.month ≤ 12) &&
    (1 ≤ t.day && t.day ≤ daysInMonth t.year t.month)

end DateTime

/-! ### The notation -/

inductive ReadError where
  | tooShort
  | invalid
  | outOfRange
  | tooLong
deriving DecidableEq

def ReadError.message : ReadError → String
  | .tooShort => "premature end of input"
  | .invalid => "input contains invalid characters"
  | .outOfRange => "input is out of range"
  | .tooLong => "trailing input"

/-- Reads digits after `value`, at most `more` of them, while the value has 64 bits. -/
def readMore : Nat → Nat → List Char → Except ReadError (Nat × List Char)
  | 0, value, cs => .ok (value, cs)
  | _ + 1, value, [] => .ok (value, [])
  | more + 1, value, c :: cs =>
    match Text.digit? c with
    | none => .ok (value, c :: cs)
    | some d =>
      if value * 10 + d < 2 ^ 63 then readMore more (value * 10 + d) cs else .error .outOfRange

/-- A number of one to `width` digits. -/
def readNumber (width : Nat) : List Char → Except ReadError (Nat × List Char)
  | [] => .error .tooShort
  | c :: cs => if c.isDigit then readMore width 0 (c :: cs) else .error .invalid

/-- A number from `low` to `high` of at most two digits, after blanks. -/
def readItem (low high : Nat) (cs : List Char) : Except ReadError (Nat × List Char) := do
  let (n, rest) ← readNumber 2 (cs.dropWhile Text.isBlank)
  if low ≤ n ∧ n ≤ high then return (n, rest) else throw .outOfRange

/-- A year of at most four digits, or with a sign and any number of digits. -/
def readYear (cs : List Char) : Except ReadError (Int × List Char) := do
  let (year, rest) ← match cs.dropWhile Text.isBlank with
    | '-' :: cs => do
      let (n, rest) ← readNumber cs.length cs
      pure (-(n : Int), rest)
    | '+' :: cs => do
      let (n, rest) ← readNumber cs.length cs
      pure ((n : Int), rest)
    | cs => do
      let (n, rest) ← readNumber 4 cs
      pure ((n : Int), rest)
  if -2 ^ 31 ≤ year ∧ year < 2 ^ 31 then return (year, rest) else throw .outOfRange

def readMark (mark : Char) : List Char → Except ReadError (List Char)
  | [] => .error .tooShort
  | c :: cs => if c = mark then .ok cs else .error .invalid

/-- A fraction of a second in nanoseconds; digits after the ninth do not count. -/
def readFraction : List Char → Except ReadError (Nat × List Char)
  | '.' :: cs => do
    let (n, rest) ← readNumber 9 cs
    return (n * 10 ^ (9 - (cs.length - rest.length)), rest.dropWhile Char.isDigit)
  | cs => .ok (0, cs)

def readFields (cs : List Char) : Except ReadError DateTime := do
  let (year, cs) ← readYear cs
  let cs ← readMark '-' cs
  let (month, cs) ← readItem 1 12 cs
  let cs ← readMark '-' cs
  let (day, cs) ← readItem 1 31 cs
  let cs ← readMark 'T' cs
  let (hour, cs) ← readItem 0 23 cs
  let cs ← readMark ':' cs
  let (minute, cs) ← readItem 0 59 cs
  let cs ← readMark ':' cs
  let (second, cs) ← readItem 0 60 cs
  let (nanosecond, cs) ← readFraction cs
  if cs.isEmpty then return ⟨year, month, day, hour, minute, second, nanosecond⟩
  else throw .tooLong

def read (s : String) : Except ReadError DateTime := do
  let t ← readFields s.toList
  if t.hasDate then return t else throw .outOfRange

end MarketGateway.Calendar
