import MarketGateway.Error

/-!
# Amounts and times of the exchange

Amounts come as texts; blanks around them do not count. Times come in milliseconds or microseconds.
-/

namespace MarketGateway.Conversion

def amount (field text : String) : Except Fault Decimal :=
  (Decimal.ofText (Text.trim text)).mapError fun e => .error (.unreadable (.decimal field text e))

/-- A field that is absent or blank counts as zero. -/
def amountOrZero (field : String) : Option String → Except Fault Decimal
  | some text => if Text.allBlank text then .ok Decimal.zero else amount field text
  | none => .ok Decimal.zero

def product (a b : Decimal) : Except Fault Decimal :=
  (Decimal.mul a b).elim (.error (.overflow .product)) .ok

def sum (a b : Decimal) : Except Fault Decimal :=
  (Decimal.add a b).elim (.error (.overflow .sum)) .ok

def difference (a b : Decimal) : Except Fault Decimal :=
  (Decimal.sub a b).elim (.error (.overflow .difference)) .ok

/-- Microseconds to milliseconds, rounded toward zero. -/
def microsToMs (micros : Int64) : Int64 := micros / 1000

/-- Times past this many are microseconds. -/
def microsThreshold : Int64 := 100000000000000

def toEpochMs (time : Int64) : Int64 :=
  if microsThreshold < time then microsToMs time else time

end MarketGateway.Conversion
