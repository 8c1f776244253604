import MarketGateway.Text.Ascii
import MarketGateway.Text.Integer

/-!
# Client order ids

An order id of this gateway is a mark and the number under which the exchange knows the order. New
numbers follow the millisecond clock where it is ahead and count on where it is not.
-/

namespace MarketGateway.ClientId

def mark : String := "BPX-"

def maxOrderIdLength : Nat := 32

def toOrderId (n : UInt32) : String := mark ++ toString n.toNat

def ofOrderId? (orderId : String) : Option UInt32 :=
  if Text.startsWith orderId mark then
    (Text.readUInt32 (String.ofList (orderId.toList.drop mark.length))).toOption
  else none

def clock (timestampMs : Int64) : UInt32 := UInt32.ofNat (timestampMs.toInt % 2 ^ 32).toNat

/-- The number after `last`. -/
def next (last : UInt32) (timestampMs : Int64) : UInt32 := max (clock timestampMs) (last + 1)

/-- The numbers given out for the requests at these times, after `last`. -/
def sequence (last : UInt32) : List Int64 → List UInt32
  | [] => []
  | t :: ts => next last t :: sequence (next last t) ts

def newOrderId (last : UInt32) (timestampMs : Int64) : String × UInt32 :=
  let n := next last timestampMs
  (String.ofList ((toOrderId n).toList.take maxOrderIdLength), n)

def newOrderIds (last : UInt32) : List Int64 → List (String × UInt32)
  | [] => []
  | t :: ts => newOrderId last t :: newOrderIds (newOrderId last t).2 ts

end MarketGateway.ClientId
