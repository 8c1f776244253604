import MarketGateway.Market.Book

/-!
# Orders

An order request, what became of it, and its later states.
-/

namespace MarketGateway

open Json (Reader Schema)

inductive OrderType where
  | limit
  | limitMaker
  | market
deriving DecidableEq

namespace OrderType

def name : OrderType → String
  | .limit => "Limit"
  | .limitMaker => "LimitMaker"
  | .market => "Market"

def all : List OrderType := [.limit, .limitMaker, .market]

def read : Reader OrderType := .variant (all.map fun t => .unit t.name t)

def toJson (t : OrderType) : Json := .string t.name

end OrderType

inductive TimeInForce where
  | goodTillCancelled
  | immediateOrCancel
  | fillOrKill
deriving DecidableEq

namespace TimeInForce

def name : TimeInForce → String
  | .goodTillCancelled => "GTC"
  | .immediateOrCancel => "IOC"
  | .fillOrKill => "FOK"

def all : List TimeInForce := [.goodTillCancelled, .immediateOrCancel, .fillOrKill]

def read : Reader TimeInForce := .variant (all.map fun t => .unit t.name t)

def toJson (t : TimeInForce) : Json := .string t.name

end TimeInForce

inductive OrderState where
  | pendingCreate
  | opened
  | partiallyFilled
  | filled
  | canceled
  | failed
deriving DecidableEq

namespace OrderState

def name : OrderState → String
  | .pendingCreate => "PendingCreate"
  | .opened => "Open"
  | .partiallyFilled => "PartiallyFilled"
  | .filled => "Filled"
  | .canceled => "Canceled"
  | .failed => "Failed"

def all : List OrderState :=
  [.pendingCreate, .opened, .partiallyFilled, .filled, .canceled, .failed]

def read : Reader OrderState := .variant (all.map fun s => .unit s.name s)

def toJson (s : OrderState) : Json := .string s.name

def isDone : OrderState → Bool
  | .filled | .canceled | .failed => true
  | _ => false

/-- The state that an order status of the exchange stands for. -/
def ofStatus : String → OrderState
  | "New" => .opened
  | "PartiallyFilled" => .partiallyFilled
  | "Filled" => .filled
  | "Cancelled" | "Expired" => .canceled
  | "TriggerPending" => .pendingCreate
  | _ => .failed

end OrderState

structure OrderRequest where
  clientOrderId : String
  tradingPair : String
  side : Side
  orderType : OrderType
  amount : Decimal
  price : Option Decimal
  timeInForce : Option TimeInForce
deriving DecidableEq

namespace OrderRequest

def schema : Schema OrderRequest :=
  mk <$> .required "client_order_id" .text <*> .required "trading_pair" .text
    <*> .required "trade_type" Side.read <*> .required "order_type" OrderType.read
    <*> .required "amount" .decimalText <*> .optional "price" .decimalText
    <*> .optional "time_in_force" TimeInForce.read

def read : Reader OrderRequest := schema.read "OrderRequest"

def toJson (r : OrderRequest) : Json :=
  .ofMembers [("client_order_id", .string r.clientOrderId), ("trading_pair", .string r.tradingPair),
    ("trade_type", r.side.toJson), ("order_type", r.orderType.toJson),
    ("amount", .decimal r.amount), ("price", .ofOption .decimal r.price),
    ("time_in_force", .ofOption TimeInForce.toJson r.timeInForce)]

end OrderRequest

structure PlacedOrder where
  clientOrderId : String
  exchangeOrderId : String
  state : OrderState
  timestampMs : Int64
deriving DecidableEq

namespace PlacedOrder

def schema : Schema PlacedOrder :=
  mk <$> .required "client_order_id" .text <*> .required "exchange_order_id" .text
    <*> .required "state" OrderState.read <*> .required "timestamp_ms" .int64

def read : Reader PlacedOrder := schema.read "PlacedOrder"

def toJson (o : PlacedOrder) : Json :=
  .ofMembers [("client_order_id", .string o.clientOrderId),
    ("exchange_order_id", .string o.exchangeOrderId), ("state", o.state.toJson),
    ("timestamp_ms", .int64 o.timestampMs)]

end PlacedOrder

structure OrderUpdate where
  tradingPair : String
  updateTimestampMs : Int64
  newState : OrderState
  clientOrderId : Option String
  exchangeOrderId : Option String
deriving DecidableEq

namespace OrderUpdate

def schema : Schema OrderUpdate :=
  mk <$> .required "trading_pair" .text <*> .required "update_timestamp_ms" .int64
    <*> .required "new_state" OrderState.read <*> .optional "client_order_id" .text
    <*> .optional "exchange_order_id" .text

def read : Reader OrderUpdate := schema.read "OrderUpdate"

def toJson (u : OrderUpdate) : Json :=
  .ofMembers [("trading_pair", .string u.tradingPair),
    ("update_timestamp_ms", .int64 u.updateTimestampMs), ("new_state", u.newState.toJson),
    ("client_order_id", .ofText? u.clientOrderId),
    ("exchange_order_id", .ofText? u.exchangeOrderId)]

end OrderUpdate

end MarketGateway
