import MarketGateway.Http.Client
import MarketGateway.Wire.Account
import MarketGateway.Wire.Market

/-!
# Endpoints

The requests that the exchange answers, each with the parameters it takes and the payload it gives.
Parameters that are not given are left out.
-/

namespace MarketGateway.Client

/-- The parameters that have a value, in this order. -/
def given (params : List (String × Option String)) : List (String × String) :=
  params.filterMap fun p => p.2.map fun value => (p.1, value)

/-! ### Public data -/

def markets (c : Client) : ApiCall (List Wire.Market) :=
  c.get Exchange.marketsPath [] false (.list Wire.Market.read)

def tickers (c : Client) : ApiCall (List Wire.Ticker) :=
  c.get Exchange.tickersPath [] false (.list Wire.Ticker.read)

def depth (c : Client) (symbol : String) : ApiCall Wire.Depth :=
  c.get Exchange.depthPath [("symbol", symbol)] false Wire.Depth.read

def markPrices (c : Client) (symbol : Option String) : ApiCall (List Wire.MarkPrice) :=
  c.get Exchange.markPricesPath (given [("symbol", symbol)]) false (.list Wire.MarkPrice.read)

def trades (c : Client) (symbol : String) (limit : Option UInt32) : ApiCall (List Wire.Trade) :=
  c.get Exchange.tradesPath
    (given [("symbol", some symbol), ("limit", limit.map fun n => toString n.toNat)]) false
    (.list Wire.Trade.read)

/-- The clock of the exchange in an answer: an integer, or a text that is one. -/
def timeOf : Json → Except ExchangeError Int64
  | .number (.integer n) =>
    if -2 ^ 63 ≤ n ∧ n < 2 ^ 63 then .ok (Int64.ofInt n)
    else .error (.unreadable (.serverTime (.int n)))
  | .string s => (Text.readInt64 (Text.trim s)).mapError fun _ => .unreadable (.serverTime (.string s))
  | j => .error (.unreadable (.serverTime j))

def serverTime (c : Client) : ApiCall Int64 := do
  let j ← c.get Exchange.timePath [] false .raw
  .ofExcept (timeOf j)

/-! ### The account -/

def capital (c : Client) : ApiCall Wire.Capital :=
  c.get Exchange.capitalPath [] true Wire.Capital.read

def collateral (c : Client) : ApiCall Wire.Collateral :=
  c.get Exchange.collateralPath [] true Wire.Collateral.read

/-! ### Orders -/

def execute (c : Client) (order : Wire.NewOrder) : ApiCall Wire.Order :=
  c.post Exchange.orderPath order.toJson true Wire.Order.read

def cancel (c : Client) (order : Wire.CancelOrder) : ApiCall Wire.Order :=
  c.delete Exchange.orderPath order.toJson true Wire.Order.read

def cancelAll (c : Client) (symbol : String) : ApiCall (List Wire.Order) :=
  c.delete Exchange.ordersPath (.ofMembers [("symbol", .string symbol)]) true
    (.list Wire.Order.read)

def order (c : Client) (order : Wire.CancelOrder) : ApiCall Wire.Order :=
  c.get Exchange.orderPath
    (given [("symbol", some order.symbol), ("orderId", order.orderId),
      ("clientId", order.clientId.map fun n => toString n.toNat)]) true Wire.Order.read

def openOrders (c : Client) (symbol : Option String) : ApiCall (List Wire.Order) :=
  c.get Exchange.ordersPath (given [("symbol", symbol)]) true (.list Wire.Order.read)

def fills (c : Client) (symbol orderId : Option String) (limit : Option UInt32) :
    ApiCall (List Wire.Fill) :=
  c.get Exchange.fillsPath
    (given [("symbol", symbol), ("orderId", orderId),
      ("limit", limit.map fun n => toString n.toNat)]) true (.list Wire.Fill.read)

end MarketGateway.Client
