import MarketGateway.Conversion.Balance
import MarketGateway.Conversion.Book
import MarketGateway.Conversion.Order
import MarketGateway.Gateway.Basic

/-!
# Calls of a gateway

What a gateway is asked for: books, prices, markets and funding, the account, and orders. Each call
makes its requests and converts the answers.
-/

namespace MarketGateway.Gateway

/-- A call that may also come to arithmetic without a result. -/
abbrev Query (α : Type) := ExceptT Fault Call α

namespace Query

def ofApi (call : ApiCall α) : Query α := ExceptT.adapt .error call

def ofExcept (result : Except Fault α) : Query α := ExceptT.mk (.done result)

def ofCheck (result : Except ExchangeError α) : Query α := .ofExcept (result.mapError .error)

end Query

/-! ### Market data -/

def orderBook (g : Gateway) (pair : String) : Query BookMessage := do
  let depth ← .ofApi (g.client.depth (TradingPair.symbolOf pair))
  let now ← .ofApi .clock
  return .snapshot (← .ofExcept (BookSnapshot.ofDepth depth pair now))

/-- Puts a price in, in place of the price of the same pair. -/
def putPrice (pair : String) (price : Decimal) :
    List (String × Decimal) → List (String × Decimal)
  | [] => [(pair, price)]
  | (p, old) :: rest => if p = pair then (p, price) :: rest else (p, old) :: putPrice pair price rest

/-- The last prices of the pairs that are asked for; prices that cannot be read are left out. -/
def pricesOf (pairs : List String) (tickers : List Wire.Ticker) : List (String × Decimal) :=
  tickers.foldl (fun prices t =>
    let pair := TradingPair.ofSymbol t.symbol
    if pairs.contains pair then
      match Decimal.ofText t.lastPrice with
      | .ok price => putPrice pair price prices
      | .error _ => prices
    else prices) []

def lastTradedPrices (g : Gateway) (pairs : List String) : Query (List (String × Decimal)) := do
  return pricesOf pairs (← .ofApi g.client.tickers)

def listedPairs (g : Gateway) : Query (List String) := do
  let markets ← .ofApi g.client.markets
  return (markets.filter fun m => m.isTradable g.kind).map Wire.Market.tradingPair

def fundingInfo (g : Gateway) (pair : String) : Query FundingInfo := do
  .ofCheck g.requirePerpetual
  let symbol := TradingPair.symbolOf pair
  let entries ← .ofApi (g.client.markPrices (some symbol))
  match entries.find? fun e => e.symbol == symbol with
  | some entry =>
    let now ← .ofApi .clock
    .ofExcept (FundingInfo.ofMarkPrice entry now)
  | none => throw (.error (.invalidParameters (.noMarkPrice pair)))

/-! ### The account -/

/-- An account without margin is refused its collateral, and has none. -/
def collateralOrNone (g : Gateway) : ApiCall Wire.Collateral :=
  tryCatch g.client.collateral fun e =>
    match e with
    | .api _ _ => pure ⟨[]⟩
    | e => throw e

def balances (g : Gateway) : Query (List Balance) := do
  let capital ← .ofApi g.client.capital
  let collateral ← .ofApi g.collateralOrNone
  .ofExcept (Balance.merge capital collateral)

def tradingRules (g : Gateway) : Query (List TradingRule) := do
  return TradingRule.ofMarkets (← .ofApi g.client.markets) g.kind

/-! ### Orders -/

/-- Places an order under the number in its order id, or under a new number if there is none. -/
def placeOrder (g : Gateway) (order : OrderRequest) : Query PlacedOrder := do
  let now ← .ofApi .clock
  let clientId ← match ClientId.ofOrderId? order.clientOrderId with
    | some n => pure n
    | none => .ofApi (.orderNumber now)
  let body ← .ofCheck (Wire.NewOrder.ofRequest order clientId)
  let placed ← .ofApi (g.client.execute body)
  return {
    clientOrderId := order.clientOrderId
    exchangeOrderId := placed.id
    state := OrderState.ofStatus placed.status
    timestampMs := (placed.createdAt.map Conversion.toEpochMs).getD now }

/-- How the exchange knows an order: by its own id, or else by the number in the order id. -/
def lookUp (pair clientOrderId : String) (exchangeOrderId : Option String) :
    Except ExchangeError Wire.CancelOrder :=
  let symbol := TradingPair.symbolOf pair
  match exchangeOrderId, ClientId.ofOrderId? clientOrderId with
  | some id, _ => .ok ⟨symbol, some id, none⟩
  | none, some n => .ok ⟨symbol, none, some n⟩
  | none, none => .error (.invalidParameters (.foreignOrder clientOrderId))

/-- Whether the order was canceled; an order that is not there was not. -/
def cancelOrder (g : Gateway) (pair clientOrderId : String) (exchangeOrderId : Option String) :
    Query Bool := do
  let order ← .ofCheck (lookUp pair clientOrderId exchangeOrderId)
  let canceled : ApiCall Bool := do
    let canceled ← g.client.cancel order
    return OrderState.ofStatus canceled.status = .canceled
  .ofApi (tryCatch canceled fun e => if e.isOrderNotFound then pure false else throw e)

def orderStatus (g : Gateway) (pair clientOrderId : String) (exchangeOrderId : Option String) :
    Query OrderUpdate := do
  let order ← .ofApi (g.client.order (← .ofCheck (lookUp pair clientOrderId exchangeOrderId)))
  let now ← .ofApi .clock
  return { OrderUpdate.ofOrder order now with
    tradingPair := pair
    clientOrderId := some clientOrderId }

def tradeUpdates (g : Gateway) (pair clientOrderId exchangeOrderId : String) :
    Query (List TradeUpdate) := do
  let fills ←
    .ofApi (g.client.fills (some (TradingPair.symbolOf pair)) (some exchangeOrderId) none)
  .ofExcept ((fills.filter fun f => f.orderId == exchangeOrderId).mapM fun f =>
    TradeUpdate.ofFill f (some clientOrderId))

def cancelAll (g : Gateway) (pair : String) : Query Nat := do
  return (← .ofApi (g.client.cancelAll (TradingPair.symbolOf pair))).length

end MarketGateway.Gateway
