import MarketGateway.Conversion.Amount
import MarketGateway.Conversion.ClientId
import MarketGateway.Trading.Account
import MarketGateway.Wire.Account
import MarketGateway.Wire.Event

/-!
# Orders and fills

Request bodies from orders, and order and trade updates from what the exchange reports.
-/

namespace MarketGateway

open Conversion

def Side.wireName : Side → String
  | .buy => "Bid"
  | .sell => "Ask"

/-- The price that a request sends: none for a market order, and every other order needs one. -/
def OrderRequest.sentPrice (order : OrderRequest) : Except ExchangeError (Option String) :=
  match order.orderType, order.price with
  | .market, _ => .ok none
  | _, some price => .ok (some price.toText)
  | _, none => .error (.invalidParameters (.noPrice order.clientOrderId))

/-- The body of the request for a new order. A maker order is a limit order that may only post. -/
def Wire.NewOrder.ofRequest (order : OrderRequest) (clientId : UInt32) :
    Except ExchangeError Wire.NewOrder := do
  let price ← order.sentPrice
  return {
    symbol := TradingPair.symbolOf order.tradingPair
    side := order.side.wireName
    orderType := if order.orderType = .market then "Market" else "Limit"
    quantity := order.amount.toText
    price := price
    timeInForce := order.timeInForce.map TimeInForce.name
    postOnly := if order.orderType = .limitMaker then some true else none
    clientId := some clientId }

/-! ### Order updates -/

def OrderUpdate.ofEvent (event : Wire.OrderEvent) : OrderUpdate where
  tradingPair := TradingPair.ofSymbol event.symbol
  updateTimestampMs := microsToMs event.eventTime
  newState := OrderState.ofStatus event.orderStatus
  clientOrderId := event.clientId.map ClientId.toOrderId
  exchangeOrderId := some event.orderId

/-- The state of an order that was looked up; `nowMs` is its time where the exchange gives none. -/
def OrderUpdate.ofOrder (order : Wire.Order) (nowMs : Int64) : OrderUpdate where
  tradingPair := TradingPair.ofSymbol order.symbol
  updateTimestampMs := (order.createdAt.map toEpochMs).getD nowMs
  newState := OrderState.ofStatus order.status
  clientOrderId := order.clientId.map ClientId.toOrderId
  exchangeOrderId := some order.id

/-! ### Fills -/

/-- An order event is a fill by its execution type, by its own type, or because it filled
something. -/
def Wire.OrderEvent.isFill (event : Wire.OrderEvent) (lastFilled : Decimal) : Bool :=
  event.executionType == some "Fill" || event.eventType == "orderFill" || !lastFilled.isZero

/-- Names a fill that has no id of its own by its order and its time. -/
def fallbackTradeId (orderId : String) (time : Int64) : String :=
  orderId ++ "-" ++ toString time.toInt

/-- The fill in an order event, if it is one. -/
def TradeUpdate.ofEvent (event : Wire.OrderEvent) : Except Fault (Option TradeUpdate) := do
  let lastFilled ← amountOrZero "l" event.lastFilledQuantity
  if event.isFill lastFilled then
    let price ← amountOrZero "L" event.lastFilledPrice
    let quote ← match event.lastQuoteQuantity with
      | some text => amount "Y" text
      | none => product price lastFilled
    let time := event.transactionTime.getD event.eventTime
    let fee ← amountOrZero "n" event.fee
    return some {
      tradeId := event.tradeId.getD (fallbackTradeId event.orderId time)
      clientOrderId := event.clientId.map ClientId.toOrderId
      exchangeOrderId := event.orderId
      tradingPair := TradingPair.ofSymbol event.symbol
      fillTimestampMs := microsToMs time
      fillPrice := price
      fillBaseAmount := lastFilled
      fillQuoteAmount := quote
      fee := ⟨event.feeSymbol, fee⟩ }
  else return none

/-- The time of a fill: a number in either unit, or a calendar time without a zone. -/
def fillTimeMs (text : String) : Except Fault Int64 :=
  match Text.readInt64 text with
  | .ok time => .ok (toEpochMs time)
  | .error _ =>
    match Calendar.read text with
    | .ok t => .ok (Int64.ofInt t.epochMs)
    | .error e => .error (.error (.unreadable (.fillTime text e)))

/-- A fill that was looked up, under the order id that the caller knows, if any. -/
def TradeUpdate.ofFill (fill : Wire.Fill) (clientOrderId : Option String) :
    Except Fault TradeUpdate := do
  let price ← amount "price" fill.price
  let quantity ← amount "quantity" fill.quantity
  let timeMs ← fillTimeMs fill.timestamp
  let quote ← product price quantity
  let fee ← amount "fee" fill.fee
  return {
    tradeId := fill.tradeId.getD (fallbackTradeId fill.orderId timeMs)
    clientOrderId := clientOrderId.or (fill.clientId.map ClientId.toOrderId)
    exchangeOrderId := fill.orderId
    tradingPair := TradingPair.ofSymbol fill.symbol
    fillTimestampMs := timeMs
    fillPrice := price
    fillBaseAmount := quantity
    fillQuoteAmount := quote
    fee := ⟨some fill.feeSymbol, fee⟩ }

/-- What an order event means for its account: always an update of the order, and the fill if there
is one that can be read. -/
def UserEvent.ofEvent (event : Wire.OrderEvent) : Except Overflow (List UserEvent) :=
  let update := UserEvent.order (OrderUpdate.ofEvent event)
  match TradeUpdate.ofEvent event with
  | .ok (some fill) => .ok [update, .trade fill]
  | .ok none => .ok [update]
  | .error (.error _) => .ok [update]
  | .error (.overflow o) => .error o

end MarketGateway
