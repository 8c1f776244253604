import MarketGateway.Trading.Order

/-!
# Fills and balances

What an account hears about its fills and what it holds.
-/

namespace MarketGateway

open Json (Reader Schema)

structure TradeFee where
  asset : Option String
  amount : Decimal
deriving DecidableEq

namespace TradeFee

def schema : Schema TradeFee :=
  mk <$> .optional "asset" .text <*> .required "amount" .decimal

def read : Reader TradeFee := schema.read "TradeFee"

def toJson (f : TradeFee) : Json :=
  .ofMembers [("asset", .ofText? f.asset), ("amount", .decimal f.amount)]

end TradeFee

structure TradeUpdate where
  tradeId : String
  clientOrderId : Option String
  exchangeOrderId : String
  tradingPair : String
  fillTimestampMs : Int64
  fillPrice : Decimal
  fillBaseAmount : Decimal
  fillQuoteAmount : Decimal
  fee : TradeFee
deriving DecidableEq

namespace TradeUpdate

def schema : Schema TradeUpdate :=
  mk <$> .required "trade_id" .text <*> .optional "client_order_id" .text
    <*> .required "exchange_order_id" .text <*> .required "trading_pair" .text
    <*> .required "fill_timestamp_ms" .int64 <*> .required "fill_price" .decimalText
    <*> .required "fill_base_amount" .decimalText <*> .required "fill_quote_amount" .decimal
    <*> .required "fee" TradeFee.read

def read : Reader TradeUpdate := schema.read "TradeUpdate"

def toJson (t : TradeUpdate) : Json :=
  .ofMembers [("trade_id", .string t.tradeId), ("client_order_id", .ofText? t.clientOrderId),
    ("exchange_order_id", .string t.exchangeOrderId), ("trading_pair", .string t.tradingPair),
    ("fill_timestamp_ms", .int64 t.fillTimestampMs), ("fill_price", .decimal t.fillPrice),
    ("fill_base_amount", .decimal t.fillBaseAmount),
    ("fill_quote_amount", .decimal t.fillQuoteAmount), ("fee", t.fee.toJson)]

end TradeUpdate

inductive UserEvent where
  | order (update : OrderUpdate)
  | trade (update : TradeUpdate)
deriving DecidableEq

namespace UserEvent

def read : Reader UserEvent := .variant [
  .holding "Order" fun j => (OrderUpdate.read j).map .order,
  .holding "Trade" fun j => (TradeUpdate.read j).map .trade]

def toJson : UserEvent → Json
  | .order u => .ofMembers [("Order", u.toJson)]
  | .trade u => .ofMembers [("Trade", u.toJson)]

end UserEvent

structure Balance where
  asset : String
  available : Decimal
  locked : Decimal
  total : Decimal
deriving DecidableEq

namespace Balance

def schema : Schema Balance :=
  mk <$> .required "asset" .text <*> .required "available" .decimal <*> .required "locked" .decimal
    <*> .required "total" .decimal

def read : Reader Balance := schema.read "Balance"

def toJson (b : Balance) : Json :=
  .ofMembers [("asset", .string b.asset), ("available", .decimal b.available),
    ("locked", .decimal b.locked), ("total", .decimal b.total)]

end Balance

end MarketGateway
