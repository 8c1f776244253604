import MarketGateway.Market.Book

/-!
# Trading rules and funding

What orders a market takes, and the funding state of a perpetual market.
-/

namespace MarketGateway

open Json (Reader Schema)

structure TradingRule where
  tradingPair : String
  minOrderSize : Decimal
  maxOrderSize : Decimal
  minPriceIncrement : Decimal
  minBaseAmountIncrement : Decimal
  minQuoteAmountIncrement : Decimal
  minNotionalSize : Decimal
  supportsLimitOrders : Bool
  supportsMarketOrders : Bool
deriving DecidableEq

namespace TradingRule

def schema : Schema TradingRule :=
  mk <$> .required "trading_pair" .text <*> .required "min_order_size" .decimal
    <*> .required "max_order_size" .decimal <*> .required "min_price_increment" .decimal
    <*> .required "min_base_amount_increment" .decimal
    <*> .required "min_quote_amount_increment" .decimal <*> .required "min_notional_size" .decimal
    <*> .required "supports_limit_orders" .bool <*> .required "supports_market_orders" .bool

def read : Reader TradingRule := schema.read "TradingRule"

def toJson (r : TradingRule) : Json :=
  .ofMembers [("trading_pair", .string r.tradingPair), ("min_order_size", .decimal r.minOrderSize),
    ("max_order_size", .decimal r.maxOrderSize),
    ("min_price_increment", .decimal r.minPriceIncrement),
    ("min_base_amount_increment", .decimal r.minBaseAmountIncrement),
    ("min_quote_amount_increment", .decimal r.minQuoteAmountIncrement),
    ("min_notional_size", .decimal r.minNotionalSize),
    ("supports_limit_orders", .bool r.supportsLimitOrders),
    ("supports_market_orders", .bool r.supportsMarketOrders)]

end TradingRule

structure FundingInfo where
  tradingPair : String
  indexPrice : Decimal
  markPrice : Decimal
  nextFundingTimestampMs : Int64
  rate : Decimal
deriving DecidableEq

namespace FundingInfo

def schema : Schema FundingInfo :=
  mk <$> .required "trading_pair" .text <*> .required "index_price" .decimalText
    <*> .required "mark_price" .decimalText <*> .required "next_funding_timestamp_ms" .int64
    <*> .required "rate" .decimal

def read : Reader FundingInfo := schema.read "FundingInfo"

def toJson (f : FundingInfo) : Json :=
  .ofMembers [("trading_pair", .string f.tradingPair), ("index_price", .decimal f.indexPrice),
    ("mark_price", .decimal f.markPrice),
    ("next_funding_timestamp_ms", .int64 f.nextFundingTimestampMs), ("rate", .decimal f.rate)]

end FundingInfo

end MarketGateway
