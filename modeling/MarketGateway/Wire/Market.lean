import MarketGateway.Json.Schema

/-!
# Public REST payloads

Markets with their filters, tickers, order book depth, recent trades and mark prices, as the exchange
sends them. Amounts stay texts until they are converted.
-/

namespace MarketGateway.Wire

open Json (Reader Schema)

structure PriceFilter where
  tickSize : Option String
  minPrice : Option String
  maxPrice : Option String
deriving DecidableEq

namespace PriceFilter

def schema : Schema PriceFilter :=
  mk <$> .optional "tickSize" .text <*> .optional "minPrice" .text <*> .optional "maxPrice" .text

def read : Reader PriceFilter := schema.read "BackpackPriceFilter"

def toJson (f : PriceFilter) : Json :=
  .ofMembers [("tickSize", .ofText? f.tickSize), ("minPrice", .ofText? f.minPrice),
    ("maxPrice", .ofText? f.maxPrice)]

end PriceFilter

structure QuantityFilter where
  minQuantity : Option String
  maxQuantity : Option String
  stepSize : Option String
deriving DecidableEq

namespace QuantityFilter

def schema : Schema QuantityFilter :=
  mk <$> .optional "minQuantity" .text <*> .optional "maxQuantity" .text
    <*> .optional "stepSize" .text

def read : Reader QuantityFilter := schema.read "BackpackQuantityFilter"

def toJson (f : QuantityFilter) : Json :=
  .ofMembers [("minQuantity", .ofText? f.minQuantity), ("maxQuantity", .ofText? f.maxQuantity),
    ("stepSize", .ofText? f.stepSize)]

end QuantityFilter

structure NotionalFilter where
  minNotional : Option String
deriving DecidableEq

namespace NotionalFilter

def schema : Schema NotionalFilter := mk <$> .optional "minNotional" .text

def read : Reader NotionalFilter := schema.read "BackpackNotionalFilter"

def toJson (f : NotionalFilter) : Json := .ofMembers [("minNotional", .ofText? f.minNotional)]

end NotionalFilter

structure MarketFilters where
  price : Option PriceFilter
  quantity : Option QuantityFilter
  notional : Option NotionalFilter
deriving DecidableEq

namespace MarketFilters

def schema : Schema MarketFilters :=
  mk <$> .omittable "price" PriceFilter.read <*> .omittable "quantity" QuantityFilter.read
    <*> .omittable "notional" NotionalFilter.read

def read : Reader MarketFilters := schema.read "BackpackMarketFilters"

def toJson (f : MarketFilters) : Json :=
  .ofMembers [("price", .ofOption PriceFilter.toJson f.price),
    ("quantity", .ofOption QuantityFilter.toJson f.quantity),
    ("notional", .ofOption NotionalFilter.toJson f.notional)]

end MarketFilters

structure Market where
  symbol : String
  baseSymbol : Option String
  quoteSymbol : Option String
  status : Option String
  filters : Option MarketFilters
  marketType : Option String
deriving DecidableEq

namespace Market

def schema : Schema Market :=
  mk <$> .required "symbol" .text <*> .aliased "baseSymbol" ["baseCurrency"] .text
    <*> .aliased "quoteSymbol" ["quoteCurrency"] .text
    <*> .aliased "status" ["orderBookState"] .text <*> .omittable "filters" MarketFilters.read
    <*> .omittable "marketType" .text

def read : Reader Market := schema.read "BackpackMarket"

def toJson (m : Market) : Json :=
  .ofMembers [("symbol", .string m.symbol), ("baseSymbol", .ofText? m.baseSymbol),
    ("quoteSymbol", .ofText? m.quoteSymbol), ("status", .ofText? m.status),
    ("filters", .ofOption MarketFilters.toJson m.filters),
    ("marketType", .ofText? m.marketType)]

end Market

structure Ticker where
  symbol : String
  lastPrice : String
  volume : Option String
deriving DecidableEq

namespace Ticker

def schema : Schema Ticker :=
  mk <$> .required "symbol" .text <*> .required "lastPrice" .text <*> .omittable "volume" .text

def read : Reader Ticker := schema.read "BackpackTicker"

def toJson (t : Ticker) : Json :=
  .ofMembers [("symbol", .string t.symbol), ("lastPrice", .string t.lastPrice),
    ("volume", .ofText? t.volume)]

end Ticker

/-- A price level: price and quantity. -/
abbrev Level := String × String

namespace Level

def read : Reader Level := .pair .text .text

def toJson (l : Level) : Json := .array [.string l.1, .string l.2]

end Level

structure Depth where
  bids : List Level
  asks : List Level
  lastUpdateId : Int64
  timestamp : Option Int64
deriving DecidableEq

namespace Depth

def schema : Schema Depth :=
  mk <$> .required "bids" (.list Level.read) <*> .required "asks" (.list Level.read)
    <*> .required "lastUpdateId" .integerIdentifier <*> .omittable "timestamp" .int64

def read : Reader Depth := schema.read "BackpackDepth"

def toJson (d : Depth) : Json :=
  .ofMembers [("bids", .array (d.bids.map Level.toJson)), ("asks", .array (d.asks.map Level.toJson)),
    ("lastUpdateId", .int64 d.lastUpdateId), ("timestamp", .ofOption .int64 d.timestamp)]

end Depth

structure Trade where
  id : Option Int64
  price : String
  quantity : String
  quoteQuantity : Option String
  timestamp : Int64
  isBuyerMaker : Bool
deriving DecidableEq

namespace Trade

def schema : Schema Trade :=
  mk <$> .omittable "id" .int64 <*> .required "price" .text <*> .required "quantity" .text
    <*> .omittable "quoteQuantity" .text <*> .required "timestamp" .int64
    <*> .required "isBuyerMaker" .bool

def read : Reader Trade := schema.read "BackpackTrade"

def toJson (t : Trade) : Json :=
  .ofMembers [("id", .ofOption .int64 t.id), ("price", .string t.price),
    ("quantity", .string t.quantity), ("quoteQuantity", .ofText? t.quoteQuantity),
    ("timestamp", .int64 t.timestamp), ("isBuyerMaker", .bool t.isBuyerMaker)]

end Trade

structure MarkPrice where
  symbol : String
  markPrice : String
  indexPrice : Option String
  fundingRate : Option String
  nextFundingTimestamp : Option Int64
deriving DecidableEq

namespace MarkPrice

def schema : Schema MarkPrice :=
  mk <$> .required "symbol" .text <*> .required "markPrice" .text
    <*> .omittable "indexPrice" .text <*> .omittable "fundingRate" .text
    <*> .aliased "nextFundingTimestamp" ["nextFundingTime"] .integerIdentifier

def read : Reader MarkPrice := schema.read "BackpackMarkPrice"

def toJson (m : MarkPrice) : Json :=
  .ofMembers [("symbol", .string m.symbol), ("markPrice", .string m.markPrice),
    ("indexPrice", .ofText? m.indexPrice), ("fundingRate", .ofText? m.fundingRate),
    ("nextFundingTimestamp", .ofOption .int64 m.nextFundingTimestamp)]

end MarkPrice

end MarketGateway.Wire
