import MarketGateway.Limits.Throttle

/-!
# The exchange

Addresses, paths, channels and rate limits of the exchange.
-/

namespace MarketGateway.Exchange

def name : String := "backpack"

def restUrl : String := "https://api.backpack.exchange"

def streamUrl : String := "wss://ws.backpack.exchange"

/-! ### Paths -/

def depthPath : String := "/api/v1/depth"

def timePath : String := "/api/v1/time"

def marketsPath : String := "/api/v1/markets"

def tickersPath : String := "/api/v1/tickers"

def tradesPath : String := "/api/v1/trades"

def markPricesPath : String := "/api/v1/markPrices"

def orderPath : String := "/api/v1/order"

def ordersPath : String := "/api/v1/orders"

def capitalPath : String := "/api/v1/capital"

def collateralPath : String := "/api/v1/capital/collateral"

def fillsPath : String := "/wapi/v1/history/fills"

def paths : List String :=
  [depthPath, timePath, marketsPath, tickersPath, tradesPath, markPricesPath, orderPath, ordersPath,
    capitalPath, collateralPath, fillsPath]

/-! ### Channels -/

def depthChannel : String := "depth."

def tradeChannel : String := "trade."

def markPriceChannel : String := "markPrice."

def orderUpdateChannel : String := "account.orderUpdate"

/-- Private streams need a signed subscription. -/
def privateChannel : String := "account."

/-! ### Rate limits -/

def requestPool : String := "REST"

def streamPool : String := "WEB_SOCKET"

/-- Every path has its own limit and shares the pool of all requests. -/
def rateLimits : List RateLimit :=
  [⟨requestPool, 100, none⟩, ⟨streamPool, 30, none⟩] ++
    paths.map fun path => ⟨path, 10, some requestPool⟩

def throttle : Throttle := ⟨rateLimits, requestPool⟩

end MarketGateway.Exchange
