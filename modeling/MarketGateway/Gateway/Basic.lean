import MarketGateway.Http.Endpoint
import MarketGateway.Settings.Basic
import MarketGateway.Stream.Consumer

/-!
# Gateways

A gateway trades one kind of markets of the exchange. It is built from settings; without keys it has
public data only.
-/

namespace MarketGateway

structure Gateway where
  client : Client
  streamUrl : String
  tradingPairs : List String
  kind : MarketKind
  options : StreamOptions
  credentials : Option Credentials

namespace Gateway

/-- Keys that are there have to be good. -/
def build (s : Settings) (tradingPairs : List String) : Except ExchangeError Gateway := do
  let credentials ←
    if s.hasKeys then (s.credentials.map some).mapError .setup else pure none
  return {
    client := {
      options := .ofServer (s.baseUrl.getD Exchange.restUrl) Exchange.name
      credentials := credentials
      throttled := true }
    streamUrl := s.wsUrl.getD Exchange.streamUrl
    tradingPairs := tradingPairs
    kind := s.marketKind
    options := .default
    credentials := credentials }

def isAuthenticated (g : Gateway) : Bool := g.credentials.isSome

/-! ### Streams -/

def channels : MarketKind → List String
  | .spot => [Exchange.depthChannel, Exchange.tradeChannel]
  | .perpetual => [Exchange.depthChannel, Exchange.tradeChannel, Exchange.markPriceChannel]

/-- The public streams: every channel for every trading pair. -/
def streams (g : Gateway) : List String :=
  g.tradingPairs.flatMap fun pair =>
    (channels g.kind).map fun channel => channel ++ TradingPair.symbolOf pair

/-- Funding exists on perpetual markets only. -/
def requirePerpetual (g : Gateway) : Except ExchangeError Unit :=
  match g.kind with
  | .perpetual => .ok ()
  | .spot => .error (.invalidParameters .spotFunding)

end Gateway

end MarketGateway
