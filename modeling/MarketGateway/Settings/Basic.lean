import MarketGateway.Conversion.Market
import MarketGateway.Signing.Credentials

/-!
# Settings

The keys, addresses and options of a gateway. The written form hides the keys, and a window that the
exchange would refuse is refused here.
-/

namespace MarketGateway

structure Settings where
  apiKey : String
  secretKey : String
  baseUrl : Option String
  wsUrl : Option String
  windowMs : Nat
  marketKind : MarketKind
deriving DecidableEq

namespace Settings

def ofKeys (apiKey secretKey : String) : Settings :=
  ⟨apiKey, secretKey, none, none, defaultWindowMs, .spot⟩

def readOnly : Settings := ofKeys "" ""

def hasKeys (s : Settings) : Bool := !s.apiKey.isEmpty && !s.secretKey.isEmpty

def withBaseUrl (s : Settings) (url : String) : Settings := { s with baseUrl := some url }

def withWsUrl (s : Settings) (url : String) : Settings := { s with wsUrl := some url }

def withMarketKind (s : Settings) (kind : MarketKind) : Settings := { s with marketKind := kind }

def withWindow (s : Settings) (ms : Nat) : Except ConfigError Settings :=
  if isWindow ms then .ok { s with windowMs := ms } else .error (.invalid (.window ms))

def credentials (s : Settings) : Except SetupError Credentials := do
  (← Credentials.make s.apiKey s.secretKey).withWindow s.windowMs

/-! ### Written form -/

def hidden : Json := .string "[REDACTED]"

def toJson (s : Settings) : Json :=
  .ofMembers [("api_key", hidden), ("secret_key", hidden), ("base_url", .ofText? s.baseUrl),
    ("ws_url", .ofText? s.wsUrl), ("window_ms", .nat s.windowMs),
    ("market_kind", s.marketKind.toJson)]

open Json (Reader Schema)

/-- The fields of settings; without a window they have the default one. -/
def schema : Schema Settings :=
  (fun apiKey secretKey baseUrl wsUrl windowMs marketKind =>
      ⟨apiKey, secretKey, baseUrl, wsUrl, windowMs.getD defaultWindowMs, marketKind⟩)
    <$> .required "api_key" .text <*> .required "secret_key" .text <*> .optional "base_url" .text
    <*> .optional "ws_url" .text <*> .optional "window_ms" .uint64
    <*> .withDefault "market_kind" MarketKind.read .spot

def read : Reader Settings := fun j => do
  let s ← schema.read "ExchangeConfigHelper" j
  (s.withWindow s.windowMs).mapError fun e => .refused e.message

end Settings

end MarketGateway
