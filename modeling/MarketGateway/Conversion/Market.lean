import MarketGateway.Conversion.Amount
import MarketGateway.Market.Rule
import MarketGateway.Wire.Event

/-!
# Markets and funding

Which markets a gateway trades and under which rules, and the funding state of perpetual markets. A
trading pair may be given in either notation.
-/

namespace MarketGateway

open Conversion

/-- Base and quote in either notation, without the mark of a perpetual market. -/
def TradingPair.split (text : String) : Except ExchangeError TradingPair :=
  let make (base quote : List Char) :=
    match make? (String.ofList base) (String.ofList quote) with
    | some p => .ok p
    | none => .error (.invalidParameters (.pair (.emptyPart (String.ofList base) (String.ofList quote))))
  match Text.pieces isSeparator text.toList with
  | [base, quote] => make base quote
  | [base, quote, mark] =>
    if isPerpetualMark mark then make base quote else .error (.invalidParameters (.pair (.unrecognized text)))
  | _ => .error (.invalidParameters (.pair (.unrecognized text)))

inductive MarketKind where
  | spot
  | perpetual
deriving DecidableEq

namespace MarketKind

def name : MarketKind → String
  | .spot => "spot"
  | .perpetual => "perpetual"

def read : Json.Reader MarketKind := .variant [.unit "spot" .spot, .unit "perpetual" .perpetual]

def toJson (k : MarketKind) : Json := .string k.name

/-- Reads a setting: blanks around it and capital letters do not count. -/
def ofText (text : String) : Except ConfigError MarketKind :=
  let word := Text.lowerAscii (Text.trim text)
  if word = "spot" then .ok .spot
  else if word = "perpetual" || word = "perp" then .ok .perpetual
  else .error (.invalid (.marketKind word))

end MarketKind

namespace Wire.Market

def isOnline (market : Wire.Market) : Bool :=
  match market.status with
  | some status => Text.eqIgnoreCase status "ONLINE" || status == "Open"
  | none => false

def hasPerpetualSymbol (market : Wire.Market) : Bool := Text.endsWith market.symbol "PERP"

/-- The kind of a market; nothing for kinds that are not traded here. A market that does not say its
kind is known by its symbol. -/
def kind (market : Wire.Market) : Option MarketKind :=
  match market.marketType with
  | some type =>
    if type = "PERP" || type = "IPERP" then some .perpetual
    else if Text.eqIgnoreCase type "SPOT" then some .spot
    else none
  | none => some (if market.hasPerpetualSymbol then .perpetual else .spot)

def isTradable (market : Wire.Market) (kind : MarketKind) : Bool :=
  market.isOnline && market.kind == some kind

def tradingPair (market : Wire.Market) : String :=
  match market.baseSymbol, market.quoteSymbol with
  | some base, some quote =>
    if market.hasPerpetualSymbol then TradingPair.ofSymbol market.symbol
    else base ++ "-" ++ quote
  | _, _ => TradingPair.ofSymbol market.symbol

end Wire.Market

/-! ### Trading rules -/

namespace TradingRule

def defaultIncrement : String := "0.00000001"

def defaultMaxSize : String := "999999999"

/-- The rule of a market; filters that it does not give have default values. -/
def ofMarket (market : Wire.Market) : Except Fault TradingRule := do
  let price := market.filters.bind Wire.MarketFilters.price
  let quantity := market.filters.bind Wire.MarketFilters.quantity
  let notional := market.filters.bind Wire.MarketFilters.notional
  let tick ← amount "tickSize" ((price.bind Wire.PriceFilter.tickSize).getD defaultIncrement)
  let minSize ←
    amount "minQuantity" ((quantity.bind Wire.QuantityFilter.minQuantity).getD defaultIncrement)
  let maxSize ←
    amount "maxQuantity" ((quantity.bind Wire.QuantityFilter.maxQuantity).getD defaultMaxSize)
  let step ← amount "stepSize" ((quantity.bind Wire.QuantityFilter.stepSize).getD defaultIncrement)
  let minNotional ← amountOrZero "minNotional" (notional.bind Wire.NotionalFilter.minNotional)
  return {
    tradingPair := market.tradingPair
    minOrderSize := minSize
    maxOrderSize := maxSize
    minPriceIncrement := tick
    minBaseAmountIncrement := step
    minQuoteAmountIncrement := tick
    minNotionalSize := minNotional
    supportsLimitOrders := true
    supportsMarketOrders := true }

/-- The rules of the online markets of a kind; a market whose filters cannot be read has none. -/
def ofMarkets (markets : List Wire.Market) (kind : MarketKind) : List TradingRule :=
  (markets.filter fun m => m.isTradable kind).filterMap fun m => (ofMarket m).toOption

end TradingRule

/-! ### Funding -/

namespace FundingInfo

/-- Funding settles every eight hours. -/
def intervalMs : Nat := 8 * 60 * 60 * 1000

/-- The next settlement strictly after a time. -/
def nextBoundaryMs (nowMs : Int64) : Except Overflow Int64 :=
  let last := nowMs.toInt - nowMs.toInt % intervalMs
  if last < -2 ^ 63 then .error .integerDifference
  else if 2 ^ 63 ≤ last + intervalMs then .error .integerSum
  else .ok (Int64.ofInt (last + intervalMs))

/-- An index price that is not given is the mark price, a rate that is not given is zero, and a
settlement time that is not given is the next one after `nowMs`. -/
def make (symbol markPrice : String) (indexPrice rate : Option String)
    (nextFunding : Option Int64) (nowMs : Int64) : Except Fault FundingInfo := do
  let mark ← amount "markPrice" markPrice
  let index ← match indexPrice with
    | some text => if Text.allBlank text then pure mark else amount "indexPrice" text
    | none => pure mark
  let next ← match nextFunding with
    | some time => pure (toEpochMs time)
    | none => (nextBoundaryMs nowMs).mapError .overflow
  let rate ← amountOrZero "fundingRate" rate
  return ⟨TradingPair.ofSymbol symbol, index, mark, next, rate⟩

def ofMarkPrice (entry : Wire.MarkPrice) (nowMs : Int64) : Except Fault FundingInfo :=
  make entry.symbol entry.markPrice entry.indexPrice entry.fundingRate entry.nextFundingTimestamp
    nowMs

def ofEvent (event : Wire.MarkPriceEvent) : Except Fault FundingInfo :=
  make event.symbol event.markPrice event.indexPrice event.fundingRate event.nextFundingTime
    (microsToMs event.eventTime)

end FundingInfo

end MarketGateway
