import MarketGateway.Conversion.Market
import MarketGateway.Proofs.Conversion.Amounts

/-!
# Rules of markets

The rule of a market has the decimals of its filters, and there is one exactly if they can be read:
`ofMarket_converts`. What an entry of a list of markets comes to does not depend on the other entries:
`ofMarkets_eq_filterMap`.
-/

namespace MarketGateway

open Conversion

namespace Wire.Market

/-! ### Filters

The texts that a rule is made from. A filter that is not given has its default. -/

def tickText (market : Wire.Market) : String :=
  ((market.filters.bind MarketFilters.price).bind PriceFilter.tickSize).getD TradingRule.defaultIncrement

def minSizeText (market : Wire.Market) : String :=
  ((market.filters.bind MarketFilters.quantity).bind QuantityFilter.minQuantity).getD
    TradingRule.defaultIncrement

def maxSizeText (market : Wire.Market) : String :=
  ((market.filters.bind MarketFilters.quantity).bind QuantityFilter.maxQuantity).getD
    TradingRule.defaultMaxSize

def stepText (market : Wire.Market) : String :=
  ((market.filters.bind MarketFilters.quantity).bind QuantityFilter.stepSize).getD
    TradingRule.defaultIncrement

def minNotionalText (market : Wire.Market) : Option String :=
  (market.filters.bind MarketFilters.notional).bind NotionalFilter.minNotional

structure HasReadableFilters (market : Wire.Market) : Prop where
  tick : IsAmount market.tickText
  minSize : IsAmount market.minSizeText
  maxSize : IsAmount market.maxSizeText
  step : IsAmount market.stepText
  minNotional : IsOptionalAmount market.minNotionalText

end Wire.Market

namespace TradingRule

variable {market : Wire.Market} {kind : MarketKind} {entry : Json} {rule : TradingRule}

/-- The rule has the decimals of the filters, under the pair of the market. -/
structure OfMarket (market : Wire.Market) (rule : TradingRule) : Prop where
  pair : rule.tradingPair = market.tradingPair
  minSize : Decimal.ofText (Text.trim market.minSizeText) = .ok rule.minOrderSize
  maxSize : Decimal.ofText (Text.trim market.maxSizeText) = .ok rule.maxOrderSize
  price : Decimal.ofText (Text.trim market.tickText) = .ok rule.minPriceIncrement
  step : Decimal.ofText (Text.trim market.stepText) = .ok rule.minBaseAmountIncrement
  quote : rule.minQuoteAmountIncrement = rule.minPriceIncrement
  minNotional : ReadsOr Decimal.zero market.minNotionalText rule.minNotionalSize
  orders : rule.supportsLimitOrders = true ∧ rule.supportsMarketOrders = true

theorem ofMarket_converts (market : Wire.Market) :
    Converts market.HasReadableFilters (OfMarket market) (ofMarket market) := by
  have all : Converts (IsAmount market.tickText ∧ IsAmount market.minSizeText ∧
      IsAmount market.maxSizeText ∧ IsAmount market.stepText ∧ IsOptionalAmount market.minNotionalText)
      (OfMarket market) (ofMarket market) := by
    refine (amount_converts "tickSize" market.tickText).bind fun tick readTick => ?_
    refine (amount_converts "minQuantity" market.minSizeText).bind fun minSize readMinSize => ?_
    refine (amount_converts "maxQuantity" market.maxSizeText).bind fun maxSize readMaxSize => ?_
    refine (amount_converts "stepSize" market.stepText).bind fun step readStep => ?_
    have notional := amountOr_converts Decimal.zero "minNotional" market.minNotionalText
    rw [← amountOrZero_eq] at notional
    refine notional.map fun minNotional readMinNotional => ?_
    exact ⟨rfl, readMinSize, readMaxSize, readTick, readStep, rfl, readMinNotional, rfl, rfl⟩
  apply all.of_iff
  constructor
  · rintro ⟨tick, minSize, maxSize, step, minNotional⟩
    exact ⟨tick, minSize, maxSize, step, minNotional⟩
  · intro fine
    exact ⟨fine.tick, fine.minSize, fine.maxSize, fine.step, fine.minNotional⟩

/-! ### Entries -/

/-- The rule of an entry, read on its own. -/
def ofJson? (kind : MarketKind) (entry : Json) : Option TradingRule :=
  match Wire.Market.read entry with
  | .ok market => if market.isTradable kind then (ofMarket market).toOption else none
  | .error _ => none

theorem ofJson?_eq_some (made : ofJson? kind entry = some rule) :
    ∃ market, Wire.Market.read entry = .ok market ∧ market.isTradable kind = true ∧
      ofMarket market = .ok rule := by
  unfold ofJson? at made
  split at made
  · rename_i market read
    split at made
    · rename_i tradable
      refine ⟨market, read, tradable, ?_⟩
      cases converted : ofMarket market with
      | ok other =>
        rw [converted] at made
        exact congrArg Except.ok (Option.some.inj made)
      | error fault =>
        rw [converted] at made
        cases made
    · cases made
  · cases made

/-- An entry has a rule exactly if it is an online market of the kind whose filters can be read. -/
theorem ofJson?_exists_iff (kind : MarketKind) (entry : Json) :
    (∃ rule, ofJson? kind entry = some rule) ↔
      ∃ market, Wire.Market.read entry = .ok market ∧ market.isTradable kind = true ∧
        market.HasReadableFilters := by
  constructor
  · intro ⟨rule, made⟩
    obtain ⟨market, read, tradable, converted⟩ := ofJson?_eq_some made
    exact ⟨market, read, tradable, (ofMarket_converts market).ok_exists_iff.mp ⟨rule, converted⟩⟩
  · intro ⟨market, read, tradable, readable⟩
    obtain ⟨rule, converted⟩ := (ofMarket_converts market).ok_exists_iff.mpr readable
    refine ⟨rule, ?_⟩
    rw [ofJson?, read]
    dsimp only
    rw [if_pos tradable, converted]
    rfl

theorem ofJson?_ofMarket (made : ofJson? kind entry = some rule) :
    ∃ market, Wire.Market.read entry = .ok market ∧ OfMarket market rule := by
  obtain ⟨market, read, -, converted⟩ := ofJson?_eq_some made
  exact ⟨market, read, (ofMarket_converts market).of_ok converted⟩

/-- The rules of some markets are those of the entries that they were read from. -/
theorem ofMarkets_eq_filterMap (kind : MarketKind) (entries : List Json) :
    ofMarkets (entries.filterMap fun entry => (Wire.Market.read entry).toOption) kind =
      entries.filterMap (ofJson? kind) := by
  rw [ofMarkets, ← List.filterMap_eq_filter, List.filterMap_filterMap, List.filterMap_filterMap]
  refine List.filterMap_congr fun entry _ => ?_
  unfold ofJson?
  cases Wire.Market.read entry with
  | error e => rfl
  | ok market => cases tradable : market.isTradable kind <;> simp [Except.toOption, Option.guard, tradable]

end TradingRule

end MarketGateway
