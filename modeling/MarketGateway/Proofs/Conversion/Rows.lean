import MarketGateway.Conversion.Book
import MarketGateway.Proofs.Conversion.Readability

/-!
# Rows of the order book

Levels become rows one by one and in their order, or not at all: `ofLevels_converts`. What is made of
differences and trades follows from that.
-/

namespace MarketGateway

def Wire.Level.IsReadable (level : Wire.Level) : Prop := IsDecimal level.1 ∧ IsDecimal level.2

namespace BookRow

variable {level : Wire.Level} {levels : List Wire.Level}

/-- The row has the decimals of the level, a quantity of zero included, and the sequence number. -/
structure OfLevel (updateId : Int64) (level : Wire.Level) (row : BookRow) : Prop where
  price : Decimal.ofText level.1 = .ok row.price
  quantity : Decimal.ofText level.2 = .ok row.quantity
  sequence : row.updateId = updateId

theorem ofLevel_converts (updateId : Int64) (level : Wire.Level) :
    Converts level.IsReadable (OfLevel updateId level) (ofLevel updateId level) := by
  have price := decimal_converts level.1 fun e => .unreadable (.price level.1 e)
  have quantity := decimal_converts level.2 fun e => .unreadable (.quantity level.2 e)
  exact price.bind fun p readPrice => quantity.map fun q readQuantity => ⟨readPrice, readQuantity, rfl⟩

/-- Rows are those of the levels, one for each and in their order. -/
theorem ofLevels_converts (updateId : Int64) (levels : List Wire.Level) :
    Converts (∀ level ∈ levels, level.IsReadable) (List.Forall₂ (OfLevel updateId) levels)
      (ofLevels updateId levels) :=
  .mapM (ofLevel_converts updateId)

end BookRow

/-! ### Differences -/

def Wire.DepthEvent.IsReadable (event : Wire.DepthEvent) : Prop :=
  ∀ level ∈ event.bids ++ event.asks, level.IsReadable

/-- The difference has the rows of the event and its numbers, under the name of the pair. -/
structure BookDiff.OfEvent (event : Wire.DepthEvent) (pair : String) (diff : BookDiff) : Prop where
  pair : diff.tradingPair = pair
  bids : List.Forall₂ (BookRow.OfLevel event.finalUpdateId) event.bids diff.bids
  asks : List.Forall₂ (BookRow.OfLevel event.finalUpdateId) event.asks diff.asks
  lastUpdate : diff.updateId = event.finalUpdateId
  firstUpdate : diff.firstUpdateId = event.firstUpdateId
  time : diff.timestampMs = Conversion.microsToMs event.eventTime

theorem BookDiff.ofEvent_converts (event : Wire.DepthEvent) (pair : String) :
    Converts event.IsReadable (OfEvent event pair) (ofEvent event pair) := by
  have bids := BookRow.ofLevels_converts event.finalUpdateId event.bids
  have asks := BookRow.ofLevels_converts event.finalUpdateId event.asks
  have both : Converts _ (OfEvent event pair) (ofEvent event pair) :=
    bids.bind fun bidRows ofBids => asks.map fun askRows ofAsks => ⟨rfl, ofBids, ofAsks, rfl, rfl, rfl⟩
  exact both.of_iff List.forall_mem_append.symm

/-! ### Trades -/

def Wire.TradeEvent.IsReadable (event : Wire.TradeEvent) : Prop :=
  IsDecimal event.price ∧ IsDecimal event.quantity

/-- The trade has the decimals of the event and its number, under the name of the pair. -/
structure PublicTrade.OfEvent (event : Wire.TradeEvent) (pair : String) (trade : PublicTrade) : Prop where
  pair : trade.tradingPair = pair
  price : Decimal.ofText event.price = .ok trade.price
  amount : Decimal.ofText event.quantity = .ok trade.amount
  side : trade.side = if event.buyerIsMaker then .sell else .buy
  number : trade.tradeId = event.tradeId
  time : trade.timestampMs = Conversion.microsToMs event.tradeTime

theorem PublicTrade.ofEvent_converts (event : Wire.TradeEvent) (pair : String) :
    Converts event.IsReadable (OfEvent event pair) (ofEvent event pair) := by
  have level := BookRow.ofLevel_converts event.tradeId (event.price, event.quantity)
  exact level.map fun row kept => ⟨rfl, kept.price, kept.quantity, rfl, rfl, rfl⟩

end MarketGateway
