import MarketGateway.Conversion.Amount
import MarketGateway.Market.Book
import MarketGateway.Wire.Event

/-!
# Order book messages

Snapshots, differences and public trades from what the exchange sends. Prices and quantities have to
be decimals without blanks around them.
-/

namespace MarketGateway

def BookRow.ofLevel (updateId : Int64) (level : Wire.Level) : Except Fault BookRow := do
  let price ← (Decimal.ofText level.1).mapError fun e => .error (.unreadable (.price level.1 e))
  let quantity ←
    (Decimal.ofText level.2).mapError fun e => .error (.unreadable (.quantity level.2 e))
  return ⟨price, quantity, updateId⟩

def BookRow.ofLevels (updateId : Int64) (levels : List Wire.Level) : Except Fault (List BookRow) :=
  levels.mapM (BookRow.ofLevel updateId)

/-- From the lowest price up; equal prices keep their order. -/
def BookRow.ascending (rows : List BookRow) : List BookRow :=
  rows.mergeSort fun a b => Decimal.atMost a.price b.price

/-- From the highest price down; equal prices keep their order. -/
def BookRow.descending (rows : List BookRow) : List BookRow :=
  rows.mergeSort fun a b => Decimal.atMost b.price a.price

/-- The full book; `nowMs` is its time where the exchange gives none. -/
def BookSnapshot.ofDepth (depth : Wire.Depth) (pair : String) (nowMs : Int64) :
    Except Fault BookSnapshot := do
  let bids ← BookRow.ofLevels depth.lastUpdateId depth.bids
  let asks ← BookRow.ofLevels depth.lastUpdateId depth.asks
  return ⟨pair, BookRow.descending bids, BookRow.ascending asks, depth.lastUpdateId,
    (depth.timestamp.map Conversion.toEpochMs).getD nowMs⟩

/-- The rows stay in their order, those with quantity zero included. -/
def BookDiff.ofEvent (event : Wire.DepthEvent) (pair : String) : Except Fault BookDiff := do
  let bids ← BookRow.ofLevels event.finalUpdateId event.bids
  let asks ← BookRow.ofLevels event.finalUpdateId event.asks
  return ⟨pair, bids, asks, event.finalUpdateId, event.firstUpdateId,
    Conversion.microsToMs event.eventTime⟩

/-- The side of a trade is that of the order that came last: if the buyer was in the book, it is a
sale. -/
def PublicTrade.ofEvent (event : Wire.TradeEvent) (pair : String) : Except Fault PublicTrade := do
  let row ← BookRow.ofLevel event.tradeId (event.price, event.quantity)
  return ⟨pair, if event.buyerIsMaker then .sell else .buy, event.tradeId, row.price, row.quantity,
    Conversion.microsToMs event.tradeTime⟩

end MarketGateway
