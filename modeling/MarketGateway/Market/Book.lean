import MarketGateway.Json.Schema

/-!
# Order books and public trades

A row is a price level with the sequence number it came with; a zero quantity in a difference removes
the level. Snapshots, differences and trades are the messages of an order book feed.
-/

namespace MarketGateway

open Json (Reader Schema)

namespace Json

def decimal (d : Decimal) : Json := .string d.toText

end Json

structure BookRow where
  price : Decimal
  quantity : Decimal
  updateId : Int64
deriving DecidableEq

namespace BookRow

def schema : Schema BookRow :=
  mk <$> .required "price" .decimalText <*> .required "quantity" .decimalText
    <*> .required "update_id" .int64

def read : Reader BookRow := schema.read "OrderBookRow"

def toJson (r : BookRow) : Json :=
  .ofMembers [("price", .decimal r.price), ("quantity", .decimal r.quantity),
    ("update_id", .int64 r.updateId)]

end BookRow

/-- Bids from the highest price down, asks from the lowest price up. -/
structure BookSnapshot where
  tradingPair : String
  bids : List BookRow
  asks : List BookRow
  updateId : Int64
  timestampMs : Int64
deriving DecidableEq

namespace BookSnapshot

def schema : Schema BookSnapshot :=
  mk <$> .required "trading_pair" .text <*> .required "bids" (.list BookRow.read)
    <*> .required "asks" (.list BookRow.read) <*> .required "update_id" .int64
    <*> .required "timestamp_ms" .int64

def read : Reader BookSnapshot := schema.read "OrderBookSnapshot"

def toJson (s : BookSnapshot) : Json :=
  .ofMembers [("trading_pair", .string s.tradingPair), ("bids", .array (s.bids.map BookRow.toJson)),
    ("asks", .array (s.asks.map BookRow.toJson)), ("update_id", .int64 s.updateId),
    ("timestamp_ms", .int64 s.timestampMs)]

end BookSnapshot

structure BookDiff where
  tradingPair : String
  bids : List BookRow
  asks : List BookRow
  updateId : Int64
  firstUpdateId : Int64
  timestampMs : Int64
deriving DecidableEq

namespace BookDiff

def schema : Schema BookDiff :=
  mk <$> .required "trading_pair" .text <*> .required "bids" (.list BookRow.read)
    <*> .required "asks" (.list BookRow.read) <*> .required "update_id" .int64
    <*> .required "first_update_id" .int64 <*> .required "timestamp_ms" .int64

def read : Reader BookDiff := schema.read "OrderBookDiff"

def toJson (d : BookDiff) : Json :=
  .ofMembers [("trading_pair", .string d.tradingPair), ("bids", .array (d.bids.map BookRow.toJson)),
    ("asks", .array (d.asks.map BookRow.toJson)), ("update_id", .int64 d.updateId),
    ("first_update_id", .int64 d.firstUpdateId), ("timestamp_ms", .int64 d.timestampMs)]

end BookDiff

inductive Side where
  | buy
  | sell
deriving DecidableEq

namespace Side

def name : Side → String
  | .buy => "Buy"
  | .sell => "Sell"

def read : Reader Side := .variant [.unit "Buy" .buy, .unit "Sell" .sell]

def toJson (s : Side) : Json := .string s.name

end Side

structure PublicTrade where
  tradingPair : String
  side : Side
  tradeId : Int64
  price : Decimal
  amount : Decimal
  timestampMs : Int64
deriving DecidableEq

namespace PublicTrade

def schema : Schema PublicTrade :=
  mk <$> .required "trading_pair" .text <*> .required "trade_type" Side.read
    <*> .required "trade_id" .int64 <*> .required "price" .decimalText
    <*> .required "amount" .decimalText <*> .required "timestamp_ms" .int64

def read : Reader PublicTrade := schema.read "PublicTrade"

def toJson (t : PublicTrade) : Json :=
  .ofMembers [("trading_pair", .string t.tradingPair), ("trade_type", t.side.toJson),
    ("trade_id", .int64 t.tradeId), ("price", .decimal t.price), ("amount", .decimal t.amount),
    ("timestamp_ms", .int64 t.timestampMs)]

end PublicTrade

inductive BookMessage where
  | snapshot (content : BookSnapshot)
  | diff (content : BookDiff)
  | trade (content : PublicTrade)
deriving DecidableEq

namespace BookMessage

def tradingPair : BookMessage → String
  | .snapshot s => s.tradingPair
  | .diff d => d.tradingPair
  | .trade t => t.tradingPair

/-- The sequence number of a message; trades count by their own numbers. -/
def updateId : BookMessage → Int64
  | .snapshot s => s.updateId
  | .diff d => d.updateId
  | .trade t => t.tradeId

def read : Reader BookMessage := .variant [
  .holding "Snapshot" fun j => (BookSnapshot.read j).map .snapshot,
  .holding "Diff" fun j => (BookDiff.read j).map .diff,
  .holding "Trade" fun j => (PublicTrade.read j).map .trade]

def toJson : BookMessage → Json
  | .snapshot s => .ofMembers [("Snapshot", s.toJson)]
  | .diff d => .ofMembers [("Diff", d.toJson)]
  | .trade t => .ofMembers [("Trade", t.toJson)]

end BookMessage

end MarketGateway
