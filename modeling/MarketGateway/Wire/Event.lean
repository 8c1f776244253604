import MarketGateway.Wire.Market

/-!
# Stream events

Every frame of the stream is an envelope with the name of its stream and the event. The fields of the
events have one-letter names, and small and capital letters are different fields. Times are
microseconds.
-/

namespace MarketGateway.Wire

open Json (Reader Schema)

structure Envelope where
  stream : String
  data : Json

namespace Envelope

def schema : Schema Envelope := mk <$> .required "stream" .text <*> .required "data" .raw

def read : Reader Envelope := schema.read "BackpackStreamEnvelope"

def toJson (e : Envelope) : Json := .ofMembers [("stream", .string e.stream), ("data", e.data)]

end Envelope

structure DepthEvent where
  eventType : String
  eventTime : Int64
  symbol : String
  firstUpdateId : Int64
  finalUpdateId : Int64
  bids : List Level
  asks : List Level
  transactionTime : Option Int64
deriving DecidableEq

namespace DepthEvent

def schema : Schema DepthEvent :=
  mk <$> .required "e" .text <*> .required "E" .int64 <*> .required "s" .text
    <*> .required "U" .int64 <*> .required "u" .int64 <*> .withDefault "b" (.list Level.read) []
    <*> .withDefault "a" (.list Level.read) [] <*> .omittable "T" .int64

def read : Reader DepthEvent := schema.read "BackpackDepthEvent"

def toJson (e : DepthEvent) : Json :=
  .ofMembers [("e", .string e.eventType), ("E", .int64 e.eventTime), ("s", .string e.symbol),
    ("U", .int64 e.firstUpdateId), ("u", .int64 e.finalUpdateId),
    ("b", .array (e.bids.map Level.toJson)), ("a", .array (e.asks.map Level.toJson)),
    ("T", .ofOption .int64 e.transactionTime)]

end DepthEvent

structure TradeEvent where
  eventType : String
  eventTime : Int64
  symbol : String
  tradeId : Int64
  price : String
  quantity : String
  buyerIsMaker : Bool
  tradeTime : Int64
deriving DecidableEq

namespace TradeEvent

def schema : Schema TradeEvent :=
  mk <$> .required "e" .text <*> .required "E" .int64 <*> .required "s" .text
    <*> .required "t" .int64 <*> .required "p" .text <*> .required "q" .text
    <*> .required "m" .bool <*> .required "T" .int64

def read : Reader TradeEvent := schema.read "BackpackTradeEvent"

def toJson (e : TradeEvent) : Json :=
  .ofMembers [("e", .string e.eventType), ("E", .int64 e.eventTime), ("s", .string e.symbol),
    ("t", .int64 e.tradeId), ("p", .string e.price), ("q", .string e.quantity),
    ("m", .bool e.buyerIsMaker), ("T", .int64 e.tradeTime)]

end TradeEvent

structure MarkPriceEvent where
  eventType : String
  eventTime : Int64
  symbol : String
  markPrice : String
  fundingRate : Option String
  indexPrice : Option String
  nextFundingTime : Option Int64
deriving DecidableEq

namespace MarkPriceEvent

def schema : Schema MarkPriceEvent :=
  mk <$> .required "e" .text <*> .required "E" .int64 <*> .required "s" .text
    <*> .required "p" .text <*> .omittable "f" .text <*> .omittable "i" .text
    <*> .omittable "n" .integerIdentifier

def read : Reader MarkPriceEvent := schema.read "BackpackMarkPriceEvent"

def toJson (e : MarkPriceEvent) : Json :=
  .ofMembers [("e", .string e.eventType), ("E", .int64 e.eventTime), ("s", .string e.symbol),
    ("p", .string e.markPrice), ("f", .ofText? e.fundingRate), ("i", .ofText? e.indexPrice),
    ("n", .ofOption .int64 e.nextFundingTime)]

end MarkPriceEvent

structure OrderEvent where
  eventType : String
  eventTime : Int64
  symbol : String
  clientId : Option UInt32
  side : Option String
  orderType : Option String
  timeInForce : Option String
  quantity : Option String
  price : Option String
  stopPrice : Option String
  executionType : Option String
  orderStatus : String
  orderId : String
  lastFilledQuantity : Option String
  cumulativeFilledQuantity : Option String
  lastFilledPrice : Option String
  fee : Option String
  feeSymbol : Option String
  transactionTime : Option Int64
  tradeId : Option String
  origin : Option Json
  cumulativeQuoteQuantity : Option String
  lastQuoteQuantity : Option String
  quoteQuantity : Option String

namespace OrderEvent

def schema : Schema OrderEvent :=
  mk <$> .required "e" .text <*> .required "E" .int64 <*> .required "s" .text
    <*> .omittable "c" .uint32 <*> .omittable "S" .text <*> .omittable "o" .text
    <*> .omittable "f" .text <*> .omittable "q" .text <*> .omittable "p" .text
    <*> .omittable "P" .text <*> .omittable "x" .text <*> .required "X" .text
    <*> .required "i" .identifier <*> .omittable "l" .text <*> .omittable "z" .text
    <*> .omittable "L" .text <*> .omittable "n" .text <*> .omittable "N" .text
    <*> .omittable "T" .int64 <*> .omittable "t" .identifier <*> .omittable "O" .raw
    <*> .omittable "Z" .text <*> .omittable "Y" .text <*> .omittable "Q" .text

def read : Reader OrderEvent := schema.read "BackpackOrderUpdateEvent"

def toJson (e : OrderEvent) : Json :=
  .ofMembers [("e", .string e.eventType), ("E", .int64 e.eventTime), ("s", .string e.symbol),
    ("c", .ofOption .uint32 e.clientId), ("S", .ofText? e.side), ("o", .ofText? e.orderType),
    ("f", .ofText? e.timeInForce), ("q", .ofText? e.quantity), ("p", .ofText? e.price),
    ("P", .ofText? e.stopPrice), ("x", .ofText? e.executionType), ("X", .string e.orderStatus),
    ("i", .string e.orderId), ("l", .ofText? e.lastFilledQuantity),
    ("z", .ofText? e.cumulativeFilledQuantity), ("L", .ofText? e.lastFilledPrice),
    ("n", .ofText? e.fee), ("N", .ofText? e.feeSymbol), ("T", .ofOption .int64 e.transactionTime),
    ("t", .ofText? e.tradeId), ("O", e.origin.getD .null),
    ("Z", .ofText? e.cumulativeQuoteQuantity), ("Y", .ofText? e.lastQuoteQuantity),
    ("Q", .ofText? e.quoteQuantity)]

end OrderEvent

end MarketGateway.Wire
