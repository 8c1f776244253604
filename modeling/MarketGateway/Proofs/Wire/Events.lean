import MarketGateway.Proofs.Json.Forms
import MarketGateway.Proofs.Json.Ordered
import MarketGateway.Wire.Event

/-!
# Events in data

An event is read from every object that carries its fields, and an envelope from every value that has
its shape.
-/

namespace MarketGateway.Wire

open Json (Reader Schema Holds HoldsOption HoldsList Written IdentifierForm IntegerForm RawForm
  accepts_text accepts_bool accepts_int64 accepts_uint32 accepts_identifier accepts_integerIdentifier
  accepts_raw)

/-! ### Events that data carries -/

variable {data : List (String × Json)}

def Level.write (levels : List Level) : Json := .array (levels.map Level.toJson)

theorem accepts_levels : Json.Accepts (.list Level.read) (Written Level.write) :=
  .written (fun _ => Reader.list_written fun _ _ => rfl) nofun

structure DepthEvent.IsCarriedBy (e : DepthEvent) (data : List (String × Json)) : Prop where
  eventType : Holds data "e" (Written .string) e.eventType
  eventTime : Holds data "E" (Written .int64) e.eventTime
  symbol : Holds data "s" (Written .string) e.symbol
  firstUpdateId : Holds data "U" (Written .int64) e.firstUpdateId
  finalUpdateId : Holds data "u" (Written .int64) e.finalUpdateId
  bids : HoldsList data "b" (Written Level.write) e.bids
  asks : HoldsList data "a" (Written Level.write) e.asks
  transactionTime : HoldsOption data "T" (Written .int64) e.transactionTime

structure TradeEvent.IsCarriedBy (e : TradeEvent) (data : List (String × Json)) : Prop where
  eventType : Holds data "e" (Written .string) e.eventType
  eventTime : Holds data "E" (Written .int64) e.eventTime
  symbol : Holds data "s" (Written .string) e.symbol
  tradeId : Holds data "t" (Written .int64) e.tradeId
  price : Holds data "p" (Written .string) e.price
  quantity : Holds data "q" (Written .string) e.quantity
  buyerIsMaker : Holds data "m" (Written .bool) e.buyerIsMaker
  tradeTime : Holds data "T" (Written .int64) e.tradeTime

structure MarkPriceEvent.IsCarriedBy (e : MarkPriceEvent) (data : List (String × Json)) : Prop where
  eventType : Holds data "e" (Written .string) e.eventType
  eventTime : Holds data "E" (Written .int64) e.eventTime
  symbol : Holds data "s" (Written .string) e.symbol
  markPrice : Holds data "p" (Written .string) e.markPrice
  fundingRate : HoldsOption data "f" (Written .string) e.fundingRate
  indexPrice : HoldsOption data "i" (Written .string) e.indexPrice
  nextFundingTime : HoldsOption data "n" IntegerForm e.nextFundingTime

structure OrderEvent.IsCarriedBy (e : OrderEvent) (data : List (String × Json)) : Prop where
  eventType : Holds data "e" (Written .string) e.eventType
  eventTime : Holds data "E" (Written .int64) e.eventTime
  symbol : Holds data "s" (Written .string) e.symbol
  clientId : HoldsOption data "c" (Written .uint32) e.clientId
  side : HoldsOption data "S" (Written .string) e.side
  orderType : HoldsOption data "o" (Written .string) e.orderType
  timeInForce : HoldsOption data "f" (Written .string) e.timeInForce
  quantity : HoldsOption data "q" (Written .string) e.quantity
  price : HoldsOption data "p" (Written .string) e.price
  stopPrice : HoldsOption data "P" (Written .string) e.stopPrice
  executionType : HoldsOption data "x" (Written .string) e.executionType
  orderStatus : Holds data "X" (Written .string) e.orderStatus
  orderId : Holds data "i" IdentifierForm e.orderId
  lastFilledQuantity : HoldsOption data "l" (Written .string) e.lastFilledQuantity
  cumulativeFilledQuantity : HoldsOption data "z" (Written .string) e.cumulativeFilledQuantity
  lastFilledPrice : HoldsOption data "L" (Written .string) e.lastFilledPrice
  fee : HoldsOption data "n" (Written .string) e.fee
  feeSymbol : HoldsOption data "N" (Written .string) e.feeSymbol
  transactionTime : HoldsOption data "T" (Written .int64) e.transactionTime
  tradeId : HoldsOption data "t" IdentifierForm e.tradeId
  origin : HoldsOption data "O" RawForm e.origin
  cumulativeQuoteQuantity : HoldsOption data "Z" (Written .string) e.cumulativeQuoteQuantity
  lastQuoteQuantity : HoldsOption data "Y" (Written .string) e.lastQuoteQuantity
  quoteQuantity : HoldsOption data "Q" (Written .string) e.quoteQuantity

theorem DepthEvent.IsCarriedBy.read {e : DepthEvent} (carried : e.IsCarriedBy data)
    (distinct : Json.Distinct data) : DepthEvent.read (.object data) = .ok e := by
  have sound : Schema.Sound DepthEvent.schema := by unfold DepthEvent.schema; infer_instance
  refine (Schema.read_object (by decide) distinct _).mpr ?_
  exact (Schema.Gives.map DepthEvent.mk (carried.eventType.required accepts_text))
    |>.seq (carried.eventTime.required accepts_int64)
    |>.seq (carried.symbol.required accepts_text)
    |>.seq (carried.firstUpdateId.required accepts_int64)
    |>.seq (carried.finalUpdateId.required accepts_int64)
    |>.seq (carried.bids.withDefault accepts_levels)
    |>.seq (carried.asks.withDefault accepts_levels)
    |>.seq (carried.transactionTime.omittable accepts_int64)

theorem TradeEvent.IsCarriedBy.read {e : TradeEvent} (carried : e.IsCarriedBy data)
    (distinct : Json.Distinct data) : TradeEvent.read (.object data) = .ok e := by
  have sound : Schema.Sound TradeEvent.schema := by unfold TradeEvent.schema; infer_instance
  refine (Schema.read_object (by decide) distinct _).mpr ?_
  exact (Schema.Gives.map TradeEvent.mk (carried.eventType.required accepts_text))
    |>.seq (carried.eventTime.required accepts_int64)
    |>.seq (carried.symbol.required accepts_text)
    |>.seq (carried.tradeId.required accepts_int64)
    |>.seq (carried.price.required accepts_text)
    |>.seq (carried.quantity.required accepts_text)
    |>.seq (carried.buyerIsMaker.required accepts_bool)
    |>.seq (carried.tradeTime.required accepts_int64)

theorem MarkPriceEvent.IsCarriedBy.read {e : MarkPriceEvent} (carried : e.IsCarriedBy data)
    (distinct : Json.Distinct data) : MarkPriceEvent.read (.object data) = .ok e := by
  have sound : Schema.Sound MarkPriceEvent.schema := by unfold MarkPriceEvent.schema; infer_instance
  refine (Schema.read_object (by decide) distinct _).mpr ?_
  exact (Schema.Gives.map MarkPriceEvent.mk (carried.eventType.required accepts_text))
    |>.seq (carried.eventTime.required accepts_int64)
    |>.seq (carried.symbol.required accepts_text)
    |>.seq (carried.markPrice.required accepts_text)
    |>.seq (carried.fundingRate.omittable accepts_text)
    |>.seq (carried.indexPrice.omittable accepts_text)
    |>.seq (carried.nextFundingTime.omittable accepts_integerIdentifier)

theorem OrderEvent.IsCarriedBy.read {e : OrderEvent} (carried : e.IsCarriedBy data)
    (distinct : Json.Distinct data) : OrderEvent.read (.object data) = .ok e := by
  have sound : Schema.Sound OrderEvent.schema := by unfold OrderEvent.schema; infer_instance
  refine (Schema.read_object (by decide) distinct _).mpr ?_
  exact (Schema.Gives.map OrderEvent.mk (carried.eventType.required accepts_text))
    |>.seq (carried.eventTime.required accepts_int64)
    |>.seq (carried.symbol.required accepts_text)
    |>.seq (carried.clientId.omittable accepts_uint32)
    |>.seq (carried.side.omittable accepts_text)
    |>.seq (carried.orderType.omittable accepts_text)
    |>.seq (carried.timeInForce.omittable accepts_text)
    |>.seq (carried.quantity.omittable accepts_text)
    |>.seq (carried.price.omittable accepts_text)
    |>.seq (carried.stopPrice.omittable accepts_text)
    |>.seq (carried.executionType.omittable accepts_text)
    |>.seq (carried.orderStatus.required accepts_text)
    |>.seq (carried.orderId.required accepts_identifier)
    |>.seq (carried.lastFilledQuantity.omittable accepts_text)
    |>.seq (carried.cumulativeFilledQuantity.omittable accepts_text)
    |>.seq (carried.lastFilledPrice.omittable accepts_text)
    |>.seq (carried.fee.omittable accepts_text)
    |>.seq (carried.feeSymbol.omittable accepts_text)
    |>.seq (carried.transactionTime.omittable accepts_int64)
    |>.seq (carried.tradeId.omittable accepts_identifier)
    |>.seq (carried.origin.omittable accepts_raw)
    |>.seq (carried.cumulativeQuoteQuantity.omittable accepts_text)
    |>.seq (carried.lastQuoteQuantity.omittable accepts_text)
    |>.seq (carried.quoteQuantity.omittable accepts_text)

/-! ### Envelopes -/

/-- An envelope is an object, or an array of its two fields. -/
inductive IsEnvelope (stream : String) (content : Json) : Json → Prop where
  | object {members : List (String × Json)}
      (named : Json.memberOf? "stream" members = some (.string stream))
      (held : Json.memberOf? "data" members = some content) : IsEnvelope stream content (.object members)
  | array : IsEnvelope stream content (.array [.string stream, content])

theorem Envelope.read_object {members : List (String × Json)} (distinct : Json.Distinct members)
    {envelope : Envelope} : Envelope.read (.object members) = .ok envelope ↔
      Json.memberOf? "stream" members = some (.string envelope.stream) ∧
        Json.memberOf? "data" members = some envelope.data := by
  have sound : Schema.Sound Envelope.schema := by unfold Envelope.schema; infer_instance
  rw [Envelope.read, Schema.read_object (by decide) distinct, schema, Schema.gives_seq]
  simp only [Schema.gives_map, Schema.gives_required, Reader.text_eq_ok]
  constructor
  · rintro ⟨_, content, ⟨stream, ⟨_, named, rfl⟩, rfl⟩, ⟨_, held, read⟩, rfl⟩
    obtain rfl := Except.ok.inj read
    exact ⟨named, held⟩
  · rintro ⟨named, held⟩
    exact ⟨_, _, ⟨_, ⟨_, named, rfl⟩, rfl⟩, ⟨_, held, rfl⟩, rfl⟩

theorem Envelope.read_array {items : List Json} {envelope : Envelope} :
    Envelope.read (.array items) = .ok envelope ↔
      items = [.string envelope.stream, envelope.data] := by
  constructor
  · intro read
    match items with
    | [] => cases read
    | [name] =>
      cases name <;> cases read
    | [name, content] =>
      cases name <;> cases read
      rfl
    | name :: content :: more :: items =>
      cases name <;> cases read
  · rintro rfl
    rfl

theorem Envelope.read_eq_ok {value : Json} (ordered : value.Ordered) {envelope : Envelope} :
    Envelope.read value = .ok envelope ↔ IsEnvelope envelope.stream envelope.data value := by
  constructor
  · intro read
    cases value with
    | object members =>
      obtain ⟨named, held⟩ := (Envelope.read_object ordered.ascending.distinct).mp read
      exact .object named held
    | array items =>
      obtain rfl := Envelope.read_array.mp read
      exact .array
    | _ => cases read
  · intro shape
    cases shape with
    | object named held => exact (Envelope.read_object ordered.ascending.distinct).mpr ⟨named, held⟩
    | array => exact Envelope.read_array.mpr rfl

end MarketGateway.Wire
