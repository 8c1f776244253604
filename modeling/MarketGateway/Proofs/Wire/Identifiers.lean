import MarketGateway.Proofs.Json.Fields
import MarketGateway.Proofs.Json.Identifiers
import MarketGateway.Wire.Account
import MarketGateway.Wire.Event

/-!
# Identifiers in payloads

The identifiers of orders and fills, and the sequence numbers and funding times of the market data, are
the same whether the exchange sends them as numbers or as strings: `identifiers_read_alike`.
-/

namespace MarketGateway.Wire

open Json (Reader Schema ReadsField AcceptsIdentifiers AcceptsIntegers)

/-! ### Fields with identifiers -/

theorem Order.readsField_id : ReadsField Order.read "id" .identifier Order.id :=
  Schema.readsField "id" _ (by decide) <|
    .seq <| .seq <| .seq <| .seq <| .seq <| .seq <| .seq <| .seq <| .seq <| .seq <| .first <|
    by intros; rfl

theorem Fill.readsField_orderId : ReadsField Fill.read "orderId" .identifier Fill.orderId :=
  Schema.readsField "orderId" _ (by decide) <|
    .seq <| .seq <| .seq <| .seq <| .seq <| .seq <| .seq <| .seq <| .field <| .map <|
    by intros; rfl

theorem Fill.readsField_tradeId : ReadsField Fill.read "tradeId" (.nullable .identifier) Fill.tradeId :=
  Schema.readsField "tradeId" _ (by decide) <|
    .seq <| .seq <| .seq <| .seq <| .seq <| .seq <| .seq <| .seq <| .seq <| .first <|
    by intros; rfl

theorem OrderEvent.readsField_orderId : ReadsField OrderEvent.read "i" .identifier OrderEvent.orderId :=
  Schema.readsField "i" _ (by decide) <|
    .seq <| .seq <| .seq <| .seq <| .seq <| .seq <| .seq <| .seq <| .seq <| .seq <| .seq <| .field <|
    .seq <| .seq <| .seq <| .seq <| .seq <| .seq <| .seq <| .seq <| .seq <| .seq <| .seq <| .map <|
    by intros; rfl

theorem OrderEvent.readsField_tradeId :
    ReadsField OrderEvent.read "t" (.nullable .identifier) OrderEvent.tradeId :=
  Schema.readsField "t" _ (by decide) <|
    .seq <| .seq <| .seq <| .seq <| .field <| .seq <| .seq <| .seq <| .seq <| .seq <| .seq <| .seq <|
    .seq <| .seq <| .seq <| .seq <| .seq <| .seq <| .seq <| .seq <| .seq <| .seq <| .seq <| .map <|
    by intros; rfl

theorem Depth.readsField_lastUpdateId :
    ReadsField Depth.read "lastUpdateId" .integerIdentifier Depth.lastUpdateId :=
  Schema.readsField "lastUpdateId" _ (by decide) <|
    .seq <| .field <| .seq <| .map <| by intros; rfl

theorem MarkPriceEvent.readsField_nextFundingTime :
    ReadsField MarkPriceEvent.read "n" (.nullable .integerIdentifier) MarkPriceEvent.nextFundingTime :=
  Schema.readsField "n" _ (by decide) <|
    .field <| .seq <| .seq <| .seq <| .seq <| .seq <| .map <| by intros; rfl

/-- A mark price has its funding time under one of two keys. -/
theorem MarkPrice.readsField_nextFundingTimestamp {key : String}
    (listed : key ∈ ["nextFundingTimestamp", "nextFundingTime"]) :
    ReadsField MarkPrice.read key (.nullable .integerIdentifier) MarkPrice.nextFundingTimestamp := by
  have answers : ∀ key ∈ ["nextFundingTimestamp", "nextFundingTime"],
      (MarkPrice.schema.fields.find? fun f => f.answersTo key).map Json.Field.name =
        some "nextFundingTimestamp" := by
    decide
  exact Schema.readsField "nextFundingTimestamp" _ (answers key listed) <|
    .field <| .seq <| .seq <| .seq <| .map <| by intros; rfl

/-! ### All identifiers -/

/-- Identifiers are the same text, and integers the same number, in both forms; an integer is read from
nothing else. Only the readers of fields that may be left out accept `null`, for no value. The identifiers
of orders and fills, the sequence number of a depth and the funding times are what these readers make of
their members, and the records depend on these members in no other way. -/
theorem identifiers_read_alike :
    (AcceptsIdentifiers .identifier id ∧ AcceptsIdentifiers (.nullable .identifier) some) ∧
    (AcceptsIntegers .integerIdentifier id ∧ AcceptsIntegers (.nullable .integerIdentifier) some) ∧
    ((∀ s, Reader.identifier .null ≠ .ok s) ∧ (∀ n, Reader.integerIdentifier .null ≠ .ok n) ∧
      (∀ j, Reader.nullable .identifier j = .ok none ↔ j = .null) ∧
      ∀ j, Reader.nullable .integerIdentifier j = .ok none ↔ j = .null) ∧
    (ReadsField Order.read "id" .identifier Order.id ∧
      ReadsField Fill.read "orderId" .identifier Fill.orderId ∧
      ReadsField Fill.read "tradeId" (.nullable .identifier) Fill.tradeId ∧
      ReadsField OrderEvent.read "i" .identifier OrderEvent.orderId ∧
      ReadsField OrderEvent.read "t" (.nullable .identifier) OrderEvent.tradeId) ∧
    ReadsField Depth.read "lastUpdateId" .integerIdentifier Depth.lastUpdateId ∧
    (∀ key ∈ ["nextFundingTimestamp", "nextFundingTime"],
      ReadsField MarkPrice.read key (.nullable .integerIdentifier) MarkPrice.nextFundingTimestamp) ∧
    ReadsField MarkPriceEvent.read "n" (.nullable .integerIdentifier) MarkPriceEvent.nextFundingTime := by
  refine ⟨⟨Json.acceptsIdentifiers_identifier, Json.acceptsIdentifiers_nullable⟩,
    ⟨Json.acceptsIntegers_integerIdentifier, Json.acceptsIntegers_nullable⟩,
    ⟨nofun, nofun, fun _ => Reader.nullable_eq_none_iff, fun _ => Reader.nullable_eq_none_iff⟩,
    ⟨Order.readsField_id, Fill.readsField_orderId, Fill.readsField_tradeId,
      OrderEvent.readsField_orderId, OrderEvent.readsField_tradeId⟩,
    Depth.readsField_lastUpdateId, fun _ => MarkPrice.readsField_nextFundingTimestamp,
    MarkPriceEvent.readsField_nextFundingTime⟩

/-- The largest order id keeps its digits. -/
theorem identifiers_read_alike_largest :
    Order.read (.object [("id", .nat (2 ^ 64 - 1)), ("status", .string "New"), ("symbol", .string "SOL_USDC")]) =
      Order.read (.object [("id", .string "18446744073709551615"), ("status", .string "New"),
        ("symbol", .string "SOL_USDC")]) :=
  identifiers_read_alike.2.2.2.1.1.alike _ _ (.cons (.read rfl) (List.forall₂_same.mpr fun m _ => .same m))

end MarketGateway.Wire
