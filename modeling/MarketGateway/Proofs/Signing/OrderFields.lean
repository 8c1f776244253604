import MarketGateway.Gateway.Calls
import MarketGateway.Proofs.Decimal.Notation
import MarketGateway.Proofs.Http.Calls
import MarketGateway.Proofs.Json.RoundTrip

/-!
# Signed fields of orders

What is signed of the body of an order are the fields of the order, each under its name and as it is:
`signed_fields_are_the_order`.
-/

namespace MarketGateway

theorem Text.fromUTF8?_toUTF8 (s : String) : String.fromUTF8? s.toUTF8 = some s := by
  simp only [String.fromUTF8?, String.toUTF8_eq_toByteArray, dif_pos s.isValidUTF8]
  rfl

namespace Signing

/-! ### Bodies -/

/-- The fields are what is signed of the body, each once and in ascending order of their names. -/
structure Signs (body : Json) (fields : List (String × String)) : Prop where
  signed : bodyParams (Client.bodyBytes (some body)) = .ok fields
  ascending : (fields.map Prod.fst).Pairwise fun a b => a < b

/-- The members of an object are signed in their order, apart from what has no signed text. -/
theorem bodyParams_object {members : List (String × Json)}
    (readable : Json.Readable Json.Assembly.maxDepth (.object members)) :
    bodyParams (Client.bodyBytes (some (.object members))) =
      .ok (members.filterMap fun m => (signedText? m.2).map fun text => (m.1, text)) := by
  have bytes : Client.bodyBytes (some (.object members)) = (Json.object members).render.toUTF8 := rfl
  have parsed := Json.parse?_render readable
  have nonempty : (Json.object members).render.toUTF8.isEmpty = false := by
    have text : (Json.object members).render ≠ "" := by
      intro empty
      rw [empty] at parsed
      cases parsed
    simpa [ByteArray.isEmpty] using text
  rw [bytes, bodyParams, nonempty, Text.fromUTF8?_toUTF8, Option.bind_some, parsed]
  rfl

/-- A value that can be read at any depth, because nothing is nested in it. -/
def IsScalar (v : Json) : Prop := ∀ depth, Json.Readable depth v

/-- Of the values under some names, those that are there are signed, in ascending order of the names. -/
theorem bodyParams_present {names ascending : List String} {valueOf : String → Option Json}
    (same : names.Perm ascending) (order : ascending.Pairwise fun a b => a < b)
    (scalar : ∀ name v, valueOf name = some v → IsScalar v) :
    bodyParams (Client.bodyBytes (some (Wire.present (names.map fun name => (name, valueOf name))))) =
      .ok (Client.given (ascending.map fun name => (name, (valueOf name).bind signedText?))) := by
  have sorted : Json.Ascending
      (ascending.filterMap fun name => (valueOf name).map fun v => (name, v)) := by
    refine List.Pairwise.filterMap _ (fun a b less m made n other => ?_) order
    obtain ⟨v, -, rfl⟩ := Option.map_eq_some_iff.mp made
    obtain ⟨w, -, rfl⟩ := Option.map_eq_some_iff.mp other
    exact less
  -- Whatever the order of the names, the object is written in ascending order.
  have listed : Wire.present (names.map fun name => (name, valueOf name)) =
      .object (ascending.filterMap fun name => (valueOf name).map fun v => (name, v)) := by
    rw [Wire.present, List.filterMap_map]
    exact Json.ofMembers_eq (same.filterMap _) sorted
  have readable : Json.Readable Json.Assembly.maxDepth
      (.object (ascending.filterMap fun name => (valueOf name).map fun v => (name, v))) := by
    refine .object sorted fun m member => ?_
    obtain ⟨name, -, made⟩ := List.mem_filterMap.mp member
    obtain ⟨v, given, rfl⟩ := Option.map_eq_some_iff.mp made
    exact scalar name v given 126
  rw [listed, bodyParams_object readable, List.filterMap_filterMap, Client.given, List.filterMap_map]
  congr 2
  funext name
  cases given : valueOf name <;> simp [given]

theorem isScalar_string (text : String) : IsScalar (.string text) := fun _ => .string text

theorem isScalar_bool (value : Bool) : IsScalar (.bool value) := fun _ => .bool value

theorem isScalar_uint32 (n : UInt32) : IsScalar (.uint32 n) := by
  have small := n.toNat_lt
  exact fun _ => .int (by omega) (by omega)

theorem bind_string (text : Option String) : (text.map Json.string).bind signedText? = text := by
  cases text <;> rfl

theorem bind_bool (value : Option Bool) :
    (value.map Json.bool).bind signedText? = value.map toString := by
  cases value <;> rfl

theorem bind_uint32 (n : Option UInt32) :
    (n.map Json.uint32).bind signedText? = n.map fun n => toString n.toNat := by
  cases n <;> rfl

end Signing

/-! ### Requests -/

theorem Client.given_ascending {params : List (String × Option String)}
    (ascending : (params.map Prod.fst).Pairwise fun a b => a < b) :
    ((given params).map Prod.fst).Pairwise fun a b => a < b := by
  rw [List.pairwise_map] at ascending ⊢
  refine List.Pairwise.filterMap _ (fun p q less m made n other => ?_) ascending
  obtain ⟨v, -, rfl⟩ := Option.map_eq_some_iff.mp made
  obtain ⟨w, -, rfl⟩ := Option.map_eq_some_iff.mp other
  exact less

namespace Wire

open Signing

namespace NewOrder

def valueOf (o : NewOrder) : String → Option Json
  | "symbol" => some (.string o.symbol)
  | "side" => some (.string o.side)
  | "orderType" => some (.string o.orderType)
  | "quantity" => some (.string o.quantity)
  | "price" => o.price.map .string
  | "timeInForce" => o.timeInForce.map .string
  | "postOnly" => o.postOnly.map .bool
  | "clientId" => o.clientId.map .uint32
  | _ => none

theorem valueOf_isScalar {o : NewOrder} {name : String} {v : Json} (given : o.valueOf name = some v) :
    IsScalar v := by
  unfold valueOf at given
  split at given
  · exact Option.some.inj given ▸ isScalar_string o.symbol
  · exact Option.some.inj given ▸ isScalar_string o.side
  · exact Option.some.inj given ▸ isScalar_string o.orderType
  · exact Option.some.inj given ▸ isScalar_string o.quantity
  · obtain ⟨text, -, rfl⟩ := Option.map_eq_some_iff.mp given
    exact isScalar_string text
  · obtain ⟨text, -, rfl⟩ := Option.map_eq_some_iff.mp given
    exact isScalar_string text
  · obtain ⟨value, -, rfl⟩ := Option.map_eq_some_iff.mp given
    exact isScalar_bool value
  · obtain ⟨n, -, rfl⟩ := Option.map_eq_some_iff.mp given
    exact isScalar_uint32 n
  · cases given

/-- The fields that are there, under their names and in ascending order of these. -/
def signedFields (o : NewOrder) : List (String × String) :=
  Client.given [("clientId", o.clientId.map fun n => toString n.toNat), ("orderType", some o.orderType),
    ("postOnly", o.postOnly.map toString), ("price", o.price), ("quantity", some o.quantity),
    ("side", some o.side), ("symbol", some o.symbol), ("timeInForce", o.timeInForce)]

theorem signs (o : NewOrder) : Signs o.toJson o.signedFields := by
  have named : o.toJson = present (["symbol", "side", "orderType", "quantity", "price", "timeInForce",
      "postOnly", "clientId"].map fun name => (name, o.valueOf name)) := rfl
  have same : ["symbol", "side", "orderType", "quantity", "price", "timeInForce", "postOnly",
      "clientId"].Perm ["clientId", "orderType", "postOnly", "price", "quantity", "side", "symbol",
        "timeInForce"] := by
    decide
  have ascending : ["clientId", "orderType", "postOnly", "price", "quantity", "side", "symbol",
      "timeInForce"].Pairwise fun a b => a < b := by
    decide
  refine ⟨?_, Client.given_ascending ascending⟩
  rw [named, bodyParams_present same ascending fun _ _ => valueOf_isScalar]
  simp only [signedFields, List.map_cons, List.map_nil, valueOf, bind_string, bind_bool, bind_uint32,
    Option.bind_some, signedText?]

end NewOrder

namespace CancelOrder

def valueOf (o : CancelOrder) : String → Option Json
  | "symbol" => some (.string o.symbol)
  | "orderId" => o.orderId.map .string
  | "clientId" => o.clientId.map .uint32
  | _ => none

theorem valueOf_isScalar {o : CancelOrder} {name : String} {v : Json}
    (given : o.valueOf name = some v) : IsScalar v := by
  unfold valueOf at given
  split at given
  · exact Option.some.inj given ▸ isScalar_string o.symbol
  · obtain ⟨text, -, rfl⟩ := Option.map_eq_some_iff.mp given
    exact isScalar_string text
  · obtain ⟨n, -, rfl⟩ := Option.map_eq_some_iff.mp given
    exact isScalar_uint32 n
  · cases given

def signedFields (o : CancelOrder) : List (String × String) :=
  Client.given [("clientId", o.clientId.map fun n => toString n.toNat), ("orderId", o.orderId),
    ("symbol", some o.symbol)]

theorem signs (o : CancelOrder) : Signs o.toJson o.signedFields := by
  have named : o.toJson = present (["symbol", "orderId", "clientId"].map fun name =>
      (name, o.valueOf name)) := rfl
  have same : ["symbol", "orderId", "clientId"].Perm ["clientId", "orderId", "symbol"] := by decide
  have ascending : ["clientId", "orderId", "symbol"].Pairwise fun a b => a < b := by decide
  refine ⟨?_, Client.given_ascending ascending⟩
  rw [named, bodyParams_present same ascending fun _ _ => valueOf_isScalar]
  simp only [signedFields, List.map_cons, List.map_nil, valueOf, bind_string, bind_uint32,
    Option.bind_some, signedText?]

end CancelOrder

end Wire

/-! ### Orders -/

namespace OrderRequest

variable {order : OrderRequest} {clientId : UInt32}

/-- The fields that the order has, in ascending order of their names. -/
def signedFields (order : OrderRequest) (clientId : UInt32) : List (String × String) :=
  Client.given [("clientId", some (toString clientId.toNat)),
    ("orderType", some (if order.orderType = .market then "Market" else "Limit")),
    ("postOnly", if order.orderType = .limitMaker then some "true" else none),
    ("price", if order.orderType = .market then none else order.price.map Decimal.toText),
    ("quantity", some order.amount.toText), ("side", some order.side.wireName),
    ("symbol", some (TradingPair.symbolOf order.tradingPair)),
    ("timeInForce", order.timeInForce.map TimeInForce.name)]

/-- Market orders are the only ones that do without a price. -/
def LacksPrice (order : OrderRequest) : Prop := order.orderType ≠ .market ∧ order.price = none

theorem sentPrice_of_lacksPrice (lacks : order.LacksPrice) :
    order.sentPrice = .error (.invalidParameters (.noPrice order.clientOrderId)) := by
  obtain ⟨limit, absent⟩ := lacks
  unfold sentPrice
  rw [absent]
  cases type : order.orderType with
  | market => exact (limit type).elim
  | limit => rfl
  | limitMaker => rfl

theorem sentPrice_of_not_lacksPrice (has : ¬ order.LacksPrice) :
    order.sentPrice = .ok (if order.orderType = .market then none else order.price.map Decimal.toText) := by
  unfold sentPrice
  cases type : order.orderType with
  | market => rfl
  | _ =>
    cases given : order.price with
    | some price => rfl
    | none => exact (has ⟨by simp [type], given⟩).elim

theorem ofRequest_of_lacksPrice (lacks : order.LacksPrice) (clientId : UInt32) :
    Wire.NewOrder.ofRequest order clientId =
      .error (.invalidParameters (.noPrice order.clientOrderId)) := by
  rw [Wire.NewOrder.ofRequest, sentPrice_of_lacksPrice lacks]
  rfl

theorem ofRequest_signedFields {body : Wire.NewOrder}
    (made : Wire.NewOrder.ofRequest order clientId = .ok body) :
    body.signedFields = order.signedFields clientId := by
  by_cases lacks : order.LacksPrice
  · rw [ofRequest_of_lacksPrice lacks] at made
    cases made
  · rw [Wire.NewOrder.ofRequest, sentPrice_of_not_lacksPrice lacks] at made
    obtain rfl := Except.ok.inj made
    rw [Wire.NewOrder.signedFields, signedFields]
    cases order.orderType <;> rfl

/-- No decimal of the order is a zero with a sign. -/
structure HasPlainZeros (order : OrderRequest) : Prop where
  amount : order.amount.HasPlainZero
  price : ∀ price, order.price = some price → price.HasPlainZero

/-- The fields of the order are signed as they are, and its amounts can be read from them. -/
structure IsSigned (order : OrderRequest) (clientId : UInt32) : Prop where
  body : ∀ body, Wire.NewOrder.ofRequest order clientId = .ok body →
    Signing.Signs body.toJson (order.signedFields clientId)
  amount : ∃ text, ("quantity", text) ∈ order.signedFields clientId ∧
    Decimal.ofText text = .ok order.amount
  price : ∀ price, order.orderType ≠ .market → order.price = some price →
    ∃ text, ("price", text) ∈ order.signedFields clientId ∧ Decimal.ofText text = .ok price

/-- The order is refused exactly if it lacks its price, and then nothing is sent, whatever the outside. -/
structure IsRefusedForPrice (order : OrderRequest) (clientId : UInt32) : Prop where
  refused : (∃ e, Wire.NewOrder.ofRequest order clientId = .error e) ↔ order.LacksPrice
  unsent : order.LacksPrice → ∀ (g : Gateway) (o : Call.Outside) (r : Call.Record),
    ((g.placeOrder order).run.run o r).1 =
        .error (.error (.invalidParameters (.noPrice order.clientOrderId))) ∧
      ((g.placeOrder order).run.run o r).2.requests = r.requests

theorem isSigned (plain : order.HasPlainZeros) (clientId : UInt32) : order.IsSigned clientId := by
  refine ⟨fun body made => ?_, ⟨order.amount.toText, ?_, Decimal.ofText_toText plain.amount⟩,
    fun price limit given => ⟨price.toText, ?_, Decimal.ofText_toText (plain.price price given)⟩⟩
  · rw [← ofRequest_signedFields made]
    exact body.signs
  · exact List.mem_filterMap.mpr ⟨("quantity", some order.amount.toText), by simp, rfl⟩
  · exact List.mem_filterMap.mpr ⟨("price", some price.toText), by simp [limit, given], rfl⟩

theorem placeOrder_sends (lacks : order.LacksPrice) (g : Gateway) :
    (g.placeOrder order).run.Sends (fun _ => True) (fun _ => False) fun result =>
      result = .error (.error (.invalidParameters (.noPrice order.clientOrderId))) := by
  unfold Gateway.placeOrder
  simp only [ofRequest_of_lacksPrice lacks]
  cases ClientId.ofOrderId? order.clientOrderId with
  | some n =>
    intro t _
    rfl
  | none =>
    intro t _ n
    rfl

theorem isRefusedForPrice (order : OrderRequest) (clientId : UInt32) :
    order.IsRefusedForPrice clientId := by
  refine ⟨⟨?_, fun lacks => ⟨_, ofRequest_of_lacksPrice lacks clientId⟩⟩, fun lacks g o r => ?_⟩
  · rintro ⟨e, refused⟩
    by_contra has
    rw [Wire.NewOrder.ofRequest, sentPrice_of_not_lacksPrice has] at refused
    cases refused
  · have sends := placeOrder_sends lacks g
    obtain ⟨sent, requests, none⟩ := sends.run o r fun _ => trivial
    obtain rfl := List.eq_nil_iff_forall_not_mem.mpr none
    exact ⟨sends.result o r fun _ => trivial, by rw [requests, List.append_nil]⟩

end OrderRequest

/-- What is signed of an order, or of a request to cancel one, is read back from the bytes that are sent:
the fields that are there, each once, under its name and as it is, whatever characters it has. -/
theorem signed_fields_are_the_order (order : OrderRequest) (clientId : UInt32) (cancel : Wire.CancelOrder)
    (plain : order.HasPlainZeros) :
    order.IsSigned clientId ∧ order.IsRefusedForPrice clientId ∧
      Signing.Signs cancel.toJson cancel.signedFields :=
  ⟨order.isSigned plain clientId, order.isRefusedForPrice clientId, cancel.signs⟩

namespace Unusual

/-- A pair with a quotation mark, a backslash, control characters and letters of several bytes. -/
def order : OrderRequest where
  clientOrderId := "BPX-7"
  tradingPair := "\"\\-\x01\n\u0416"
  side := .sell
  orderType := .limitMaker
  amount := ⟨⟨1500, 3, by decide, by decide⟩, false⟩
  price := some ⟨⟨0, 2, by decide, by decide⟩, false⟩
  timeInForce := none

def cancel : Wire.CancelOrder := ⟨"\t\u20AC", some "\"id\"", none⟩

theorem plain : order.HasPlainZeros where
  amount := nofun
  price _ given := Option.some.inj given ▸ nofun

end Unusual

theorem signed_fields_are_the_order_unusual :
    Unusual.order.HasPlainZeros ∧ Unusual.order.IsSigned 7 ∧ Unusual.order.IsRefusedForPrice 7 ∧
      Signing.Signs Unusual.cancel.toJson Unusual.cancel.signedFields :=
  ⟨Unusual.plain, signed_fields_are_the_order Unusual.order 7 Unusual.cancel Unusual.plain⟩

example : Unusual.order.signedFields 7 = [("clientId", "7"), ("orderType", "Limit"), ("postOnly", "true"),
    ("price", "0.00"), ("quantity", "1.500"), ("side", "Ask"), ("symbol", "\"\\_\x01\n\u0416")] := by
  decide +kernel

end MarketGateway
