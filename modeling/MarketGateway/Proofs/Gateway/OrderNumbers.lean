import MarketGateway.Proofs.Conversion.Fills
import MarketGateway.Proofs.Conversion.OrderIds
import MarketGateway.Proofs.Gateway.Requests

/-!
# Order ids name one order

The number of an order id is the one under which the exchange is asked about the order, and what it reports
under that number is reported under the order id. Main statement: `order_ids_link_orders`.
-/

namespace MarketGateway

/-- The order id under which something is reported, if any. -/
def UserEvent.clientOrderId : UserEvent → Option String
  | .order update => update.clientOrderId
  | .trade update => update.clientOrderId

/-! ### Reports -/

section Reports

variable {event : Wire.OrderEvent} {fill : Wire.Fill} {n : UInt32}

theorem TradeUpdate.clientOrderId_ofEvent {trade : TradeUpdate}
    (made : TradeUpdate.ofEvent event = .ok (some trade)) :
    trade.clientOrderId = event.clientId.map ClientId.toOrderId := by
  have fits : ¬ event.Overflows := by
    rw [← TradeUpdate.overflows_ofEvent, made]
    exact not_overflows_ok _
  have reports := (TradeUpdate.ofEvent_converts fits).of_ok made
  exact reports.2.clientOrderId

theorem UserEvent.clientOrderId_ofEvent {events : List UserEvent} (numbered : event.clientId = some n)
    (made : UserEvent.ofEvent event = .ok events) :
    ∀ e ∈ events, e.clientOrderId = some (ClientId.toOrderId n) := by
  have update : (OrderUpdate.ofEvent event).clientOrderId = some (ClientId.toOrderId n) := by
    rw [OrderUpdate.ofEvent, numbered]
    rfl
  unfold UserEvent.ofEvent at made
  dsimp only at made
  split at made
  · rename_i trade converted
    have filled : trade.clientOrderId = some (ClientId.toOrderId n) := by
      rw [TradeUpdate.clientOrderId_ofEvent converted, numbered]
      rfl
    obtain rfl := Except.ok.inj made
    exact List.forall_mem_cons.mpr ⟨update, List.forall_mem_singleton.mpr filled⟩
  · obtain rfl := Except.ok.inj made
    exact List.forall_mem_singleton.mpr update
  · obtain rfl := Except.ok.inj made
    exact List.forall_mem_singleton.mpr update
  · cases made

theorem UserEvent.order_mem_ofEvent {events : List UserEvent} (made : UserEvent.ofEvent event = .ok events) :
    .order (OrderUpdate.ofEvent event) ∈ events := by
  have fits : ¬ event.Overflows := by
    intro exceeds
    obtain ⟨overflow, lost⟩ := UserEvent.ofEvent_of_overflows exceeds
    cases lost.symm.trans made
  obtain rfl := Except.ok.inj ((UserEvent.ofEvent_eq fits).symm.trans made)
  exact List.mem_cons_self

theorem UserEvent.trade_mem_ofEvent {trade : TradeUpdate}
    (made : TradeUpdate.ofEvent? event = some trade) : .trade trade ∈ UserEvent.allOf event := by
  rw [UserEvent.allOf, made]
  exact List.mem_cons_of_mem _ List.mem_cons_self

theorem TradeUpdate.clientOrderId_ofFill {trade : TradeUpdate} (numbered : fill.clientId = some n)
    (made : TradeUpdate.ofFill fill none = .ok trade) :
    trade.clientOrderId = some (ClientId.toOrderId n) := by
  simp only [TradeUpdate.ofFill_eq, bind_eq_ok] at made
  obtain ⟨price, -, quantity, -, timeMs, -, quote, -, fee, -, made⟩ := made
  obtain rfl := Except.ok.inj made
  rw [TradeUpdate.ofLookup, numbered]
  rfl

end Reports

/-! ### Orders under a number -/

namespace ClientId

open Gateway (IsPlacingOf IsCancelOf IsLookupOf)

variable {orderId : String} {n : UInt32}

/-- Everything that is asked under the order id is asked about the order with the number, and everything
that is reported about that order is reported under the order id. -/
structure Links (orderId : String) (n : UInt32) : Prop where
  placed : ∀ (g : Gateway) (order : OrderRequest), order.clientOrderId = orderId → ¬ order.LacksPrice →
    g.Makes (IsPlacingOf ⟨TradingPair.symbolOf order.tradingPair, none, some n⟩) (g.placeOrder order).run
  refused : ∀ (g : Gateway) (order : OrderRequest), order.clientOrderId = orderId → order.LacksPrice →
    ∀ o r, ((g.placeOrder order).run.run o r).2.requests = r.requests
  canceled : ∀ (g : Gateway) (pair : String),
    g.Makes (IsCancelOf ⟨TradingPair.symbolOf pair, none, some n⟩) (g.cancelOrder pair orderId none).run
  lookedUp : ∀ (g : Gateway) (pair : String),
    g.Makes (IsLookupOf ⟨TradingPair.symbolOf pair, none, some n⟩) (g.orderStatus pair orderId none).run
  reported : ∀ (event : Wire.OrderEvent) (events : List UserEvent), event.clientId = some n →
    UserEvent.ofEvent event = .ok events → ∀ e ∈ events, e.clientOrderId = some orderId
  /-- What is reported of an event is the update of its order, with the trade behind it where there is one. -/
  heard : ∀ event : Wire.OrderEvent, event.clientId = some n → ¬ event.Overflows →
    ∃ events, UserEvent.ofEvent event = .ok events ∧ .order (OrderUpdate.ofEvent event) ∈ events ∧
      OrderUpdate.OfEvent event (OrderUpdate.ofEvent event) ∧
      (OrderUpdate.ofEvent event).clientOrderId = some orderId
  /-- A fill that can be read is reported as a trade of the order. -/
  traded : ∀ event : Wire.OrderEvent, event.clientId = some n → event.IsFill → event.IsReadable →
    ¬ event.Overflows → ∃ events trade, UserEvent.ofEvent event = .ok events ∧ .trade trade ∈ events ∧
      TradeUpdate.OfEvent event trade ∧ trade.clientOrderId = some orderId
  filled : ∀ (fill : Wire.Fill) (trade : TradeUpdate), fill.clientId = some n →
    TradeUpdate.ofFill fill none = .ok trade → trade.clientOrderId = some orderId
  /-- A fill that is looked up is one too, whether the order id is given with it or not. -/
  found : ∀ (fill : Wire.Fill) (asked : Option String), fill.clientId = some n → (∀ id ∈ asked, id = orderId) →
    fill.IsReadable → ¬ fill.Overflows → ∃ trade, TradeUpdate.ofFill fill asked = .ok trade ∧
      trade.exchangeOrderId = fill.orderId ∧ trade.clientOrderId = some orderId

theorem lookUp_of_numbered (numbered : ofOrderId? orderId = some n) (pair : String) :
    Gateway.lookUp pair orderId none = .ok ⟨TradingPair.symbolOf pair, none, some n⟩ := by
  unfold Gateway.lookUp
  rw [numbered]

theorem links_toOrderId (n : UInt32) : Links (toOrderId n) n := by
  have numbered := ofOrderId?_toOrderId n
  constructor
  · intro g order same priced
    exact (g.placeOrder_asks_numbered priced (same ▸ numbered)).makes
  · intro g order _ lacks o r
    exact ((order.isRefusedForPrice n).unsent lacks g o r).2
  · intro g pair
    exact (g.cancelOrder_asks (lookUp_of_numbered numbered pair)).makes
  · intro g pair
    exact (g.orderStatus_asks (lookUp_of_numbered numbered pair)).makes
  · intro event events numbered made
    exact UserEvent.clientOrderId_ofEvent numbered made
  · intro event numbered fits
    have made := UserEvent.ofEvent_eq fits
    have update := UserEvent.order_mem_ofEvent made
    exact ⟨_, made, update, OrderUpdate.ofEvent_ofEvent event,
      UserEvent.clientOrderId_ofEvent numbered made _ update⟩
  · intro event numbered isFill fine fits
    obtain ⟨trade, made⟩ := (TradeUpdate.ofEvent?_exists_iff fits).mpr ⟨isFill, fine⟩
    have events := UserEvent.ofEvent_eq fits
    have member := UserEvent.trade_mem_ofEvent made
    exact ⟨_, trade, events, member, TradeUpdate.ofEvent?_ofEvent fits made,
      UserEvent.clientOrderId_ofEvent numbered events _ member⟩
  · intro fill trade numbered made
    exact TradeUpdate.clientOrderId_ofFill numbered made
  · intro fill asked numbered same fine fits
    obtain ⟨timeMs, price, quantity, quote, fee, made⟩ := TradeUpdate.ofFill_exists asked fine fits
    refine ⟨_, made, rfl, ?_⟩
    cases asked with
    | none => exact congrArg (Option.map toOrderId) numbered
    | some id => exact congrArg some (same id rfl)

/-- Numbers and their order ids can be told from each other, a new order id is the whole order id of its
number and is that of one order wherever it is used, and the order ids with a number are the mark followed
by a number of 32 bits. -/
theorem order_ids_link_orders :
    (∀ n, ofOrderId? (toOrderId n) = some n) ∧ Function.Injective toOrderId ∧
      (∀ last timestampMs, ∃ n, newOrderId last timestampMs = (toOrderId n, n) ∧
        Links (newOrderId last timestampMs).1 n) ∧
      ∀ orderId n, ofOrderId? orderId = some n ↔ IsNumbered orderId n := by
  refine ⟨ofOrderId?_toOrderId, toOrderId_injective, fun last timestampMs => ?_, ?_⟩
  · refine ⟨next last timestampMs, newOrderId_eq last timestampMs, ?_⟩
    rw [newOrderId_eq]
    exact links_toOrderId (next last timestampMs)
  · intro orderId n
    exact ofOrderId?_eq_some_iff

/-- A plus sign and zeros may stand in front of the digits; a number past 32 bits is none. -/
example : ofOrderId? "BPX-+007" = some 7 ∧ ofOrderId? "BPX-4294967296" = none ∧ ofOrderId? "bpx-7" = none := by
  decide +kernel

end ClientId

end MarketGateway
