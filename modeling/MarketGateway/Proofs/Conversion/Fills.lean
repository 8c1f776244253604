import MarketGateway.Conversion.Order
import MarketGateway.Proofs.Conversion.Faults

/-!
# Fills

What an order event becomes: `UserEvent.ofEvent_eq`, and `TradeUpdate.ofEvent_converts` for the fill in
it. Fills overflow only in the product of price and quantity.
-/

namespace MarketGateway

open Conversion
open Decimal (IsTooLarge)

/-! ### Events -/

namespace Wire.OrderEvent

variable {event : Wire.OrderEvent} {quantity : Decimal}

/-- The event is a fill by one of its types, or because it filled something. -/
def IsFill (event : Wire.OrderEvent) : Prop :=
  event.executionType = some "Fill" ∨ event.eventType = "orderFill" ∨
    ∃ quantity, ReadsOr Decimal.zero event.lastFilledQuantity quantity ∧ quantity.value ≠ 0

theorem isFill_iff (filled : ReadsOr Decimal.zero event.lastFilledQuantity quantity) :
    event.isFill quantity = true ↔ event.IsFill := by
  have something : quantity.isZero = false ↔
      ∃ other, ReadsOr Decimal.zero event.lastFilledQuantity other ∧ other.value ≠ 0 := by
    rw [← Bool.not_eq_true, Decimal.isZero_iff]
    constructor
    · exact fun nonzero => ⟨quantity, filled, nonzero⟩
    · rintro ⟨other, also, nonzero⟩
      exact filled.unique also ▸ nonzero
  simp only [isFill, IsFill, Bool.or_eq_true, beq_iff_eq, Bool.not_eq_true', something, or_assoc]

/-- All amounts of a fill can be read. -/
structure IsReadable (event : Wire.OrderEvent) : Prop where
  quantity : IsOptionalAmount event.lastFilledQuantity
  price : IsOptionalAmount event.lastFilledPrice
  quote : ∀ text, event.lastQuoteQuantity = some text → IsAmount text
  fee : IsOptionalAmount event.fee

/-- The worth of the fill has to be computed, and is no decimal. -/
structure Overflows (event : Wire.OrderEvent) : Prop where
  isFill : event.IsFill
  noQuote : event.lastQuoteQuantity = none
  tooLarge : ∃ price quantity, ReadsOr Decimal.zero event.lastFilledPrice price ∧
    ReadsOr Decimal.zero event.lastFilledQuantity quantity ∧ IsTooLarge (price.toRat * quantity.toRat)

end Wire.OrderEvent

namespace TradeUpdate

variable {event : Wire.OrderEvent}

/-- The worth of a fill: what is written, or else the product. -/
def quoteOf (price quantity : Decimal) : Option String → Except Fault Decimal
  | some text => amount "Y" text
  | none => product price quantity

def fillTime (event : Wire.OrderEvent) : Int64 := event.transactionTime.getD event.eventTime

def ofAmounts (event : Wire.OrderEvent) (price quantity quote fee : Decimal) : TradeUpdate where
  tradeId := event.tradeId.getD (fallbackTradeId event.orderId (fillTime event))
  clientOrderId := event.clientId.map ClientId.toOrderId
  exchangeOrderId := event.orderId
  tradingPair := TradingPair.ofSymbol event.symbol
  fillTimestampMs := microsToMs (fillTime event)
  fillPrice := price
  fillBaseAmount := quantity
  fillQuoteAmount := quote
  fee := ⟨event.feeSymbol, fee⟩

def ofFilled (event : Wire.OrderEvent) (quantity : Decimal) : Except Fault TradeUpdate := do
  let price ← amountOr Decimal.zero "L" event.lastFilledPrice
  let quote ← quoteOf price quantity event.lastQuoteQuantity
  let fee ← amountOr Decimal.zero "n" event.fee
  return ofAmounts event price quantity quote fee

theorem ofEvent_eq :
    ofEvent event = do
      let quantity ← amountOr Decimal.zero "l" event.lastFilledQuantity
      if event.isFill quantity then return some (← ofFilled event quantity) else return none := by
  unfold ofEvent ofFilled
  simp only [amountOrZero_eq]
  refine bind_congr fun quantity => ?_
  split
  · rw [bind_assoc]
    refine bind_congr fun price => ?_
    cases event.lastQuoteQuantity <;> simp [quoteOf, ofAmounts, fillTime]
  · rfl

/-! ### The worth of a fill -/

def Quotes (price quantity : Decimal) (written : Option String) (quote : Decimal) : Prop :=
  match written with
  | some text => Decimal.ofText (Text.trim text) = .ok quote
  | none => price.mul quantity = some quote

theorem overflows_quoteOf {price quantity : Decimal} {written : Option String} :
    Overflows (quoteOf price quantity written) ↔
      written = none ∧ IsTooLarge (price.toRat * quantity.toRat) := by
  cases written with
  | some text => simp [quoteOf, (amount_converts "Y" text).not_overflows]
  | none => simp [quoteOf, overflows_product]

theorem quoteOf_converts {price quantity : Decimal} {written : Option String}
    (fits : ¬ Overflows (quoteOf price quantity written)) :
    Converts (∀ text, written = some text → IsAmount text) (Quotes price quantity written)
      (quoteOf price quantity written) := by
  cases written with
  | some text => exact (amount_converts "Y" text).of_iff (by simp)
  | none =>
    obtain ⟨quote, computed⟩ := exists_of_not_overflows_elim fits
    rw [quoteOf, product, computed]
    exact .ok (by simp) computed

/-! ### Updates -/

/-- The update has the amounts of the event, under the pair of its symbol. -/
structure OfEvent (event : Wire.OrderEvent) (trade : TradeUpdate) : Prop where
  tradeId : trade.tradeId = event.tradeId.getD (fallbackTradeId event.orderId (fillTime event))
  clientOrderId : trade.clientOrderId = event.clientId.map ClientId.toOrderId
  exchangeOrderId : trade.exchangeOrderId = event.orderId
  tradingPair : trade.tradingPair = TradingPair.ofSymbol event.symbol
  time : trade.fillTimestampMs = microsToMs (fillTime event)
  price : ReadsOr Decimal.zero event.lastFilledPrice trade.fillPrice
  quantity : ReadsOr Decimal.zero event.lastFilledQuantity trade.fillBaseAmount
  quote : Quotes trade.fillPrice trade.fillBaseAmount event.lastQuoteQuantity trade.fillQuoteAmount
  feeAsset : trade.fee.asset = event.feeSymbol
  fee : ReadsOr Decimal.zero event.fee trade.fee.amount

theorem overflows_ofFilled {quantity : Decimal} :
    Overflows (ofFilled event quantity) ↔ event.lastQuoteQuantity = none ∧
      ∃ price, ReadsOr Decimal.zero event.lastFilledPrice price ∧
        IsTooLarge (price.toRat * quantity.toRat) := by
  simp only [ofFilled, overflows_bind, amountOr_not_overflows, overflows_quoteOf, not_overflows_pure,
    amountOr_eq_ok, false_or, or_false, and_false, exists_const]
  constructor
  · rintro ⟨price, read, noQuote, large⟩
    exact ⟨noQuote, price, read, large⟩
  · rintro ⟨noQuote, price, read, large⟩
    exact ⟨price, read, noQuote, large⟩

theorem overflows_ofEvent : Overflows (ofEvent event) ↔ event.Overflows := by
  simp only [ofEvent_eq, overflows_bind, amountOr_not_overflows, amountOr_eq_ok, false_or]
  constructor
  · rintro ⟨quantity, filled, exceeds⟩
    split at exceeds
    · rename_i isFill
      obtain worth | ⟨trade, -, done⟩ := overflows_bind.mp exceeds
      · obtain ⟨noQuote, price, read, large⟩ := overflows_ofFilled.mp worth
        exact ⟨(Wire.OrderEvent.isFill_iff filled).mp isFill, noQuote, price, quantity, read, filled, large⟩
      · cases not_overflows_pure _ done
    · cases not_overflows_pure _ exceeds
  · rintro ⟨isFill, noQuote, price, quantity, read, filled, large⟩
    refine ⟨quantity, filled, ?_⟩
    rw [if_pos ((Wire.OrderEvent.isFill_iff filled).mpr isFill)]
    exact overflows_bind.mpr (.inl (overflows_ofFilled.mpr ⟨noQuote, price, read, large⟩))

theorem ofFilled_converts {quantity : Decimal}
    (filled : ReadsOr Decimal.zero event.lastFilledQuantity quantity)
    (fits : ¬ Overflows (ofFilled event quantity)) :
    Converts (IsOptionalAmount event.lastFilledPrice ∧
        (∀ text, event.lastQuoteQuantity = some text → IsAmount text) ∧ IsOptionalAmount event.fee)
      (OfEvent event) (ofFilled event quantity) := by
  refine (amountOr_converts Decimal.zero "L" event.lastFilledPrice).bind fun price readPrice => ?_
  have worth : ¬ Overflows (quoteOf price quantity event.lastQuoteQuantity) := by
    intro exceeds
    obtain ⟨noQuote, large⟩ := overflows_quoteOf.mp exceeds
    exact fits (overflows_ofFilled.mpr ⟨noQuote, price, readPrice, large⟩)
  refine (quoteOf_converts worth).bind fun quote quotes => ?_
  refine (amountOr_converts Decimal.zero "n" event.fee).map fun fee readFee => ?_
  exact ⟨rfl, rfl, rfl, rfl, rfl, readPrice, filled, quotes, rfl, readFee⟩

/-- A fill has an update, and what is no fill has none. -/
def Reports (event : Wire.OrderEvent) : Option TradeUpdate → Prop
  | some trade => event.IsFill ∧ OfEvent event trade
  | none => ¬ event.IsFill

theorem ofEvent_converts (fits : ¬ event.Overflows) :
    Converts (IsOptionalAmount event.lastFilledQuantity ∧ (event.IsFill →
        IsOptionalAmount event.lastFilledPrice ∧
          (∀ text, event.lastQuoteQuantity = some text → IsAmount text) ∧ IsOptionalAmount event.fee))
      (Reports event) (ofEvent event) := by
  rw [ofEvent_eq]
  refine (amountOr_converts Decimal.zero "l" event.lastFilledQuantity).bind fun quantity filled => ?_
  have isFill := Wire.OrderEvent.isFill_iff filled
  by_cases fill : event.IsFill
  · have worth : ¬ Overflows (ofFilled event quantity) := by
      intro exceeds
      obtain ⟨noQuote, price, readPrice, large⟩ := overflows_ofFilled.mp exceeds
      exact fits ⟨fill, noQuote, price, quantity, readPrice, filled, large⟩
    rw [if_pos (isFill.mpr fill)]
    have reports : ∀ trade, OfEvent event trade → Reports event (some trade) :=
      fun trade ofTrade => ⟨fill, ofTrade⟩
    have made := (ofFilled_converts filled worth).map reports
    exact made.of_iff ⟨fun fine _ => fine, fun fine => fine fill⟩
  · rw [if_neg (mt isFill.mp fill)]
    exact .ok (fun also => (fill also).elim) fill

/-- The trade of an order event, if it is a fill that can be read. -/
def ofEvent? (event : Wire.OrderEvent) : Option TradeUpdate := (ofEvent event).toOption.join

theorem ofEvent?_ofEvent (fits : ¬ event.Overflows) {trade : TradeUpdate}
    (made : ofEvent? event = some trade) : OfEvent event trade := by
  have reports := (ofEvent_converts fits).of_toOption (Option.join_eq_some_iff.mp made)
  exact reports.2

/-- Exactly the fills that can be read become trades. -/
theorem ofEvent?_exists_iff (fits : ¬ event.Overflows) :
    (∃ trade, ofEvent? event = some trade) ↔ event.IsFill ∧ event.IsReadable := by
  have converts := ofEvent_converts fits
  constructor
  · rintro ⟨trade, made⟩
    have made := Option.join_eq_some_iff.mp made
    obtain ⟨isFill, -⟩ := converts.of_toOption made
    obtain ⟨quantity, rest⟩ := converts.toOption_exists_iff.mp ⟨_, made⟩
    obtain ⟨price, quote, fee⟩ := rest isFill
    exact ⟨isFill, quantity, price, quote, fee⟩
  · rintro ⟨isFill, fine⟩
    obtain ⟨made, same⟩ := converts.toOption_exists_iff.mpr
      ⟨fine.quantity, fun _ => ⟨fine.price, fine.quote, fine.fee⟩⟩
    cases made with
    | none => exact (converts.of_toOption same isFill).elim
    | some trade => exact ⟨trade, Option.join_eq_some_iff.mpr same⟩

end TradeUpdate

/-! ### Fills that are looked up -/

theorem fillTimeMs_not_overflows (text : String) : ¬ Overflows (fillTimeMs text) := by
  unfold fillTimeMs
  split
  · exact not_overflows_ok _
  · split
    · exact not_overflows_ok _
    · exact not_overflows_error _

/-- All amounts of a fill can be read, and its time. -/
structure Wire.Fill.IsReadable (fill : Wire.Fill) : Prop where
  price : IsAmount fill.price
  quantity : IsAmount fill.quantity
  time : ∃ timeMs, fillTimeMs fill.timestamp = .ok timeMs
  fee : IsAmount fill.fee

/-- The worth of a fill whose price, quantity and time can be read is no decimal. -/
structure Wire.Fill.Overflows (fill : Wire.Fill) : Prop where
  time : ∃ timeMs, fillTimeMs fill.timestamp = .ok timeMs
  tooLarge : ∃ price quantity, Decimal.ofText (Text.trim fill.price) = .ok price ∧
    Decimal.ofText (Text.trim fill.quantity) = .ok quantity ∧
    IsTooLarge (price.toRat * quantity.toRat)

namespace TradeUpdate

variable {fill : Wire.Fill} {clientOrderId : Option String}

def ofLookup (fill : Wire.Fill) (clientOrderId : Option String) (timeMs : Int64)
    (price quantity quote fee : Decimal) : TradeUpdate where
  tradeId := fill.tradeId.getD (fallbackTradeId fill.orderId timeMs)
  clientOrderId := clientOrderId.or (fill.clientId.map ClientId.toOrderId)
  exchangeOrderId := fill.orderId
  tradingPair := TradingPair.ofSymbol fill.symbol
  fillTimestampMs := timeMs
  fillPrice := price
  fillBaseAmount := quantity
  fillQuoteAmount := quote
  fee := ⟨some fill.feeSymbol, fee⟩

theorem ofFill_eq :
    ofFill fill clientOrderId = do
      let price ← amount "price" fill.price
      let quantity ← amount "quantity" fill.quantity
      let timeMs ← fillTimeMs fill.timestamp
      let quote ← product price quantity
      let fee ← amount "fee" fill.fee
      return ofLookup fill clientOrderId timeMs price quantity quote fee := rfl

/-- A fill that can be read and has a worth becomes a trade. -/
theorem ofFill_exists (clientOrderId : Option String) (fine : fill.IsReadable) (fits : ¬ fill.Overflows) :
    ∃ timeMs price quantity quote fee,
      ofFill fill clientOrderId = .ok (ofLookup fill clientOrderId timeMs price quantity quote fee) := by
  obtain ⟨⟨price, readPrice⟩, ⟨quantity, readQuantity⟩, ⟨timeMs, readTime⟩, ⟨fee, readFee⟩⟩ := fine
  have worth : ¬ IsTooLarge (price.toRat * quantity.toRat) := fun large =>
    fits ⟨⟨timeMs, readTime⟩, price, quantity, readPrice, readQuantity, large⟩
  obtain ⟨quote, computed⟩ := exists_of_not_overflows_elim (mt (overflows_product price quantity).mp worth)
  have made : product price quantity = .ok quote := by
    rw [product, computed]
    rfl
  refine ⟨timeMs, price, quantity, quote, fee, ?_⟩
  simp only [ofFill_eq, bind_eq_ok]
  exact ⟨price, amount_eq_ok.mpr readPrice, quantity, amount_eq_ok.mpr readQuantity, timeMs, readTime, quote, made,
    fee, amount_eq_ok.mpr readFee, rfl⟩

theorem overflows_ofFill : Overflows (ofFill fill clientOrderId) ↔ fill.Overflows := by
  simp only [ofFill_eq, overflows_bind, amount_not_overflows, fillTimeMs_not_overflows,
    overflows_product, not_overflows_pure, amount_eq_ok, false_or, or_false, and_false, exists_const]
  constructor
  · rintro ⟨price, readPrice, quantity, readQuantity, timeMs, readTime, large⟩
    exact ⟨⟨timeMs, readTime⟩, price, quantity, readPrice, readQuantity, large⟩
  · rintro ⟨⟨timeMs, readTime⟩, price, quantity, readPrice, readQuantity, large⟩
    exact ⟨price, readPrice, quantity, readQuantity, timeMs, readTime, large⟩

end TradeUpdate

/-! ### Orders -/

/-- What the statuses of orders mean; an order with another status has failed. -/
def OrderState.statuses : List (String × OrderState) :=
  [("New", .opened), ("PartiallyFilled", .partiallyFilled), ("Filled", .filled), ("Cancelled", .canceled),
    ("Expired", .canceled), ("TriggerPending", .pendingCreate)]

theorem OrderState.ofStatus_eq (status : String) : ofStatus status = (statuses.lookup status).getD .failed := by
  unfold ofStatus
  split
  · rfl
  · rfl
  · rfl
  · rfl
  · rfl
  · rfl
  · rename_i new partially filled cancelled expired pending
    have unknown : statuses.lookup status = none := List.lookup_eq_none_iff.mpr (by
      simpa [statuses] using ⟨new, partially, filled, cancelled, expired, pending⟩)
    rw [unknown]
    rfl

namespace OrderUpdate

/-- The update is of the order of the event: under its id at the exchange, the pair of its symbol and the
order id of its number, with its state and with the time of the event in milliseconds. -/
structure OfEvent (event : Wire.OrderEvent) (update : OrderUpdate) : Prop where
  exchangeOrderId : update.exchangeOrderId = some event.orderId
  tradingPair : update.tradingPair = String.ofList (event.symbol.toList.map fun c => if c = '_' then '-' else c)
  clientOrderId : update.clientOrderId = event.clientId.map fun n => "BPX-" ++ toString n.toNat
  newState : update.newState = (OrderState.statuses.lookup event.orderStatus).getD .failed
  time : update.updateTimestampMs.toInt = event.eventTime.toInt.tdiv 1000

theorem ofEvent_ofEvent (event : Wire.OrderEvent) : OfEvent event (ofEvent event) where
  exchangeOrderId := rfl
  tradingPair := rfl
  clientOrderId := rfl
  newState := OrderState.ofStatus_eq event.orderStatus
  time := toInt_microsToMs event.eventTime

end OrderUpdate

/-- The trade is one of the order that the update is about. -/
structure TradeUpdate.IsOf (trade : TradeUpdate) (update : OrderUpdate) : Prop where
  exchangeOrderId : update.exchangeOrderId = some trade.exchangeOrderId
  tradingPair : update.tradingPair = trade.tradingPair
  clientOrderId : update.clientOrderId = trade.clientOrderId

theorem TradeUpdate.OfEvent.isOf {event : Wire.OrderEvent} {trade : TradeUpdate}
    (ofEvent : TradeUpdate.OfEvent event trade) : trade.IsOf (OrderUpdate.ofEvent event) where
  exchangeOrderId := congrArg some ofEvent.exchangeOrderId.symm
  tradingPair := ofEvent.tradingPair.symm
  clientOrderId := ofEvent.clientOrderId.symm

/-! ### Events of the user feed -/

namespace UserEvent

open TradeUpdate (ofEvent?)

variable {event : Wire.OrderEvent}

/-- The update of the order, and the trade if there is one. -/
def allOf (event : Wire.OrderEvent) : List UserEvent :=
  .order (OrderUpdate.ofEvent event) :: (ofEvent? event).toList.map .trade

theorem ofEvent_eq (fits : ¬ event.Overflows) : ofEvent event = .ok (allOf event) := by
  have whole : ¬ Overflows (TradeUpdate.ofEvent event) := mt TradeUpdate.overflows_ofEvent.mp fits
  unfold ofEvent allOf ofEvent?
  dsimp only
  split
  · rename_i fill made
    rw [made]
    rfl
  · rename_i made
    rw [made]
    rfl
  · rename_i e made
    rw [made]
    rfl
  · rename_i overflow made
    exact (whole ⟨overflow, made⟩).elim

/-- The worth of a fill that is too large takes the update of its order with it. -/
theorem ofEvent_of_overflows (exceeds : event.Overflows) : ∃ overflow, ofEvent event = .error overflow := by
  obtain ⟨overflow, made⟩ := TradeUpdate.overflows_ofEvent.mpr exceeds
  exact ⟨overflow, by rw [ofEvent, made]⟩

end UserEvent

end MarketGateway
