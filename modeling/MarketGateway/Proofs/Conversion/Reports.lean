import MarketGateway.Proofs.Conversion.Fills
import MarketGateway.Proofs.Text.Integer

/-!
# Reports of one fill

A fill is heard of in an order event and can be looked up. Both reports become the same update, except
that a fill without an id is given another one by each: `reports_agree`.
-/

namespace MarketGateway

open Conversion

/-- The event and the fill report the same: the event with its time in microseconds and without what
the fill is worth, the fill with that time as a text. -/
structure SameFill (event : Wire.OrderEvent) (fill : Wire.Fill) (time : Int64) : Prop where
  isFill : event.IsFill
  noQuote : event.lastQuoteQuantity = none
  symbol : event.symbol = fill.symbol
  orderId : event.orderId = fill.orderId
  clientId : event.clientId = fill.clientId
  tradeId : event.tradeId = fill.tradeId
  feeSymbol : event.feeSymbol = some fill.feeSymbol
  price : event.lastFilledPrice = some fill.price
  quantity : event.lastFilledQuantity = some fill.quantity
  fee : event.fee = some fill.fee
  visible : ∀ text ∈ [fill.price, fill.quantity, fill.fee], Text.allBlank text = false
  transactionTime : event.transactionTime = some time
  timestamp : fill.timestamp = toString time.toInt
  micros : microsThreshold < time

/-- Both conversions fail in the same way, or both have an update and these are related. -/
inductive Alike (R : TradeUpdate → TradeUpdate → Prop) :
    Except Fault (Option TradeUpdate) → Except Fault TradeUpdate → Prop where
  | ok {heard found : TradeUpdate} (related : R heard found) : Alike R (.ok (some heard)) (.ok found)
  | unreadable (e other : ExchangeError) : Alike R (.error (.error e)) (.error (.error other))
  | overflow (overflow : Overflow) : Alike R (.error (.overflow overflow)) (.error (.overflow overflow))

namespace Conversion

theorem amountOr_of_visible {text : String} {default : Decimal} (visible : Text.allBlank text = false)
    (field : String) : amountOr default field (some text) = amount field text :=
  if_neg (by simp [visible])

theorem toEpochMs_of_micros {time : Int64} (micros : microsThreshold < time) :
    toEpochMs time = microsToMs time := if_pos micros

theorem microsToMs_ne {time : Int64} (micros : microsThreshold < time) : microsToMs time ≠ time := by
  intro same
  have divided := toInt_microsToMs time
  have large : (100000000000000 : Int) < time.toInt := Int64.lt_iff_toInt_lt.mp micros
  rw [same, Int.tdiv_eq_ediv_of_nonneg (by omega)] at divided
  omega

end Conversion

namespace Alike

variable {R : TradeUpdate → TradeUpdate → Prop}

/-- Both conversions read the same text, each under a field of its own. -/
theorem amount {text field other : String} {first : Decimal → Except Fault (Option TradeUpdate)}
    {second : Decimal → Except Fault TradeUpdate} (each : ∀ d, Alike R (first d) (second d)) :
    Alike R (amount field text >>= first) (amount other text >>= second) := by
  unfold Conversion.amount
  cases Decimal.ofText (Text.trim text) with
  | ok d => exact each d
  | error e => exact .unreadable _ _

/-- It does not matter which of two texts is read first. -/
theorem amounts {text text' field field' other other' : String}
    {first : Decimal → Decimal → Except Fault (Option TradeUpdate)}
    {second : Decimal → Decimal → Except Fault TradeUpdate}
    (each : ∀ d d', Alike R (first d d') (second d d')) :
    Alike R
      (do
        let d ← Conversion.amount field text
        let d' ← Conversion.amount field' text'
        first d d')
      (do
        let d' ← Conversion.amount other' text'
        let d ← Conversion.amount other text
        second d d') := by
  unfold Conversion.amount
  cases Decimal.ofText (Text.trim text) with
  | ok d =>
    cases Decimal.ofText (Text.trim text') with
    | ok d' => exact each d d'
    | error e => exact .unreadable _ _
  | error e =>
    cases Decimal.ofText (Text.trim text') with
    | ok d' => exact .unreadable _ _
    | error e' => exact .unreadable _ _

theorem product {a b : Decimal} {first : Decimal → Except Fault (Option TradeUpdate)}
    {second : Decimal → Except Fault TradeUpdate} (each : ∀ d, Alike R (first d) (second d)) :
    Alike R (product a b >>= first) (product a b >>= second) := by
  unfold Conversion.product
  cases a.mul b with
  | none => exact .overflow .product
  | some d => exact each d

end Alike

theorem fallbackTradeId_ne {orderId : String} {time other : Int64} (different : time ≠ other) :
    fallbackTradeId orderId time ≠ fallbackTradeId orderId other := by
  intro same
  have texts : toString time.toInt = toString other.toInt := by
    have chars := congrArg String.toList same
    simp only [fallbackTradeId, String.toList_append, List.append_assoc, List.append_cancel_left_eq] at chars
    exact String.toList_inj.mp chars
  have read := (Text.readInt64_toString time).symm.trans (texts ▸ Text.readInt64_toString other)
  exact different (Except.ok.inj read)

namespace SameFill

open TradeUpdate (ofEvent ofFill ofAmounts ofLookup)

variable {event : Wire.OrderEvent} {fill : Wire.Fill} {time : Int64}

theorem fillTimeMs_eq (same : SameFill event fill time) :
    fillTimeMs fill.timestamp = .ok (microsToMs time) := by
  rw [fillTimeMs, same.timestamp, Text.readInt64_toString]
  exact congrArg Except.ok (toEpochMs_of_micros same.micros)

theorem fillTime_eq (same : SameFill event fill time) : TradeUpdate.fillTime event = time := by
  rw [TradeUpdate.fillTime, same.transactionTime]
  rfl

/-- The two updates differ at most in the id, which is that of the fill or else made of its order and of
the time as it is told. -/
structure Related (event : Wire.OrderEvent) (time : Int64) (heard found : TradeUpdate) : Prop where
  fields : heard = { found with tradeId := heard.tradeId }
  heardId : heard.tradeId = event.tradeId.getD (fallbackTradeId event.orderId time)
  foundId : found.tradeId = event.tradeId.getD (fallbackTradeId event.orderId (microsToMs time))
  equal_iff : heard = found ↔ event.tradeId ≠ none

theorem related (same : SameFill event fill time) (price quantity quote fee : Decimal) :
    Related event time (ofAmounts event price quantity quote fee)
      (ofLookup fill none (microsToMs time) price quantity quote fee) := by
  have heardId : (ofAmounts event price quantity quote fee).tradeId =
      event.tradeId.getD (fallbackTradeId event.orderId time) := by
    rw [← same.fillTime_eq]
    rfl
  have foundId : (ofLookup fill none (microsToMs time) price quantity quote fee).tradeId =
      event.tradeId.getD (fallbackTradeId event.orderId (microsToMs time)) := by
    rw [same.tradeId, same.orderId]
    rfl
  have fields : ofAmounts event price quantity quote fee =
      { ofLookup fill none (microsToMs time) price quantity quote fee with
        tradeId := (ofAmounts event price quantity quote fee).tradeId } := by
    simp only [ofAmounts, ofLookup, same.fillTime_eq, same.clientId, same.orderId, same.symbol,
      same.feeSymbol, Option.none_or]
  refine ⟨fields, heardId, foundId, ?_⟩
  constructor
  · intro equal absent
    have ids := congrArg TradeUpdate.tradeId equal
    rw [heardId, foundId, absent] at ids
    exact fallbackTradeId_ne (microsToMs_ne same.micros).symm ids
  · intro given
    obtain ⟨id, tradeId⟩ := Option.ne_none_iff_exists'.mp given
    rw [heardId, tradeId, Option.getD_some] at fields
    rw [tradeId, Option.getD_some] at foundId
    exact fields.trans (congrArg (fun id => { ofLookup .. with tradeId := id }) foundId.symm)

theorem ofEvent_eq (same : SameFill event fill time) :
    ofEvent event = do
      let quantity ← amount "l" fill.quantity
      let price ← amount "L" fill.price
      let quote ← product price quantity
      let fee ← amount "n" fill.fee
      return some (ofAmounts event price quantity quote fee) := by
  have seen : ∀ text ∈ [fill.price, fill.quantity, fill.fee], ∀ field,
      amountOr Decimal.zero field (some text) = amount field text :=
    fun text member => amountOr_of_visible (same.visible text member)
  simp only [List.mem_cons, List.not_mem_nil, or_false, forall_eq_or_imp, forall_eq] at seen
  obtain ⟨seenPrice, seenQuantity, seenFee⟩ := seen
  rw [TradeUpdate.ofEvent_eq, same.quantity, seenQuantity]
  cases read : amount "l" fill.quantity with
  | error e => rfl
  | ok quantity =>
    have filled : ReadsOr Decimal.zero event.lastFilledQuantity quantity := by
      rw [same.quantity]
      exact amountOr_eq_ok.mp ((seenQuantity "l").trans read)
    have isFill := (Wire.OrderEvent.isFill_iff filled).mpr same.isFill
    refine (if_pos isFill).trans ?_
    simp only [TradeUpdate.ofFilled, TradeUpdate.quoteOf, same.price, seenPrice, same.fee, seenFee,
      same.noQuote, bind_assoc, pure_bind]
    rfl

/-- Both reports of a fill fail, or both become updates that agree but for the id of a fill which has
none of its own. -/
theorem reports_agree (same : SameFill event fill time) :
    Alike (Related event time) (ofEvent event) (ofFill fill none) := by
  rw [same.ofEvent_eq, TradeUpdate.ofFill_eq, same.fillTimeMs_eq]
  refine .amounts fun quantity price => ?_
  refine .product fun quote => ?_
  refine .amount fun fee => ?_
  exact .ok (same.related price quantity quote fee)

/-! ### A fill without an id -/

namespace Unnumbered

def orderEvent : Wire.OrderEvent where
  eventType := "orderFill"
  eventTime := 1700000000500000
  symbol := "SOL_USDC"
  clientId := some 12345
  side := none
  orderType := none
  timeInForce := none
  quantity := none
  price := none
  stopPrice := none
  executionType := some "Fill"
  orderStatus := "PartiallyFilled"
  orderId := "987"
  lastFilledQuantity := some "0.4"
  cumulativeFilledQuantity := none
  lastFilledPrice := some "100.5"
  fee := some "0.02"
  feeSymbol := some "USDC"
  transactionTime := some 1700000000400000
  tradeId := none
  origin := none
  cumulativeQuoteQuantity := none
  lastQuoteQuantity := none
  quoteQuantity := none

def lookedUp : Wire.Fill where
  tradeId := none
  orderId := "987"
  clientId := some 12345
  symbol := "SOL_USDC"
  side := "Bid"
  price := "100.5"
  quantity := "0.4"
  fee := "0.02"
  feeSymbol := "USDC"
  timestamp := "1700000000400000"

theorem same : SameFill orderEvent lookedUp 1700000000400000 where
  isFill := .inl rfl
  noQuote := rfl
  symbol := rfl
  orderId := rfl
  clientId := rfl
  tradeId := rfl
  feeSymbol := rfl
  price := rfl
  quantity := rfl
  fee := rfl
  visible := by decide
  transactionTime := rfl
  timestamp := by decide +kernel
  micros := by decide

end Unnumbered

theorem reports_agree_unnumbered :
    SameFill Unnumbered.orderEvent Unnumbered.lookedUp 1700000000400000 ∧
      Alike (Related Unnumbered.orderEvent 1700000000400000) (ofEvent Unnumbered.orderEvent)
        (ofFill Unnumbered.lookedUp none) :=
  ⟨Unnumbered.same, reports_agree Unnumbered.same⟩

/-- One report names the fill by microseconds, the other one by milliseconds. -/
theorem reports_differ : ¬ ∀ event fill time, SameFill event fill time →
    Alike (fun heard found => heard = found) (ofEvent event) (ofFill fill none) := by
  intro agree
  have alike := agree Unnumbered.orderEvent Unnumbered.lookedUp 1700000000400000 Unnumbered.same
  have heard : (ofEvent Unnumbered.orderEvent).toOption.join.map (·.tradeId) =
      some "987-1700000000400000" := by
    decide +kernel
  have found : (ofFill Unnumbered.lookedUp none).toOption.map (·.tradeId) = some "987-1700000000400" := by
    decide +kernel
  revert alike heard found
  generalize ofEvent Unnumbered.orderEvent = first
  generalize ofFill Unnumbered.lookedUp none = second
  rintro (⟨rfl⟩ | _ | _) heard found
  · have ids := (Option.some.inj heard).symm.trans (Option.some.inj found)
    revert ids
    decide
  · cases heard
  · cases heard

end SameFill

end MarketGateway
