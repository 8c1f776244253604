import MarketGateway.Conversion.Market
import MarketGateway.Proofs.Conversion.Amounts

/-!
# Funding updates

A mark price event becomes a funding update unless one of its amounts cannot be read: `ofEvent_converts`.
The next settlement after the time of an event is never out of range, and it is the first one after that
time: `settlement_falls_back_exactly`.
-/

namespace MarketGateway

namespace Conversion

/-- Milliseconds from microseconds stay far from the bounds of their type. -/
theorem microsToMs_bounds (micros : Int64) :
    -2 ^ 54 ≤ (microsToMs micros).toInt ∧ (microsToMs micros).toInt ≤ 2 ^ 54 := by
  have low := micros.le_toInt
  have high := micros.toInt_lt
  have sign : Int.sign 1000 = 1 := rfl
  rw [toInt_microsToMs, Int.tdiv_eq_ediv, sign]
  constructor <;> split <;> omega

end Conversion

structure Wire.MarkPriceEvent.IsReadable (event : Wire.MarkPriceEvent) : Prop where
  mark : Conversion.IsAmount event.markPrice
  index : Conversion.IsOptionalAmount event.indexPrice
  rate : Conversion.IsOptionalAmount event.fundingRate

theorem Wire.MarkPriceEvent.isReadable_iff {event : Wire.MarkPriceEvent} :
    event.IsReadable ↔ Conversion.IsAmount event.markPrice ∧ Conversion.IsOptionalAmount event.indexPrice ∧
      Conversion.IsOptionalAmount event.fundingRate :=
  ⟨fun ⟨mark, index, rate⟩ => ⟨mark, index, rate⟩, fun ⟨mark, index, rate⟩ => ⟨mark, index, rate⟩⟩

namespace FundingInfo

open Conversion

variable {event : Wire.MarkPriceEvent}

/-! ### Settlement -/

theorem nextBoundaryMs_exists {nowMs : Int64} (low : -2 ^ 54 ≤ nowMs.toInt)
    (high : nowMs.toInt ≤ 2 ^ 54) : ∃ next, nextBoundaryMs nowMs = .ok next := by
  have interval : (intervalMs : Int) = 28800000 := rfl
  unfold nextBoundaryMs
  rw [interval]
  have below := Int.emod_nonneg nowMs.toInt (show (28800000 : Int) ≠ 0 by decide)
  have above := Int.emod_lt_of_pos nowMs.toInt (show (0 : Int) < 28800000 by decide)
  rw [if_neg (by omega), if_neg (by omega)]
  exact ⟨_, rfl⟩

/-- The first settlement after a time: settlements are eight hours apart. -/
structure IsNextSettlement (nowMs next : Int) : Prop where
  settles : 28800000 ∣ next
  after : nowMs < next
  first : ∀ time, 28800000 ∣ time → nowMs < time → next ≤ time

theorem nextBoundaryMs_isNext {nowMs next : Int64} (found : nextBoundaryMs nowMs = .ok next) :
    IsNextSettlement nowMs.toInt next.toInt := by
  have interval : (intervalMs : Int) = 28800000 := rfl
  have low := nowMs.le_toInt
  have below := Int.emod_nonneg nowMs.toInt (show (28800000 : Int) ≠ 0 by decide)
  have above := Int.emod_lt_of_pos nowMs.toInt (show (0 : Int) < 28800000 by decide)
  unfold nextBoundaryMs at found
  rw [interval] at found
  dsimp only at found
  split at found
  · cases found
  · split at found
    · cases found
    · obtain rfl := Except.ok.inj found
      rw [Int64.toInt_ofInt_of_le (by omega) (by omega)]
      exact ⟨by omega, by omega, by omega⟩

/-- When funding is settled next: at the given time, or else at the next boundary. -/
def settlementOf (nowMs : Int64) : Option Int64 → Except Fault Int64
  | some time => .ok (toEpochMs time)
  | none => (nextBoundaryMs nowMs).mapError .overflow

theorem settlementOf_none {nowMs next : Int64} :
    settlementOf nowMs none = .ok next ↔ nextBoundaryMs nowMs = .ok next := by
  rw [settlementOf]
  cases nextBoundaryMs nowMs <;> simp [Except.mapError]

theorem settlementOf_exists (micros : Int64) (given : Option Int64) :
    ∃ next, settlementOf (microsToMs micros) given = .ok next := by
  cases given with
  | some time => exact ⟨_, rfl⟩
  | none =>
    have bounds := microsToMs_bounds micros
    obtain ⟨next, found⟩ := nextBoundaryMs_exists bounds.1 bounds.2
    exact ⟨next, by rw [settlementOf, found]; rfl⟩

/-! ### Events -/

theorem ofEvent_eq :
    ofEvent event = do
      let mark ← amount "markPrice" event.markPrice
      let index ← amountOr mark "indexPrice" event.indexPrice
      let next ← settlementOf (microsToMs event.eventTime) event.nextFundingTime
      let rate ← amountOr Decimal.zero "fundingRate" event.fundingRate
      return ⟨TradingPair.ofSymbol event.symbol, index, mark, next, rate⟩ := by
  unfold ofEvent make
  rw [amountOrZero_eq]
  cases amount "markPrice" event.markPrice with
  | error fault => rfl
  | ok mark =>
    cases event.indexPrice with
    | none => cases event.nextFundingTime <;> rfl
    | some text =>
      cases blank : Text.allBlank text <;> cases event.nextFundingTime <;>
        simp [amountOr, settlementOf, blank, bind, Except.bind, pure, Except.pure]

/-- The update has the decimals of the event, under the pair of its symbol. -/
structure OfEvent (event : Wire.MarkPriceEvent) (info : FundingInfo) : Prop where
  pair : info.tradingPair = TradingPair.ofSymbol event.symbol
  mark : Decimal.ofText (Text.trim event.markPrice) = .ok info.markPrice
  index : ReadsOr info.markPrice event.indexPrice info.indexPrice
  rate : ReadsOr Decimal.zero event.fundingRate info.rate
  settlement : settlementOf (microsToMs event.eventTime) event.nextFundingTime =
    .ok info.nextFundingTimestampMs

theorem ofEvent_converts (event : Wire.MarkPriceEvent) :
    Converts event.IsReadable (OfEvent event) (ofEvent event) := by
  obtain ⟨next, settlement⟩ := settlementOf_exists event.eventTime event.nextFundingTime
  have all : Converts (IsAmount event.markPrice ∧ IsOptionalAmount event.indexPrice ∧
      IsOptionalAmount event.fundingRate) (OfEvent event) (ofEvent event) := by
    rw [ofEvent_eq, settlement]
    refine (amount_converts "markPrice" event.markPrice).bind fun mark readMark => ?_
    refine (amountOr_converts mark "indexPrice" event.indexPrice).bind fun index readIndex => ?_
    refine (amountOr_converts Decimal.zero "fundingRate" event.fundingRate).map fun rate readRate => ?_
    exact ⟨rfl, readMark, readIndex, readRate, settlement⟩
  exact all.of_iff Wire.MarkPriceEvent.isReadable_iff.symm

/-! ### Events without a settlement time -/

/-- The conversion fails for unreadable amounts alone, whatever the time of the event, and else gives the first
settlement after that time, cut off to milliseconds. -/
theorem settlement_falls_back_exactly (event : Wire.MarkPriceEvent) (absent : event.nextFundingTime = none) :
    ((∃ fault, ofEvent event = .error fault) ↔
      ¬ IsAmount event.markPrice ∨ IsUnreadable event.indexPrice ∨ IsUnreadable event.fundingRate) ∧
    (∀ overflow, ofEvent event ≠ .error (.overflow overflow)) ∧
    ∀ info, ofEvent event = .ok info →
      IsNextSettlement (event.eventTime.toInt.tdiv 1000) info.nextFundingTimestampMs.toInt ∧
      info.tradingPair = TradingPair.ofSymbol event.symbol ∧
      Decimal.ofText (Text.trim event.markPrice) = .ok info.markPrice ∧
      ReadsOr info.markPrice event.indexPrice info.indexPrice ∧
      (IsMissing event.indexPrice → info.indexPrice = info.markPrice) ∧
      ReadsOr Decimal.zero event.fundingRate info.rate ∧
      (IsMissing event.fundingRate → info.rate = Decimal.zero) := by
  have converts := ofEvent_converts event
  refine ⟨?_, ?_, fun info made => ?_⟩
  · have unreadable : ¬ event.IsReadable ↔
        ¬ IsAmount event.markPrice ∨ IsUnreadable event.indexPrice ∨ IsUnreadable event.fundingRate := by
      rw [Wire.MarkPriceEvent.isReadable_iff, Classical.not_and_iff_not_or_not, Classical.not_and_iff_not_or_not,
        not_isOptionalAmount_iff, not_isOptionalAmount_iff]
    rw [← unreadable, ← converts.error_exists_iff]
    constructor
    · rintro ⟨fault, failed⟩
      obtain ⟨e, rfl⟩ := (failed ▸ converts).of_error
      exact ⟨e, failed⟩
    · rintro ⟨e, failed⟩
      exact ⟨_, failed⟩
  · intro overflow failed
    obtain ⟨e, same⟩ := (failed ▸ converts).of_error
    cases same
  · have right := converts.of_ok made
    have settlement := right.settlement
    rw [absent, settlementOf_none] at settlement
    have next := nextBoundaryMs_isNext settlement
    rw [toInt_microsToMs] at next
    exact ⟨next, right.pair, right.mark, right.index, right.index.of_missing, right.rate, right.rate.of_missing⟩

/-- A time before 1970 is cut off to a settlement, and the next one is the start of that year. -/
theorem settlement_falls_back_exactly_before_epoch :
    ∃ info, ofEvent ⟨"markPrice", -28800000999, "SOL_USDC_PERP", " 150.25 ", none, some " ", none⟩ = .ok info ∧
      IsNextSettlement (-28800000) info.nextFundingTimestampMs.toInt ∧ info.nextFundingTimestampMs = 0 ∧
      info.indexPrice = info.markPrice ∧ info.rate = Decimal.zero := by
  have made : ofEvent ⟨"markPrice", -28800000999, "SOL_USDC_PERP", " 150.25 ", none, some " ", none⟩ =
      .ok ⟨"SOL-USDC-PERP", ⟨⟨15025, 2, by decide, by decide⟩, false⟩, ⟨⟨15025, 2, by decide, by decide⟩, false⟩, 0,
        Decimal.zero⟩ := rfl
  obtain ⟨-, -, right⟩ := settlement_falls_back_exactly
    ⟨"markPrice", -28800000999, "SOL_USDC_PERP", " 150.25 ", none, some " ", none⟩ rfl
  obtain ⟨next, -, -, -, index, -, rate⟩ := right _ made
  exact ⟨_, made, next, rfl, rfl, rfl⟩

end FundingInfo

end MarketGateway
