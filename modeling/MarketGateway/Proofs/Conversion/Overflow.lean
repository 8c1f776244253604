import MarketGateway.Conversion.Balance
import MarketGateway.Json.Parser
import MarketGateway.Proofs.Conversion.Fills

/-!
# Payloads that overflow

Which order events, fills and balances come to a number that is no decimal, and what becomes of all
others: `overflow_exactly`.
-/

namespace MarketGateway

open Conversion
open Decimal (IsTooLarge)

/-- The three parts of the balance can be read, and one of the sums of them is no decimal. -/
def Wire.CapitalEntry.Overflows (entry : Wire.CapitalEntry) : Prop :=
  ∃ available locked staked, Decimal.ofText (Text.trim entry.available) = .ok available ∧
    Decimal.ofText (Text.trim entry.locked) = .ok locked ∧
    ReadsOr Decimal.zero entry.staked staked ∧
    (IsTooLarge (available.toRat + locked.toRat) ∨
      ∃ unstaked, available.add locked = some unstaked ∧ IsTooLarge (unstaked.toRat + staked.toRat))

/-- What is not available of the total is no decimal. -/
def Wire.CollateralEntry.Overflows (entry : Wire.CollateralEntry) : Prop :=
  ∃ text total available, entry.availableQuantity = some text ∧
    Decimal.ofText (Text.trim entry.totalQuantity) = .ok total ∧
    Decimal.ofText (Text.trim text) = .ok available ∧ IsTooLarge (total.toRat - available.toRat)

namespace Balance

variable {asset : String} {entry : Wire.CapitalEntry} {item : Wire.CollateralEntry}
  {balances : List Balance} {capital : Wire.Capital} {collateral : Wire.Collateral}

/-! ### Entries -/

theorem overflows_ofCapital : Overflows (ofCapital asset entry) ↔ entry.Overflows := by
  simp only [ofCapital, amountOrZero_eq, overflows_bind, amount_not_overflows, amountOr_not_overflows,
    overflows_sum, not_overflows_pure, amount_eq_ok, amountOr_eq_ok, sum_eq_ok, false_or, or_false,
    and_false, exists_false]
  constructor
  · rintro ⟨available, readAvailable, locked, readLocked, staked, readStaked, large⟩
    exact ⟨available, locked, staked, readAvailable, readLocked, readStaked, large⟩
  · rintro ⟨available, locked, staked, readAvailable, readLocked, readStaked, large⟩
    exact ⟨available, readAvailable, locked, readLocked, staked, readStaked, large⟩

theorem overflows_addCapital : Overflows (addCapital balances (asset, entry)) ↔ entry.Overflows := by
  simp only [addCapital, overflows_bind, overflows_ofCapital, not_overflows_pure, and_false, exists_false,
    or_false]

theorem overflows_withCollateral {total : Decimal} {available : Option Decimal} {found : Option Balance} :
    Overflows (withCollateral item total available found) ↔
      found = none ∧ ∃ free, available = some free ∧ IsTooLarge (total.toRat - free.toRat) := by
  cases found with
  | some b => simp [withCollateral]
  | none =>
    simp only [withCollateral, overflows_bind, overflows_difference, not_overflows_pure, and_false,
      exists_false, or_false, true_and]
    cases available with
    | none => simp [Decimal.not_isTooLarge_zero]
    | some free => simp

def availableOf : Option String → Except Fault (Option Decimal)
  | some text => (amount "availableQuantity" text).map some
  | none => .ok none

theorem availableOf_not_overflows (given : Option String) : ¬ Overflows (availableOf given) := by
  cases given with
  | none => exact not_overflows_ok none
  | some text => exact mt overflows_map.mp (amount_not_overflows "availableQuantity" text)

theorem availableOf_eq_ok {given : Option String} {free : Decimal} :
    availableOf given = .ok (some free) ↔
      ∃ text, given = some text ∧ Decimal.ofText (Text.trim text) = .ok free := by
  cases given with
  | none => simp [availableOf]
  | some text =>
    have read : availableOf (some text) = .ok (some free) ↔
        amount "availableQuantity" text = .ok free := by
      change (amount "availableQuantity" text).map some = _ ↔ _
      generalize amount "availableQuantity" text = result
      cases result <;> simp [Except.map]
    rw [read, amount_eq_ok]
    simp

theorem addCollateral_eq :
    addCollateral balances item = do
      let total ← amount "totalQuantity" item.totalQuantity
      let available ← availableOf item.availableQuantity
      return put (← withCollateral item total available (find? item.symbol balances)) balances := by
  unfold addCollateral
  cases item.availableQuantity <;> rfl

/-- Collateral overflows only where there is no balance of its asset yet. -/
theorem overflows_addCollateral :
    Overflows (addCollateral balances item) ↔ find? item.symbol balances = none ∧ item.Overflows := by
  simp only [addCollateral_eq, overflows_bind, amount_not_overflows, availableOf_not_overflows,
    overflows_withCollateral, not_overflows_pure, amount_eq_ok, and_false, exists_false, or_false,
    false_or]
  constructor
  · rintro ⟨total, readTotal, available, given, absent, free, rfl, large⟩
    obtain ⟨text, written, readFree⟩ := availableOf_eq_ok.mp given
    exact ⟨absent, text, total, free, written, readTotal, readFree, large⟩
  · rintro ⟨absent, text, total, free, written, readTotal, readFree, large⟩
    have given := availableOf_eq_ok.mpr ⟨text, written, readFree⟩
    exact ⟨total, readTotal, some free, given, absent, free, rfl, large⟩

/-! ### Merging -/

/-- A merge has got so far that one of its entries overflows: one of the spot balances, or, when these
have been taken, one of the collateral. -/
inductive Reaches (capital : Wire.Capital) (collateral : Wire.Collateral) : Prop where
  | spot {before after : Wire.Capital} {asset : String} {entry : Wire.CapitalEntry}
      {balances : List Balance} (split : capital = before ++ (asset, entry) :: after)
      (merged : merge before ⟨[]⟩ = .ok balances) (exceeds : entry.Overflows)
  | collateral {before after : List Wire.CollateralEntry} {item : Wire.CollateralEntry}
      {balances : List Balance} (split : collateral.collateral = before ++ item :: after)
      (merged : merge capital ⟨before⟩ = .ok balances) (absent : find? item.symbol balances = none)
      (exceeds : item.Overflows)

theorem merge_eq_ok {balances : List Balance} :
    merge capital collateral = .ok balances ↔ ∃ spot, capital.foldlM addCapital [] = .ok spot ∧
      collateral.collateral.foldlM addCollateral spot = .ok balances :=
  bind_eq_ok

theorem merge_spot {balances : List Balance} :
    merge capital ⟨[]⟩ = .ok balances ↔ capital.foldlM addCapital [] = .ok balances := by
  simp [merge_eq_ok, pure, Except.pure]

theorem overflows_merge : Overflows (merge capital collateral) ↔ Reaches capital collateral := by
  have split : Overflows (merge capital collateral) ↔ Overflows (capital.foldlM addCapital []) ∨
      ∃ spot, capital.foldlM addCapital [] = .ok spot ∧
        Overflows (collateral.collateral.foldlM addCollateral spot) := overflows_bind
  rw [split, overflows_foldlM]
  constructor
  · rintro (⟨before, ⟨asset, entry⟩, after, balances, rfl, merged, exceeds⟩ | ⟨spot, merged, exceeds⟩)
    · exact .spot rfl (merge_spot.mpr merged) (overflows_addCapital.mp exceeds)
    · obtain ⟨before, item, after, balances, parts, added, exceeds⟩ := overflows_foldlM.mp exceeds
      obtain ⟨absent, exceeds⟩ := overflows_addCollateral.mp exceeds
      exact .collateral parts (merge_eq_ok.mpr ⟨spot, merged, added⟩) absent exceeds
  · rintro (⟨parts, merged, exceeds⟩ | ⟨parts, merged, absent, exceeds⟩)
    · exact .inl ⟨_, _, _, _, parts, merge_spot.mp merged, overflows_addCapital.mpr exceeds⟩
    · obtain ⟨spot, taken, added⟩ := merge_eq_ok.mp merged
      exact .inr ⟨spot, taken, overflows_foldlM.mpr ⟨_, _, _, _, parts, added,
        overflows_addCollateral.mpr ⟨absent, exceeds⟩⟩⟩

end Balance

/-! ### All payloads -/

/-- An order event gives the update of its order, and its trade if there is one, unless what it filled is
worth more than a decimal holds: then it gives nothing. Fills and balances overflow only where the worth
of the fill, a total or what is not available is too large as well. -/
theorem overflow_exactly (event : Wire.OrderEvent) (fill : Wire.Fill) (clientOrderId : Option String)
    (capital : Wire.Capital) (collateral : Wire.Collateral) :
    ((event.Overflows ∧ ∃ overflow, UserEvent.ofEvent event = .error overflow) ∨
      (¬ event.Overflows ∧ UserEvent.ofEvent event = .ok (UserEvent.allOf event))) ∧
    (Overflows (TradeUpdate.ofFill fill clientOrderId) ↔ fill.Overflows) ∧
    (Overflows (Balance.merge capital collateral) ↔ Balance.Reaches capital collateral) := by
  refine ⟨?_, TradeUpdate.overflows_ofFill, Balance.overflows_merge⟩
  by_cases exceeds : event.Overflows
  · exact .inl ⟨exceeds, UserEvent.ofEvent_of_overflows exceeds⟩
  · exact .inr ⟨exceeds, UserEvent.ofEvent_eq exceeds⟩

/-- A fill of the largest quantity at a price of 10. -/
def largestFill : String :=
  "\x7b\"e\":\"orderFill\",\"E\":1700000000500000,\"s\":\"SOL_USDC\",\"X\":\"Filled\",\"x\":\"Fill\"," ++
    "\"i\":\"987\",\"l\":\"79228162514264337593543950335\",\"L\":\"10\",\"T\":1700000000400000\x7d"

theorem largestFill_overflows : ¬ ∀ (text : String) (value : Json) (event : Wire.OrderEvent),
    Json.parse? text = some value → Wire.OrderEvent.read value = .ok event →
      ∃ events, UserEvent.ofEvent event = .ok events := by
  intro always
  have lost : ((Json.parse? largestFill).bind fun value =>
      (Wire.OrderEvent.read value).toOption.map fun event =>
        (UserEvent.ofEvent event).toOption.isSome) = some false := by
    decide +kernel
  obtain ⟨value, parsed, lost⟩ := Option.bind_eq_some_iff.mp lost
  obtain ⟨event, decoded, lost⟩ := Option.map_eq_some_iff.mp lost
  have read : Wire.OrderEvent.read value = .ok event := by
    cases result : Wire.OrderEvent.read value with
    | error e => rw [result] at decoded; cases decoded
    | ok other => rw [result] at decoded; cases decoded; rfl
  obtain ⟨events, made⟩ := always largestFill value event parsed read
  rw [made] at lost
  cases lost

end MarketGateway
