import MarketGateway.Conversion.Amount
import MarketGateway.Trading.Account
import MarketGateway.Wire.Account

/-!
# Balances

Spot balances and margin collateral merged into one balance per asset, in ascending order of the
assets.
-/

namespace MarketGateway.Balance

open Conversion

def find? (asset : String) (balances : List Balance) : Option Balance :=
  balances.find? fun b => b.asset == asset

/-- Puts a balance into its place, or in place of the balance of the same asset. -/
def put (balance : Balance) : List Balance → List Balance
  | [] => [balance]
  | b :: rest =>
    if balance.asset = b.asset then balance :: rest
    else if balance.asset < b.asset then balance :: b :: rest
    else b :: put balance rest

def ofCapital (asset : String) (entry : Wire.CapitalEntry) : Except Fault Balance := do
  let available ← amount "available" entry.available
  let locked ← amount "locked" entry.locked
  let staked ← amountOrZero "staked" entry.staked
  let total ← sum (← sum available locked) staked
  return ⟨asset, available, locked, total⟩

/-- The balance of an asset that is collateral, given the balance so far. Collateral decides what is
available where it says so, and the larger total counts. -/
def withCollateral (entry : Wire.CollateralEntry) (total : Decimal) (available : Option Decimal) :
    Option Balance → Except Fault Balance
  | some b => .ok { b with
      total := Decimal.larger b.total total
      available := available.getD b.available }
  | none => do
    let free := available.getD total
    let rest ← difference total free
    return ⟨entry.symbol, free, Decimal.larger rest Decimal.zero, total⟩

def addCapital (balances : List Balance) (entry : String × Wire.CapitalEntry) :
    Except Fault (List Balance) := do
  return put (← ofCapital entry.1 entry.2) balances

def addCollateral (balances : List Balance) (entry : Wire.CollateralEntry) :
    Except Fault (List Balance) := do
  let total ← amount "totalQuantity" entry.totalQuantity
  let available ← match entry.availableQuantity with
    | some text => (amount "availableQuantity" text).map some
    | none => pure none
  return put (← withCollateral entry total available (find? entry.symbol balances)) balances

def merge (capital : Wire.Capital) (collateral : Wire.Collateral) :
    Except Fault (List Balance) := do
  collateral.collateral.foldlM addCollateral (← capital.foldlM addCapital [])

end MarketGateway.Balance
