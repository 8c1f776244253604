import MarketGateway.Text.Ascii

/-!
# Instructions

Every signature is for an instruction, which follows from the method and the path of a request. The
table `endings` gives it by the end of the path; paths with no end of the table query the account.
-/

namespace MarketGateway

inductive Instruction where
  | accountQuery
  | balanceQuery
  | collateralQuery
  | orderQuery
  | orderQueryAll
  | orderExecute
  | orderCancel
  | orderCancelAll
  | fillHistoryQueryAll
  | depositQueryAll
  | withdrawalQueryAll
  | positionQuery
  | fundingHistoryQueryAll
  | pnlHistoryQueryAll
  | subscribe
deriving DecidableEq

namespace Instruction

def name : Instruction → String
  | .accountQuery => "accountQuery"
  | .balanceQuery => "balanceQuery"
  | .collateralQuery => "collateralQuery"
  | .orderQuery => "orderQuery"
  | .orderQueryAll => "orderQueryAll"
  | .orderExecute => "orderExecute"
  | .orderCancel => "orderCancel"
  | .orderCancelAll => "orderCancelAll"
  | .fillHistoryQueryAll => "fillHistoryQueryAll"
  | .depositQueryAll => "depositQueryAll"
  | .withdrawalQueryAll => "withdrawalQueryAll"
  | .positionQuery => "positionQuery"
  | .fundingHistoryQueryAll => "fundingHistoryQueryAll"
  | .pnlHistoryQueryAll => "pnlHistoryQueryAll"
  | .subscribe => "subscribe"

/-- What is done with orders, by method. -/
def ofMethod (post delete other : Instruction) (method : String) : Instruction :=
  if Text.eqIgnoreCase method "POST" then post
  else if Text.eqIgnoreCase method "DELETE" then delete
  else other

/-- The ends of paths, and the instruction that each has with a method. -/
def endings : List (String × (String → Instruction)) := [
  ("/capital/collateral", fun _ => .collateralQuery),
  ("/capital", fun _ => .balanceQuery),
  ("/orders", ofMethod .orderQueryAll .orderCancelAll .orderQueryAll),
  ("/order", ofMethod .orderExecute .orderCancel .orderQuery),
  ("/fills", fun _ => .fillHistoryQueryAll),
  ("/deposits", fun _ => .depositQueryAll),
  ("/withdrawals", fun _ => .withdrawalQueryAll),
  ("/positions", fun _ => .positionQuery),
  ("/position", fun _ => .positionQuery),
  ("/history/funding", fun _ => .fundingHistoryQueryAll),
  ("/history/pnl", fun _ => .pnlHistoryQueryAll),
  ("/account", fun _ => .accountQuery)]

/-- A path without its query and without slashes at its end. -/
def barePath (path : String) : String :=
  let cs := path.toList.takeWhile (· ≠ '?')
  String.ofList (cs.reverse.dropWhile (· = '/')).reverse

def ofRequest (method path : String) : Instruction :=
  match endings.find? fun e => Text.endsWith (barePath path) e.1 with
  | some e => e.2 method
  | none => .accountQuery

end Instruction

end MarketGateway
