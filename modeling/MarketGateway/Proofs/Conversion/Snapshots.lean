import MarketGateway.Proofs.Conversion.Rows
import MarketGateway.Proofs.Decimal.Order
import MarketGateway.Proofs.Sorting

/-!
# Snapshots of the order book

A snapshot has the rows of all its levels, the bids from the highest price down and the asks from the
lowest price up; rows of equal price stay as they came, however their prices are written. Main
statement: `snapshots_are_sorted`.
-/

namespace MarketGateway

/-! ### Rows in the order of their prices -/

namespace BookRow

variable {before : ℚ → ℚ → Prop} {le : BookRow → BookRow → Bool}

/-- The given rows in the order of their prices, those of equal price as they were given. -/
structure Arranged (before : ℚ → ℚ → Prop) (given rows : List BookRow) : Prop where
  ordered : rows.Pairwise fun a b => before a.price.toRat b.price.toRat
  perm : rows.Perm given
  stable : ∀ price : ℚ, rows.filter (fun r => r.price.toRat = price) =
    given.filter fun r => r.price.toRat = price

theorem mergeSort_arranged [Std.Total before] [IsTrans ℚ before]
    (compares : ∀ a b, le a b = true ↔ before a.price.toRat b.price.toRat) (given : List BookRow) :
    Arranged before given (given.mergeSort le) := by
  have trans : ∀ a b c, le a b = true → le b c = true → le a c = true := by
    intro a b c ab bc
    rw [compares] at ab bc ⊢
    exact trans_of before ab bc
  have total : ∀ a b, (le a b || le b a) = true := by
    intro a b
    rw [Bool.or_eq_true, compares, compares]
    exact total_of before _ _
  refine ⟨?_, List.mergeSort_perm _ _, fun price => ?_⟩
  · exact (List.pairwise_mergeSort trans total given).imp fun {a b} => (compares a b).mp
  · refine Sorting.filter_mergeSort trans total (fun a b atA atB => ?_) given
    rw [compares, of_decide_eq_true atA, of_decide_eq_true atB]
    exact (total_of before price price).elim id id

theorem ascending_arranged (rows : List BookRow) : Arranged (· ≤ ·) rows (ascending rows) :=
  mergeSort_arranged (fun a b => Decimal.atMost_iff a.price b.price) rows

theorem descending_arranged (rows : List BookRow) : Arranged (· ≥ ·) rows (descending rows) :=
  mergeSort_arranged (fun a b => Decimal.atMost_iff b.price a.price) rows

end BookRow

/-! ### Snapshots -/

def Wire.Depth.IsReadable (depth : Wire.Depth) : Prop :=
  ∀ level ∈ depth.bids ++ depth.asks, level.IsReadable

namespace BookSnapshot

/-- One side of a snapshot: the rows of its levels, one for each, arranged by price. -/
def SideOf (before : ℚ → ℚ → Prop) (updateId : Int64) (levels : List Wire.Level)
    (rows : List BookRow) : Prop :=
  ∃ given, List.Forall₂ (BookRow.OfLevel updateId) levels given ∧ BookRow.Arranged before given rows

structure OfDepth (depth : Wire.Depth) (pair : String) (nowMs : Int64) (snapshot : BookSnapshot) :
    Prop where
  pair : snapshot.tradingPair = pair
  bids : SideOf (· ≥ ·) depth.lastUpdateId depth.bids snapshot.bids
  asks : SideOf (· ≤ ·) depth.lastUpdateId depth.asks snapshot.asks
  lastUpdate : snapshot.updateId = depth.lastUpdateId
  rowUpdates : ∀ row ∈ snapshot.bids ++ snapshot.asks, row.updateId = depth.lastUpdateId
  time : snapshot.timestampMs = (depth.timestamp.map Conversion.toEpochMs).getD nowMs

theorem SideOf.updateId {before : ℚ → ℚ → Prop} {updateId : Int64} {levels : List Wire.Level}
    {rows : List BookRow} (side : SideOf before updateId levels rows) :
    ∀ row ∈ rows, row.updateId = updateId := by
  intro row member
  obtain ⟨given, made, arranged⟩ := side
  have numbered : ∀ row ∈ given, row.updateId = updateId := by
    clear arranged
    induction made with
    | nil => exact nofun
    | cons ofLevel _ ih => exact List.forall_mem_cons.mpr ⟨ofLevel.sequence, ih⟩
  exact numbered row (arranged.perm.mem_iff.mp member)

theorem ofDepth_converts (depth : Wire.Depth) (pair : String) (nowMs : Int64) :
    Converts depth.IsReadable (OfDepth depth pair nowMs) (ofDepth depth pair nowMs) := by
  have bids := BookRow.ofLevels_converts depth.lastUpdateId depth.bids
  have asks := BookRow.ofLevels_converts depth.lastUpdateId depth.asks
  have both : Converts ((∀ level ∈ depth.bids, level.IsReadable) ∧ ∀ level ∈ depth.asks, level.IsReadable)
      (OfDepth depth pair nowMs) (ofDepth depth pair nowMs) := by
    refine bids.bind fun bidRows ofBids => asks.map fun askRows ofAsks => ?_
    have bidSide : SideOf (· ≥ ·) depth.lastUpdateId depth.bids (BookRow.descending bidRows) :=
      ⟨bidRows, ofBids, BookRow.descending_arranged bidRows⟩
    have askSide : SideOf (· ≤ ·) depth.lastUpdateId depth.asks (BookRow.ascending askRows) :=
      ⟨askRows, ofAsks, BookRow.ascending_arranged askRows⟩
    refine ⟨rfl, bidSide, askSide, rfl, fun row member => ?_, rfl⟩
    rcases List.mem_append.mp member with bid | ask
    · exact bidSide.updateId row bid
    · exact askSide.updateId row ask
  exact both.of_iff List.forall_mem_append.symm

/-- A depth becomes a snapshot exactly if all its prices and quantities are decimals. No level is lost or
doubled then, and every row has the decimals of its level, with their scales. -/
theorem snapshots_are_sorted (depth : Wire.Depth) (pair : String) (nowMs : Int64) :
    ((∃ snapshot, ofDepth depth pair nowMs = .ok snapshot) ↔ depth.IsReadable) ∧
      ∀ snapshot, ofDepth depth pair nowMs = .ok snapshot → OfDepth depth pair nowMs snapshot := by
  have converts := ofDepth_converts depth pair nowMs
  exact ⟨converts.ok_exists_iff, fun snapshot made => converts.of_ok made⟩

end BookSnapshot

end MarketGateway
