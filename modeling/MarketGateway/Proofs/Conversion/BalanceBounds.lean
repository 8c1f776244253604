import MarketGateway.Proofs.Conversion.BalanceTable
import MarketGateway.Proofs.Decimal.Order

/-!
# Bounds of balances

From amounts that are not negative, merging makes balances of which no more is available than there is in
total, also where a total had to be rounded. Main statement: `balances_stay_sane`.
-/

namespace MarketGateway

open Conversion

namespace Wire

/-- No amount of the spot balance is negative. -/
structure CapitalEntry.IsNonnegative (entry : CapitalEntry) : Prop where
  available : ∀ d, Decimal.ofText (Text.trim entry.available) = .ok d → 0 ≤ d.toRat
  locked : ∀ d, Decimal.ofText (Text.trim entry.locked) = .ok d → 0 ≤ d.toRat
  staked : ∀ d, ReadsOr Decimal.zero entry.staked d → 0 ≤ d.toRat

/-- The total is not negative, and what is given as available lies between nothing and all of it. -/
def CollateralEntry.IsSound (item : CollateralEntry) : Prop :=
  ∀ total given, item.Reads total given →
    0 ≤ total.toRat ∧ ∀ free, given = some free → 0 ≤ free.toRat ∧ free.toRat ≤ total.toRat

end Wire

namespace Balance

variable {entry : String × Wire.CapitalEntry} {item : Wire.CollateralEntry} {b : Balance}
  {found : Option Balance} {balances : List Balance}

structure IsSane (b : Balance) : Prop where
  available : 0 ≤ b.available.toRat
  within : b.available.toRat ≤ b.total.toRat
  locked : 0 ≤ b.locked.toRat

/-- The total of a spot balance is a rounded sum, but never less than what is available of it. -/
theorem OfSpot.isSane (spot : OfSpot entry b) (nonnegative : entry.2.IsNonnegative) : b.IsSane := by
  obtain ⟨-, readAvailable, readLocked, staked, unstaked, readStaked, first, second⟩ := spot
  have available := nonnegative.available _ readAvailable
  have locked := nonnegative.locked _ readLocked
  obtain ⟨below, -⟩ := Decimal.toRat_le_of_add available locked first
  obtain ⟨further, -⟩ :=
    Decimal.toRat_le_of_add (available.trans below) (nonnegative.staked _ readStaked) second
  exact ⟨available, below.trans further, locked⟩

theorem OfCollateral.isSane (ofCollateral : OfCollateral item found b) (sound : item.IsSound)
    (held : ∀ spot, found = some spot → spot.IsSane) : b.IsSane := by
  cases ofCollateral with
  | @both spot total given reads =>
    obtain ⟨available, within, locked⟩ := held spot rfl
    obtain ⟨nonneg, bounds⟩ := sound total given reads
    have larger := Decimal.larger_toRat spot.total total
    cases given with
    | none => exact ⟨available, by simp [larger, within], locked⟩
    | some free =>
      obtain ⟨low, high⟩ := bounds free rfl
      exact ⟨low, by simp [larger, high], locked⟩
  | @alone total rest given reads left =>
    obtain ⟨nonneg, bounds⟩ := sound total given reads
    have locked : 0 ≤ (Decimal.larger rest Decimal.zero).toRat := by
      simp [Decimal.larger_toRat, Decimal.zero_toRat]
    cases given with
    | none => exact ⟨nonneg, le_refl _, locked⟩
    | some free =>
      obtain ⟨low, high⟩ := bounds free rfl
      exact ⟨low, high, locked⟩

theorem put_isSane (sane : ∀ b ∈ balances, b.IsSane) (new : b.IsSane) :
    ∀ other ∈ put b balances, other.IsSane := by
  intro other member
  rcases mem_put member with rfl | old
  · exact new
  · exact sane other old

theorem addCapital_isSane {next : List Balance} (sane : ∀ b ∈ balances, b.IsSane)
    (nonnegative : entry.2.IsNonnegative) (added : addCapital balances entry = .ok next) :
    ∀ b ∈ next, b.IsSane := by
  have calm : ¬ Overflows (addCapital balances entry) := added ▸ not_overflows_ok next
  have fits : ¬ entry.2.Overflows := mt overflows_addCapital.mpr calm
  obtain ⟨b, ofSpot, rfl⟩ := (addCapital_converts fits).of_ok added
  exact put_isSane sane (ofSpot.isSane nonnegative)

theorem addCollateral_isSane {next : List Balance} (sane : ∀ b ∈ balances, b.IsSane)
    (sound : item.IsSound) (added : addCollateral balances item = .ok next) : ∀ b ∈ next, b.IsSane := by
  have calm : ¬ Overflows (addCollateral balances item) := added ▸ not_overflows_ok next
  have fits : find? item.symbol balances = none → ¬ item.Overflows := fun absent exceeds =>
    calm (overflows_addCollateral.mpr ⟨absent, exceeds⟩)
  obtain ⟨b, ofCollateral, rfl⟩ := (addCollateral_converts fits).of_ok added
  refine put_isSane sane (ofCollateral.isSane sound fun spot held => ?_)
  exact sane spot (List.mem_of_find?_eq_some held)

/-- From amounts that are not negative, and collateral of which no more is available than there is, come
balances with nothing negative and no more available than the total, where it can be merged at all.
The collateral may name an asset several times. -/
theorem balances_stay_sane (capital : Wire.Capital) (collateral : Wire.Collateral)
    (nonnegative : ∀ entry ∈ capital, entry.2.IsNonnegative)
    (sound : ∀ item ∈ collateral.collateral, item.IsSound) (balances : List Balance)
    (merged : merge capital collateral = .ok balances) : ∀ b ∈ balances, b.IsSane := by
  obtain ⟨spot, taken, added⟩ := merge_eq_ok.mp merged
  have sane : ∀ b ∈ spot, b.IsSane :=
    foldlM_invariant (fun l => ∀ b ∈ l, b.IsSane) taken nofun
      fun entry member reached next sane => addCapital_isSane sane (nonnegative entry member)
  exact foldlM_invariant (fun l => ∀ b ∈ l, b.IsSane) added sane
    fun item member reached next sane => addCollateral_isSane sane (sound item member)

namespace Rounded

/-- Of the second asset, the largest coefficient with all its digits but one behind the point is
available, and one unit of the last place is locked. -/
def held : Wire.Capital :=
  [("SOL", ⟨"1.5", "0.5", some ""⟩),
    ("XRP", ⟨"7.9228162514264337593543950335", "0.0000000000000000000000000001", none⟩)]

def margin : Wire.Collateral := ⟨[⟨"SOL", "8", some "7.5", none⟩, ⟨"SOL", "9", none, none⟩]⟩

theorem reads_nonneg {text : String} {m : Magnitude}
    (reads : Decimal.ofText (Text.trim text) = .ok ⟨m, false⟩) (d : Decimal)
    (also : Decimal.ofText (Text.trim text) = .ok d) : 0 ≤ d.toRat := by
  obtain rfl := Except.ok.inj (reads.symm.trans also)
  exact Decimal.toRat_nonneg m

theorem held_nonnegative : ∀ entry ∈ held, entry.2.IsNonnegative := by
  have nothing : 0 ≤ Decimal.zero.toRat := Decimal.zero_toRat.ge
  refine List.forall_mem_cons.mpr ⟨?_, List.forall_mem_singleton.mpr ?_⟩
  · exact ⟨reads_nonneg rfl, reads_nonneg rfl, fun d same => (same : d = Decimal.zero) ▸ nothing⟩
  · exact ⟨reads_nonneg rfl, reads_nonneg rfl, fun d same => (same : d = Decimal.zero) ▸ nothing⟩

theorem margin_sound : ∀ item ∈ margin.collateral, item.IsSound := by
  refine List.forall_mem_cons.mpr ⟨?_, List.forall_mem_singleton.mpr ?_⟩
  · intro total given reads
    have again : (Wire.CollateralEntry.mk "SOL" "8" (some "7.5") none).Reads
        ⟨⟨8, 0, by decide, by decide⟩, false⟩ (some ⟨⟨75, 1, by decide, by decide⟩, false⟩) :=
      ⟨rfl, .some rfl⟩
    obtain ⟨rfl, rfl⟩ := reads.unique again
    refine ⟨Decimal.toRat_nonneg _, fun free same => ?_⟩
    obtain rfl := Option.some.inj same
    exact ⟨Decimal.toRat_nonneg _, (Decimal.atMost_iff _ _).mp (by decide)⟩
  · intro total given reads
    have again : (Wire.CollateralEntry.mk "SOL" "9" none none).Reads
        ⟨⟨9, 0, by decide, by decide⟩, false⟩ none := ⟨rfl, .none⟩
    obtain ⟨rfl, rfl⟩ := reads.unique again
    exact ⟨Decimal.toRat_nonneg _, nofun⟩

end Rounded

open Rounded in
/-- The total of the second asset has a place less than what is available of it. -/
theorem balances_stay_sane_rounded :
    ∃ balances, merge held margin = .ok balances ∧ (∀ b ∈ balances, b.IsSane) ∧
      balances.map (fun b => [b.available.toText, b.total.toText]) = [["7.5", "9"],
        ["7.9228162514264337593543950335", "7.922816251426433759354395034"]] := by
  have shown : (merge held margin).toOption.map
      (·.map fun b => [b.available.toText, b.total.toText]) = some [["7.5", "9"],
        ["7.9228162514264337593543950335", "7.922816251426433759354395034"]] := by
    decide +kernel
  obtain ⟨balances, made, amounts⟩ := Option.map_eq_some_iff.mp shown
  have merged : merge held margin = .ok balances := toOption_eq_some.mp made
  exact ⟨balances, merged,
    balances_stay_sane held margin held_nonnegative margin_sound balances merged, amounts⟩

end Balance

end MarketGateway
