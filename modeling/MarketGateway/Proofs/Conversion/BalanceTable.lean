import MarketGateway.Proofs.Conversion.Overflow
import MarketGateway.Proofs.Keys

/-!
# Balances by asset

Merging spot balances and collateral gives one balance for each asset of either, and what the two say of
an asset decides its balance alone. Main statement: `merge_is_table`.
-/

namespace MarketGateway

open Conversion

namespace Wire

structure CapitalEntry.IsReadable (entry : CapitalEntry) : Prop where
  available : IsAmount entry.available
  locked : IsAmount entry.locked
  staked : IsOptionalAmount entry.staked

structure CollateralEntry.IsReadable (item : CollateralEntry) : Prop where
  total : IsAmount item.totalQuantity
  available : ∀ text, item.availableQuantity = some text → IsAmount text

/-- The decimals of collateral: its total and, if that is given, what is available of it. -/
structure CollateralEntry.Reads (item : CollateralEntry) (total : Decimal) (given : Option Decimal) :
    Prop where
  total : Decimal.ofText (Text.trim item.totalQuantity) = .ok total
  given : Option.Rel (fun text d => Decimal.ofText (Text.trim text) = .ok d) item.availableQuantity given

theorem CollateralEntry.Reads.unique {item : CollateralEntry} {total other : Decimal}
    {given also : Option Decimal} (reads : item.Reads total given) (again : item.Reads other also) :
    total = other ∧ given = also := by
  obtain ⟨readTotal, readGiven⟩ := reads
  obtain ⟨readOther, readAlso⟩ := again
  refine ⟨Except.ok.inj (readTotal.symm.trans readOther), ?_⟩
  generalize item.availableQuantity = written at readGiven readAlso
  cases readGiven with
  | none =>
    cases readAlso
    rfl
  | some first =>
    cases readAlso with
    | some second => exact congrArg some (Except.ok.inj (first.symm.trans second))

end Wire

namespace Balance

variable {entry : String × Wire.CapitalEntry} {item : Wire.CollateralEntry} {b other : Balance}
  {found : Option Balance} {balances : List Balance} {capital : Wire.Capital}
  {collateral : List Wire.CollateralEntry} {asset : String} {total : Decimal} {given : Option Decimal}

/-! ### The balance of one asset -/

/-- A spot balance; its total is the sum of what is available, locked and staked. -/
structure OfSpot (entry : String × Wire.CapitalEntry) (b : Balance) : Prop where
  asset : b.asset = entry.1
  available : Decimal.ofText (Text.trim entry.2.available) = .ok b.available
  locked : Decimal.ofText (Text.trim entry.2.locked) = .ok b.locked
  total : ∃ staked unstaked, ReadsOr Decimal.zero entry.2.staked staked ∧
    b.available.add b.locked = some unstaked ∧ unstaked.add staked = some b.total

/-- The balance of collateral, by the spot balance of its asset. -/
inductive OfCollateral (item : Wire.CollateralEntry) : Option Balance → Balance → Prop where
  /-- Collateral decides what is available where it says so, and the larger total counts. -/
  | both {spot : Balance} {total : Decimal} {given : Option Decimal} (reads : item.Reads total given) :
      OfCollateral item (some spot)
        { spot with available := given.getD spot.available, total := Decimal.larger spot.total total }
  /-- What is not available of the total is locked, unless that is negative. -/
  | alone {total rest : Decimal} {given : Option Decimal} (reads : item.Reads total given)
      (left : total.sub (given.getD total) = some rest) :
      OfCollateral item none
        ⟨item.symbol, given.getD total, Decimal.larger rest Decimal.zero, total⟩

/-- What the two sources say of an asset, and the balance of it. -/
inductive OfSources : Option (String × Wire.CapitalEntry) → Option Wire.CollateralEntry →
    Option Balance → Prop where
  | neither : OfSources none none none
  | spot {entry : String × Wire.CapitalEntry} {b : Balance} (ofSpot : OfSpot entry b) :
      OfSources (some entry) none (some b)
  | both {entry : String × Wire.CapitalEntry} {item : Wire.CollateralEntry} {spot b : Balance}
      (ofSpot : OfSpot entry spot) (ofCollateral : OfCollateral item (some spot) b) :
      OfSources (some entry) (some item) (some b)
  | collateral {item : Wire.CollateralEntry} {b : Balance} (ofCollateral : OfCollateral item none b) :
      OfSources none (some item) (some b)

/-- The balances of all assets, in ascending order of these. -/
structure IsTable (capital : Wire.Capital) (collateral : List Wire.CollateralEntry)
    (balances : List Balance) : Prop where
  ascending : balances.Pairwise fun a b => a.asset < b.asset
  rows : ∀ asset, OfSources (capital.find? fun entry => entry.1 == asset)
    (collateral.find? fun item => item.symbol == asset) (find? asset balances)

theorem OfSpot.unique (spot : OfSpot entry b) (again : OfSpot entry other) : b = other := by
  obtain ⟨asset, available, locked, total⟩ := b
  obtain ⟨rfl, readAvailable, readLocked, staked, unstaked, readStaked, first, second⟩ := spot
  obtain ⟨asset', available', locked', total'⟩ := other
  obtain ⟨rfl, readAvailable', readLocked', staked', unstaked', readStaked', first', second'⟩ := again
  obtain rfl := Except.ok.inj (readAvailable.symm.trans readAvailable')
  obtain rfl := Except.ok.inj (readLocked.symm.trans readLocked')
  obtain rfl := readStaked.unique readStaked'
  obtain rfl := Option.some.inj (first.symm.trans first')
  obtain rfl := Option.some.inj (second.symm.trans second')
  rfl

theorem OfCollateral.unique (ofCollateral : OfCollateral item found b)
    (again : OfCollateral item found other) : b = other := by
  cases ofCollateral with
  | both reads =>
    cases again with
    | both reads' =>
      obtain ⟨rfl, rfl⟩ := reads.unique reads'
      rfl
  | alone reads left =>
    cases again with
    | alone reads' left' =>
      obtain ⟨rfl, rfl⟩ := reads.unique reads'
      obtain rfl := Option.some.inj (left.symm.trans left')
      rfl

theorem OfSources.unique {spot : Option (String × Wire.CapitalEntry)}
    {margin : Option Wire.CollateralEntry} {also : Option Balance} (sources : OfSources spot margin found)
    (again : OfSources spot margin also) : found = also := by
  cases sources with
  | neither =>
    cases again
    rfl
  | spot ofSpot =>
    cases again with
    | spot ofSpot' => exact congrArg some (ofSpot.unique ofSpot')
  | both ofSpot ofCollateral =>
    cases again with
    | both ofSpot' ofCollateral' =>
      obtain rfl := ofSpot.unique ofSpot'
      exact congrArg some (ofCollateral.unique ofCollateral')
  | collateral ofCollateral =>
    cases again with
    | collateral ofCollateral' => exact congrArg some (ofCollateral.unique ofCollateral')

theorem OfSources.eq_none_iff {spot : Option (String × Wire.CapitalEntry)}
    {margin : Option Wire.CollateralEntry} (sources : OfSources spot margin found) :
    found = none ↔ spot = none ∧ margin = none := by
  cases sources <;> simp

theorem OfSources.withCollateral {spot : Option (String × Wire.CapitalEntry)}
    (sources : OfSources spot none found) (ofCollateral : OfCollateral item found b) :
    OfSources spot (some item) (some b) := by
  cases sources with
  | neither => exact .collateral ofCollateral
  | spot ofSpot => exact .both ofSpot ofCollateral

/-- There is only one table, in whatever order the collateral is listed. -/
theorem IsTable.unique {reordered : List Wire.CollateralEntry} {also : List Balance}
    (table : IsTable capital collateral balances) (again : IsTable capital reordered also)
    (symbols : (collateral.map (·.symbol)).Nodup) (same : collateral.Perm reordered) :
    balances = also := by
  refine Keys.ext_of_ascending table.ascending again.ascending fun asset => ?_
  have row := table.rows asset
  rw [Keys.find?_perm symbols same] at row
  exact row.unique (again.rows asset)

/-! ### Putting balances in place -/

theorem find?_put : find? asset (put b balances) = if b.asset = asset then some b else find? asset balances := by
  induction balances with
  | nil => by_cases here : b.asset = asset <;> simp [put, find?, here]
  | cons c balances ih =>
    rw [put]
    split
    · rename_i same
      by_cases here : b.asset = asset <;> simp [find?, here, ← same]
    · rename_i different
      split
      · by_cases here : b.asset = asset <;> simp [find?, here]
      · by_cases here : c.asset = asset
        · have apart : b.asset ≠ asset := fun also => different (also.trans here.symm)
          simp [find?, here, apart]
        · have later : ∀ l, find? asset (c :: l) = find? asset l := fun l => by simp [find?, here]
          rw [later, later, ih]

theorem mem_put (member : other ∈ put b balances) : other = b ∨ other ∈ balances := by
  induction balances with
  | nil => exact .inl (List.mem_singleton.mp member)
  | cons c balances ih =>
    rw [put] at member
    split at member
    · exact (List.mem_cons.mp member).imp_right (List.mem_cons_of_mem c)
    · split at member
      · exact List.mem_cons.mp member
      · rcases List.mem_cons.mp member with rfl | later
        · exact .inr List.mem_cons_self
        · exact (ih later).imp_right (List.mem_cons_of_mem c)

theorem ascending_put (ascending : balances.Pairwise fun a b => a.asset < b.asset) :
    (put b balances).Pairwise fun a b => a.asset < b.asset := by
  induction balances with
  | nil => exact List.pairwise_singleton ..
  | cons c balances ih =>
    obtain ⟨least, rest⟩ := List.pairwise_cons.mp ascending
    rw [put]
    split
    · rename_i same
      exact List.pairwise_cons.mpr ⟨fun d member => same ▸ least d member, rest⟩
    · rename_i different
      split
      · rename_i before
        refine List.pairwise_cons.mpr ⟨fun d member => ?_, ascending⟩
        rcases List.mem_cons.mp member with rfl | later
        · exact before
        · exact String.lt_trans before (least d later)
      · rename_i behind
        refine List.pairwise_cons.mpr ⟨fun d member => ?_, ih rest⟩
        rcases mem_put member with rfl | later
        · exact Decidable.byContradiction fun notLess =>
            different (String.le_antisymm (String.not_lt.mp notLess) (String.not_lt.mp behind))
        · exact least d later

/-! ### Entries -/

theorem ofCapital_converts (fits : ¬ entry.2.Overflows) :
    Converts entry.2.IsReadable (OfSpot entry) (ofCapital entry.1 entry.2) := by
  have parts : Converts (IsAmount entry.2.available ∧ IsAmount entry.2.locked ∧
      IsOptionalAmount entry.2.staked ∧ True) (OfSpot entry) (ofCapital entry.1 entry.2) := by
    unfold ofCapital
    simp only [amountOrZero_eq]
    refine (amount_converts "available" _).bind fun available readAvailable => ?_
    refine (amount_converts "locked" _).bind fun locked readLocked => ?_
    refine (amountOr_converts Decimal.zero "staked" _).bind fun staked readStaked => ?_
    have room := fun large =>
      fits ⟨available, locked, staked, readAvailable, readLocked, readStaked, large⟩
    obtain ⟨unstaked, first⟩ := Decimal.add_exists fun large => room (.inl large)
    obtain ⟨total, second⟩ := Decimal.add_exists fun large => room (.inr ⟨unstaked, first, large⟩)
    have made : (do
        let total ← sum (← sum available locked) staked
        return (⟨entry.1, available, locked, total⟩ : Balance)) = .ok ⟨entry.1, available, locked, total⟩ :=
      bind_eq_ok.mpr ⟨unstaked, sum_eq_ok.mpr first, bind_eq_ok.mpr ⟨total, sum_eq_ok.mpr second, rfl⟩⟩
    rw [made]
    exact .ok trivial ⟨rfl, readAvailable, readLocked, staked, unstaked, readStaked, first, second⟩
  exact parts.of_iff ⟨fun ⟨available, locked, staked, _⟩ => ⟨available, locked, staked⟩,
    fun ⟨available, locked, staked⟩ => ⟨available, locked, staked, trivial⟩⟩

theorem addCapital_converts (fits : ¬ entry.2.Overflows) :
    Converts entry.2.IsReadable (fun next => ∃ b, OfSpot entry b ∧ next = put b balances)
      (addCapital balances entry) :=
  (ofCapital_converts fits).map fun b ofSpot => ⟨b, ofSpot, rfl⟩

theorem availableOf_some (text : String) :
    availableOf (some text) = amount "availableQuantity" text >>= fun d => pure (some d) := by
  rw [availableOf]
  generalize amount "availableQuantity" text = result
  cases result <;> rfl

theorem availableOf_converts (written : Option String) :
    Converts (∀ text, written = some text → IsAmount text)
      (Option.Rel (fun text d => Decimal.ofText (Text.trim text) = .ok d) written)
      (availableOf written) := by
  cases written with
  | none => exact .ok nofun .none
  | some text =>
    rw [availableOf_some]
    have same : IsAmount text ↔ ∀ other, some text = some other → IsAmount other := by simp
    exact ((amount_converts "availableQuantity" text).map fun d reads => .some reads).of_iff same

theorem withCollateral_converts (reads : item.Reads total given)
    (fits : found = none → ¬ item.Overflows) :
    Converts True (OfCollateral item found) (withCollateral item total given found) := by
  cases found with
  | some spot => exact .ok trivial (.both reads)
  | none =>
    have room : ¬ Decimal.IsTooLarge (total.toRat - (given.getD total).toRat) := by
      cases given with
      | none => simpa using Decimal.not_isTooLarge_zero
      | some free =>
        intro large
        obtain ⟨readTotal, readGiven⟩ := reads
        cases written : item.availableQuantity with
        | none =>
          rw [written] at readGiven
          cases readGiven
        | some text =>
          rw [written] at readGiven
          obtain ⟨readFree⟩ := readGiven
          exact fits rfl ⟨text, total, free, written, readTotal, readFree, large⟩
    obtain ⟨rest, left⟩ := Decimal.sub_exists room
    have made : withCollateral item total given none =
        .ok ⟨item.symbol, given.getD total, Decimal.larger rest Decimal.zero, total⟩ :=
      bind_eq_ok.mpr ⟨rest, difference_eq_ok.mpr left, rfl⟩
    rw [made]
    exact .ok trivial (.alone reads left)

theorem addCollateral_converts (fits : find? item.symbol balances = none → ¬ item.Overflows) :
    Converts item.IsReadable
      (fun next => ∃ b, OfCollateral item (find? item.symbol balances) b ∧ next = put b balances)
      (addCollateral balances item) := by
  rw [addCollateral_eq]
  have parts : Converts (IsAmount item.totalQuantity ∧
      (∀ text, item.availableQuantity = some text → IsAmount text) ∧ True)
      (fun next => ∃ b, OfCollateral item (find? item.symbol balances) b ∧ next = put b balances)
      (do
        let total ← amount "totalQuantity" item.totalQuantity
        let available ← availableOf item.availableQuantity
        return put (← withCollateral item total available (find? item.symbol balances)) balances) := by
    refine (amount_converts "totalQuantity" _).bind fun total readTotal => ?_
    refine (availableOf_converts item.availableQuantity).bind fun given readGiven => ?_
    exact (withCollateral_converts ⟨readTotal, readGiven⟩ fits).map fun b ofCollateral => ⟨b, ofCollateral, rfl⟩
  exact parts.of_iff ⟨fun ⟨total, available, _⟩ => ⟨total, available⟩,
    fun ⟨total, available⟩ => ⟨total, available, trivial⟩⟩

/-! ### Merging -/

theorem IsTable.empty : IsTable [] [] [] := ⟨.nil, fun _ => .neither⟩

theorem IsTable.find?_eq_none_iff (table : IsTable capital collateral balances) :
    find? asset balances = none ↔ asset ∉ capital.map Prod.fst ∧ asset ∉ collateral.map (·.symbol) := by
  rw [(table.rows asset).eq_none_iff, Keys.find?_eq_none_iff, Keys.find?_eq_none_iff]

theorem IsTable.addCapital (table : IsTable capital [] balances) (fresh : entry.1 ∉ capital.map Prod.fst)
    (ofSpot : OfSpot entry b) : IsTable (capital ++ [entry]) [] (put b balances) := by
  refine ⟨ascending_put table.ascending, fun asset => ?_⟩
  rw [find?_put, Keys.find?_concat fresh, ofSpot.asset]
  split
  · exact .spot ofSpot
  · exact table.rows asset

theorem asset_of_find? (held : find? asset balances = some b) : b.asset = asset := by
  unfold find? at held
  simpa using List.find?_some held

theorem OfCollateral.asset_eq (ofCollateral : OfCollateral item (find? item.symbol balances) b) :
    b.asset = item.symbol := by
  generalize held : find? item.symbol balances = found at ofCollateral
  cases ofCollateral with
  | @both spot => exact asset_of_find? (b := spot) held
  | alone => rfl

theorem IsTable.addCollateral (table : IsTable capital collateral balances)
    (fresh : item.symbol ∉ collateral.map (·.symbol))
    (ofCollateral : OfCollateral item (find? item.symbol balances) b) :
    IsTable capital (collateral ++ [item]) (put b balances) := by
  refine ⟨ascending_put table.ascending, fun asset => ?_⟩
  rw [find?_put, Keys.find?_concat fresh, ofCollateral.asset_eq]
  split
  · rename_i here
    subst here
    have row := table.rows item.symbol
    rw [Keys.find?_eq_none_iff.mpr fresh] at row
    exact row.withCollateral ofCollateral
  · exact table.rows asset

def IsReadable (capital : Wire.Capital) (collateral : List Wire.CollateralEntry) : Prop :=
  (∀ entry ∈ capital, entry.2.IsReadable) ∧ ∀ item ∈ collateral, item.IsReadable

/-- No sum or difference that belongs to the table is too large. -/
structure Fits (capital : Wire.Capital) (collateral : List Wire.CollateralEntry) : Prop where
  spot : ∀ entry ∈ capital, ¬ entry.2.Overflows
  margin : ∀ item ∈ collateral, item.symbol ∉ capital.map Prod.fst → ¬ item.Overflows

/-- What has been taken in so far: its table, which has come about without an overflow. -/
structure IsTaken (capital : Wire.Capital) (collateral : List Wire.CollateralEntry)
    (balances : List Balance) : Prop where
  table : IsTable capital collateral balances
  fits : Fits capital collateral

theorem addCapital_taken {before later : Wire.Capital} (assets : (capital.map Prod.fst).Nodup)
    (split : capital = before ++ entry :: later) (taken : IsTaken before [] balances)
    (fits : ¬ Overflows (Balance.addCapital balances entry)) :
    Converts entry.2.IsReadable (IsTaken (before ++ [entry]) []) (Balance.addCapital balances entry) := by
  have fits : ¬ entry.2.Overflows := mt overflows_addCapital.mpr fits
  refine (addCapital_converts fits).imp fun next made => ?_
  obtain ⟨b, ofSpot, rfl⟩ := made
  refine ⟨taken.table.addCapital (Keys.fresh_of_split assets split) ofSpot, fun e member => ?_, nofun⟩
  rcases List.mem_append.mp member with old | new
  · exact taken.fits.spot e old
  · exact List.mem_singleton.mp new ▸ fits

theorem addCollateral_taken {before later : List Wire.CollateralEntry}
    (symbols : (collateral.map (·.symbol)).Nodup) (split : collateral = before ++ item :: later)
    (taken : IsTaken capital before balances)
    (fits : ¬ Overflows (Balance.addCollateral balances item)) :
    Converts item.IsReadable (IsTaken capital (before ++ [item]))
      (Balance.addCollateral balances item) := by
  have fresh : item.symbol ∉ before.map (·.symbol) := Keys.fresh_of_split symbols split
  have fits : find? item.symbol balances = none → ¬ item.Overflows :=
    fun absent exceeds => fits (overflows_addCollateral.mpr ⟨absent, exceeds⟩)
  refine (addCollateral_converts fits).imp fun next made => ?_
  obtain ⟨b, ofCollateral, rfl⟩ := made
  refine ⟨taken.table.addCollateral fresh ofCollateral, taken.fits.spot, fun other member alone => ?_⟩
  rcases List.mem_append.mp member with old | new
  · exact taken.fits.margin other old alone
  · obtain rfl := List.mem_singleton.mp new
    exact fits (taken.table.find?_eq_none_iff.mpr ⟨alone, fresh⟩)

theorem merge_converts (assets : (capital.map Prod.fst).Nodup)
    (symbols : (collateral.map (·.symbol)).Nodup) (fits : ¬ Overflows (merge capital ⟨collateral⟩)) :
    Converts (IsReadable capital collateral) (IsTaken capital collateral)
      (merge capital ⟨collateral⟩) := by
  have spot : ¬ Overflows (capital.foldlM Balance.addCapital []) →
      Converts (∀ entry ∈ capital, entry.2.IsReadable) (IsTaken capital [])
        (capital.foldlM Balance.addCapital []) := by
    intro fits
    refine Converts.foldlM (fun before => IsTaken before []) fits ⟨.empty, nofun, nofun⟩ ?_
    exact fun before entry later reached split => addCapital_taken assets split
  refine Converts.bind_of_fits fits spot fun reached taken fits => ?_
  refine Converts.foldlM (IsTaken capital) fits taken ?_
  exact fun before item later reached split => addCollateral_taken symbols split

theorem Fits.not_overflows (fits : Fits capital collateral) (assets : (capital.map Prod.fst).Nodup)
    (symbols : (collateral.map (·.symbol)).Nodup) : ¬ Overflows (merge capital ⟨collateral⟩) := by
  rw [overflows_merge]
  intro reaches
  cases reaches with
  | @spot before after asset entry balances split merged exceeds =>
    exact fits.spot (asset, entry) (by simp [split]) exceeds
  | @collateral before after item balances split merged absent exceeds =>
    dsimp only at split
    have listed : (before.map (·.symbol)).Nodup := by
      rw [split, List.map_append] at symbols
      exact (List.nodup_append.mp symbols).1
    have calm : ¬ Overflows (merge capital ⟨before⟩) := merged ▸ not_overflows_ok balances
    have table := ((merge_converts assets listed calm).of_ok merged).table
    exact fits.margin item (by simp [split]) (table.find?_eq_none_iff.mp absent).1 exceeds

theorem Fits.perm {reordered : List Wire.CollateralEntry} (fits : Fits capital collateral)
    (same : reordered.Perm collateral) : Fits capital reordered :=
  ⟨fits.spot, fun item member => fits.margin item (same.mem_iff.mp member)⟩

theorem merge_perm {reordered : List Wire.CollateralEntry} (assets : (capital.map Prod.fst).Nodup)
    (symbols : (collateral.map (·.symbol)).Nodup) (same : reordered.Perm collateral)
    (merged : merge capital ⟨collateral⟩ = .ok balances) : merge capital ⟨reordered⟩ = .ok balances := by
  have distinct : (reordered.map (·.symbol)).Nodup := (same.map _).nodup_iff.mpr symbols
  have calm : ¬ Overflows (merge capital ⟨collateral⟩) := merged ▸ not_overflows_ok balances
  have converts := merge_converts assets symbols calm
  have taken := converts.of_ok merged
  obtain ⟨spot, margin⟩ := converts.ok_exists_iff.mp ⟨balances, merged⟩
  have again := merge_converts assets distinct ((taken.fits.perm same).not_overflows assets distinct)
  obtain ⟨others, made⟩ := again.ok_exists_iff.mpr
    ⟨spot, fun item member => margin item (same.mem_iff.mp member)⟩
  rw [made, taken.table.unique (again.of_ok made).table symbols same.symm]

/-- Merging fails exactly if a text cannot be read, and gives the table otherwise: one balance for each
asset of the two sources. The order in which the collateral is listed changes nothing. -/
theorem merge_is_table (capital : Wire.Capital) (collateral : List Wire.CollateralEntry)
    (assets : (capital.map Prod.fst).Nodup) (symbols : (collateral.map (·.symbol)).Nodup) :
    (¬ Overflows (merge capital ⟨collateral⟩) →
      ((∃ e, merge capital ⟨collateral⟩ = .error (.error e)) ↔ ¬ IsReadable capital collateral) ∧
      ((∃ balances, merge capital ⟨collateral⟩ = .ok balances) ↔ IsReadable capital collateral)) ∧
    (∀ balances, merge capital ⟨collateral⟩ = .ok balances → IsTable capital collateral balances ∧
      ∀ asset, asset ∈ balances.map Balance.asset ↔
        asset ∈ capital.map Prod.fst ∨ asset ∈ collateral.map (·.symbol)) ∧
    ∀ reordered : List Wire.CollateralEntry, reordered.Perm collateral → ∀ balances,
      merge capital ⟨reordered⟩ = .ok balances ↔ merge capital ⟨collateral⟩ = .ok balances := by
  refine ⟨fun fits => ?_, fun balances merged => ?_, fun reordered same balances => ?_⟩
  · have converts := merge_converts assets symbols fits
    exact ⟨converts.error_exists_iff, converts.ok_exists_iff⟩
  · have calm : ¬ Overflows (merge capital ⟨collateral⟩) := merged ▸ not_overflows_ok balances
    have table := ((merge_converts assets symbols calm).of_ok merged).table
    refine ⟨table, fun asset => ?_⟩
    have found : find? asset balances = none ↔ _ := table.find?_eq_none_iff
    rw [find?, Keys.find?_eq_none_iff] at found
    tauto
  · have distinct : (reordered.map (·.symbol)).Nodup := (same.map _).nodup_iff.mpr symbols
    exact ⟨merge_perm assets distinct same.symm, merge_perm assets symbols same⟩

namespace Mixed

def held : Wire.Capital := [("BTC", ⟨"0.5", " 0.25", none⟩), ("SOL", ⟨"1.0", "0.50", some "2"⟩)]

/-- More than all is available of the first, and nothing is said of what is available of the second. -/
def margin : List Wire.CollateralEntry :=
  [⟨"USDC", "100", some "120", none⟩, ⟨"SOL", "3.4", none, none⟩, ⟨"ETH", "2", some "1.5", none⟩]

def amounts (b : Balance) : List String :=
  [b.asset, b.available.toText, b.locked.toText, b.total.toText]

end Mixed

open Mixed in
/-- An asset of both sources between assets of one. -/
theorem merge_is_table_mixed :
    IsReadable held margin ∧ ∃ balances, merge held ⟨margin⟩ = .ok balances ∧
      merge held ⟨margin.reverse⟩ = .ok balances ∧ IsTable held margin balances ∧
      balances.map amounts = [["BTC", "0.5", "0.25", "0.75"], ["ETH", "1.5", "0.5", "2"],
        ["SOL", "1.0", "0.50", "3.50"], ["USDC", "120", "0", "100"]] := by
  have shown : (merge held ⟨margin⟩).toOption.map (·.map amounts) =
      some [["BTC", "0.5", "0.25", "0.75"], ["ETH", "1.5", "0.5", "2"],
        ["SOL", "1.0", "0.50", "3.50"], ["USDC", "120", "0", "100"]] := by
    decide +kernel
  obtain ⟨balances, made, amounts⟩ := Option.map_eq_some_iff.mp shown
  have merged : merge held ⟨margin⟩ = .ok balances := toOption_eq_some.mp made
  have calm : ¬ Overflows (merge held ⟨margin⟩) := merged ▸ not_overflows_ok balances
  obtain ⟨success, table, order⟩ := merge_is_table held margin (by decide) (by decide)
  exact ⟨(success calm).2.mp ⟨balances, merged⟩, balances, merged,
    (order margin.reverse (List.reverse_perm margin) balances).mpr merged, (table balances merged).1, amounts⟩

end Balance

end MarketGateway
