import MarketGateway.Market.TradingPair

/-!
# Trading pairs and symbols

A trading pair and the symbol that the exchange has for it can be told from each other as long as
neither holds the separator of the other: `ofSymbol_symbolOf` and `symbolOf_ofSymbol`.
-/

namespace MarketGateway

theorem Text.replaceChar_replaceChar {old new : Char} {s : String} (fresh : new ∉ s.toList) :
    Text.replaceChar new old (Text.replaceChar old new s) = s := by
  have undone : (s.toList.map fun c => if c = old then new else c).map
      (fun c => if c = new then old else c) = s.toList := by
    rw [List.map_map]
    refine (List.map_congr_left fun c member => ?_).trans (List.map_id s.toList)
    have different : c ≠ new := fun same => fresh (same ▸ member)
    by_cases same : c = old
    · simp [same]
    · simp [same, different]
  unfold Text.replaceChar
  rw [String.toList_ofList, undone, String.ofList_toList]

namespace TradingPair

/-- A pair without underscores is that of its symbol. -/
theorem ofSymbol_symbolOf {pair : String} (plain : '_' ∉ pair.toList) :
    ofSymbol (symbolOf pair) = pair :=
  Text.replaceChar_replaceChar plain

/-- A symbol without hyphens is that of its pair. -/
theorem symbolOf_ofSymbol {symbol : String} (plain : '-' ∉ symbol.toList) :
    symbolOf (ofSymbol symbol) = symbol :=
  Text.replaceChar_replaceChar plain

theorem symbolOf_append (a b : String) : symbolOf (a ++ b) = symbolOf a ++ symbolOf b := by
  simp only [symbolOf, Text.replaceChar, String.toList_append, List.map_append, String.ofList_append]

end TradingPair

end MarketGateway
