import MarketGateway.Conversion.Market
import MarketGateway.Proofs.Market.TradingPair
import MarketGateway.Proofs.Text.Splitting

/-!
# Texts of trading pairs

A text is split into a base and a quote exactly if it is written as these two parts with a separator between them,
and perhaps with another one and the mark of a perpetual market behind them. Main statement: `pair_texts_are_split`.
-/

namespace MarketGateway

namespace TradingPair

open Text (pieces)

variable {text base quote : String}

/-- A part of a pair has no separators. -/
def IsPart (part : String) : Prop := '-' ∉ part.toList ∧ '_' ∉ part.toList

instance (part : String) : Decidable (IsPart part) := inferInstanceAs (Decidable (_ ∧ _))

def separators : List String := ["-", "_"]

/-- The two parts of a text, which may be empty, with the mark of a perpetual market left out. -/
structure Spells (text base quote : String) : Prop where
  isBase : IsPart base
  isQuote : IsPart quote
  written : ∃ sep ∈ separators, text = base ++ sep ++ quote ∨
    ∃ sep' ∈ separators, ∃ mark, Text.eqIgnoreCase mark "PERP" = true ∧
      text = base ++ sep ++ quote ++ sep' ++ mark

theorem hyphen_mem : "-" ∈ separators := List.mem_cons_self

theorem underscore_mem : "_" ∈ separators := List.mem_cons_of_mem _ List.mem_cons_self

theorem isPart_iff {part : String} : IsPart part ↔ ∀ c ∈ part.toList, isSeparator c = false := by
  constructor
  · rintro ⟨noHyphen, noUnderscore⟩ c member
    rw [isSeparator, Bool.or_eq_false_iff, decide_eq_false_iff_not, decide_eq_false_iff_not]
    exact ⟨fun same => noHyphen (same ▸ member), fun same => noUnderscore (same ▸ member)⟩
  · intro plain
    exact ⟨fun member => absurd (plain _ member) (by decide), fun member => absurd (plain _ member) (by decide)⟩

theorem mem_separators_iff {sep : String} : sep ∈ separators ↔ ∃ c, isSeparator c = true ∧ sep.toList = [c] := by
  constructor
  · intro listed
    rcases List.mem_cons.mp listed with rfl | listed
    · exact ⟨'-', rfl, rfl⟩
    · obtain rfl := List.mem_singleton.mp listed
      exact ⟨'_', rfl, rfl⟩
  · rintro ⟨c, divides, one⟩
    rw [isSeparator, Bool.or_eq_true, decide_eq_true_eq, decide_eq_true_eq] at divides
    obtain rfl := String.toList_inj.mp (one.trans String.toList_ofList.symm)
    rcases divides with rfl | rfl <;> decide

/-- The mark of a perpetual market is one piece. -/
theorem isPart_mark {mark : String} (isMark : Text.eqIgnoreCase mark "PERP" = true) : IsPart mark := by
  rw [Text.eqIgnoreCase, beq_iff_eq] at isMark
  have letters : ∀ c ∈ mark.toList, c.toLower ∈ ['p', 'e', 'r', 'p'] := by
    intro c member
    have lower : c.toLower ∈ mark.toList.map Char.toLower := List.mem_map_of_mem member
    rw [isMark] at lower
    exact lower
  exact ⟨fun member => absurd (letters _ member) (by decide), fun member => absurd (letters _ member) (by decide)⟩

variable {part : String} {later : List (List Char)}

theorem split_part_iff : pieces isSeparator text.toList = [part.toList] ↔ part = text ∧ IsPart part := by
  rw [Text.pieces_eq_singleton_iff, String.toList_inj, isPart_iff]
  constructor
  · rintro ⟨rfl, plain⟩
    exact ⟨rfl, plain⟩
  · rintro ⟨rfl, plain⟩
    exact ⟨rfl, plain⟩

theorem split_cons_iff (more : later ≠ []) : pieces isSeparator text.toList = part.toList :: later ↔
    IsPart part ∧ ∃ sep ∈ separators, ∃ rest, text = part ++ sep ++ rest ∧
      pieces isSeparator rest.toList = later := by
  rw [Text.pieces_eq_cons_iff more, isPart_iff]
  constructor
  · rintro ⟨plain, c, rest, divides, same, others⟩
    refine ⟨plain, String.singleton c, mem_separators_iff.mpr ⟨c, divides, String.toList_singleton c⟩,
      String.ofList rest, String.toList_inj.mp ?_, by rw [String.toList_ofList, others]⟩
    simp [same]
  · rintro ⟨plain, sep, listed, rest, rfl, others⟩
    obtain ⟨c, divides, one⟩ := mem_separators_iff.mp listed
    exact ⟨plain, c, rest.toList, divides, by simp [one], others⟩

/-- No part has separators, so the parts are the pieces that separators leave. -/
theorem spells_iff : Spells text base quote ↔
    pieces isSeparator text.toList = [base.toList, quote.toList] ∨
      ∃ mark, Text.eqIgnoreCase mark "PERP" = true ∧
        pieces isSeparator text.toList = [base.toList, quote.toList, mark.toList] := by
  simp only [split_cons_iff (List.cons_ne_nil _ _), split_part_iff]
  constructor
  · rintro ⟨isBase, isQuote, sep, listed, same | ⟨sep', listed', mark, isMark, same⟩⟩
    · exact .inl ⟨isBase, sep, listed, quote, same, rfl, isQuote⟩
    · refine .inr ⟨mark, isMark, isBase, sep, listed, quote ++ sep' ++ mark, ?_, isQuote, sep', listed', mark, rfl, rfl,
        isPart_mark isMark⟩
      simp only [same, String.append_assoc]
  · rintro (⟨isBase, sep, listed, rest, same, rfl, isQuote⟩ |
      ⟨mark, isMark, isBase, sep, listed, rest, same, isQuote, sep', listed', rest', same', rfl, -⟩)
    · exact ⟨isBase, isQuote, sep, listed, .inl same⟩
    · refine ⟨isBase, isQuote, sep, listed, .inr ⟨sep', listed', mark, isMark, ?_⟩⟩
      simp only [same, same', String.append_assoc]

theorem made_eq (base quote : String) :
    (match make? base quote with
      | some p => .ok p
      | none => .error (.invalidParameters (.pair (.emptyPart base quote))) : Except ExchangeError TradingPair) =
      if base = "" ∨ quote = "" then .error (.invalidParameters (.pair (.emptyPart base quote)))
      else .ok ⟨base, quote⟩ := by
  by_cases empty : base = "" ∨ quote = ""
  · simp [make?, empty]
  · simp [make?, empty]

theorem split_of_spells (spells : Spells text base quote) :
    split text = if base = "" ∨ quote = "" then .error (.invalidParameters (.pair (.emptyPart base quote)))
      else .ok ⟨base, quote⟩ := by
  rcases spells_iff.mp spells with two | ⟨mark, isMark, three⟩
  · rw [split, two]
    simp only [String.ofList_toList]
    exact made_eq base quote
  · rw [split, three]
    simp only [isPerpetualMark, String.ofList_toList, isMark, if_true]
    exact made_eq base quote

theorem split_of_foreign (foreign : ∀ base quote, ¬ Spells text base quote) :
    split text = .error (.invalidParameters (.pair (.unrecognized text))) := by
  simp only [spells_iff, not_or, not_exists, not_and] at foreign
  unfold split
  dsimp only
  split
  · rename_i base quote same
    have two := (foreign (String.ofList base) (String.ofList quote)).1
    simp [same] at two
  · rename_i base quote mark same
    split
    · rename_i isMark
      have three := (foreign (String.ofList base) (String.ofList quote)).2 (String.ofList mark) isMark
      simp [same] at three
    · rfl
  · rfl

/-- What splitting a text gives, and when. -/
theorem split_cases (text : String) :
    (∃ base quote, Spells text base quote ∧ ((base = "" ∨ quote = "") ∧
        split text = .error (.invalidParameters (.pair (.emptyPart base quote))) ∨
      base ≠ "" ∧ quote ≠ "" ∧ split text = .ok ⟨base, quote⟩)) ∨
    (∀ base quote, ¬ Spells text base quote) ∧
      split text = .error (.invalidParameters (.pair (.unrecognized text))) := by
  by_cases spelled : ∃ base quote, Spells text base quote
  · obtain ⟨base, quote, spells⟩ := spelled
    refine .inl ⟨base, quote, spells, ?_⟩
    by_cases empty : base = "" ∨ quote = ""
    · exact .inl ⟨empty, (split_of_spells spells).trans (if_pos empty)⟩
    · obtain ⟨full, full'⟩ := not_or.mp empty
      exact .inr ⟨full, full', (split_of_spells spells).trans (if_neg empty)⟩
  · simp only [not_exists] at spelled
    exact .inr ⟨spelled, split_of_foreign spelled⟩

theorem split_eq_ok_iff {p : TradingPair} :
    split text = .ok p ↔ Spells text p.base p.quote ∧ p.base ≠ "" ∧ p.quote ≠ "" := by
  constructor
  · intro read
    rcases split_cases text with ⟨base, quote, spells, ⟨-, same⟩ | ⟨full, full', same⟩⟩ | ⟨-, same⟩
    · cases same.symm.trans read
    · obtain rfl := Except.ok.inj (same.symm.trans read)
      exact ⟨spells, full, full'⟩
    · cases same.symm.trans read
  · rintro ⟨spells, full⟩
    rw [split_of_spells spells, if_neg (not_or.mpr full)]

theorem split_eq_emptyPart_iff : split text = .error (.invalidParameters (.pair (.emptyPart base quote))) ↔
    Spells text base quote ∧ (base = "" ∨ quote = "") := by
  constructor
  · intro refused
    rcases split_cases text with ⟨base', quote', spells, ⟨empty, same⟩ | ⟨-, -, same⟩⟩ | ⟨-, same⟩
    · cases same.symm.trans refused
      exact ⟨spells, empty⟩
    · cases same.symm.trans refused
    · cases same.symm.trans refused
  · rintro ⟨spells, empty⟩
    rw [split_of_spells spells, if_pos empty]

theorem split_eq_unrecognized_iff {other : String} :
    split text = .error (.invalidParameters (.pair (.unrecognized other))) ↔
      other = text ∧ ∀ base quote, ¬ Spells text base quote := by
  constructor
  · intro refused
    rcases split_cases text with ⟨base, quote, spells, ⟨-, same⟩ | ⟨-, -, same⟩⟩ | ⟨foreign, same⟩
    · cases same.symm.trans refused
    · cases same.symm.trans refused
    · cases same.symm.trans refused
      exact ⟨rfl, foreign⟩
  · rintro ⟨rfl, foreign⟩
    exact split_of_foreign foreign

/-- A text that is refused is one that cannot be split. -/
theorem split_eq_error {e : ExchangeError} (refused : split text = .error e) :
    ∃ cause, e = .invalidParameters (.pair cause) := by
  rcases split_cases text with ⟨base, quote, -, ⟨-, same⟩ | ⟨-, -, same⟩⟩ | ⟨-, same⟩
  · exact ⟨_, Except.error.inj (refused.symm.trans same)⟩
  · cases same.symm.trans refused
  · exact ⟨_, Except.error.inj (refused.symm.trans same)⟩

/-! ### Written pairs -/

theorem spells_joined {sep sep' : String} (isBase : IsPart base) (isQuote : IsPart quote) (listed : sep ∈ separators)
    (listed' : sep' ∈ separators) : Spells (base ++ sep ++ quote) base quote ∧
      Spells (base ++ sep ++ quote ++ sep' ++ "PERP") base quote :=
  ⟨⟨isBase, isQuote, sep, listed, .inl rfl⟩,
    ⟨isBase, isQuote, sep, listed, .inr ⟨sep', listed', "PERP", by decide, rfl⟩⟩⟩

theorem symbolOf_part (isPart : IsPart part) : symbolOf part = part := by
  have same : (part.toList.map fun c => if c = '-' then '_' else c) = part.toList := by
    refine (List.map_congr_left fun c member => ?_).trans (List.map_id _)
    have other : c ≠ '-' := fun same => isPart.1 (same ▸ member)
    exact if_neg other
  rw [symbolOf, Text.replaceChar, same, String.ofList_toList]

theorem symbolOf_joined (isBase : IsPart base) (isQuote : IsPart quote) :
    symbolOf (base ++ "-" ++ quote) = base ++ "_" ++ quote ∧
      symbolOf (base ++ "-" ++ quote ++ "-" ++ "PERP") = base ++ "_" ++ quote ++ "_" ++ "PERP" := by
  have hyphen : symbolOf "-" = "_" := by decide
  have mark : symbolOf "PERP" = "PERP" := by decide
  simp only [symbolOf_append, symbolOf_part isBase, symbolOf_part isQuote, hyphen, mark, and_self]

/-- A text is a pair exactly if it is its two parts with a separator between them, perhaps with one more and the mark
of a perpetual market. Every other text is refused, for an empty part or as no pair at all. -/
theorem pair_texts_are_split :
    (∀ text : String,
      (∀ p, split text = .ok p ↔ Spells text p.base p.quote ∧ p.base ≠ "" ∧ p.quote ≠ "") ∧
      (∀ base quote, split text = .error (.invalidParameters (.pair (.emptyPart base quote))) ↔
        Spells text base quote ∧ (base = "" ∨ quote = "")) ∧
      (∀ other, split text = .error (.invalidParameters (.pair (.unrecognized other))) ↔
        other = text ∧ ∀ base quote, ¬ Spells text base quote) ∧
      ((¬ ∃ p : TradingPair, Spells text p.base p.quote ∧ p.base ≠ "" ∧ p.quote ≠ "") →
        ∃ cause, split text = .error (.invalidParameters (.pair cause)))) ∧
    ∀ p : TradingPair, IsPart p.base → IsPart p.quote → p.base ≠ "" → p.quote ≠ "" →
      ∀ text ∈ [p.toText, symbolOf p.toText, p.toText ++ "-PERP", symbolOf (p.toText ++ "-PERP")],
        split text = .ok p := by
  constructor
  · intro text
    refine ⟨fun p => split_eq_ok_iff, fun base quote => split_eq_emptyPart_iff, fun other => split_eq_unrecognized_iff,
      fun none => ?_⟩
    cases result : split text with
    | ok p => exact absurd ⟨p, split_eq_ok_iff.mp result⟩ none
    | error e =>
      obtain ⟨cause, rfl⟩ := split_eq_error result
      exact ⟨cause, rfl⟩
  · intro p isBase isQuote base quote text member
    refine split_eq_ok_iff.mpr ⟨?_, base, quote⟩
    obtain ⟨hyphens, hyphens'⟩ := spells_joined isBase isQuote hyphen_mem hyphen_mem
    obtain ⟨underscores, underscores'⟩ := spells_joined isBase isQuote underscore_mem underscore_mem
    obtain ⟨symbol, symbol'⟩ := symbolOf_joined isBase isQuote
    rw [← symbol] at underscores
    rw [← symbol'] at underscores'
    have marked : p.toText ++ "-PERP" = p.base ++ "-" ++ p.quote ++ "-" ++ "PERP" := by
      rw [show "-PERP" = "-" ++ "PERP" by decide, ← String.append_assoc]
      rfl
    rw [marked] at member
    rcases member with _ | ⟨_, _ | ⟨_, _ | ⟨_, _ | ⟨_, none⟩⟩⟩⟩
    · exact hyphens
    · exact underscores
    · exact hyphens'
    · exact underscores'
    · cases none

/-- A perpetual market whose quote is the mark itself is told from one without a quote. -/
theorem pair_texts_are_split_marked :
    split "SOL_PERP-pErP" = .ok ⟨"SOL", "PERP"⟩ ∧
      split "SOL--PERP" = .error (.invalidParameters (.pair (.emptyPart "SOL" ""))) ∧
      split "SOL-USDC-SPOT" = .error (.invalidParameters (.pair (.unrecognized "SOL-USDC-SPOT"))) ∧
      ∀ text ∈ ["SOL-USDC", "SOL_USDC", "SOL-USDC-PERP", "SOL_USDC_PERP"], split text = .ok ⟨"SOL", "USDC"⟩ := by
  obtain ⟨accepted, -, -, -⟩ := pair_texts_are_split.1 "SOL_PERP-pErP"
  obtain ⟨-, emptyPart, -, -⟩ := pair_texts_are_split.1 "SOL--PERP"
  refine ⟨(accepted ⟨"SOL", "PERP"⟩).mpr ⟨⟨by decide, by decide, "_", underscore_mem, .inr ?_⟩, by decide, by decide⟩,
    (emptyPart "SOL" "").mpr ⟨⟨by decide, by decide, "-", hyphen_mem, .inr ?_⟩, .inr rfl⟩, rfl,
    pair_texts_are_split.2 ⟨"SOL", "USDC"⟩ (by decide) (by decide) (by decide) (by decide)⟩
  · exact ⟨"-", hyphen_mem, "pErP", by decide, by decide⟩
  · exact ⟨"-", hyphen_mem, "PERP", by decide, by decide⟩

end TradingPair
end MarketGateway
