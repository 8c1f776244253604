import MarketGateway.Proofs.Json.Forms
import MarketGateway.Proofs.Json.RoundTrip

/-!
# Identifiers in both forms

An identifier is the same text whether it is written as a number or as the string of the digits:
`AcceptsIdentifiers`. An integer is read from both forms as well, and from no other number and no other
string: `AcceptsIntegers`.
-/

namespace MarketGateway.Json

/-- The text is JSON that the reader takes for the value. -/
def Reads {α : Type} (read : Reader α) (text : String) (a : α) : Prop :=
  ∃ j, parse? text = some j ∧ read j = .ok a

/-! ### Words -/

/-- A text without blanks, quotation marks and punctuation, as numbers are. -/
structure IsWord (text : String) : Prop where
  nonempty : text ≠ ""
  plain : ∀ c ∈ text.toList, endsWord c = false

theorem parse?_word {text : String} (word : IsWord text) : parse? text = word? text.toList := by
  have nonempty : text.toList ≠ [] := fun none => word.nonempty (String.toList_eq_nil_iff.mp none)
  obtain ⟨c, cs, chars⟩ := List.exists_cons_of_ne_nil nonempty
  obtain ⟨here, later⟩ := List.forall_mem_cons.mp (chars ▸ word.plain)
  have scanned : parseFrom (.word [c]) .start (cs ++ []) = parseFrom (.word (cs.reverse ++ [c])) .start [] :=
    parseFrom_wordChars later [c]
  rw [List.append_nil] at scanned
  rw [parse?, chars, parseFrom_skip (scan_fresh_word here), scanned, parseFrom, scanEnd,
    List.reverse_append, List.reverse_reverse]
  show ((word? (c :: cs)).map _).bind _ = word? (c :: cs)
  cases word? (c :: cs) <;> rfl

theorem isWord_toString (n : Int) : IsWord (toString n) where
  nonempty none := by
    have chars := Text.toList_toString_int n
    rw [none] at chars
    exact Nat.toDigits_ne_nil (List.append_eq_nil_iff.mp chars.symm).2
  plain _ member := endsWord_eq_false (mem_toString member)

theorem word?_cases {cs : List Char} {j : Json} (read : word? cs = some j) :
    j = .null ∨ (∃ value, j = .bool value) ∨ ∃ n, Number.ofChars? cs = some n ∧ j = .number n := by
  unfold word? at read
  split at read
  · exact .inr (.inl ⟨true, (Option.some.inj read).symm⟩)
  split at read
  · exact .inr (.inl ⟨false, (Option.some.inj read).symm⟩)
  split at read
  · exact .inl (Option.some.inj read).symm
  obtain ⟨n, number, same⟩ := Option.map_eq_some_iff.mp read
  exact .inr (.inr ⟨n, number, same.symm⟩)

/-- A word is an integer if it is the notation of the integer. -/
theorem word?_eq_int_iff {cs : List Char} {n : Int} :
    word? cs = some (.int n) ↔ cs = (toString n).toList ∧ -2 ^ 63 ≤ n ∧ n < 2 ^ 64 := by
  constructor
  · intro read
    obtain same | ⟨_, same⟩ | ⟨_, number, same⟩ := word?_cases read <;> cases same
    exact Number.ofChars?_eq_integer_iff.mp number
  · rintro ⟨rfl, low, high⟩
    exact word?_toString low high

theorem word?_ne_string {cs : List Char} {s : String} : word? cs ≠ some (.string s) := by
  intro read
  obtain same | ⟨_, same⟩ | ⟨_, -, same⟩ := word?_cases read <;> cases same

theorem parse?_toString {n : Int} (low : -2 ^ 63 ≤ n) (high : n < 2 ^ 64) :
    parse? (toString n) = some (.int n) := by
  rw [parse?_word (isWord_toString n), word?_toString low high]

theorem parse?_string (s : String) : parse? (render (.string s)) = some (.string s) :=
  parse?_render (.string s)

/-! ### What the readers accept -/

/-- The text of a double has a point or an exponent. -/
theorem Double.mem_toText (d : Double) : '.' ∈ d.toText.toList ∨ 'e' ∈ d.toText.toList := by
  unfold Double.toText
  dsimp only
  generalize (if d.negative then ['-'] else []) = sign
  split
  · simp
  · split
    · simp
    · simp

theorem readInt64_double (d : Double) : ∃ e, Text.readInt64 d.toText = .error e := by
  cases read : Text.readInt64 d.toText with
  | error e => exact ⟨e, rfl⟩
  | ok n =>
    obtain ⟨k, between, -⟩ := Text.map_eq_ok.mp read
    rcases d.mem_toText with point | exponent
    · exact absurd (Text.mem_of_readBetween between point) (by decide)
    · exact absurd (Text.mem_of_readBetween between exponent) (by decide)

namespace Reader

variable {j : Json}

theorem identifier_eq_ok_iff {s : String} : identifier j = .ok s ↔ IdentifierForm s j := by
  constructor
  · intro read
    cases j with
    | string t =>
      obtain rfl := Except.ok.inj read
      exact .text
    | number n => exact .number (Except.ok.inj read)
    | _ => cases read
  · exact accepts_identifier.reads s j

/-- An integer is read from its number and from the strings that spell it, and from nothing else. -/
theorem integerIdentifier_eq_ok_iff {n : Int64} :
    integerIdentifier j = .ok n ↔ j = .int64 n ∨ ∃ s, j = .string s ∧ Text.IsSigned s n.toInt := by
  constructor
  · intro read
    cases j with
    | string s => exact .inr ⟨s, rfl, Text.readInt64_eq_ok_iff.mp (Text.mapError_eq_ok.mp read)⟩
    | number m =>
      have text : Text.readInt64 m.toText = .ok n := Text.mapError_eq_ok.mp read
      cases m with
      | integer k => exact .inl (congrArg Json.int (Text.isSigned_toString.mp (Text.readInt64_eq_ok_iff.mp text)).symm)
      | double d =>
        obtain ⟨e, refused⟩ := readInt64_double d
        cases refused.symm.trans text
    | _ => cases read
  · rintro (rfl | ⟨s, rfl, signed⟩)
    · exact integerIdentifier_written n
    · exact integerIdentifier_text (Text.readInt64_eq_ok_iff.mpr signed)

theorem nullable_eq_none_iff {α : Type} {read : Reader α} : nullable read j = .ok none ↔ j = .null := by
  cases j with
  | null => exact ⟨fun _ => rfl, fun _ => rfl⟩
  | _ => simp [nullable, Text.map_eq_ok]

theorem nullable_eq_some_iff {α : Type} {read : Reader α} {a : α} :
    nullable read j = .ok (some a) ↔ j ≠ .null ∧ read j = .ok a := by
  cases j with
  | null => simp [nullable]
  | _ => simp [nullable, Text.map_eq_ok]

end Reader

/-! ### Texts -/

theorem reads_iff {α : Type} {read : Reader α} {text : String} {j : Json} {a : α} (parsed : parse? text = some j) :
    Reads read text a ↔ read j = .ok a := by
  simp [Reads, parsed]

/-- There is nothing to escape in the string of an integer. -/
theorem render_string_toString (n : Int) : render (.string (toString n)) = "\"" ++ toString n ++ "\"" := by
  have plain : ∀ c ∈ (toString n).toList, escapeChar c = [c] := by
    intro c member
    have numeral := mem_toString member
    have foreign : ∀ d, (d.isDigit || d = '-') = false → c ≠ d := by
      rintro d other rfl
      cases other.symm.trans numeral
    have large : ¬ c.toNat < 0x20 := by
      rcases Bool.or_eq_true_iff.mp numeral with digit | minus
      · obtain ⟨low, -⟩ : 48 ≤ c.toNat ∧ c.toNat ≤ 57 := Char.isDigit_iff_toNat.mp digit
        omega
      · rw [of_decide_eq_true minus]
        decide
    rw [escapeChar, if_neg (foreign _ (by decide)), if_neg (foreign _ (by decide)),
      if_neg (foreign _ (by decide)), if_neg (foreign _ (by decide)), if_neg (foreign _ (by decide)),
      if_neg (foreign _ (by decide)), if_neg (foreign _ (by decide)), if_neg large]
  apply String.toList_inj.mp
  rw [render, chars, quote, List.flatMap_congr plain]
  simp

/-- The reader takes an integer of 64 bits, signed or unsigned, for the same text in both forms. -/
structure AcceptsIdentifiers {α : Type} (read : Reader α) (value : String → α) : Prop where
  number : ∀ n : Int, -2 ^ 63 ≤ n → n < 2 ^ 64 → Reads read (toString n) (value (toString n))
  digits : ∀ n : Int, Reads read ("\"" ++ toString n ++ "\"") (value (toString n))

theorem AcceptsIdentifiers.of_value {α : Type} {read : Reader α} {value : String → α}
    (accepted : ∀ j s, IdentifierForm s j → read j = .ok (value s)) : AcceptsIdentifiers read value where
  number _ low high := (reads_iff (parse?_toString low high)).mpr (accepted _ _ (.number rfl))
  digits n := render_string_toString n ▸ (reads_iff (parse?_string _)).mpr (accepted _ _ .text)

theorem acceptsIdentifiers_identifier : AcceptsIdentifiers .identifier id :=
  .of_value fun _ _ => Reader.identifier_eq_ok_iff.mpr

theorem acceptsIdentifiers_nullable : AcceptsIdentifiers (.nullable .identifier) some :=
  .of_value fun j s form => Reader.nullable_eq_some_iff.mpr
    ⟨accepts_identifier.notNull s j form, accepts_identifier.reads s j form⟩

/-- The reader takes an integer for itself in both forms, and no other value for it. -/
structure AcceptsIntegers {α : Type} (read : Reader α) (value : Int64 → α) : Prop where
  number : ∀ n : Int64, Reads read (toString n.toInt) (value n)
  digits : ∀ n : Int64, Reads read ("\"" ++ toString n.toInt ++ "\"") (value n)
  word : ∀ text n, IsWord text → (Reads read text (value n) ↔ text = toString n.toInt)
  only : ∀ j n, read j = .ok (value n) ↔ j = .int64 n ∨ ∃ s, j = .string s ∧ Text.IsSigned s n.toInt

section Integers
variable {α : Type} {read : Reader α} {value : Int64 → α}

theorem reads_toString (n : Int64) (accepts : read (.int64 n) = .ok (value n)) :
    Reads read (toString n.toInt) (value n) := by
  have low := n.le_toInt
  have high := n.toInt_lt
  exact (reads_iff (parse?_toString (by omega) (by omega))).mpr accepts

theorem AcceptsIntegers.of_value
    (accepted : ∀ j n, read j = .ok (value n) ↔
      j = .int64 n ∨ ∃ s, j = .string s ∧ Text.IsSigned s n.toInt) :
    AcceptsIntegers read value where
  number n := reads_toString n ((accepted _ n).mpr (.inl rfl))
  digits n := render_string_toString n.toInt ▸ (reads_iff (parse?_string _)).mpr
    ((accepted _ n).mpr (.inr ⟨_, rfl, Text.isSigned_toString.mpr rfl⟩))
  word text n word := by
    constructor
    · rintro ⟨j, parsed, read⟩
      rw [parse?_word word] at parsed
      -- A word is never a string, so that the number is all that is left.
      rcases (accepted j n).mp read with rfl | ⟨s, rfl, -⟩
      · exact String.toList_inj.mp (word?_eq_int_iff.mp parsed).1
      · exact absurd parsed word?_ne_string
    · rintro rfl
      exact reads_toString n ((accepted _ n).mpr (.inl rfl))
  only := accepted

theorem acceptsIntegers_integerIdentifier : AcceptsIntegers .integerIdentifier id :=
  .of_value fun _ _ => Reader.integerIdentifier_eq_ok_iff

theorem acceptsIntegers_nullable : AcceptsIntegers (.nullable .integerIdentifier) some :=
  .of_value fun j n => by
    rw [Reader.nullable_eq_some_iff, Reader.integerIdentifier_eq_ok_iff, and_iff_right_of_imp]
    rintro (rfl | ⟨s, rfl, -⟩) <;> nofun

end Integers

end MarketGateway.Json
