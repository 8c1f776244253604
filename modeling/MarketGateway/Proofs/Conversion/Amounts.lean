import MarketGateway.Proofs.Conversion.Readability

/-!
# Amounts

An amount is a decimal between blanks, or a field that may be left out: `amount_converts` and
`amountOr_converts`. A time in microseconds is cut off to milliseconds: `toInt_microsToMs`.
-/

namespace MarketGateway

namespace Conversion

variable {text : String} {written : Option String} {default : Decimal}

/-- The text is a decimal, perhaps between blanks. -/
def IsAmount (text : String) : Prop := IsDecimal (Text.trim text)

theorem amount_converts (field text : String) :
    Converts (IsAmount text) (fun d => Decimal.ofText (Text.trim text) = .ok d) (amount field text) :=
  decimal_converts (Text.trim text) fun e => .unreadable (.decimal field text e)

theorem amount_eq_ok {field : String} {d : Decimal} :
    amount field text = .ok d ↔ Decimal.ofText (Text.trim text) = .ok d := by
  unfold amount
  cases Decimal.ofText (Text.trim text) <;> simp [Except.mapError]

/-- A field that is absent or blank counts as the default. -/
def amountOr (default : Decimal) (field : String) : Option String → Except Fault Decimal
  | some text => if Text.allBlank text then .ok default else amount field text
  | none => .ok default

theorem amountOrZero_eq (field : String) : amountOrZero field written = amountOr Decimal.zero field written := by
  cases written <;> rfl

/-- The decimal is that of the text, or the default without one. -/
def ReadsOr (default : Decimal) (written : Option String) (d : Decimal) : Prop :=
  match written with
  | some text => if Text.allBlank text then d = default else Decimal.ofText (Text.trim text) = .ok d
  | none => d = default

theorem amountOr_eq_ok {field : String} {d : Decimal} :
    amountOr default field written = .ok d ↔ ReadsOr default written d := by
  cases written with
  | none => simp [amountOr, ReadsOr, eq_comm]
  | some text =>
    simp only [amountOr, ReadsOr]
    split
    · simp [eq_comm]
    · exact amount_eq_ok

theorem ReadsOr.unique {d other : Decimal} (reads : ReadsOr default written d)
    (also : ReadsOr default written other) : d = other := by
  have first : amountOr default "" written = .ok d := amountOr_eq_ok.mpr reads
  have second : amountOr default "" written = .ok other := amountOr_eq_ok.mpr also
  exact Except.ok.inj (first.symm.trans second)

/-- The text is a decimal or blank, or there is none. -/
def IsOptionalAmount (written : Option String) : Prop :=
  ∀ text, written = some text → Text.allBlank text = false → IsAmount text

theorem amountOr_converts (default : Decimal) (field : String) (written : Option String) :
    Converts (IsOptionalAmount written) (ReadsOr default written) (amountOr default field written) := by
  cases written with
  | none => exact .ok nofun rfl
  | some text =>
    cases blank : Text.allBlank text with
    | true =>
      rw [amountOr, if_pos blank]
      refine .ok ?_ (by rw [ReadsOr, if_pos blank])
      intro other same visible
      cases same
      cases blank.symm.trans visible
    | false =>
      have same : IsAmount text ↔ IsOptionalAmount (some text) := by
        refine ⟨fun readable other same _ => ?_, fun optional => optional text rfl blank⟩
        cases same
        exact readable
      have right : ReadsOr default (some text) = fun d => Decimal.ofText (Text.trim text) = .ok d := by
        funext d
        simp only [ReadsOr, blank, Bool.false_eq_true, ↓reduceIte]
      rw [amountOr, if_neg (by simp [blank]), right]
      exact (amount_converts field text).of_iff same

/-- There is no text, or a blank one. -/
def IsMissing (written : Option String) : Prop := ∀ text, written = some text → Text.allBlank text = true

/-- There is a text, and it is neither blank nor an amount. -/
def IsUnreadable (written : Option String) : Prop :=
  ∃ text, written = some text ∧ Text.allBlank text = false ∧ ¬ IsAmount text

theorem not_isOptionalAmount_iff : ¬ IsOptionalAmount written ↔ IsUnreadable written := by
  simp only [IsOptionalAmount, IsUnreadable, Classical.not_forall, exists_prop]

theorem ReadsOr.of_missing {d : Decimal} (reads : ReadsOr default written d) (missing : IsMissing written) :
    d = default := by
  cases written with
  | none => exact reads
  | some text =>
    rw [ReadsOr, if_pos (missing text rfl)] at reads
    exact reads

/-! ### Times -/

theorem toInt_microsToMs (micros : Int64) : (microsToMs micros).toInt = micros.toInt.tdiv 1000 :=
  Int64.toInt_div_of_ne_right micros 1000 (by decide)

end Conversion

end MarketGateway
