import MarketGateway.Proofs.Json.Readers
import MarketGateway.Proofs.Json.Records

/-!
# Forms of values in members

A value may have several forms in JSON, and a field that may be left out has one more: no member. A
reader that accepts every form of a value makes the field give the value.
-/

namespace MarketGateway.Json

variable {α : Type} {members : List (String × Json)} {name : String} {read : Reader α}
  {form : α → Json → Prop} {a : α}

/-- Under the key there is a form of the value. -/
def Holds (members : List (String × Json)) (key : String) (form : α → Json → Prop) (a : α) : Prop :=
  ∃ j, memberOf? key members = some j ∧ form a j

/-- Without a value there is no member, or `null`. -/
def HoldsOption (members : List (String × Json)) (key : String) (form : α → Json → Prop) :
    Option α → Prop
  | none => memberOf? key members = none ∨ memberOf? key members = some .null
  | some a => Holds members key form a

/-- An empty list may be left out. -/
def HoldsList (members : List (String × Json)) (key : String) (form : List α → Json → Prop)
    (as : List α) : Prop :=
  Holds members key form as ∨ as = [] ∧ memberOf? key members = none

/-- The one form of a value. -/
def Written (write : α → Json) (a : α) (j : Json) : Prop := j = write a

/-- An identifier is written as a string or as a number. -/
inductive IdentifierForm (s : String) : Json → Prop where
  | text : IdentifierForm s (.string s)
  | number {n : Number} (toText : n.toText = s) : IdentifierForm s (.number n)

/-- An integer is written as a number or in a string. -/
inductive IntegerForm (n : Int64) : Json → Prop where
  | number : IntegerForm n (.int64 n)
  | text {s : String} (reads : Text.readInt64 s = .ok n) : IntegerForm n (.string s)

/-- Any value but `null` is a form of itself. -/
def RawForm (value j : Json) : Prop := j = value ∧ j ≠ .null

/-- The reader takes every form of a value for the value. -/
structure Accepts (read : Reader α) (form : α → Json → Prop) : Prop where
  reads : ∀ a j, form a j → read j = .ok a
  notNull : ∀ a j, form a j → j ≠ .null

theorem Accepts.written {write : α → Json} (reads : ∀ a, read (write a) = .ok a)
    (notNull : ∀ a, write a ≠ .null) : Accepts read (Written write) where
  reads a _ is := is ▸ reads a
  notNull a _ is := is ▸ notNull a

theorem accepts_text : Accepts .text (Written .string) := .written (fun _ => rfl) nofun

theorem accepts_bool : Accepts .bool (Written .bool) := .written (fun _ => rfl) nofun

theorem accepts_int64 : Accepts .int64 (Written .int64) := .written Reader.int64_written nofun

theorem accepts_uint32 : Accepts .uint32 (Written .uint32) := .written Reader.uint32_written nofun

theorem accepts_identifier : Accepts .identifier IdentifierForm where
  reads s j form := by
    cases form with
    | text => rfl
    | number toText => exact congrArg Except.ok toText
  notNull s j form := by cases form <;> nofun

theorem accepts_integerIdentifier : Accepts .integerIdentifier IntegerForm where
  reads n j form := by
    cases form with
    | number => exact Reader.integerIdentifier_written n
    | text reads => exact Reader.integerIdentifier_text reads
  notNull n j form := by cases form <;> nofun

theorem accepts_raw : Accepts .raw RawForm where
  reads _ _ form := congrArg Except.ok form.1
  notNull _ _ form := form.2

theorem Holds.required (held : Holds members name form a) (accepts : Accepts read form) :
    (Schema.required name read).Gives members a := by
  obtain ⟨j, found, form⟩ := held
  exact .field found (accepts.reads a j form)

theorem HoldsOption.omittable {o : Option α} (held : HoldsOption members name form o)
    (accepts : Accepts read form) : (Schema.omittable name read).Gives members o := by
  cases o with
  | none =>
    rcases held with absent | null
    · exact .missing absent
    · exact .field null rfl
  | some a =>
    obtain ⟨j, found, form⟩ := held
    exact .field found (Reader.nullable_eq_some (accepts.notNull a j form) (accepts.reads a j form))

theorem HoldsList.withDefault {as : List α} {read : Reader (List α)} {form : List α → Json → Prop}
    (held : HoldsList members name form as) (accepts : Accepts read form) :
    (Schema.withDefault name read []).Gives members as := by
  rcases held with ⟨j, found, form⟩ | ⟨rfl, absent⟩
  · exact .field found (accepts.reads as j form)
  · exact .missing absent

end MarketGateway.Json
