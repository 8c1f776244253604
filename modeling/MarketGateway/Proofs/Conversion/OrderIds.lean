import Mathlib.Data.Nat.Digits.Defs
import MarketGateway.Conversion.ClientId
import MarketGateway.Proofs.Text.Integer

/-!
# Order ids and their numbers

A number and its order id can be told from each other, and the order ids that have a number are described
exactly: `ofOrderId?_eq_some_iff`. New order ids are short enough to stay whole.
-/

namespace MarketGateway.ClientId

variable {orderId : String} {n : UInt32}

/-- The order id is the mark and the digits of the number, also with a plus sign between them. -/
def IsNumbered (orderId : String) (n : UInt32) : Prop :=
  ∃ digits, Text.IsNumeral digits n.toNat ∧
    (orderId.toList = mark.toList ++ digits ∨ orderId.toList = mark.toList ++ '+' :: digits)

theorem isNumbered_toOrderId (n : UInt32) : IsNumbered (toOrderId n) n := by
  refine ⟨Nat.toDigits 10 n.toNat, Text.isNumeral_toDigits n.toNat, .inl ?_⟩
  rw [toOrderId, String.toList_append, Text.toList_toString_nat]

theorem ofOrderId?_of_marked {rest : List Char} (marked : orderId.toList = mark.toList ++ rest) :
    ofOrderId? orderId = (Text.readUInt32 (String.ofList rest)).toOption := by
  have start : Text.startsWith orderId mark = true := by
    rw [Text.startsWith, List.isPrefixOf_iff_prefix, marked]
    exact List.prefix_append mark.toList rest
  have dropped : orderId.toList.drop mark.length = rest := by
    rw [marked]
    exact List.drop_left
  rw [ofOrderId?, if_pos start, dropped]

theorem marked_of_ofOrderId? (numbered : ofOrderId? orderId = some n) :
    ∃ rest, orderId.toList = mark.toList ++ rest := by
  unfold ofOrderId? at numbered
  split at numbered
  · rename_i start
    rw [Text.startsWith, List.isPrefixOf_iff_prefix] at start
    obtain ⟨rest, marked⟩ := start
    exact ⟨rest, marked.symm⟩
  · cases numbered

/-- An order id has a number exactly if it is the mark followed by a number of 32 bits. -/
theorem ofOrderId?_eq_some_iff : ofOrderId? orderId = some n ↔ IsNumbered orderId n := by
  have toOption : ∀ rest, (Text.readUInt32 (String.ofList rest)).toOption = some n ↔
      Text.IsUnsigned (String.ofList rest) n.toNat := by
    intro rest
    rw [← Text.readUInt32_eq_ok_iff]
    cases Text.readUInt32 (String.ofList rest) <;> simp [Except.toOption]
  constructor
  · intro numbered
    obtain ⟨rest, marked⟩ := marked_of_ofOrderId? numbered
    rw [ofOrderId?_of_marked marked, toOption] at numbered
    obtain ⟨digits, numeral, same | same⟩ := numbered
    · rw [String.toList_ofList] at same
      exact ⟨digits, numeral, .inl (same ▸ marked)⟩
    · rw [String.toList_ofList] at same
      exact ⟨digits, numeral, .inr (same ▸ marked)⟩
  · rintro ⟨digits, numeral, marked | marked⟩
    · rw [ofOrderId?_of_marked marked, toOption]
      exact ⟨digits, numeral, .inl String.toList_ofList⟩
    · rw [ofOrderId?_of_marked marked, toOption]
      exact ⟨digits, numeral, .inr String.toList_ofList⟩

theorem ofOrderId?_toOrderId (n : UInt32) : ofOrderId? (toOrderId n) = some n :=
  ofOrderId?_eq_some_iff.mpr (isNumbered_toOrderId n)

theorem toOrderId_injective : Function.Injective toOrderId := by
  intro m n same
  have read := ofOrderId?_toOrderId m
  rw [same, ofOrderId?_toOrderId] at read
  exact (Option.some.inj read).symm

/-- A mark and ten digits. -/
theorem length_toOrderId_le (n : UInt32) : (toOrderId n).toList.length ≤ 14 := by
  have small : n.toNat < 10 ^ 10 := Nat.lt_trans n.toNat_lt (by decide)
  have digits := Nat.toDigits_length 10 n.toNat 10 (by decide) small
  have marked : mark.toList.length = 4 := rfl
  rw [toOrderId, String.toList_append, Text.toList_toString_nat, List.length_append]
  omega

/-- No new order id is cut. -/
theorem newOrderId_eq (last : UInt32) (timestampMs : Int64) :
    newOrderId last timestampMs = (toOrderId (next last timestampMs), next last timestampMs) := by
  have short : (toOrderId (next last timestampMs)).toList.length ≤ maxOrderIdLength :=
    Nat.le_trans (length_toOrderId_le _) (by decide)
  rw [newOrderId, List.take_of_length_le short, String.ofList_toList]

end MarketGateway.ClientId
