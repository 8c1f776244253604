import MarketGateway.Json.Parser
import MarketGateway.Proofs.Text.Integer
import Mathlib.Data.List.Basic
import Mathlib.Data.List.TakeWhile

/-!
# Integers in JSON text

The notation of an integer of 64 bits, signed or unsigned, is a JSON number, and is read as the same
integer: `word?_toString`.
-/

namespace MarketGateway.Json

namespace Number

/-- Only zero begins with a zero. -/
theorem toDigits_head_ne_zero {n : Nat} (positive : 0 < n) : (Nat.toDigits 10 n).head? ≠ some '0' := by
  induction n using Nat.strongRecOn with
  | ind n ih =>
    by_cases small : n < 10
    · rw [Nat.toDigits_of_lt_base small]
      simp only [List.head?_cons, ne_eq, Option.some.injEq, Nat.digitChar_eq_zero]
      omega
    · rw [Nat.toDigits_of_base_le (by decide) (by omega),
        List.head?_append_of_ne_nil _ Nat.toDigits_ne_nil]
      exact ih (n / 10) (by omega) (by omega)

theorem toDigits_wellFormed (n : Nat) :
    ((Nat.toDigits 10 n).head? != some '0' || (Nat.toDigits 10 n).length == 1) = true := by
  rcases Nat.eq_zero_or_pos n with rfl | positive
  · rfl
  · simp [toDigits_head_ne_zero positive]

theorem splitSign_toDigits (n : Nat) : splitSign (Nat.toDigits 10 n) = (false, Nat.toDigits 10 n) := by
  unfold splitSign
  split
  · rename_i cs same
    have sign : '-' ∈ Nat.toDigits 10 n := same ▸ List.mem_cons_self
    exact (Text.ne_of_isDigit (Text.isDigit_of_mem_toDigits sign) rfl rfl).elim
  · rfl

theorem partsOfChars_toDigits {cs : List Char} {negative : Bool} {n : Nat}
    (sign : splitSign cs = (negative, Nat.toDigits 10 n)) :
    Parts.ofChars cs = (⟨negative, Nat.toDigits 10 n, none, none⟩, []) := by
  have digits : ∀ c ∈ Nat.toDigits 10 n, c.isDigit = true := fun _ => Text.isDigit_of_mem_toDigits
  have whole : (Nat.toDigits 10 n).takeWhile Char.isDigit = Nat.toDigits 10 n :=
    List.takeWhile_eq_self_iff.mpr digits
  have rest : (Nat.toDigits 10 n).dropWhile Char.isDigit = [] :=
    List.dropWhile_eq_nil_iff.mpr digits
  unfold Parts.ofChars
  rw [sign]
  dsimp only
  rw [whole, rest]

theorem ofChars?_toString {n : Int} (low : -2 ^ 63 ≤ n) (high : n < 2 ^ 64) :
    ofChars? (toString n).toList = some (.integer n) := by
  have value : Nat.ofDigitChars 10 (Nat.toDigits 10 n.natAbs) 0 = n.natAbs :=
    Nat.ofDigitChars_ten_toDigits
  have sign : splitSign (toString n).toList = (decide (n < 0), Nat.toDigits 10 n.natAbs) := by
    rw [Text.toList_toString_int]
    by_cases negative : n < 0
    · simp [negative, splitSign]
    · simp [negative, splitSign_toDigits]
  have some : (Nat.toDigits 10 n.natAbs).isEmpty = false := by simp [Nat.toDigits_ne_nil]
  have fine : Parts.wellFormed ⟨decide (n < 0), Nat.toDigits 10 n.natAbs, none, none⟩ = true := by
    simp only [Parts.wellFormed, some, toDigits_wellFormed, Option.all_none, Bool.not_false,
      Bool.and_self]
  unfold ofChars?
  rw [partsOfChars_toDigits sign]
  dsimp only
  rw [if_pos fine, Parts.toNumber?]
  simp only [value, Option.isNone_none, Bool.and_self, if_true, decide_eq_true_eq]
  by_cases negative : n < 0
  · rw [if_pos negative, if_pos (by omega)]
    congr 2
    omega
  · rw [if_neg negative, if_pos (by omega)]
    congr 2
    omega

/-! ### The one notation -/

theorem digitChar_of_isDigit {c : Char} (digit : c.isDigit = true) : Nat.digitChar (c.toNat - 48) = c := by
  obtain ⟨low, high⟩ : 48 ≤ c.toNat ∧ c.toNat ≤ 57 := Char.isDigit_iff_toNat.mp digit
  have same := Nat.toNat_digitChar_of_lt_ten (n := c.toNat - 48) (by omega)
  exact Char.toNat_inj.mp (by omega)

/-- Digits behind those of a positive number are the digits of the number that they make of it. -/
theorem toDigits_append_digits {cs : List Char} {value : Nat} (positive : 0 < value)
    (digits : ∀ c ∈ cs, c.isDigit = true) :
    Nat.toDigits 10 value ++ cs = Nat.toDigits 10 (Nat.ofDigitChars 10 cs value) := by
  induction cs generalizing value with
  | nil => exact List.append_nil _
  | cons c cs ih =>
    obtain ⟨here, later⟩ := List.forall_mem_cons.mp digits
    obtain ⟨low, high⟩ : 48 ≤ c.toNat ∧ c.toNat ≤ 57 := Char.isDigit_iff_toNat.mp here
    have last : Nat.toDigits 10 (c.toNat - 48) = [c] := by
      rw [Nat.toDigits_of_lt_base (by omega), digitChar_of_isDigit here]
    have longer : Nat.toDigits 10 value ++ [c] = Nat.toDigits 10 (value * 10 + (c.toNat - 48)) := by
      rw [← last, Nat.toDigits_append_toDigits (by decide) positive (by omega), Nat.mul_comm 10]
    rw [Text.ofDigitChars_cons, ← ih (by omega) later, ← longer, List.append_assoc]
    rfl

/-- A number has one notation without a zero in front of further digits. -/
theorem eq_toDigits {cs : List Char} {n : Nat} (numeral : Text.IsNumeral cs n)
    (canonical : (cs.head? != some '0' || cs.length == 1) = true) : cs = Nat.toDigits 10 n := by
  obtain ⟨nonempty, digits, rfl⟩ := numeral
  obtain ⟨c, cs, rfl⟩ := List.exists_cons_of_ne_nil nonempty
  obtain ⟨here, later⟩ := List.forall_mem_cons.mp digits
  obtain ⟨low, high⟩ : 48 ≤ c.toNat ∧ c.toNat ≤ 57 := Char.isDigit_iff_toNat.mp here
  have first : [c] = Nat.toDigits 10 (c.toNat - 48) := by
    rw [Nat.toDigits_of_lt_base (by omega), digitChar_of_isDigit here]
  rw [Text.ofDigitChars_cons, Nat.zero_mul, Nat.zero_add]
  by_cases zero : c = '0'
  · subst zero
    have single : cs = [] := by simpa using canonical
    rw [single, first]
    rfl
  · have positive : 0 < c.toNat - 48 := by
      have different : c.toNat ≠ 48 := fun same => zero (Char.toNat_inj.mp same)
      omega
    rw [← toDigits_append_digits positive later, ← first]
    rfl

theorem splitSign_eq {cs digits : List Char} {negative : Bool} (split : splitSign cs = (negative, digits)) :
    cs = (if negative then ['-'] else []) ++ digits := by
  unfold splitSign at split
  split at split <;> cases split <;> rfl

/-- Without a point and an exponent there is nothing but the sign and the digits. -/
theorem Parts.ofChars_eq {cs : List Char} {p : Parts} (parts : Parts.ofChars cs = (p, []))
    (whole : p.fraction = none) (plain : p.exponent = none) :
    splitSign cs = (p.negative, p.whole) ∧ ∀ c ∈ p.whole, c.isDigit = true := by
  unfold Parts.ofChars at parts
  generalize splitSign cs = signed at parts ⊢
  obtain ⟨negative, cs⟩ := signed
  have digits : ∀ c ∈ cs.takeWhile Char.isDigit, c.isDigit = true := fun _ => List.mem_takeWhile_imp
  have both : cs.takeWhile Char.isDigit ++ cs.dropWhile Char.isDigit = cs := List.takeWhile_append_dropWhile
  grind

theorem Parts.toNumber?_eq_integer {p : Parts} {n : Int} (number : p.toNumber? = some (.integer n)) :
    p.fraction = none ∧ p.exponent = none ∧ -2 ^ 63 ≤ n ∧ n < 2 ^ 64 ∧
      (p.negative = true ↔ n < 0) ∧ n.natAbs = Nat.ofDigitChars 10 p.whole 0 := by
  have noDouble : p.toDouble?.map Number.double ≠ some (.integer n) := by
    cases p.toDouble? <;> nofun
  unfold Parts.toNumber? at number
  simp only [Bool.and_eq_true, Option.isNone_iff_eq_none] at number
  split at number
  · rename_i integral
    split at number
    · rename_i negative
      split at number
      · obtain rfl := Number.integer.inj (Option.some.inj number)
        refine ⟨integral.1, integral.2, by omega, by omega, ?_, by omega⟩
        simp only [negative, true_iff]
        omega
      · exact absurd number noDouble
    · rename_i negative
      split at number
      · obtain rfl := Number.integer.inj (Option.some.inj number)
        refine ⟨integral.1, integral.2, by omega, by omega, ?_, by omega⟩
        simp only [negative, Bool.false_eq_true, false_iff]
        omega
      · exact absurd number noDouble
  · exact absurd number noDouble

/-- What is an integer is the notation of the integer. -/
theorem ofChars?_eq_integer_iff {cs : List Char} {n : Int} :
    ofChars? cs = some (.integer n) ↔ cs = (toString n).toList ∧ -2 ^ 63 ≤ n ∧ n < 2 ^ 64 := by
  constructor
  · intro number
    unfold ofChars? at number
    split at number
    · rename_i p parts
      split at number
      · rename_i wellFormed
        obtain ⟨whole, plain, low, high, sign, value⟩ := Parts.toNumber?_eq_integer number
        obtain ⟨split, digits⟩ := Parts.ofChars_eq parts whole plain
        simp only [Parts.wellFormed, Bool.and_eq_true, Bool.not_eq_true', List.isEmpty_eq_false_iff]
          at wellFormed
        have same : p.whole = Nat.toDigits 10 n.natAbs :=
          eq_toDigits ⟨wellFormed.1.1.1, digits, value.symm⟩ wellFormed.1.1.2
        refine ⟨?_, low, high⟩
        rw [splitSign_eq split, Text.toList_toString_int, same]
        simp only [sign]
      · cases number
    · cases number
  · rintro ⟨rfl, low, high⟩
    exact ofChars?_toString low high

end Number

/-- What begins like a number is none of the words with letters. -/
theorem word?_eq_number {cs : List Char} {n : Number}
    (first : ∃ c, cs.head? = some c ∧ (c.isDigit || c = '-') = true)
    (number : Number.ofChars? cs = some n) : word? cs = some (.number n) := by
  have other : ∀ w : String, (w.toList.head?.any fun c => c.isDigit || c = '-') = false →
      cs ≠ w.toList := by
    rintro w letter rfl
    obtain ⟨c, begins, digit⟩ := first
    rw [begins, Option.any_some, digit] at letter
    cases letter
  rw [word?, if_neg (other _ (by decide)), if_neg (other _ (by decide)), if_neg (other _ (by decide)),
    number]
  rfl

theorem word?_toString {n : Int} (low : -2 ^ 63 ≤ n) (high : n < 2 ^ 64) :
    word? (toString n).toList = some (.int n) := by
  refine word?_eq_number ?_ (Number.ofChars?_toString low high)
  rw [Text.toList_toString_int]
  by_cases negative : n < 0
  · exact ⟨'-', by simp [negative], by decide⟩
  · obtain ⟨c, cs, digits⟩ := List.exists_cons_of_ne_nil (Nat.toDigits_ne_nil (n := n.natAbs) (b := 10))
    have digit : c.isDigit = true := Text.isDigit_of_mem_toDigits (digits ▸ List.mem_cons_self)
    exact ⟨c, by simp [negative, digits], by simp [digit]⟩

/-- The characters of an integer are none that would end its word. -/
theorem mem_toString {n : Int} {c : Char} (member : c ∈ (toString n).toList) :
    (c.isDigit || c = '-') = true := by
  rw [Text.toList_toString_int] at member
  rcases List.mem_append.mp member with sign | digit
  · split at sign
    · simp [List.mem_singleton.mp sign]
    · cases sign
  · simp [Text.isDigit_of_mem_toDigits digit]

end MarketGateway.Json
