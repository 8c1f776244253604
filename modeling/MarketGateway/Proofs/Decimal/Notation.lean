import MarketGateway.Decimal.Reading
import MarketGateway.Proofs.Text.Integer
import Mathlib.Data.List.TakeWhile
import Mathlib.Data.Nat.Digits.Defs

/-!
# Reading decimals back

A decimal is read back from its notation, with its coefficient, its scale and its sign; only a zero
loses its sign. Main statement: `ofText_toText`.
-/

namespace MarketGateway.Decimal

variable {cs rest : List Char} {value : Nat}

/-! ### Digits -/

theorem readWhole_digits {seen : Bool} (digits : ∀ c ∈ cs, c.isDigit = true)
    (small : Nat.ofDigitChars 10 cs value < 2 ^ 96) (value_lt : value < 2 ^ 96) :
    readWhole seen value value_lt (cs ++ rest) =
      readWhole (seen || !cs.isEmpty) (Nat.ofDigitChars 10 cs value) small rest := by
  induction cs generalizing seen value with
  | nil => simp
  | cons c cs ih =>
    obtain ⟨here, later⟩ := List.forall_mem_cons.mp digits
    have same := Text.ofDigitChars_cons value c cs
    have next : value * 10 + (c.toNat - 48) < 2 ^ 96 :=
      Nat.lt_of_le_of_lt (Text.le_ofDigitChars _ cs) (same ▸ small)
    rw [List.cons_append, readWhole, Text.digit?_eq_some here]
    dsimp only
    rw [dif_pos next, ih later (same ▸ small) next]
    simp [same]

theorem readFraction_digits {seen : Bool} {m : Magnitude} (digits : ∀ c ∈ cs, c.isDigit = true)
    (small : Nat.ofDigitChars 10 cs m.value < 2 ^ 96) (places : m.scale + cs.length ≤ 28)
    (some : seen = true ∨ cs ≠ []) :
    readFraction seen m cs =
      .ok ⟨Nat.ofDigitChars 10 cs m.value, m.scale + cs.length, small, places⟩ := by
  induction cs generalizing seen m with
  | nil =>
    have seen : seen = true := by simpa using some
    rw [readFraction, if_pos seen]
    simp
  | cons c cs ih =>
    obtain ⟨here, later⟩ := List.forall_mem_cons.mp digits
    have same := Text.ofDigitChars_cons m.value c cs
    have next : m.value * 10 + (c.toNat - 48) < 2 ^ 96 :=
      Nat.lt_of_le_of_lt (Text.le_ofDigitChars _ cs) (same ▸ small)
    rw [List.length_cons] at places
    rw [readFraction, Text.digit?_eq_some here]
    dsimp only
    rw [dif_pos ⟨by omega, next⟩, ih later (same ▸ small) (by dsimp only; omega) (.inl rfl)]
    simp only [same, List.length_cons, Except.ok.injEq, Magnitude.mk.injEq, true_and]
    omega

/-! ### The notation -/

theorem mem_paddedDigits {width n : Nat} {c : Char} (member : c ∈ paddedDigits width n) :
    c.isDigit = true := by
  rcases List.mem_append.mp member with zero | digit
  · rw [List.eq_of_mem_replicate zero]
    rfl
  · exact Text.isDigit_of_mem_toDigits digit

theorem ofDigitChars_paddedDigits (width n : Nat) :
    Nat.ofDigitChars 10 (paddedDigits width n) 0 = n := by
  rw [paddedDigits, Nat.ofDigitChars_append, Nat.ofDigitChars_replicate_zero, Nat.mul_zero,
    Nat.ofDigitChars_ten_toDigits]

theorem le_length_paddedDigits (width n : Nat) : width ≤ (paddedDigits width n).length := by
  rw [paddedDigits, List.length_append, List.length_replicate]
  omega

theorem length_paddedDigits {width n : Nat} (some : 0 < width) (small : n < 10 ^ width) :
    (paddedDigits width n).length = width := by
  have digits := Nat.toDigits_length 10 n width some small
  rw [paddedDigits, List.length_append, List.length_replicate]
  omega

theorem paddedDigits_ne_nil (width n : Nat) : paddedDigits width n ≠ [] := by
  simp [paddedDigits, Nat.toDigits_ne_nil]

theorem paddedDigits_eq_cons (width n : Nat) :
    ∃ c cs, paddedDigits width n = c :: cs ∧ c.isDigit = true := by
  obtain ⟨c, cs, written⟩ := List.exists_cons_of_ne_nil (paddedDigits_ne_nil width n)
  exact ⟨c, cs, written, mem_paddedDigits (written ▸ List.mem_cons_self)⟩

/-- Digits with a point among them, unless it would come last. -/
def pointed (whole fraction : List Char) : List Char :=
  whole ++ if fraction.isEmpty then [] else '.' :: fraction

/-- The point counts the digits behind it. -/
theorem readUnsigned_pointed {whole fraction : List Char}
    (digits : ∀ c ∈ whole ++ fraction, c.isDigit = true) (nonempty : whole ≠ [])
    (small : Nat.ofDigitChars 10 (whole ++ fraction) 0 < 2 ^ 96) (places : fraction.length ≤ 28) :
    readUnsigned (pointed whole fraction) =
      .ok ⟨Nat.ofDigitChars 10 (whole ++ fraction) 0, fraction.length, small, places⟩ := by
  obtain ⟨before, behind⟩ := List.forall_mem_append.mp digits
  have split := Nat.ofDigitChars_append (b := 10) (l := whole) (m := fraction) 0
  have smallWhole : Nat.ofDigitChars 10 whole 0 < 2 ^ 96 :=
    Nat.lt_of_le_of_lt (Text.le_ofDigitChars _ fraction) (split ▸ small)
  have seen : (false || !whole.isEmpty) = true := by simp [nonempty]
  rw [readUnsigned, pointed, readWhole_digits before smallWhole]
  simp only [seen]
  cases fraction with
  | nil => simp [readWhole]
  | cons c fraction =>
    have noDigit : Text.digit? '.' = none := rfl
    have rest : (if (c :: fraction).isEmpty then [] else '.' :: c :: fraction) = '.' :: c :: fraction :=
      rfl
    rw [rest, readWhole, noDigit]
    dsimp only
    rw [if_pos rfl, readFraction_digits behind (split ▸ small) (by simpa using places) (.inl rfl)]
    simp [split]

/-- A decimal is written with its sign and its digits, as many of them behind the point as its scale
says. -/
theorem toText_eq (d : Decimal) : ∃ whole fraction,
    d.toText.toList = (if d.negative then ['-'] else []) ++ pointed whole fraction ∧
      (∀ c ∈ whole ++ fraction, c.isDigit = true) ∧ whole ≠ [] ∧ fraction.length = d.scale ∧
      Nat.ofDigitChars 10 (whole ++ fraction) 0 = d.value := by
  have long := le_length_paddedDigits (d.scale + 1) d.value
  have value := ofDigitChars_paddedDigits (d.scale + 1) d.value
  have digits : ∀ c ∈ paddedDigits (d.scale + 1) d.value, c.isDigit = true := fun _ => mem_paddedDigits
  unfold toText
  generalize paddedDigits (d.scale + 1) d.value = padded at long value digits
  rw [← List.take_append_drop (padded.length - d.scale) padded] at value digits
  refine ⟨padded.take (padded.length - d.scale), padded.drop (padded.length - d.scale), ?_, digits, ?_,
    ?_, value⟩
  · rw [String.toList_ofList, List.append_assoc]
    rfl
  · -- The digits are padded to one more than the scale, so that one is left before the point.
    intro empty
    have none := congrArg List.length empty
    rw [List.length_take, List.length_nil] at none
    omega
  · rw [List.length_drop]
    omega

/-- Only a zero has to be without a sign to come back. -/
def HasPlainZero (d : Decimal) : Prop := d.negative = true → d.value ≠ 0

theorem ofMagnitude_eq {d : Decimal} (plain : d.HasPlainZero) :
    ofMagnitude d.negative d.toMagnitude = d := by
  have sign : (d.negative && d.value != 0) = d.negative := by
    cases negative : d.negative with
    | false => rfl
    | true => simpa using plain negative
  rw [ofMagnitude, sign]

/-- A text without a power of ten is read as it stands. -/
theorem ofChars_of_plain (plain : ∀ c ∈ cs, isPowerMark c = false) : ofChars cs = readPositional cs := by
  have all : cs.takeWhile (fun c => !isPowerMark c) = cs :=
    List.takeWhile_eq_self_iff.mpr fun c member => by simp [plain c member]
  have none : cs.dropWhile (fun c => !isPowerMark c) = [] :=
    List.dropWhile_eq_nil_iff.mpr fun c member => by simp [plain c member]
  rw [ofChars, all, none]
  cases readPositional cs <;> rfl

theorem readPositional_signed {negative : Bool} {c : Char} (digit : c.isDigit = true) :
    readPositional ((if negative then ['-'] else []) ++ c :: cs) =
      (readUnsigned (c :: cs)).map (ofMagnitude negative) := by
  cases negative with
  | true => rfl
  | false =>
    simp only [Bool.false_eq_true, if_false, List.nil_append]
    unfold readPositional
    split
    · contradiction
    · rename_i same
      exact (Text.ne_of_isDigit digit rfl (List.cons.inj same).1).elim
    · rename_i same
      exact (Text.ne_of_isDigit digit rfl (List.cons.inj same).1).elim
    · rfl

theorem isPowerMark_eq_false {c : Char} (digit : c.isDigit = true) : isPowerMark c = false := by
  simp only [isPowerMark, Bool.or_eq_false_iff, decide_eq_false_iff_not]
  exact ⟨Text.ne_of_isDigit digit rfl, Text.ne_of_isDigit digit rfl⟩

theorem toMagnitude_ext {d : Decimal} {m : Magnitude} (value : m.value = d.value)
    (scale : m.scale = d.scale) : m = d.toMagnitude := by
  obtain ⟨⟨_, _, _, _⟩, _⟩ := d
  obtain ⟨_, _, _, _⟩ := m
  simp_all

theorem isPowerMark_pointed {whole fraction : List Char} {c : Char}
    (digits : ∀ c ∈ whole ++ fraction, c.isDigit = true) (member : c ∈ pointed whole fraction) :
    isPowerMark c = false := by
  rcases List.mem_append.mp member with before | behind
  · exact isPowerMark_eq_false (digits c (List.mem_append_left _ before))
  · split at behind
    · cases behind
    · rcases List.mem_cons.mp behind with rfl | later
      · rfl
      · exact isPowerMark_eq_false (digits c (List.mem_append_right _ later))

theorem ofText_toText {d : Decimal} (plain : d.HasPlainZero) : ofText d.toText = .ok d := by
  obtain ⟨whole, fraction, written, digits, nonempty, places, value⟩ := d.toText_eq
  have small : Nat.ofDigitChars 10 (whole ++ fraction) 0 < 2 ^ 96 := value ▸ d.value_lt
  have few : fraction.length ≤ 28 := places ▸ d.scale_le
  have magnitude : ⟨_, _, small, few⟩ = d.toMagnitude := toMagnitude_ext value places
  have unsigned := (readUnsigned_pointed digits nonempty small few).trans (congrArg _ magnitude)
  have plainChars : ∀ c ∈ (if d.negative then ['-'] else []) ++ pointed whole fraction,
      isPowerMark c = false := by
    intro c member
    rcases List.mem_append.mp member with sign | member
    · split at sign
      · rw [List.mem_singleton.mp sign]
        rfl
      · cases sign
    · exact isPowerMark_pointed digits member
  obtain ⟨c, cs, first⟩ : ∃ c cs, pointed whole fraction = c :: cs :=
    List.exists_cons_of_ne_nil (List.append_ne_nil_of_left_ne_nil nonempty _)
  have digit : c.isDigit = true := by
    obtain ⟨d, ds, rfl⟩ := List.exists_cons_of_ne_nil nonempty
    rw [← (List.cons.inj first).1]
    exact digits d (List.mem_append_left _ List.mem_cons_self)
  rw [ofText, written, ofChars_of_plain plainChars, first, readPositional_signed digit, ← first, unsigned]
  exact congrArg Except.ok (ofMagnitude_eq plain)

end MarketGateway.Decimal
