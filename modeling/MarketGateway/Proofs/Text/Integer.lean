import MarketGateway.Text.Integer

/-!
# Reading integers

An integer that is within the bounds is read back from its decimal notation: `readBetween_toString`. What
is read is one or more digits with an optional sign in front, and nothing else: `readBetween_eq_ok_iff`.
-/

namespace MarketGateway.Text

/-! ### Digits -/

theorem toList_toString_nat (n : Nat) : (toString n).toList = Nat.toDigits 10 n := by
  rw [Nat.toString_eq_ofList_toDigits, String.toList_ofList]

theorem toList_toString_int (n : Int) :
    (toString n).toList = (if n < 0 then ['-'] else []) ++ Nat.toDigits 10 n.natAbs := by
  cases n with
  | ofNat n =>
    have nonnegative : ¬ Int.ofNat n < 0 := Int.not_lt.mpr (Int.natCast_nonneg n)
    rw [if_neg nonnegative]
    exact toList_toString_nat n
  | negSucc n =>
    rw [if_pos (Int.negSucc_lt_zero n)]
    change ("-" ++ toString (n + 1)).toList = _
    rw [String.toList_append, toList_toString_nat]
    rfl

theorem isDigit_of_mem_toDigits {n : Nat} {c : Char} (member : c ∈ Nat.toDigits 10 n) :
    c.isDigit = true :=
  Nat.isDigit_of_mem_toDigits (by decide) (by decide) member

theorem ne_of_isDigit {c other : Char} (digit : c.isDigit = true) (none : other.isDigit = false) :
    c ≠ other := by
  rintro rfl
  cases digit.symm.trans none

theorem digit?_eq_some {c : Char} (digit : c.isDigit = true) : digit? c = some (c.toNat - 48) :=
  if_pos digit

theorem ofDigitChars_cons (value : Nat) (c : Char) (cs : List Char) :
    Nat.ofDigitChars 10 (c :: cs) value = Nat.ofDigitChars 10 cs (value * 10 + (c.toNat - 48)) := by
  rw [Nat.ofDigitChars_cons, Nat.mul_comm]
  rfl

theorem le_ofDigitChars (value : Nat) (cs : List Char) : value ≤ Nat.ofDigitChars 10 cs value := by
  rw [Nat.ofDigitChars_eq_ofDigitChars_zero]
  have one : 1 ≤ 10 ^ cs.length := Nat.one_le_pow _ _ (by decide)
  have grown := Nat.mul_le_mul_right value one
  omega

/-! ### Reading -/

theorem readDigits_eq_ok {limit value : Nat} {overflow : IntegerError} {cs : List Char}
    (digits : ∀ c ∈ cs, c.isDigit = true) (within : Nat.ofDigitChars 10 cs value ≤ limit) :
    readDigits limit overflow value cs = .ok (Nat.ofDigitChars 10 cs value) := by
  induction cs generalizing value with
  | nil => rfl
  | cons c cs ih =>
    rw [ofDigitChars_cons] at within ⊢
    have fits := Nat.le_trans (le_ofDigitChars (value * 10 + (c.toNat - 48)) cs) within
    rw [readDigits, digit?_eq_some (digits c List.mem_cons_self)]
    dsimp only
    rw [if_pos fits]
    exact ih (fun d member => digits d (List.mem_cons_of_mem c member)) within

theorem readSigned_toDigits {limit n : Nat} {overflow : IntegerError} (within : n ≤ limit) :
    readSigned limit overflow (Nat.toDigits 10 n) = .ok n := by
  have some : (Nat.toDigits 10 n).isEmpty = false := by simp [Nat.toDigits_ne_nil]
  have value : Nat.ofDigitChars 10 (Nat.toDigits 10 n) 0 = n := Nat.ofDigitChars_ten_toDigits
  rw [readSigned, some, if_neg Bool.false_ne_true,
    readDigits_eq_ok (fun _ => isDigit_of_mem_toDigits) (by rwa [value]), value]

theorem readBetween_toString {below above : Nat} {n : Int} (low : -(below : Int) ≤ n)
    (high : n ≤ above) : readBetween below above (toString n) = .ok n := by
  unfold readBetween
  rw [toList_toString_int]
  by_cases negative : n < 0
  · have nonzero : below ≠ 0 := by omega
    have value : -Int.ofNat n.natAbs = n := by
      change -((n.natAbs : Nat) : Int) = n
      omega
    simp only [negative, if_true, List.cons_append, List.nil_append, nonzero, if_false]
    rw [readSigned_toDigits (by omega), Except.map, value]
  · have value : Int.ofNat n.natAbs = n := by
      change ((n.natAbs : Nat) : Int) = n
      omega
    have read : readSigned above .tooLarge (Nat.toDigits 10 n.natAbs) = .ok n.natAbs :=
      readSigned_toDigits (by omega)
    simp only [negative, if_false, List.nil_append]
    cases written : Nat.toDigits 10 n.natAbs with
    | nil => exact absurd written Nat.toDigits_ne_nil
    | cons c cs =>
      have digit : c.isDigit = true := isDigit_of_mem_toDigits (written ▸ List.mem_cons_self)
      rw [written] at read
      -- A digit is none of the signs.
      split
      · contradiction
      · rename_i same
        exact (ne_of_isDigit digit rfl (List.cons.inj same).1).elim
      · rename_i same
        exact (ne_of_isDigit digit rfl (List.cons.inj same).1).elim
      · rw [read, Except.map, value]

/-! ### What is read -/

/-- One or more digits, and the number that they stand for. -/
structure IsNumeral (cs : List Char) (n : Nat) : Prop where
  nonempty : cs ≠ []
  digits : ∀ c ∈ cs, c.isDigit = true
  value : Nat.ofDigitChars 10 cs 0 = n

theorem isNumeral_toDigits (n : Nat) : IsNumeral (Nat.toDigits 10 n) n :=
  ⟨Nat.toDigits_ne_nil, fun _ => isDigit_of_mem_toDigits, Nat.ofDigitChars_ten_toDigits⟩

theorem IsNumeral.head_ne {c other : Char} {cs : List Char} {n : Nat} (numeral : IsNumeral (c :: cs) n)
    (none : other.isDigit = false) : c ≠ other :=
  ne_of_isDigit (numeral.digits c List.mem_cons_self) none

theorem readDigits_eq_ok_iff {limit value n : Nat} {overflow : IntegerError} {cs : List Char}
    (start : value ≤ limit) :
    readDigits limit overflow value cs = .ok n ↔
      (∀ c ∈ cs, c.isDigit = true) ∧ Nat.ofDigitChars 10 cs value = n ∧ n ≤ limit := by
  constructor
  · intro read
    induction cs generalizing value with
    | nil =>
      obtain rfl := Except.ok.inj read
      exact ⟨nofun, rfl, start⟩
    | cons c cs ih =>
      rw [readDigits] at read
      cases digit : c.isDigit with
      | false =>
        simp only [digit?, digit, Bool.false_eq_true, if_false] at read
        cases read
      | true =>
        simp only [digit?_eq_some digit] at read
        split at read
        · rename_i fits
          obtain ⟨digits, same, within⟩ := ih fits read
          exact ⟨List.forall_mem_cons.mpr ⟨digit, digits⟩, by rwa [ofDigitChars_cons], within⟩
        · cases read
  · rintro ⟨digits, rfl, within⟩
    exact readDigits_eq_ok digits within

theorem readSigned_eq_ok_iff {limit n : Nat} {overflow : IntegerError} {cs : List Char} :
    readSigned limit overflow cs = .ok n ↔ IsNumeral cs n ∧ n ≤ limit := by
  unfold readSigned
  cases cs with
  | nil =>
    constructor
    · intro read
      cases read
    · rintro ⟨numeral, -⟩
      exact (numeral.nonempty rfl).elim
  | cons c cs =>
    rw [List.isEmpty_cons, if_neg Bool.false_ne_true, readDigits_eq_ok_iff (Nat.zero_le limit)]
    constructor
    · rintro ⟨digits, value, within⟩
      exact ⟨⟨List.cons_ne_nil c cs, digits, value⟩, within⟩
    · rintro ⟨numeral, within⟩
      exact ⟨numeral.digits, numeral.value, within⟩

/-- The text is the digits of the number, also with a plus sign in front. -/
def IsUnsigned (s : String) (n : Nat) : Prop :=
  ∃ digits, IsNumeral digits n ∧ (s.toList = digits ∨ s.toList = '+' :: digits)

/-- The text is a minus sign and the digits of the number. -/
def IsMinus (s : String) (n : Nat) : Prop := ∃ digits, IsNumeral digits n ∧ s.toList = '-' :: digits

theorem map_eq_ok {α β ε : Type} {x : Except ε α} {f : α → β} {b : β} :
    x.map f = .ok b ↔ ∃ a, x = .ok a ∧ f a = b := by
  cases x <;> simp [Except.map]

theorem mapError_eq_ok {ε η α : Type} {x : Except ε α} {f : ε → η} {a : α} :
    x.mapError f = .ok a ↔ x = .ok a := by
  cases x with
  | ok b =>
    constructor
    · intro mapped
      exact congrArg Except.ok (Except.ok.inj mapped)
    · intro same
      exact congrArg Except.ok (Except.ok.inj same)
  | error e => exact ⟨nofun, nofun⟩

/-- Digits after an optional sign are read, if their number is within the bounds, and nothing else is. -/
theorem readBetween_eq_ok_iff {below above : Nat} {s : String} {n : Int} :
    readBetween below above s = .ok n ↔
      (∃ m ≤ above, IsUnsigned s m ∧ n = m) ∨ ∃ m ≤ below, 0 < below ∧ IsMinus s m ∧ n = -m := by
  unfold readBetween IsUnsigned IsMinus
  split
  · rename_i none
    simp only [none, reduceCtorEq, false_iff]
    rintro (⟨m, -, ⟨digits, numeral, same | same⟩, -⟩ | ⟨m, -, -, ⟨digits, -, same⟩, -⟩)
    · exact numeral.nonempty same.symm
    · cases same
    · cases same
  · rename_i cs written
    rw [map_eq_ok, written]
    constructor
    · rintro ⟨m, read, rfl⟩
      obtain ⟨numeral, within⟩ := readSigned_eq_ok_iff.mp read
      exact .inl ⟨m, within, ⟨cs, numeral, .inr rfl⟩, rfl⟩
    · rintro (⟨m, within, ⟨digits, numeral, same | same⟩, rfl⟩ | ⟨m, -, -, ⟨digits, -, same⟩, -⟩)
      · subst same
        exact (numeral.head_ne rfl rfl).elim
      · obtain rfl := (List.cons.inj same).2
        exact ⟨m, readSigned_eq_ok_iff.mpr ⟨numeral, within⟩, rfl⟩
      · cases (List.cons.inj same).1
  · rename_i cs written
    rw [written]
    constructor
    · intro read
      split at read
      · cases read
      · rename_i signed
        obtain ⟨m, digits, rfl⟩ := map_eq_ok.mp read
        obtain ⟨numeral, within⟩ := readSigned_eq_ok_iff.mp digits
        exact .inr ⟨m, within, Nat.pos_of_ne_zero signed, ⟨cs, numeral, rfl⟩, rfl⟩
    · rintro (⟨m, -, ⟨digits, numeral, same | same⟩, -⟩ | ⟨m, within, signed, ⟨digits, numeral, same⟩, rfl⟩)
      · subst same
        exact (numeral.head_ne rfl rfl).elim
      · cases (List.cons.inj same).1
      · obtain rfl := (List.cons.inj same).2
        rw [if_neg (Nat.ne_of_gt signed), map_eq_ok]
        exact ⟨m, readSigned_eq_ok_iff.mpr ⟨numeral, within⟩, rfl⟩
  · rename_i cs notEmpty notPlus notMinus
    rw [map_eq_ok]
    constructor
    · rintro ⟨m, read, rfl⟩
      obtain ⟨numeral, within⟩ := readSigned_eq_ok_iff.mp read
      exact .inl ⟨m, within, ⟨_, numeral, .inl rfl⟩, rfl⟩
    · rintro (⟨m, within, ⟨digits, numeral, same | same⟩, rfl⟩ | ⟨m, -, -, ⟨digits, -, same⟩, -⟩)
      · subst same
        exact ⟨m, readSigned_eq_ok_iff.mpr ⟨numeral, within⟩, rfl⟩
      · exact (notPlus digits same).elim
      · exact (notMinus digits same).elim

/-- There is nothing but digits and signs in a text that is read. -/
theorem mem_of_readBetween {below above : Nat} {s : String} {n : Int} {c : Char}
    (read : readBetween below above s = .ok n) (member : c ∈ s.toList) :
    c = '+' ∨ c = '-' ∨ c.isDigit = true := by
  obtain ⟨m, -, ⟨digits, numeral, same | same⟩, -⟩ | ⟨m, -, -, ⟨digits, numeral, same⟩, -⟩ :=
    readBetween_eq_ok_iff.mp read
  · exact .inr (.inr (numeral.digits c (same ▸ member)))
  · obtain rfl | later := List.mem_cons.mp (same ▸ member)
    · exact .inl rfl
    · exact .inr (.inr (numeral.digits c later))
  · obtain rfl | later := List.mem_cons.mp (same ▸ member)
    · exact .inr (.inl rfl)
    · exact .inr (.inr (numeral.digits c later))

theorem readUInt32_eq_ok_iff {s : String} {n : UInt32} : readUInt32 s = .ok n ↔ IsUnsigned s n.toNat := by
  rw [readUInt32, map_eq_ok]
  constructor
  · rintro ⟨k, read, rfl⟩
    obtain ⟨m, within, unsigned, rfl⟩ | ⟨m, -, signed, -⟩ := readBetween_eq_ok_iff.mp read
    · have value : (UInt32.ofNat (m : Int).toNat).toNat = m := by
        rw [Int.toNat_natCast, UInt32.toNat_ofNat', Nat.mod_eq_of_lt (by omega)]
      rwa [value]
    · exact (Nat.lt_irrefl 0 signed).elim
  · intro unsigned
    have small := n.toNat_lt
    refine ⟨n.toNat, readBetween_eq_ok_iff.mpr (.inl ⟨n.toNat, by omega, unsigned, rfl⟩), ?_⟩
    rw [Int.toNat_natCast, UInt32.ofNat_toNat]

/-- The text is one or more digits that stand for the absolute value of the number, with its sign in
front; a plus sign may be left out. -/
def IsSigned (s : String) (n : Int) : Prop := ∃ m : Nat, IsUnsigned s m ∧ n = m ∨ IsMinus s m ∧ n = -m

/-- An integer is read from an optional sign and digits that stand for it, and from nothing else. -/
theorem readInt64_eq_ok_iff {s : String} {n : Int64} : readInt64 s = .ok n ↔ IsSigned s n.toInt := by
  have low := n.le_toInt
  have high := n.toInt_lt
  rw [readInt64, map_eq_ok]
  constructor
  · rintro ⟨k, read, rfl⟩
    obtain ⟨m, within, unsigned, rfl⟩ | ⟨m, within, -, minus, rfl⟩ := readBetween_eq_ok_iff.mp read
    · exact ⟨m, .inl ⟨unsigned, Int64.toInt_ofInt_of_le (by omega) (by omega)⟩⟩
    · exact ⟨m, .inr ⟨minus, Int64.toInt_ofInt_of_le (by omega) (by omega)⟩⟩
  · rintro ⟨m, signed⟩
    refine ⟨n.toInt, readBetween_eq_ok_iff.mpr ?_, Int64.ofInt_toInt n⟩
    rcases signed with ⟨unsigned, value⟩ | ⟨minus, value⟩
    · exact .inl ⟨m, by omega, unsigned, value⟩
    · exact .inr ⟨m, by omega, by decide, minus, value⟩

/-- The notation of an integer stands for nothing else. -/
theorem isSigned_toString {k n : Int} : IsSigned (toString k) n ↔ n = k := by
  -- With bounds that are far enough both numbers are read, and only one of them can be.
  have back : readBetween (k.natAbs + n.natAbs + 1) (k.natAbs + n.natAbs + 1) (toString k) = .ok k :=
    readBetween_toString (by omega) (by omega)
  constructor
  · rintro ⟨m, signed⟩
    have read : readBetween (k.natAbs + n.natAbs + 1) (k.natAbs + n.natAbs + 1) (toString k) = .ok n := by
      refine readBetween_eq_ok_iff.mpr ?_
      rcases signed with ⟨unsigned, value⟩ | ⟨minus, value⟩
      · exact .inl ⟨m, by omega, unsigned, value⟩
      · exact .inr ⟨m, by omega, by omega, minus, value⟩
    exact Except.ok.inj (read.symm.trans back)
  · rintro rfl
    obtain ⟨m, -, unsigned, value⟩ | ⟨m, -, -, minus, value⟩ := readBetween_eq_ok_iff.mp back
    · exact ⟨m, .inl ⟨unsigned, value⟩⟩
    · exact ⟨m, .inr ⟨minus, value⟩⟩

theorem readInt64_toString (n : Int64) : readInt64 (toString n.toInt) = .ok n := by
  have low := n.le_toInt
  have high := n.toInt_lt
  rw [readInt64, readBetween_toString (by omega) (by omega), Except.map, Int64.ofInt_toInt]

theorem toInt_ofInt_natCast {n : Nat} (small : n < 2 ^ 63) : (Int64.ofInt n).toInt = n :=
  Int64.toInt_ofInt_of_le (by omega) (by omega)

theorem readInt64_toString_nat {n : Nat} (small : n < 2 ^ 63) :
    readInt64 (toString n) = .ok (Int64.ofInt n) := by
  have read := readInt64_toString (Int64.ofInt n)
  rwa [toInt_ofInt_natCast small] at read

end MarketGateway.Text
