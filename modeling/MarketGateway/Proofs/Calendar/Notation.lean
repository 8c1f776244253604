import MarketGateway.Proofs.Calendar.Days
import MarketGateway.Proofs.Decimal.Notation

/-!
# Reading calendar times back

An instant is written as its day of the calendar, the time of day and six digits of a fraction. The fields
are read back from that text (`DateTime.HasChars.read_toText`), and they count the milliseconds of the
instant: `DateTime.epochMs_ofEpochMicros`.
-/

namespace MarketGateway

/-! ### Padded numbers -/

theorem Text.isBlank_of_isDigit {c : Char} (digit : c.isDigit = true) : isBlank c = false := by
  simp only [Char.isDigit, ge_iff_le, Bool.and_eq_true, decide_eq_true_eq, UInt32.le_iff_toNat_le] at digit
  have low : 48 ≤ c.toNat := digit.1
  have high : c.toNat ≤ 57 := digit.2
  simp only [isBlank, Bool.or_eq_false_iff, Bool.and_eq_false_iff, decide_eq_false_iff_not,
    beq_eq_false_iff_ne]
  omega

namespace Calendar

open Decimal (paddedDigits mem_paddedDigits ofDigitChars_paddedDigits length_paddedDigits paddedDigits_ne_nil
  paddedDigits_eq_cons)

variable {ds rest : List Char} {width value n : Nat}

/-- The digits end where no more may be read, or before something that is no digit. -/
def Ends (more : Nat) (ds rest : List Char) : Prop :=
  ds.length = more ∨ ds.length ≤ more ∧ ∀ c cs, rest = c :: cs → c.isDigit = false

theorem readMore_digits (digits : ∀ c ∈ ds, c.isDigit = true) (ends : Ends width ds rest)
    (small : Nat.ofDigitChars 10 ds value < 2 ^ 63) :
    readMore width value (ds ++ rest) = .ok (Nat.ofDigitChars 10 ds value, rest) := by
  induction ds generalizing width value with
  | nil =>
    cases width with
    | zero => rfl
    | succ more =>
      rcases ends with none | ⟨-, foreign⟩
      · cases none
      · cases rest with
        | nil => rfl
        | cons c cs =>
          rw [List.nil_append, readMore, Text.digit?, foreign c cs rfl]
          rfl
  | cons d ds ih =>
    obtain ⟨here, later⟩ := List.forall_mem_cons.mp digits
    rw [Text.ofDigitChars_cons] at small ⊢
    have fits := Nat.lt_of_le_of_lt (Text.le_ofDigitChars (value * 10 + (d.toNat - 48)) ds) small
    cases width with
    | zero => simp [Ends] at ends
    | succ more =>
      have shorter : Ends more ds rest := by
        simpa [Ends] using ends
      rw [List.cons_append, readMore, Text.digit?_eq_some here]
      dsimp only
      rw [if_pos fits, ih later shorter small]

theorem readNumber_digits (digits : ∀ c ∈ ds, c.isDigit = true) (nonempty : ds ≠ [])
    (ends : Ends width ds rest) (small : Nat.ofDigitChars 10 ds 0 < 2 ^ 63) :
    readNumber width (ds ++ rest) = .ok (Nat.ofDigitChars 10 ds 0, rest) := by
  rw [← readMore_digits digits ends small]
  cases ds with
  | nil => exact (nonempty rfl).elim
  | cons d ds => exact if_pos (digits d List.mem_cons_self)

/-- A number that fills its width is read, whatever follows. -/
theorem readNumber_padded (some : 0 < width) (few : width ≤ 18) (small : n < 10 ^ width) :
    readNumber width (paddedDigits width n ++ rest) = .ok (n, rest) := by
  have value := ofDigitChars_paddedDigits width n
  have bound : n < 2 ^ 63 :=
    calc
      n < 10 ^ width := small
      _ ≤ 10 ^ 18 := Nat.pow_le_pow_right (by decide) few
      _ < 2 ^ 63 := by decide
  have whole : Ends width (paddedDigits width n) rest := .inl (length_paddedDigits some small)
  have read := readNumber_digits (fun _ => mem_paddedDigits) (paddedDigits_ne_nil width n) whole
    (Nat.lt_of_le_of_lt (Nat.le_of_eq value) bound)
  rwa [value] at read

theorem dropWhile_padded (width n : Nat) (rest : List Char) :
    (paddedDigits width n ++ rest).dropWhile Text.isBlank = paddedDigits width n ++ rest := by
  obtain ⟨c, cs, written, digit⟩ := paddedDigits_eq_cons width n
  rw [written, List.cons_append, List.dropWhile_cons_of_neg (by simp [Text.isBlank_of_isDigit digit])]

theorem readItem_padded {low high : Nat} (from_low : low ≤ n) (to_high : n ≤ high) (small : n < 100) :
    readItem low high (paddedDigits 2 n ++ rest) = .ok (n, rest) := by
  rw [readItem, dropWhile_padded, readNumber_padded (by decide) (by decide) small]
  exact if_pos ⟨from_low, to_high⟩

theorem ok_bind {α β : Type} (a : α) (next : α → Except ReadError β) : (.ok a >>= next) = next a := rfl

theorem readYear_padded (small : n < 10000) : readYear (paddedDigits 4 n ++ rest) = .ok ((n : Int), rest) := by
  have number : readNumber 4 (paddedDigits 4 n ++ rest) = .ok (n, rest) :=
    readNumber_padded (by decide) (by decide) (Nat.lt_of_lt_of_le small (by decide))
  have inside : -2 ^ 31 ≤ (n : Int) ∧ (n : Int) < 2 ^ 31 := by omega
  obtain ⟨c, cs, written, digit⟩ := paddedDigits_eq_cons 4 n
  rw [readYear, dropWhile_padded]
  rw [written] at number ⊢
  -- A digit is none of the signs.
  split
  · rename_i same
    exact (Text.ne_of_isDigit digit rfl (List.cons.inj same).1).elim
  · rename_i same
    exact (Text.ne_of_isDigit digit rfl (List.cons.inj same).1).elim
  · -- By rewriting, because the bounds of years are too large to be decided by reduction.
    rw [number, ok_bind]
    dsimp only
    rw [pure_bind]
    exact if_pos inside

theorem readMark_cons (mark : Char) (rest : List Char) : readMark mark (mark :: rest) = .ok rest := if_pos rfl

/-- Six digits of a fraction are microseconds. -/
theorem readFraction_padded (small : n < 1000000) :
    readFraction ('.' :: paddedDigits 6 n) = .ok (n * 1000, []) := by
  have value := ofDigitChars_paddedDigits 6 n
  have length : (paddedDigits 6 n).length = 6 :=
    length_paddedDigits (by decide) (Nat.lt_of_lt_of_le small (by decide))
  have ends : Ends 9 (paddedDigits 6 n) [] := .inr ⟨by omega, nofun⟩
  have bound : n < 2 ^ 63 := Nat.lt_trans small (by decide)
  have number := readNumber_digits (fun _ => mem_paddedDigits) (paddedDigits_ne_nil 6 n) ends
    (Nat.lt_of_le_of_lt (Nat.le_of_eq value) bound)
  rw [List.append_nil, value] at number
  have read : readFraction ('.' :: paddedDigits 6 n) =
      .ok (n * 10 ^ (9 - ((paddedDigits 6 n).length - 0)), []) := by
    rw [readFraction, number]
    rfl
  rw [read, length]

/-! ### The notation -/

namespace DateTime

/-- The fields of the instant so many microseconds after the start of 1970. -/
def ofEpochMicros (micros : Nat) : DateTime :=
  let date := Date.ofEpochDay (micros / 86400000000)
  let second := micros / 1000000 % 86400
  ⟨date.year, date.month, date.day, second / 3600, second / 60 % 60, second % 60, micros % 1000000 * 1000⟩

/-- `YYYY-MM-DDTHH:MM:SS` with the microseconds as a fraction of six digits. -/
def chars (t : DateTime) : List Char :=
  paddedDigits 4 t.year.toNat ++ '-' :: (paddedDigits 2 t.month ++ '-' :: (paddedDigits 2 t.day ++ 'T' ::
    (paddedDigits 2 t.hour ++ ':' :: (paddedDigits 2 t.minute ++ ':' :: (paddedDigits 2 t.second ++
      '.' :: paddedDigits 6 (t.nanosecond / 1000))))))

def toText (t : DateTime) : String := String.ofList t.chars

/-- What the notation has room for: four digits of the year and whole microseconds. -/
structure HasChars (t : DateTime) : Prop where
  year : 0 ≤ t.year ∧ t.year < 10000
  month : 1 ≤ t.month ∧ t.month ≤ 12
  day : 1 ≤ t.day ∧ t.day ≤ daysInMonth t.year t.month
  hour : t.hour < 24
  minute : t.minute < 60
  second : t.second < 60
  nanosecond : ∃ micros < 1000000, t.nanosecond = micros * 1000

theorem daysInMonth_le (year : Int) (month : Nat) : daysInMonth year month ≤ 31 := by
  unfold daysInMonth
  split
  · split <;> decide
  all_goals decide

theorem HasChars.hasDate {t : DateTime} (has : t.HasChars) : t.hasDate = true := by
  obtain ⟨low, high⟩ := has.year
  simp only [DateTime.hasDate, Bool.and_eq_true, decide_eq_true_eq]
  exact ⟨⟨⟨by omega, by omega⟩, has.month⟩, has.day⟩

/-- The fields are read one after the other, each up to the mark that ends it. -/
theorem HasChars.readFields_chars {t : DateTime} (has : t.HasChars) : readFields t.chars = .ok t := by
  obtain ⟨low, high⟩ := has.year
  obtain ⟨january, december⟩ := has.month
  obtain ⟨first, last⟩ := has.day
  have longest := daysInMonth_le t.year t.month
  obtain ⟨micros, small, nanosecond⟩ := has.nanosecond
  have divided : t.nanosecond / 1000 = micros := by omega
  have hour := has.hour
  have minute := has.minute
  have second := has.second
  have year : (t.year.toNat : Int) = t.year := Int.toNat_of_nonneg low
  rw [chars, divided, readFields, readYear_padded (by omega), ok_bind]
  dsimp only
  rw [readMark_cons, ok_bind, readItem_padded january december (by omega), ok_bind]
  dsimp only
  rw [readMark_cons, ok_bind, readItem_padded first (by omega) (by omega), ok_bind]
  dsimp only
  rw [readMark_cons, ok_bind, readItem_padded (Nat.zero_le _) (by omega) (by omega), ok_bind]
  dsimp only
  rw [readMark_cons, ok_bind, readItem_padded (Nat.zero_le _) (by omega) (by omega), ok_bind]
  dsimp only
  rw [readMark_cons, ok_bind, readItem_padded (Nat.zero_le _) (by omega) (by omega), ok_bind]
  dsimp only
  rw [readFraction_padded small, ok_bind]
  dsimp only
  rw [year, ← nanosecond]
  rfl

/-! ### Instants -/

/-- The years have four digits up to the end of the year 9999. -/
theorem ofEpochMicros_hasChars {micros : Nat} (early : micros / 86400000000 < 2932897) :
    (ofEpochMicros micros).HasChars := by
  have valid := Date.ofEpochDay_isValid (micros / 86400000000)
  have since := Date.le_year_ofEpochDay (micros / 86400000000)
  have before := Date.year_ofEpochDay_lt early
  exact {
    year := ⟨Int.le_trans (by decide) since, before⟩
    month := valid.month
    day := valid.day
    hour := by simp only [ofEpochMicros]; omega
    minute := by simp only [ofEpochMicros]; omega
    second := by simp only [ofEpochMicros]; omega
    nanosecond := ⟨micros % 1000000, by omega, rfl⟩ }

/-- The day and the time of day are the instant again, without what is left of a millisecond. -/
theorem epochMs_ofEpochMicros (micros : Nat) : (ofEpochMicros micros).epochMs = (micros / 1000 : Nat) := by
  have day : (ofEpochMicros micros).epochDay = (micros / 86400000000 : Nat) :=
    Date.number_ofEpochDay (micros / 86400000000)
  have time : (ofEpochMicros micros).msOfDay = micros % 86400000000 / 1000 := by
    simp only [ofEpochMicros, msOfDay]
    omega
  rw [epochMs, day, time]
  omega

end DateTime

theorem DateTime.HasChars.read_toText {t : DateTime} (has : t.HasChars) : read t.toText = .ok t := by
  rw [read, toText, String.toList_ofList, has.readFields_chars, ok_bind, if_pos has.hasDate]
  rfl

end Calendar

end MarketGateway
