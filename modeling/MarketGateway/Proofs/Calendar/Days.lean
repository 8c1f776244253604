import MarketGateway.Calendar

/-!
# Days of the calendar

The calendar as one day after the other, from the first day of 1970. The number that is worked out from a
date is the number of days that it takes to come to it (`Date.number_ofEpochDay`), and no other date has it:
`Date.number_injective`.
-/

namespace MarketGateway.Calendar

@[ext]
structure Date where
  year : Int
  month : Nat
  day : Nat
deriving DecidableEq

namespace Date

/-- The day after. -/
def next (d : Date) : Date :=
  if d.day < daysInMonth d.year d.month then { d with day := d.day + 1 }
  else if d.month < 12 then ⟨d.year, d.month + 1, 1⟩
  else ⟨d.year + 1, 1, 1⟩

/-- The day so many days after the first day of 1970. -/
def ofEpochDay : Nat → Date
  | 0 => ⟨1970, 1, 1⟩
  | n + 1 => (ofEpochDay n).next

structure IsValid (d : Date) : Prop where
  month : 1 ≤ d.month ∧ d.month ≤ 12
  day : 1 ≤ d.day ∧ d.day ≤ daysInMonth d.year d.month

/-- The days from the first day of 1970, worked out from the date. -/
def number (d : Date) : Int :=
  daysBeforeYear d.year + daysBeforeMonth d.year d.month + d.day - 1 - daysBeforeYear 1970

end Date

/-! ### Years and months -/

theorem daysInMonth_pos (year : Int) (month : Nat) : 1 ≤ daysInMonth year month := by
  unfold daysInMonth
  split
  · split <;> decide
  all_goals decide

theorem daysBeforeMonth_succ (year : Int) {month : Nat} (first : 1 ≤ month) :
    daysBeforeMonth year (month + 1) = daysBeforeMonth year month + daysInMonth year month := by
  obtain ⟨m, rfl⟩ : ∃ m, month = m + 1 := ⟨month - 1, by omega⟩
  simp only [daysBeforeMonth, Nat.add_sub_cancel, List.range_succ, List.foldl_append, List.foldl_cons,
    List.foldl_nil]

def daysInYear (year : Int) : Nat := if isLeap year then 366 else 365

/-- December ends the year. -/
theorem daysBeforeMonth_december (year : Int) :
    daysBeforeMonth year 12 + daysInMonth year 12 = daysInYear year := by
  rw [daysInYear]
  cases leap : isLeap year <;> simp [daysBeforeMonth, daysInMonth, leap, List.range_succ]

theorem daysBeforeMonth_add_le (year : Int) {month later : Nat} (first : 1 ≤ month) (before : month < later) :
    daysBeforeMonth year month + daysInMonth year month ≤ daysBeforeMonth year later := by
  induction later with
  | zero => exact absurd before (Nat.not_lt_zero month)
  | succ later ih =>
    obtain rfl | between := Nat.eq_or_lt_of_le (Nat.le_of_lt_succ before)
    · exact Nat.le_of_eq (daysBeforeMonth_succ year first).symm
    · rw [daysBeforeMonth_succ year (by omega)]
      exact Nat.le_trans (ih between) (Nat.le_add_right _ _)

theorem daysBeforeYear_succ (year : Int) :
    daysBeforeYear (year + 1) = daysBeforeYear year + daysInYear year := by
  unfold daysBeforeYear daysInYear isLeap
  split
  · rename_i leap
    simp only [Bool.and_eq_true, Bool.or_eq_true, beq_iff_eq, bne_iff_ne] at leap
    omega
  · rename_i common
    simp only [Bool.and_eq_true, Bool.or_eq_true, beq_iff_eq, bne_iff_ne] at common
    omega

theorem daysBeforeYear_add_le {year later : Int} (before : year < later) :
    daysBeforeYear year + daysInYear year ≤ daysBeforeYear later := by
  rw [← daysBeforeYear_succ]
  unfold daysBeforeYear
  omega

namespace Date

variable {d e : Date}

/-! ### The day after -/

theorem next_isValid (valid : d.IsValid) : d.next.IsValid := by
  have january : 1 ≤ 1 ∧ 1 ≤ 12 := by decide
  unfold next
  split
  · rename_i inside
    exact ⟨valid.month, Nat.le_add_left 1 d.day, inside⟩
  · split
    · rename_i inside
      exact ⟨⟨Nat.le_add_left 1 d.month, inside⟩, Nat.le_refl 1, daysInMonth_pos _ _⟩
    · exact ⟨january, Nat.le_refl 1, daysInMonth_pos _ _⟩

/-- The day after has the next number, also over the end of a month and of a year. -/
theorem number_next (valid : d.IsValid) : d.next.number = d.number + 1 := by
  obtain ⟨⟨january, december⟩, -, last⟩ := valid
  unfold next
  split
  · simp only [number]
    push_cast
    omega
  · rename_i monthEnds
    have whole : d.day = daysInMonth d.year d.month := by omega
    split
    · have months := daysBeforeMonth_succ d.year january
      simp only [number]
      omega
    · have final : d.month = 12 := by omega
      have year := daysBeforeYear_succ d.year
      have months := daysBeforeMonth_december d.year
      have none : daysBeforeMonth (d.year + 1) 1 = 0 := rfl
      rw [final] at whole
      simp only [number, final, none]
      omega

theorem ofEpochDay_isValid (n : Nat) : (ofEpochDay n).IsValid := by
  induction n with
  | zero => exact ⟨by decide, by decide⟩
  | succ n ih => exact next_isValid ih

theorem number_ofEpochDay (n : Nat) : (ofEpochDay n).number = n := by
  induction n with
  | zero => rfl
  | succ n ih =>
    rw [ofEpochDay, number_next (ofEpochDay_isValid n), ih]
    rfl

/-! ### The order of dates -/

theorem daysBeforeMonth_add_day_le (valid : d.IsValid) :
    daysBeforeMonth d.year d.month + d.day ≤ daysInYear d.year := by
  obtain ⟨⟨january, december⟩, -, last⟩ := valid
  have whole := daysBeforeMonth_december d.year
  obtain final | before := Nat.eq_or_lt_of_le december
  · rw [final] at last ⊢
    omega
  · have months := daysBeforeMonth_add_le d.year january before
    omega

theorem number_lt_of_year_lt (validD : d.IsValid) (validE : e.IsValid) (before : d.year < e.year) :
    d.number < e.number := by
  have within := daysBeforeMonth_add_day_le validD
  have years := daysBeforeYear_add_le before
  have first := validE.day.1
  unfold number
  omega

theorem number_lt_of_month_lt (validD : d.IsValid) (validE : e.IsValid) (year : d.year = e.year)
    (before : d.month < e.month) : d.number < e.number := by
  have months := daysBeforeMonth_add_le d.year validD.month.1 before
  have last := validD.day.2
  have first := validE.day.1
  simp only [number, ← year]
  omega

/-- No two dates have one number. -/
theorem number_injective (validD : d.IsValid) (validE : e.IsValid) (same : d.number = e.number) : d = e := by
  have year : d.year = e.year := by
    obtain before | year | after := Int.lt_trichotomy d.year e.year
    · have less := number_lt_of_year_lt validD validE before
      omega
    · exact year
    · have less := number_lt_of_year_lt validE validD after
      omega
  have month : d.month = e.month := by
    obtain before | month | after := Nat.lt_trichotomy d.month e.month
    · have less := number_lt_of_month_lt validD validE year before
      omega
    · exact month
    · have less := number_lt_of_month_lt validE validD year.symm after
      omega
  have day : d.day = e.day := by
    simp only [number, year, month] at same
    omega
  exact Date.ext year month day

/-- A date is come to on the day of its number. -/
theorem ofEpochDay_of_number {n : Nat} (valid : d.IsValid) (number : d.number = n) : ofEpochDay n = d :=
  number_injective (ofEpochDay_isValid n) valid ((number_ofEpochDay n).trans number.symm)

/-! ### Years -/

theorem year_le_next (d : Date) : d.year ≤ d.next.year := by
  unfold next
  split
  · exact Int.le_refl d.year
  · split
    · exact Int.le_refl d.year
    · exact Int.le_add_one (Int.le_refl d.year)

theorem le_year_ofEpochDay (n : Nat) : 1970 ≤ (ofEpochDay n).year := by
  induction n with
  | zero => exact Int.le_refl 1970
  | succ n ih => exact Int.le_trans ih (year_le_next (ofEpochDay n))

/-- Years have four digits up to the end of the year 9999. -/
theorem year_ofEpochDay_lt {n : Nat} (early : n < 2932897) : (ofEpochDay n).year < 10000 := by
  have number := number_ofEpochDay n
  have valid := (ofEpochDay_isValid n).day.1
  unfold Date.number daysBeforeYear at number
  omega

end Date

end MarketGateway.Calendar
