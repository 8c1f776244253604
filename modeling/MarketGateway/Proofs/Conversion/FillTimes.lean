import MarketGateway.Proofs.Calendar.Notation
import MarketGateway.Proofs.Conversion.Reports

/-!
# Notations of a fill time

The time of a fill is a number of milliseconds, a number of microseconds or a calendar time. All three are
read as the same instant: `fill_times_agree`.
-/

namespace MarketGateway

open Calendar (DateTime)
open Conversion

theorem microsThreshold_lt {n : Nat} (small : n < 2 ^ 63) :
    microsThreshold < Int64.ofInt n ↔ 100000000000000 < n := by
  rw [Int64.lt_iff_toInt_lt, Text.toInt_ofInt_natCast small]
  exact Int.ofNat_lt

theorem microsToMs_natCast {micros : Nat} (small : micros < 2 ^ 63) :
    microsToMs (Int64.ofInt micros) = Int64.ofInt (micros / 1000 : Nat) := by
  apply Int64.toInt_inj.mp
  rw [toInt_microsToMs, Text.toInt_ofInt_natCast small, Text.toInt_ofInt_natCast (by omega)]
  rfl

/-! ### The notations -/

theorem fillTimeMs_millis {t : Nat} (early : t ≤ 100000000000000) :
    fillTimeMs (toString t) = .ok (Int64.ofInt t) := by
  have small : t < 2 ^ 63 := by omega
  have below : ¬ microsThreshold < Int64.ofInt t := by
    rw [microsThreshold_lt small]
    omega
  rw [fillTimeMs, Text.readInt64_toString_nat small]
  exact congrArg Except.ok (if_neg below)

theorem fillTimeMs_micros {micros : Nat} (late : 100000000000000 < micros) (small : micros < 2 ^ 63) :
    fillTimeMs (toString micros) = .ok (Int64.ofInt (micros / 1000 : Nat)) := by
  have above := (microsThreshold_lt small).mpr late
  rw [fillTimeMs, Text.readInt64_toString_nat small]
  dsimp only
  rw [toEpochMs_of_micros above, microsToMs_natCast small]

/-- The mark between date and time is in no integer. -/
theorem readInt64_toText (t : DateTime) : ∃ e, Text.readInt64 t.toText = .error e := by
  cases read : Text.readInt64 t.toText with
  | error e => exact ⟨e, rfl⟩
  | ok n =>
    have mark : 'T' ∈ t.toText.toList := by
      simp [DateTime.toText, DateTime.chars]
    obtain ⟨m, between, -⟩ := Text.map_eq_ok.mp read
    exact (by decide : ¬ ('T' = '+' ∨ 'T' = '-' ∨ 'T'.isDigit = true)).elim (Text.mem_of_readBetween between mark)

theorem fillTimeMs_calendar {micros : Nat} (early : micros / 86400000000 < 2932897) :
    fillTimeMs (DateTime.ofEpochMicros micros).toText = .ok (Int64.ofInt (micros / 1000 : Nat)) := by
  have has := DateTime.ofEpochMicros_hasChars early
  obtain ⟨e, noInteger⟩ := readInt64_toText (DateTime.ofEpochMicros micros)
  rw [fillTimeMs, noInteger]
  dsimp only
  rw [has.read_toText]
  dsimp only
  rw [DateTime.epochMs_ofEpochMicros]

/-- An instant after 10^11 ms has its microseconds above the threshold, and up to 10^14 ms it is not above
it itself. -/
theorem fill_times_agree (t r : Nat) (after : 10 ^ 11 < t) (before : t ≤ 10 ^ 14) (rest : r < 1000) :
    ∃ time : Int64, time.toInt = t ∧
      fillTimeMs (toString t) = .ok time ∧
      fillTimeMs (toString (1000 * t + r)) = .ok time ∧
      fillTimeMs (DateTime.ofEpochMicros (1000 * t + r)).toText = .ok time := by
  have small : 1000 * t + r < 2 ^ 63 := by omega
  have whole : (1000 * t + r) / 1000 = t := by omega
  have millis : fillTimeMs (toString t) = .ok (Int64.ofInt t) := fillTimeMs_millis (by omega)
  have micros : fillTimeMs (toString (1000 * t + r)) = .ok (Int64.ofInt ((1000 * t + r) / 1000 : Nat)) :=
    fillTimeMs_micros (by omega) small
  have calendar : fillTimeMs (DateTime.ofEpochMicros (1000 * t + r)).toText =
      .ok (Int64.ofInt ((1000 * t + r) / 1000 : Nat)) := fillTimeMs_calendar (by omega)
  rw [whole] at micros calendar
  exact ⟨Int64.ofInt t, Text.toInt_ofInt_natCast (by omega), millis, micros, calendar⟩

/-- On the leap day that ends a century. -/
theorem fill_times_agree_leap_day :
    ∃ time : Int64, time.toInt = (951782400123 : Nat) ∧
      fillTimeMs "951782400123" = .ok time ∧
      fillTimeMs "951782400123456" = .ok time ∧
      fillTimeMs "2000-02-29T00:00:00.123456" = .ok time := by
  have day : Calendar.Date.ofEpochDay ((1000 * 951782400123 + 456) / 86400000000) = ⟨2000, 2, 29⟩ :=
    Calendar.Date.ofEpochDay_of_number ⟨by decide, by decide⟩ rfl
  have written : (DateTime.ofEpochMicros (1000 * 951782400123 + 456)).toText =
      "2000-02-29T00:00:00.123456" := by
    rw [DateTime.ofEpochMicros, day]
    decide
  exact written ▸ fill_times_agree 951782400123 456 (by decide) (by decide) (by decide)

end MarketGateway
