import Mathlib.Logic.Function.Basic
import Runbook.Proofs.Number.IntText
import Runbook.Proofs.Text.Pieces
import Runbook.Time.Calendar
import Runbook.Time.Instant

/-!
# Dates and stamps

The date so many days after another one determines how many they are: the days
of the whole years and of the whole months before it, and those of its own
month, add up to them.

The stamp of an instant tells its date, its minute, its second and its
millisecond, and so two instants of different milliseconds have different
stamps.  A stamp has one dot and no slash, so that it can be told from the text
before it.
-/

namespace Runbook

namespace Calendar

/-- The number of days of some years in a row. -/
def daysOfYears (year : Int) : Nat → Nat
  | 0 => 0
  | years + 1 => daysOfYear year + daysOfYears (year + 1) years

/-- The number of days of some months in a row. -/
def daysOfMonths (year : Int) (month : Nat) : Nat → Nat
  | 0 => 0
  | months + 1 => daysIn year month + daysOfMonths year (month + 1) months

theorem daysOfMonths_year (year : Int) :
    daysOfMonths year 1 12 = daysOfYear year := by
  cases leap : isLeap year <;> simp [daysOfMonths, daysIn, daysOfYear, leap]

theorem daysOfYears_cycles (year cycles : Int) (years : Nat) :
    daysOfYears (year + 400 * cycles) years = daysOfYears year years := by
  induction years generalizing year with
  | zero => rfl
  | succ years ih =>
      have leap : isLeap (year + 400 * cycles) = isLeap year := by
        unfold isLeap
        rw [Bool.eq_iff_iff]
        simp only [Bool.and_eq_true, Bool.or_eq_true, beq_iff_eq, bne_iff_ne]
        omega
      have later : year + 400 * cycles + 1 = year + 1 + 400 * cycles := by
        omega
      rw [daysOfYears, daysOfYears, daysOfYear, daysOfYear, leap, later, ih]

theorem daysOfYears_cycle (cycles : Int) :
    daysOfYears (1970 + 400 * cycles) 400 = daysOfCycle := by
  rw [daysOfYears_cycles]
  decide +kernel

end Calendar

namespace Date

open Calendar

theorem ofNumbers?_of_valid {year : Int} {month day : Nat}
    (valid : 1 ≤ month ∧ month ≤ 12 ∧ 1 ≤ day ∧ day ≤ daysIn year month) :
    ofNumbers? year month day = some ⟨year, month, day, valid⟩ :=
  dif_pos valid

/-- The days after the first of a month are those of the whole months before
the date and those before it in its own month. -/
theorem afterMonthStart_spec {year : Int} {months month days : Nat}
    (first : 1 ≤ month) (last : month + months ≤ 13)
    (within : days < daysOfMonths year month months) :
    ∃ passed, (afterMonthStart year months month days).year = year ∧
      (afterMonthStart year months month days).month = month + passed ∧
      days + 1 = daysOfMonths year month passed +
        (afterMonthStart year months month days).day := by
  induction months generalizing month days with
  | zero => cases within
  | succ months ih =>
      rw [afterMonthStart]
      split
      · rename_i inMonth
        rw [ofNumbers?_of_valid (by omega)]
        exact ⟨0, rfl, rfl, by simp [daysOfMonths]⟩
      · rename_i later
        rw [daysOfMonths] at within
        obtain ⟨passed, year_eq, month_eq, days_eq⟩ :=
          @ih (month + 1) (days - daysIn year month) (by omega) (by omega)
            (by omega)
        refine ⟨passed + 1, year_eq, by omega, ?_⟩
        rw [daysOfMonths]
        omega

/-- The days after the first of a year are those of the whole years before the
date and those before it in its own year. -/
theorem afterNewYear_spec {years : Nat} {year : Int} {days : Nat}
    (within : days < daysOfYears year years) :
    ∃ passed rest, passed < years ∧ rest < daysOfYear (year + passed) ∧
      days = daysOfYears year passed + rest ∧
      afterNewYear years year days =
        afterMonthStart (year + passed) 12 1 rest := by
  induction years generalizing year days with
  | zero => cases within
  | succ years ih =>
      rw [afterNewYear]
      split
      · rename_i inYear
        exact ⟨0, days, by omega, by simpa using inYear,
          by simp [daysOfYears], by simp⟩
      · rename_i later
        rw [daysOfYears] at within
        obtain ⟨passed, rest, few, inYear, days_eq, date_eq⟩ :=
          @ih (year + 1) (days - daysOfYear year) (by omega)
        have shift : year + 1 + (passed : Int) = year + (passed + 1 : Nat) := by
          push_cast
          omega
        rw [shift] at inYear date_eq
        refine ⟨passed + 1, rest, by omega, inYear, ?_, date_eq⟩
        rw [daysOfYears]
        omega

/-- What the date so many days after the first day of 1970 tells of them. -/
theorem ofDays_spec (days : Int) :
    ∃ (cycles : Int) (years months : Nat), years < 400 ∧
      (ofDays days).year = 1970 + 400 * cycles + years ∧
      (ofDays days).month = 1 + months ∧
      days + 1 = daysOfCycle * cycles +
        daysOfYears (1970 + 400 * cycles) years +
        daysOfMonths (ofDays days).year 1 months + (ofDays days).day := by
  have positive : (0 : Int) < daysOfCycle := by decide
  have bound := Int.fmod_lt_of_pos days positive
  have nonneg := Int.fmod_nonneg_of_pos days positive
  have whole := Int.mul_fdiv_add_fmod days daysOfCycle
  obtain ⟨years, rest, few, inYear, rest_eq, date_eq⟩ := @afterNewYear_spec 400
    (1970 + 400 * days.fdiv daysOfCycle) (days.fmod daysOfCycle).toNat
    (by rw [daysOfYears_cycle]; omega)
  rw [← daysOfMonths_year] at inYear
  obtain ⟨months, year_eq, month_eq, days_eq⟩ :=
    afterMonthStart_spec (by omega) (by omega) inYear
  rw [← date_eq, ← ofDays] at year_eq month_eq days_eq
  refine ⟨days.fdiv daysOfCycle, years, months, few, year_eq, month_eq, ?_⟩
  rw [year_eq]
  omega

theorem ofDays_injective : Function.Injective ofDays := by
  intro first second same
  obtain ⟨cycles, years, months, few, year_eq, month_eq, first_eq⟩ :=
    ofDays_spec first
  obtain ⟨cyclesToo, yearsToo, monthsToo, fewToo, year_eqToo, month_eqToo,
    second_eq⟩ := ofDays_spec second
  rw [same] at year_eq month_eq first_eq
  obtain rfl : cyclesToo = cycles := by omega
  obtain rfl : yearsToo = years := by omega
  obtain rfl : monthsToo = months := by omega
  omega

end Date

end Runbook

/-! ## Stamps -/

namespace Runbook

namespace Date

variable {width value : Nat}

theorem length_padded (positive : 0 < width) (fits : value < 10 ^ width) :
    (padded width value).length = width := by
  have short := (Nat.length_toDigits_le_iff (by decide) positive).2 fits
  simp only [padded, List.length_append, List.length_replicate]
  omega

theorem isDigit_padded :
    ∀ character ∈ padded width value, character.isDigit = true := by
  intro character member
  rcases List.mem_append.1 member with zero | digit
  · rw [(List.mem_replicate.1 zero).2]
    rfl
  · exact Reading.isDigit_toDigits character digit

theorem digitsValue_padded :
    Reading.digitsValue 0 (padded width value) = value := by
  rw [padded, Reading.digitsValue_append, Reading.digitsValue_zeros,
    Nat.zero_mul, Reading.digitsValue_toDigits]

theorem padded_injective {other : Nat}
    (same : padded width value = padded width other) : value = other := by
  rw [← @digitsValue_padded width value, same, digitsValue_padded]

theorem not_mem_padded {character : Char}
    (notDigit : character.isDigit = false) :
    character ∉ padded width value := by
  intro member
  rw [isDigit_padded character member] at notDigit
  cases notDigit

theorem padded_ne_cons {character : Char} {rest : List Char}
    (notDigit : character.isDigit = false) :
    padded width value ≠ character :: rest := by
  intro same
  exact not_mem_padded notDigit (same ▸ List.mem_cons_self)

theorem yearChars_injective : Function.Injective yearChars := by
  intro first second same
  have minus : '-'.isDigit = false := rfl
  have plus : '+'.isDigit = false := rfl
  unfold yearChars at same
  split at same
  · split at same
    · have := padded_injective (List.cons.inj same).2
      omega
    · split at same
      · cases (List.cons.inj same).1
      · exact (padded_ne_cons minus same.symm).elim
  · split at same
    · split at same
      · cases (List.cons.inj same).1
      · split at same
        · have := padded_injective (List.cons.inj same).2
          omega
        · exact (padded_ne_cons plus same.symm).elim
    · split at same
      · exact (padded_ne_cons minus same).elim
      · split at same
        · exact (padded_ne_cons plus same).elim
        · have := padded_injective same
          omega

theorem not_mem_yearChars {character : Char}
    (notDigit : character.isDigit = false)
    (notSign : character ≠ '-' ∧ character ≠ '+') (year : Int) :
    character ∉ yearChars year := by
  unfold yearChars
  split
  · simp [notSign, not_mem_padded notDigit]
  · split
    · simp [notSign, not_mem_padded notDigit]
    · exact not_mem_padded notDigit

end Date

namespace Calendar

theorem daysIn_le (year : Int) (month : Nat) : daysIn year month ≤ 31 := by
  unfold daysIn
  split
  · split <;> omega
  · split <;> omega

end Calendar

namespace Instant

open Date

/-- The stamp of an instant up to its dot. -/
def stampSeconds (instant : Instant) : List Char :=
  yearChars instant.date.year ++ padded 2 instant.date.month ++
    padded 2 instant.date.day ++ 'T' :: padded 2 (instant.minute / 60) ++
    padded 2 (instant.minute % 60) ++ padded 2 instant.second

theorem toList_stamp (instant : Instant) :
    instant.stamp.toList = instant.stampSeconds ++
      '.' :: padded 3 (instant.nanosecond / 1000000) := by
  rw [stamp, String.toList_ofList, stampSeconds]

theorem not_mem_stampSeconds {character : Char}
    (notDigit : character.isDigit = false)
    (notSign : character ≠ '-' ∧ character ≠ '+') (notT : character ≠ 'T')
    (instant : Instant) : character ∉ instant.stampSeconds := by
  simp [stampSeconds, not_mem_padded notDigit,
    not_mem_yearChars notDigit notSign, notT]

theorem noSlash_stamp (instant : Instant) : '/' ∉ instant.stamp.toList := by
  rw [toList_stamp, List.mem_append, not_or]
  exact ⟨not_mem_stampSeconds rfl (by decide) (by decide) instant,
    by simp [not_mem_padded]⟩

/-- The stamp of an instant tells its date and time, up to the millisecond. -/
theorem stamp_inj {first second : Instant} (same : first.stamp = second.stamp) :
    first.date = second.date ∧ first.minute = second.minute ∧
      first.second = second.second ∧
      first.nanosecond / 1000000 = second.nanosecond / 1000000 := by
  have lists := congrArg String.toList same
  rw [toList_stamp, toList_stamp] at lists
  obtain ⟨seconds, milliseconds⟩ := Text.append_separator_inj
    (not_mem_padded rfl) (not_mem_padded rfl) lists
  obtain ⟨minuteLt, secondLe, -⟩ := first.valid
  obtain ⟨minuteLtToo, secondLeToo, -⟩ := second.valid
  obtain ⟨-, monthLe, -, dayLe⟩ := first.date.valid
  obtain ⟨-, monthLeToo, -, dayLeToo⟩ := second.date.valid
  have short := Calendar.daysIn_le first.date.year first.date.month
  have shortToo := Calendar.daysIn_le second.date.year second.date.month
  have lengths {left right : Nat} (fits : left < 100) (fitsToo : right < 100) :
      (padded 2 left).length = (padded 2 right).length := by
    rw [length_padded (by decide) fits, length_padded (by decide) fitsToo]
  unfold stampSeconds at seconds
  obtain ⟨minutes, seconds_eq⟩ :=
    List.append_inj' seconds (lengths (by omega) (by omega))
  obtain ⟨hours, minute_eq⟩ :=
    List.append_inj' minutes (lengths (by omega) (by omega))
  have hourLengths := @lengths (first.minute / 60) (second.minute / 60)
    (by omega) (by omega)
  obtain ⟨days, hour_eq⟩ := List.append_inj' hours (by simp [hourLengths])
  obtain ⟨months, day_eq⟩ :=
    List.append_inj' days (lengths (by omega) (by omega))
  obtain ⟨years, month_eq⟩ :=
    List.append_inj' months (lengths (by omega) (by omega))
  have hour := padded_injective (List.cons.inj hour_eq).2
  have minute := padded_injective minute_eq
  refine ⟨?_, by omega, padded_injective seconds_eq,
    padded_injective milliseconds⟩
  have year := yearChars_injective years
  have month := padded_injective month_eq
  have day := padded_injective day_eq
  cases first_date : first.date
  cases second_date : second.date
  simp_all

/-- A text and the stamp after it can be told apart. -/
theorem append_stamp_inj {text textToo : String} {first second : Instant}
    (same : text ++ "." ++ first.stamp = textToo ++ "." ++ second.stamp) :
    text = textToo ∧ first.stamp = second.stamp := by
  have dot : ".".toList = ['.'] := rfl
  have lists := congrArg String.toList same
  simp only [String.toList_append, dot, toList_stamp] at lists
  rw [← List.append_assoc, ← List.append_assoc] at lists
  obtain ⟨front, milliseconds⟩ := Text.append_separator_inj
    (not_mem_padded rfl) (not_mem_padded rfl) lists
  rw [List.append_assoc, List.append_assoc] at front
  obtain ⟨text_eq, seconds⟩ := Text.append_separator_inj
    (not_mem_stampSeconds rfl (by decide) (by decide) first)
    (not_mem_stampSeconds rfl (by decide) (by decide) second) front
  refine ⟨String.toList_injective text_eq, String.toList_injective ?_⟩
  rw [toList_stamp, toList_stamp, seconds, milliseconds]

/-- Instants with the same stamp are in the same millisecond. -/
theorem millisecond_eq_of_stamp_eq {first second : Int}
    (same : (ofNanoseconds first).stamp = (ofNanoseconds second).stamp) :
    first / 1000000 = second / 1000000 := by
  obtain ⟨date, minute, second_eq, millisecond⟩ := stamp_inj same
  have days := Date.ofDays_injective date
  simp only [ofNanoseconds] at minute second_eq millisecond
  rw [Int.fdiv_eq_ediv_of_nonneg _ (by decide),
    Int.fdiv_eq_ediv_of_nonneg _ (by decide),
    Int.fdiv_eq_ediv_of_nonneg _ (by decide),
    Int.fdiv_eq_ediv_of_nonneg _ (by decide)] at days
  simp only [
    Int.fdiv_eq_ediv_of_nonneg _ (show (0 : Int) ≤ 1000000000 by decide),
    Int.fmod_eq_emod_of_nonneg _ (show (0 : Int) ≤ 86400 by decide),
    Int.fmod_eq_emod_of_nonneg _ (show (0 : Int) ≤ 1000000000 by decide)]
    at minute second_eq millisecond
  omega

end Instant

end Runbook
