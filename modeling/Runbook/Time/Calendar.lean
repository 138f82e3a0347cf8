/-!
# Dates

Dates of the Gregorian calendar, extended to all years.  Every date that is
built is one of the calendar.
-/

namespace Runbook

namespace Calendar

def isLeap (year : Int) : Bool :=
  year % 4 == 0 && (year % 100 != 0 || year % 400 == 0)

def daysIn (year : Int) (month : Nat) : Nat :=
  if month = 2 then (if isLeap year then 29 else 28)
  else if month = 4 ∨ month = 6 ∨ month = 9 ∨ month = 11 then 30
  else 31

theorem daysIn_pos (year : Int) (month : Nat) : 0 < daysIn year month := by
  unfold daysIn
  split
  · split <;> decide
  · split <;> decide

def daysOfYear (year : Int) : Nat :=
  if isLeap year then 366 else 365

/-- The number of days of four hundred years in a row. -/
def daysOfCycle : Nat := 146097

end Calendar

/-- A date of the calendar. -/
structure Date where
  year : Int
  month : Nat
  day : Nat
  valid : 1 ≤ month ∧ month ≤ 12 ∧ 1 ≤ day ∧ day ≤ Calendar.daysIn year month
deriving DecidableEq

namespace Date

def newYear (year : Int) : Date :=
  ⟨year, 1, 1, by decide, by decide, by decide, Calendar.daysIn_pos year 1⟩

instance : Inhabited Date := ⟨newYear 1970⟩

def yearEnd (year : Int) : Date :=
  ⟨year, 12, 31, by decide, by decide, by decide, by simp [Calendar.daysIn]⟩

def ofNumbers? (year : Int) (month day : Nat) : Option Date :=
  if valid : 1 ≤ month ∧ month ≤ 12 ∧ 1 ≤ day ∧
      day ≤ Calendar.daysIn year month then
    some ⟨year, month, day, valid⟩
  else none

def next (date : Date) : Date :=
  (ofNumbers? date.year date.month (date.day + 1)).getD
    ((ofNumbers? date.year (date.month + 1) 1).getD (newYear (date.year + 1)))

def previous (date : Date) : Date :=
  (ofNumbers? date.year date.month (date.day - 1)).getD
    ((ofNumbers? date.year (date.month - 1)
      (Calendar.daysIn date.year (date.month - 1))).getD
      (yearEnd (date.year - 1)))

/-- The date so many days after the first of a month, at most `months` months
later in the same year. -/
def afterMonthStart (year : Int) : (months month days : Nat) → Date
  | 0, _, _ => yearEnd year
  | months + 1, month, days =>
    if days < Calendar.daysIn year month then
      (ofNumbers? year month (days + 1)).getD (yearEnd year)
    else afterMonthStart year months (month + 1)
      (days - Calendar.daysIn year month)

/-- The date so many days after the first of a year, at most `years` years
later. -/
def afterNewYear : (years : Nat) → Int → Nat → Date
  | 0, year, _ => newYear year
  | years + 1, year, days =>
    if days < Calendar.daysOfYear year then afterMonthStart year 12 1 days
    else afterNewYear years (year + 1) (days - Calendar.daysOfYear year)

/-- The date so many days after the first day of 1970. -/
def ofDays (days : Int) : Date :=
  let cycle := days.fdiv Calendar.daysOfCycle
  let within := (days.fmod Calendar.daysOfCycle).toNat
  afterNewYear 400 (1970 + 400 * cycle) within

def padded (width value : Nat) : List Char :=
  let digits := Nat.toDigits 10 value
  List.replicate (width - digits.length) '0' ++ digits

/-- The digits of a year; a year of more than four digits, or before the year
zero, has a sign. -/
def yearChars (year : Int) : List Char :=
  if year < 0 then '-' :: padded 4 year.natAbs
  else if 9999 < year then '+' :: padded 4 year.natAbs
  else padded 4 year.natAbs

def chars (date : Date) : List Char :=
  yearChars date.year ++ '-' :: padded 2 date.month ++
    '-' :: padded 2 date.day

end Date

end Runbook
