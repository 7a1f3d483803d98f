import RequestFilter.Number.Digits

/-! # Calendar dates

Days of the Gregorian calendar, carried on before its introduction, in the years
from -9999 to 9999.
-/

namespace RequestFilter

/-- A year has a 29th of February. -/
def isLeapYear (year : Int) : Bool :=
  year % 4 = 0 && (year % 100 ≠ 0 || year % 400 = 0)

/-- The number of days of a month. -/
def daysInMonth (year : Int) (month : Nat) : Nat :=
  if month = 2 then if isLeapYear year then 29 else 28
  else if month = 4 ∨ month = 6 ∨ month = 9 ∨ month = 11 then 30
  else 31

/-- A day of the calendar. -/
structure Date where
  /-- The year; the year before 1 is 0. -/
  year : Int
  /-- The month, counted from 1. -/
  month : Nat
  /-- The day of the month, counted from 1. -/
  day : Nat
  year_range : -9999 ≤ year ∧ year ≤ 9999
  month_range : 1 ≤ month ∧ month ≤ 12
  day_range : 1 ≤ day ∧ day ≤ daysInMonth year month
deriving DecidableEq, Repr

namespace Date

/-- The date of a year, a month and a day, if the calendar has it. -/
def ofParts? (year : Int) (month day : Nat) : Option Date :=
  if years : -9999 ≤ year ∧ year ≤ 9999 then
    if months : 1 ≤ month ∧ month ≤ 12 then
      if days : 1 ≤ day ∧ day ≤ daysInMonth year month then
        some ⟨year, month, day, years, months, days⟩
      else none
    else none
  else none

/-- A date as year, month and day; the year has four digits and a minus sign before year 0. -/
def text (date : Date) : String :=
  (if date.year < 0 then "-" else "") ++ Number.padded 4 date.year.natAbs ++ "-" ++
    Number.padded 2 date.month ++ "-" ++ Number.padded 2 date.day

end Date

end RequestFilter
