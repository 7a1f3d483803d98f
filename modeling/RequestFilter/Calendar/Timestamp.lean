import RequestFilter.Calendar.Date

/-! # Timestamps

A local date and time of day beside its offset from universal time.  The
internet form (RFC 3339) is the usual text; it has no room for years before 0
or for offsets that are not whole minutes below a day, which only the full form
can show.
-/

namespace RequestFilter

/-- A time of day on a date, at an offset from universal time. -/
structure Timestamp where
  /-- The local date. -/
  date : Date
  /-- The hours past midnight. -/
  hour : Nat
  /-- The minutes past the hour. -/
  minute : Nat
  /-- The seconds past the minute. -/
  second : Nat
  /-- The nanoseconds past the second. -/
  nanosecond : Nat
  /-- The seconds by which local time is ahead of universal time. -/
  offset : Int
  hour_lt : hour < 24
  minute_lt : minute < 60
  second_lt : second < 60
  nanosecond_lt : nanosecond < 1000000000
  offset_lt : offset.natAbs < 26 * 3600
deriving DecidableEq, Repr

namespace Timestamp

/-- The timestamp of its parts, if each is in its range. -/
def ofParts? (date : Date) (hour minute second nanosecond : Nat) (offset : Int) :
    Option Timestamp :=
  if ranges : hour < 24 ∧ minute < 60 ∧ second < 60 ∧ nanosecond < 1000000000 ∧
      offset.natAbs < 26 * 3600 then
    some ⟨date, hour, minute, second, nanosecond, offset, ranges.1, ranges.2.1, ranges.2.2.1,
      ranges.2.2.2.1, ranges.2.2.2.2⟩
  else none

/-- The digits of a fraction of a second, without zeros at the end. -/
def fractionDigits (nanosecond : Nat) : List Char :=
  ((Number.padded 9 nanosecond).toList.reverse.dropWhile (· = '0')).reverse

/-- The sign of an offset. -/
def offsetSign (offset : Int) : String :=
  if offset < 0 then "-" else "+"

/-- Hours and minutes of an offset, each with two digits. -/
def offsetMinutes (offset : Int) : String :=
  Number.padded 2 (offset.natAbs / 3600) ++ ":" ++ Number.padded 2 (offset.natAbs / 60 % 60)

/-- The internet form can write the timestamp. -/
def HasInternetText (time : Timestamp) : Prop :=
  0 ≤ time.date.year ∧ time.offset.natAbs < 24 * 3600 ∧ time.offset.natAbs % 60 = 0

instance (time : Timestamp) : Decidable time.HasInternetText :=
  inferInstanceAs (Decidable (_ ∧ _))

/-- The internet form: only the needed digits of the fraction, and `Z` for universal time. -/
def internetText? (time : Timestamp) : Option String :=
  if time.HasInternetText then
    let fraction := fractionDigits time.nanosecond
    some (time.date.text ++ "T" ++ Number.padded 2 time.hour ++ ":" ++
      Number.padded 2 time.minute ++ ":" ++ Number.padded 2 time.second ++
      (if fraction = [] then "" else "." ++ String.ofList fraction) ++
      (if time.offset = 0 then "Z" else offsetSign time.offset ++ offsetMinutes time.offset))
  else none

/-- The full form: the hour as it is, at least one digit of the fraction, and the offset down to
its seconds. -/
def fullText (time : Timestamp) : String :=
  let fraction := fractionDigits time.nanosecond
  time.date.text ++ " " ++ toString time.hour ++ ":" ++ Number.padded 2 time.minute ++ ":" ++
    Number.padded 2 time.second ++ "." ++
    (if fraction = [] then "0" else String.ofList fraction) ++ " " ++
    offsetSign time.offset ++ offsetMinutes time.offset ++ ":" ++
    Number.padded 2 (time.offset.natAbs % 60)

/-- The internet form, or the full form where there is none. -/
def displayText (time : Timestamp) : String :=
  time.internetText?.getD time.fullText

end Timestamp

end RequestFilter
