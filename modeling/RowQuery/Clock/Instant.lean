import RowQuery.Number.Layout

/-!
# Instants

An instant is a count of microseconds since the beginning of 1970, and its text names its
millisecond: `2023-11-14T22:13:20.000Z`.

* `Instant.text` is that text; the microseconds are cut off.
* `Date.ofDays` is the calendar date of a day.

## Design notes

Days are counted from the first of January of the year 1. The year of a day is the one whose first
day does not lie after it while the next year's does; a quotient by the mean length of a year is at
most one off.
-/

namespace RowQuery

/-- A calendar date; months and days are counted from one. -/
structure Date where
  year : Int
  month : Nat
  day : Nat
deriving DecidableEq

namespace Date

/-- Whether a year has 366 days. -/
def isLeap (year : Int) : Bool := year % 4 = 0 && (year % 100 ≠ 0 || year % 400 = 0)

/-- How many days lie between the first day of the year 1 and the first day of a year. -/
def daysBefore (year : Int) : Int :=
  let past := year - 1
  365 * past + past / 4 - past / 100 + past / 400

/-- The year of a day. -/
def yearOf (day : Int) : Int :=
  let guess := day * 400 / 146097 + 1
  if day < daysBefore guess then guess - 1
  else if daysBefore (guess + 1) ≤ day then guess + 1
  else guess

/-- The lengths of the months of a year. -/
def monthLengths (leap : Bool) : List Nat :=
  [31, if leap then 29 else 28, 31, 30, 31, 30, 31, 31, 30, 31, 30, 31]

/-- The month and day of a day of the year, counted from zero, where `month` comes first. -/
def monthDay (month : Nat) : List Nat → Nat → Nat × Nat
  | [], day => (month, day + 1)
  | length :: rest, day =>
    if day < length then (month, day + 1) else monthDay (month + 1) rest (day - length)

/-- The date of a day, counted from the first of January of the year 1. -/
def ofDays (day : Int) : Date :=
  let year := yearOf day
  let (month, dayOfMonth) := monthDay 1 (monthLengths (isLeap year)) (day - daysBefore year).toNat
  ⟨year, month, dayOfMonth⟩

end Date

/-- Microseconds since the beginning of 1970. -/
abbrev Instant := Int

namespace Instant

/-- Digits of a number, with zeros in front up to a width. -/
def padded (width n : Nat) : List Char :=
  let ds := Layout.digits n
  List.replicate (width - ds.length) '0' ++ ds

/-- Microseconds in a day. -/
def perDay : Int := 86400000000

/-- The days between the first day of the year 1 and the first day of 1970. -/
def epochDay : Int := 719162

/-- The date of an instant. -/
def date (t : Instant) : Date := .ofDays (t / perDay + epochDay)

/-- The milliseconds of the day that have passed. -/
def millisecondOfDay (t : Instant) : Nat := (t % perDay / 1000).toNat

/-- The text of an instant. -/
def chars (t : Instant) : List Char :=
  let date := date t
  let ms := millisecondOfDay t
  padded 4 date.year.toNat ++ '-' :: padded 2 date.month ++ '-' :: padded 2 date.day ++
    'T' :: padded 2 (ms / 3600000) ++ ':' :: padded 2 (ms / 60000 % 60) ++
    ':' :: padded 2 (ms / 1000 % 60) ++ '.' :: padded 3 (ms % 1000) ++ ['Z']

/-- The text of an instant. -/
def text (t : Instant) : String := String.ofList (chars t)

end Instant

end RowQuery
