/-
Dates of the Gregorian calendar, extended to all years.

A date and the number of days since 1970-01-01 determine each other. The year of
a day number is estimated from the mean length of a year and then corrected by
at most one; month and day follow by walking through the lengths of the months.
-/
import ControlPlane.Number.Integer

set_option autoImplicit false

namespace ControlPlane

/-- A date. -/
structure Date where
  /-- The year; the year before 1 is 0. -/
  year : Int
  /-- The month, from 1. -/
  month : Nat
  /-- The day of the month, from 1. -/
  day : Nat
deriving DecidableEq, Repr

namespace Date

/-- Whether a year has a 29th of February. -/
def isLeap (year : Int) : Bool :=
  year % 4 == 0 && (year % 100 != 0 || year % 400 == 0)

/-- The lengths of the months of a year. -/
def monthLengths (leap : Bool) : List Nat :=
  [31, if leap then 29 else 28, 31, 30, 31, 30, 31, 31, 30, 31, 30, 31]

/-- The length of a month, zero if there is no such month. -/
def monthLength (year : Int) (month : Nat) : Nat :=
  match month with
  | 0 => 0
  | m + 1 => ((monthLengths (isLeap year))[m]?).getD 0

/-- Whether there is such a day. -/
def isValid (d : Date) : Bool :=
  1 ≤ d.day && d.day ≤ monthLength d.year d.month

/-- The number of days from 0001-01-01 to the first day of a year. -/
def daysBeforeYear (year : Int) : Int :=
  let y := year - 1
  365 * y + y / 4 - y / 100 + y / 400

/-- The number of days from the first day of a year to the first of a month. -/
def daysBeforeMonth (year : Int) (month : Nat) : Nat :=
  Integer.total ((monthLengths (isLeap year)).take (month - 1))

/-- The number of days from 0001-01-01 to 1970-01-01. -/
def epoch : Int := 719162

/-- The number of days since 1970-01-01. -/
def dayNumber (d : Date) : Int :=
  daysBeforeYear d.year + daysBeforeMonth d.year d.month + ((d.day : Int) - 1) - epoch

/-- The year of the day that is `n` days after 0001-01-01. -/
def yearOf (n : Int) : Int :=
  let guess := n * 400 / 146097 + 1
  if n < daysBeforeYear guess then guess - 1
  else if daysBeforeYear (guess + 1) ≤ n then guess + 1
  else guess

/-- Walks through months of the given lengths: the month, counted from `month`,
and the day of it, for the day that is `n` days after the first. -/
def monthAndDay : List Nat → Nat → Nat → Nat × Nat
  | [], month, n => (month, n + 1)
  | length :: rest, month, n =>
    if n < length then (month, n + 1) else monthAndDay rest (month + 1) (n - length)

/-- The date of a day number. -/
def ofDayNumber (n : Int) : Date :=
  let n := n + epoch
  let year := yearOf n
  let (month, day) := monthAndDay (monthLengths (isLeap year)) 1 (n - daysBeforeYear year).toNat
  ⟨year, month, day⟩

/-- The day of the week of a day number: 0 for Sunday to 6 for Saturday. -/
def weekday (n : Int) : Nat :=
  ((n + 4) % 7).toNat

/-! ## Text -/

/-- A year: four digits, and more than that or a year before 0 with a sign. -/
def yearChars (year : Int) : List Char :=
  if 0 ≤ year ∧ year ≤ 9999 then Integer.padded 4 year.toNat
  else if year < 0 then '-' :: Integer.padded 4 year.natAbs
  else '+' :: Integer.padded 4 year.natAbs

/-- A date with dashes between its parts. -/
def chars (d : Date) : List Char :=
  yearChars d.year ++ '-' :: Integer.padded 2 d.month ++ '-' :: Integer.padded 2 d.day

/-- A date with dashes between its parts. -/
def text (d : Date) : String :=
  String.ofList d.chars

/-- The first and the last year that a point in time can lie in. -/
def firstYear : Int := -262143

/-- The last year that a point in time can lie in. -/
def lastYear : Int := 262142

end Date

end ControlPlane
