/-
Points in time, and how they are written.

A point in time is a number of seconds since 1970-01-01T00:00:00Z and a fraction
of a second in nanoseconds. A leap second is the second before it with a fraction
of a whole second or more; it is written as the second number 60.

The store writes every time with exactly six digits of fraction, so that texts
are ordered as the times are. Answers write the fewest of zero, three, six or
nine digits that are exact.
-/
import ControlPlane.Time.Calendar

set_option autoImplicit false

namespace ControlPlane

/-- A point in time. -/
structure Instant where
  /-- Seconds since 1970-01-01T00:00:00Z. -/
  second : Int
  /-- Nanoseconds after that; a billion or more in a leap second. -/
  nano : Nat
deriving DecidableEq, Repr

namespace Instant

instance : Inhabited Instant := ⟨⟨0, 0⟩⟩

/-- The number of nanoseconds in a second. -/
def nanosPerSecond : Nat := 1000000000

/-- The number of seconds in a day. -/
def secondsPerDay : Int := 86400

/-- Whether one time is earlier than another. -/
def before (a b : Instant) : Bool :=
  decide (a.second < b.second) || (decide (a.second = b.second) && decide (a.nano < b.nano))

/-- The number of the day in which the time lies. -/
def dayNumber (i : Instant) : Int := i.second / secondsPerDay

/-- The second of the day. -/
def secondOfDay (i : Instant) : Nat := (i.second % secondsPerDay).toNat

/-- The date. -/
def date (i : Instant) : Date := .ofDayNumber i.dayNumber

/-- The first moment of a day. -/
def startOfDay (dayNumber : Int) : Instant := ⟨dayNumber * secondsPerDay, 0⟩

/-- A time some seconds earlier. Going back from within a leap second counts from
the second after it. -/
def minusSeconds (i : Instant) (seconds : Nat) : Instant :=
  if seconds = 0 then i
  else if i.nano < nanosPerSecond then ⟨i.second - seconds, i.nano⟩
  else ⟨i.second + 1 - seconds, i.nano - nanosPerSecond⟩

/-- A time some seconds later. -/
def plusSeconds (i : Instant) (seconds : Nat) : Instant :=
  ⟨i.second + seconds, i.nano⟩

/-! ## Text -/

/-- The time of day without a fraction. -/
def clockChars (i : Instant) : List Char :=
  let s := i.secondOfDay
  Integer.padded 2 (s / 3600) ++ ':' :: Integer.padded 2 (s / 60 % 60) ++
    ':' :: Integer.padded 2 (s % 60 + i.nano / nanosPerSecond)

/-- The fraction of the second in nanoseconds. -/
def fraction (i : Instant) : Nat := i.nano % nanosPerSecond

/-- Date, time of day and a given rest. -/
def charsWith (separator : Char) (rest : List Char) (i : Instant) : List Char :=
  i.date.chars ++ separator :: i.clockChars ++ rest

/-- The form in which the store keeps a time: six digits of fraction. -/
def storedText (i : Instant) : String :=
  String.ofList <|
    i.charsWith 'T' ('.' :: Integer.padded 6 (i.fraction / 1000) ++ ['Z'])

/-- The form in which answers show a time: as many digits of fraction as it
takes. -/
def text (i : Instant) : String :=
  let f := i.fraction
  let rest :=
    if f = 0 then []
    else if f % 1000000 = 0 then '.' :: Integer.padded 3 (f / 1000000)
    else if f % 1000 = 0 then '.' :: Integer.padded 6 (f / 1000)
    else '.' :: Integer.padded 9 f
  String.ofList (i.charsWith 'T' (rest ++ ['Z']))

/-- The form for people: no fraction, and a blank before the time of day. -/
def plainText (i : Instant) : String :=
  String.ofList (i.charsWith ' ' [])

end Instant

end ControlPlane
