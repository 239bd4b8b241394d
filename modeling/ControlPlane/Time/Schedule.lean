/-
Schedules.

A schedule names the seconds, minutes, hours, days of the month, months, days of
the week and years at which something is due; it is due at every time that all
seven agree with. It is written as six or seven fields, or as one of five
shorthands. A field lists single values, ranges and steps; months and days of the
week also have names.

The search for the next time starts from the second after a given one and goes
through years, months, days and times of day in order. As long as it is in the
first year it looks at, it leaves out the months before the starting one, and so
on down to the seconds. If the starting year is not named, the first year looked
at is a later one, and is searched from the starting month and day all the same.
-/
import ControlPlane.Text.Blank
import ControlPlane.Time.Instant

set_option autoImplicit false

namespace ControlPlane

/-- When something is due. Each list is in ascending order. -/
structure Schedule where
  /-- The seconds. -/
  seconds : List Nat
  /-- The minutes. -/
  minutes : List Nat
  /-- The hours. -/
  hours : List Nat
  /-- The days of the month. -/
  daysOfMonth : List Nat
  /-- The months. -/
  months : List Nat
  /-- The days of the week, from 1 for Sunday to 7 for Saturday. -/
  daysOfWeek : List Nat
  /-- The years. -/
  years : List Nat
deriving DecidableEq, Repr

namespace Schedule

/-! ## Fields -/

/-- What a field of a schedule counts. -/
structure Part where
  /-- The smallest value. -/
  least : Nat
  /-- The largest value. -/
  greatest : Nat
  /-- The names that stand for values. -/
  names : List (List String × Nat)
deriving Repr

namespace Part

/-- Seconds. -/
def second : Part := ⟨0, 59, []⟩
/-- Minutes. -/
def minute : Part := ⟨0, 59, []⟩
/-- Hours. -/
def hour : Part := ⟨0, 23, []⟩
/-- Days of the month. -/
def dayOfMonth : Part := ⟨1, 31, []⟩
/-- Years. -/
def year : Part := ⟨1970, 2100, []⟩

/-- Months. -/
def month : Part :=
  ⟨1, 12,
    [(["jan", "january"], 1), (["feb", "february"], 2), (["mar", "march"], 3),
      (["apr", "april"], 4), (["may"], 5), (["jun", "june"], 6), (["jul", "july"], 7),
      (["aug", "august"], 8), (["sep", "september"], 9), (["oct", "october"], 10),
      (["nov", "november"], 11), (["dec", "december"], 12)]⟩

/-- Days of the week. -/
def dayOfWeek : Part :=
  ⟨1, 7,
    [(["sun", "sunday"], 1), (["mon", "monday"], 2), (["tue", "tues", "tuesday"], 3),
      (["wed", "wednesday"], 4), (["thu", "thurs", "thursday"], 5), (["fri", "friday"], 6),
      (["sat", "saturday"], 7)]⟩

/-- All values. -/
def all (p : Part) : List Nat :=
  List.range' p.least (p.greatest + 1 - p.least)

/-- Whether a value is in bounds. -/
def holds (p : Part) (n : Nat) : Bool :=
  p.least ≤ n && n ≤ p.greatest

/-- The value of a name, in upper or lower case. -/
def named? (p : Part) (name : List Char) : Option Nat :=
  let name := String.ofList (name.map Char.toLower)
  (p.names.find? fun (ns, _) => ns.contains name).map (·.2)

/-- The values between two bounds, if these are in order and in bounds. -/
def between? (p : Part) (first last : Nat) : Option (List Nat) :=
  if p.holds first && p.holds last && first ≤ last then
    some (List.range' first (last + 1 - first))
  else none

end Part

/-- A part of a field. -/
inductive Range where
  /-- All values. -/
  | all
  /-- One value. -/
  | point (n : Nat)
  /-- The values from one to another. -/
  | between (first last : Nat)
  /-- The values from one name to another. -/
  | betweenNames (first last : List Char)
deriving Repr

/-- An entry of a field. -/
inductive Entry where
  /-- The values of a range. -/
  | range (r : Range)
  /-- Each so-manieth value of a range. -/
  | stepped (r : Range) (step : Nat)
  /-- The value of a name. -/
  | name (n : List Char)
deriving Repr

/-- The values of a range. -/
def Range.values? (p : Part) : Range → Option (List Nat)
  | .all => some p.all
  | .point n => some [n]
  | .between a b => p.between? a b
  | .betweenNames a b =>
    match p.named? a, p.named? b with
    | some a, some b => p.between? a b
    | _, _ => none

/-- Each `step`-th item, beginning with the first; `wait` items are still to be
left out. -/
def everyNth (step : Nat) : Nat → List Nat → List Nat
  | _, [] => []
  | 0, n :: rest => n :: everyNth step (step - 1) rest
  | wait + 1, _ :: rest => everyNth step wait rest

/-- The values of an entry. A single value in front of a step means all values
from there on. -/
def Entry.values? (p : Part) : Entry → Option (List Nat)
  | .range r => r.values? p
  | .name n => (p.named? n).map ([·])
  | .stepped r step =>
    if step = 0 then none
    else
      let base :=
        match r with
        | .point n => p.between? n p.greatest
        | r => r.values? p
      base.map (everyNth step 0)

/-- The values of all entries together. -/
def entryValues? (p : Part) : List Entry → Option (List Nat)
  | [] => some []
  | e :: rest =>
    match e.values? p, entryValues? p rest with
    | some a, some b => some (a ++ b)
    | _, _ => none

/-- The values of a field, in ascending order. -/
def fieldValues? (p : Part) (entries : List Entry) : Option (List Nat) :=
  match entryValues? p entries with
  | some values => if values.all p.holds then some (p.all.filter values.contains) else none
  | none => none

/-! ## Reading -/

/-- The blanks that may stand between fields. -/
def isSpace (c : Char) : Bool :=
  c = ' ' || c = '\t' || c = '\r' || c = '\n'

/-- Without the blanks in front. -/
def skip (cs : List Char) : List Char :=
  cs.dropWhile isSpace

/-- A number and the blanks after it. -/
def number? (cs : List Char) : Option (Nat × List Char) :=
  match cs.takeWhile Char.isDigit with
  | [] => none
  | ds =>
    let n := ds.foldl (fun n c => 10 * n + (c.toNat - 48)) 0
    if n < 4294967296 then some (n, skip (cs.dropWhile Char.isDigit)) else none

/-- A name and the blanks after it. -/
def name? (cs : List Char) : Option (List Char × List Char) :=
  match cs.takeWhile Char.isAlpha with
  | [] => none
  | letters => some (letters, skip (cs.dropWhile Char.isAlpha))

/-- Two of a kind with a dash between them. -/
def pair? {α : Type} (item? : List Char → Option (α × List Char)) (cs : List Char) :
    Option ((α × α) × List Char) :=
  match item? cs with
  | some (a, '-' :: cs) => (item? cs).map fun (b, cs) => ((a, b), cs)
  | _ => none

/-- A range. Where `open_` is set, a question mark also means all values. -/
def range? (open_ : Bool) (cs : List Char) : Option (Range × List Char) :=
  match cs with
  | [] => none
  | c :: rest =>
    if c = '*' ∨ (open_ ∧ c = '?') then some (.all, rest)
    else
      match pair? number? cs with
      | some ((a, b), rest) => some (.between a b, rest)
      | none =>
        match number? cs with
        | some (n, rest) => some (.point n, rest)
        | none => (pair? name? cs).map fun ((a, b), rest) => (.betweenNames a b, rest)

/-- A range and a step. -/
def stepped? (open_ : Bool) (cs : List Char) : Option (Entry × List Char) :=
  match range? open_ cs with
  | some (r, '/' :: rest) => (number? rest).map fun (n, rest) => (.stepped r n, rest)
  | _ => none

/-- An entry. -/
def entry? (open_ : Bool) (cs : List Char) : Option (Entry × List Char) :=
  match stepped? open_ cs with
  | some found => some found
  | none =>
    match range? open_ cs with
    | some (r, rest) => some (.range r, rest)
    | none => (name? cs).map fun (n, rest) => (.name n, rest)

/-- The entries after the first one; `fuel` bounds their number. A comma that no
entry follows is left where it is. -/
def moreEntries (open_ : Bool) : Nat → List Char → List Entry × List Char
  | 0, cs => ([], cs)
  | fuel + 1, cs =>
    match cs with
    | ',' :: rest =>
      match entry? open_ rest with
      | some (e, rest) =>
        let (es, rest) := moreEntries open_ fuel rest
        (e :: es, rest)
      | none => ([], cs)
    | _ => ([], cs)

/-- A field: its values, and what follows it and the blanks after it. -/
def field? (p : Part) (open_ : Bool) (cs : List Char) : Option (List Nat × List Char) :=
  match entry? open_ cs with
  | none => none
  | some (e, rest) =>
    let (es, rest) := moreEntries open_ rest.length rest
    (fieldValues? p (e :: es)).map fun values => (values, skip rest)

/-- Six or seven fields. -/
def fields? (cs : List Char) : Option Schedule := do
  let (seconds, cs) ← field? .second false cs
  let (minutes, cs) ← field? .minute false cs
  let (hours, cs) ← field? .hour false cs
  let (daysOfMonth, cs) ← field? .dayOfMonth true cs
  let (months, cs) ← field? .month false cs
  let (daysOfWeek, cs) ← field? .dayOfWeek true cs
  match cs with
  | [] => some ⟨seconds, minutes, hours, daysOfMonth, months, daysOfWeek, Part.year.all⟩
  | cs =>
    match field? .year false cs with
    | some (years, []) =>
      some ⟨seconds, minutes, hours, daysOfMonth, months, daysOfWeek, years⟩
    | _ => none

/-- The shorthands. -/
def shorthands : List (String × Schedule) :=
  let days := Part.dayOfMonth.all
  let months := Part.month.all
  let week := Part.dayOfWeek.all
  let years := Part.year.all
  [("@hourly", ⟨[0], [0], Part.hour.all, days, months, week, years⟩),
    ("@daily", ⟨[0], [0], [0], days, months, week, years⟩),
    ("@weekly", ⟨[0], [0], [0], days, months, [1], years⟩),
    ("@monthly", ⟨[0], [0], [0], [1], months, week, years⟩),
    ("@yearly", ⟨[0], [0], [0], [1], [1], week, years⟩)]

/-- Reads a schedule. Where there are only five words, the seconds are left out
and are zero. -/
def read? (text : String) : Option Schedule :=
  let trimmed := Text.trim text
  let full := if (Text.words text).length = 5 then "0 " ++ trimmed else trimmed
  match shorthands.find? (·.1 == full) with
  | some (_, s) => some s
  | none => fields? full.toList

/-! ## The next time -/

/-- The time of day at or after a bound; without a bound, the first one. -/
def firstClock? (s : Schedule) (bound : Option (Nat × Nat × Nat)) :
    Option (Nat × Nat × Nat) :=
  let (h0, m0, s0) := bound.getD (0, 0, 0)
  s.hours.findSome? fun h =>
    if h < h0 then none
    else
      s.minutes.findSome? fun m =>
        if h = h0 ∧ m < m0 then none
        else
          s.seconds.findSome? fun sec =>
            if h = h0 ∧ m = m0 ∧ sec < s0 then none else some (h, m, sec)

/-- The moment from which a search starts. -/
structure Start where
  /-- The month. -/
  month : Nat
  /-- The day of the month. -/
  day : Nat
  /-- Hour, minute and second. -/
  clock : Nat × Nat × Nat
deriving DecidableEq, Repr

/-- The first time on a day that is due at a bound or later. -/
def firstInDay? (s : Schedule) (year month day : Nat) (bound : Option (Nat × Nat × Nat)) :
    Option Instant :=
  let number := Date.dayNumber ⟨year, month, day⟩
  if s.daysOfWeek.contains (Date.weekday number + 1) then
    (s.firstClock? bound).map fun (h, m, sec) =>
      ⟨number * Instant.secondsPerDay + h * 3600 + m * 60 + sec, 0⟩
  else none

/-- The first time in a month; `start` is given in the month where the search
starts. -/
def firstInMonth? (s : Schedule) (year month : Nat) (start : Option Start) : Option Instant :=
  let length := Date.monthLength year month
  let firstDay := match start with | some b => min b.day length | none => 1
  let bound := match start with
    | some b => if s.daysOfMonth.contains b.day then some b.clock else none
    | none => none
  s.daysOfMonth.findSome? fun day =>
    if day < firstDay ∨ length < day then none
    else s.firstInDay? year month day (if day = firstDay then bound else none)

/-- The first time in a year; `start` is given in the first year looked at. -/
def firstInYear? (s : Schedule) (year : Nat) (start : Option Start) : Option Instant :=
  let firstMonth := match start with | some b => b.month | none => 1
  s.months.findSome? fun month =>
    if month < firstMonth then none
    else s.firstInMonth? year month (if month = firstMonth then start else none)

/-- The first time after a given one. -/
def next? (s : Schedule) (after : Instant) : Option Instant :=
  let from_ := after.plusSeconds 1
  let date := from_.date
  let clock := from_.secondOfDay
  let start : Start :=
    ⟨date.month, date.day, (clock / 3600, clock / 60 % 60, clock % 60)⟩
  match s.years.filter fun (y : Nat) => date.year ≤ (y : Int) with
  | [] => none
  | first :: later =>
    match s.firstInYear? first (some start) with
    | some t => some t
    | none => later.findSome? fun year => s.firstInYear? year none

end Schedule

end ControlPlane
