/-
Reading points in time.

Times arrive as RFC 3339 texts, in two forms. The strict form is the one the
store writes: fixed numbers of digits and one separator between the parts. The
relaxed form, which frames and requests may use, also takes years with a sign,
parts with a single digit, and blanks before the separators.

A part is checked against its own bounds as soon as it is read, the day of the
month against the length of the month only when everything is there.
-/
import ControlPlane.Text.Blank
import ControlPlane.Time.Instant

set_option autoImplicit false

namespace ControlPlane

namespace Stamp

/-- Why a text is no point in time. -/
inductive Flaw where
  /-- The text ends before the time is complete. -/
  | tooShort
  /-- A character cannot stand where it does. -/
  | badCharacter
  /-- A part, or the whole, is out of bounds. -/
  | outOfRange
  /-- Something follows the time. -/
  | trailing
deriving DecidableEq, Repr

/-- The wording of a flaw. -/
def Flaw.message : Flaw → String
  | .tooShort => "premature end of input"
  | .badCharacter => "input contains invalid characters"
  | .outOfRange => "input is out of range"
  | .trailing => "trailing input"

/-- The parts of a time as they are read. -/
structure Parts where
  /-- The date. -/
  date : Date
  /-- The hour. -/
  hour : Nat
  /-- The minute. -/
  minute : Nat
  /-- The second; 60 is a leap second. -/
  second : Nat
  /-- The fraction of the second in nanoseconds. -/
  nano : Nat
  /-- How many seconds the clock is ahead of universal time. -/
  offset : Int
deriving DecidableEq, Repr

/-! ## Parts of a text -/

/-- The number of bytes that characters take. -/
def byteCount (cs : List Char) : Nat :=
  Integer.total (cs.map Char.utf8Size)

/-- Takes in digits as long as there are some, at most `max` if that is given. -/
def takeDigits : Option Nat → List Char → List Char × List Char
  | _, [] => ([], [])
  | some 0, cs => ([], cs)
  | limit, c :: cs =>
    if c.isDigit then
      let (ds, rest) := takeDigits (limit.map (· - 1)) cs
      (c :: ds, rest)
    else ([], c :: cs)

/-- The value of digits. -/
def valueOf (ds : List Char) : Nat :=
  ds.foldl (fun n c => 10 * n + (c.toNat - 48)) 0

/-- A number of at least `min` digits, and at most `max`. -/
def number (min : Nat) (max : Option Nat) (cs : List Char) : Except Flaw (Nat × List Char) :=
  if byteCount cs < min then .error .tooShort
  else
    let (ds, rest) := takeDigits max cs
    if ds.length < min then .error .badCharacter else .ok (valueOf ds, rest)

/-- A number that has to lie between two bounds. -/
def bounded (min max least greatest : Nat) (cs : List Char) : Except Flaw (Nat × List Char) := do
  let (n, rest) ← number min (some max) cs
  if n < least ∨ greatest < n then .error .outOfRange else .ok (n, rest)

/-- A given character. -/
def expect (c : Char) : List Char → Except Flaw (List Char)
  | [] => .error .tooShort
  | x :: rest => if x = c then .ok rest else .error .badCharacter

/-- What separates the date from the time of day. -/
def separator : List Char → Except Flaw (List Char)
  | [] => .error .tooShort
  | x :: rest => if x = 'T' ∨ x = 't' ∨ x = ' ' then .ok rest else .error .badCharacter

/-- The fraction of a second, if there is a point. Digits after the ninth do not
count. -/
def fraction : List Char → Except Flaw (Nat × List Char)
  | '.' :: cs => do
    let (_, after) ← number 1 (some 9) cs
    let ds := cs.take (cs.length - after.length)
    .ok (valueOf ds * Integer.tenTo (9 - ds.length), (takeDigits none after).2)
  | cs => .ok (0, cs)

/-- The two characters that should be digits of an offset. -/
def twoDigits? : List Char → Option (Nat × List Char)
  | a :: b :: rest =>
    if a.isDigit ∧ b.isDigit then some (10 * (a.toNat - 48) + (b.toNat - 48), rest) else none
  | _ => none

/-- The sign of an offset. -/
def offsetSign : List Char → Except Flaw (Bool × List Char)
  | [] => .error .tooShort
  | c :: rest =>
    if c = '+' then .ok (false, rest)
    else if c = '-' ∨ c = '\u2212' then .ok (true, rest)
    else .error .badCharacter

/-- The minutes of an offset, which may be missing. -/
def offsetMinutes (cs : List Char) : Except Flaw (Nat × List Char) :=
  match cs with
  | [] => .ok (0, [])
  | cs =>
    if byteCount cs < 2 then .error .tooShort
    else
      match twoDigits? cs with
      | some (m, rest) => if m < 60 then .ok (m, rest) else .error .outOfRange
      | none => .error .badCharacter

/-- The offset from universal time; `colon` takes away what stands between hours
and minutes. -/
def offset (colon : List Char → Except Flaw (List Char)) (cs : List Char) :
    Except Flaw (Int × List Char) :=
  match cs with
  | 'Z' :: rest => .ok (0, rest)
  | 'z' :: rest => .ok (0, rest)
  | cs => do
    let (negative, cs) ← offsetSign cs
    if byteCount cs < 2 then .error .tooShort
    else
      match twoDigits? cs with
      | none => .error .badCharacter
      | some (hours, cs) => do
        let cs ← colon cs
        let (minutes, cs) ← offsetMinutes cs
        let seconds : Int := hours * 3600 + minutes * 60
        .ok (if negative then -seconds else seconds, cs)

/-! ## Whole times -/

/-- The point in time that parts stand for. -/
def Parts.instant? (p : Parts) : Except Flaw Instant :=
  if p.date.year < Date.firstYear ∨ Date.lastYear < p.date.year ∨ !p.date.isValid then
    .error .outOfRange
  else if p.offset ≤ -86400 ∨ 86400 ≤ p.offset then .error .outOfRange
  else
    let leap := p.second = 60
    let second := if leap then 59 else p.second
    let nano := if leap then p.nano + Instant.nanosPerSecond else p.nano
    .ok ⟨p.date.dayNumber * Instant.secondsPerDay + p.hour * 3600 + p.minute * 60 + second -
      p.offset, nano⟩

/-- The strict form. -/
def strictParts (cs : List Char) : Except Flaw (Parts × List Char) := do
  let (year, cs) ← number 4 (some 4) cs
  let cs ← expect '-' cs
  let (month, cs) ← bounded 2 2 1 12 cs
  let cs ← expect '-' cs
  let (day, cs) ← bounded 2 2 1 31 cs
  let cs ← separator cs
  let (hour, cs) ← bounded 2 2 0 23 cs
  let cs ← expect ':' cs
  let (minute, cs) ← bounded 2 2 0 59 cs
  let cs ← expect ':' cs
  let (second, cs) ← bounded 2 2 0 60 cs
  let (nano, cs) ← fraction cs
  let (offset, cs) ← offset (expect ':') cs
  if offset < -86340 ∨ 86340 < offset then .error .outOfRange
  else .ok (⟨⟨year, month, day⟩, hour, minute, second, nano, offset⟩, cs)

/-- A point in time in the strict form. -/
def readChars (cs : List Char) : Except Flaw Instant := do
  let (parts, rest) ← strictParts cs
  if rest.isEmpty then parts.instant? else .error .trailing

/-- A point in time in the strict form. -/
def read (s : String) : Except Flaw Instant :=
  readChars s.toList

/-! ## The relaxed form -/

/-- A year: a sign and any number of digits, or up to four digits. -/
def relaxedYear (cs : List Char) : Except Flaw (Int × List Char) := do
  let (year, cs) ←
    match Text.trimStart cs with
    | '-' :: rest => (number 1 none rest).map fun (n, r) => (-(n : Int), r)
    | '+' :: rest => (number 1 none rest).map fun (n, r) => ((n : Int), r)
    | rest => (number 1 (some 4) rest).map fun (n, r) => ((n : Int), r)
  if year < -2147483648 ∨ 2147483647 < year then .error .outOfRange else .ok (year, cs)

/-- A part of one or two digits with blanks in front. -/
def relaxedPart (least greatest : Nat) (cs : List Char) : Except Flaw (Nat × List Char) :=
  bounded 1 2 least greatest (Text.trimStart cs)

/-- What may stand between the hours and the minutes of an offset. -/
def looseColon (cs : List Char) : Except Flaw (List Char) :=
  .ok (cs.dropWhile fun c => c = ':' || Text.isBlank c)

/-- The offset of the relaxed form, which may be the letters `UTC`. -/
def relaxedOffset (cs : List Char) : Except Flaw (Int × List Char) :=
  match Text.trimStart cs with
  | a :: b :: c :: rest =>
    if a.toUpper = 'U' ∧ b.toUpper = 'T' ∧ c.toUpper = 'C' then .ok (0, rest)
    else offset looseColon (a :: b :: c :: rest)
  | cs => offset looseColon cs

/-- The relaxed form. -/
def relaxedParts (cs : List Char) : Except Flaw (Parts × List Char) := do
  let (year, cs) ← relaxedYear cs
  let cs ← expect '-' (Text.trimStart cs)
  let (month, cs) ← relaxedPart 1 12 cs
  let cs ← expect '-' (Text.trimStart cs)
  let (day, cs) ← relaxedPart 1 31 cs
  let cs ← separator cs
  let (hour, cs) ← relaxedPart 0 23 cs
  let cs ← expect ':' (Text.trimStart cs)
  let (minute, cs) ← relaxedPart 0 59 cs
  let cs ← expect ':' (Text.trimStart cs)
  let (second, cs) ← relaxedPart 0 60 cs
  let (nano, cs) ← fraction cs
  let (offset, cs) ← relaxedOffset cs
  .ok (⟨⟨year, month, day⟩, hour, minute, second, nano, offset⟩, cs)

/-- A point in time in the relaxed form. -/
def readRelaxed (s : String) : Except Flaw Instant := do
  let (parts, rest) ← relaxedParts s.toList
  if (Text.trimStart rest).isEmpty then parts.instant? else .error .trailing

/-- A date: year, month and day in the strict form. -/
def readDate? (s : String) : Option Date :=
  let reading : Except Flaw (Date × List Char) := do
    let (year, cs) ← relaxedYear s.toList
    let cs ← expect '-' cs
    let (month, cs) ← relaxedPart 1 12 cs
    let cs ← expect '-' cs
    let (day, cs) ← relaxedPart 1 31 cs
    .ok (⟨year, month, day⟩, cs)
  match reading with
  | .ok (d, []) => if d.isValid then some d else none
  | _ => none

end Stamp

end ControlPlane
