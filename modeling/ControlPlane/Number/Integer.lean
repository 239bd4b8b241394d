/-
Whole numbers as text, and the bounds of the machine words they have to fit.

Identifiers, counts and ports arrive as decimal digits. Reading goes from left
to right and stops at the first thing that is wrong, so a number that is already
too large is reported before a bad character further right.
-/

set_option autoImplicit false

namespace ControlPlane

/-- A range of whole numbers that a field can hold. -/
structure WordRange where
  /-- The smallest number. -/
  least : Int
  /-- The largest number. -/
  greatest : Int
deriving DecidableEq, Repr

namespace WordRange

/-- Signed 64-bit words. -/
def signed64 : WordRange := ⟨-9223372036854775808, 9223372036854775807⟩
/-- Unsigned 64-bit words. -/
def unsigned64 : WordRange := ⟨0, 18446744073709551615⟩
/-- Unsigned 32-bit words. -/
def unsigned32 : WordRange := ⟨0, 4294967295⟩
/-- Unsigned 16-bit words. -/
def unsigned16 : WordRange := ⟨0, 65535⟩

/-- Whether a number lies in the range. -/
def holds (r : WordRange) (n : Int) : Bool :=
  decide (r.least ≤ n) && decide (n ≤ r.greatest)

/-- The number of the range with the same last 64 bits. -/
def wrapSigned64 (n : Int) : Int :=
  (n + 9223372036854775808) % 18446744073709551616 - 9223372036854775808

/-- The nearest number of the range. -/
def clamp (r : WordRange) (n : Int) : Int :=
  max r.least (min n r.greatest)

end WordRange

namespace Integer

/-- What is wrong with a text that should be a whole number. -/
inductive Flaw where
  /-- There is nothing to read. -/
  | empty
  /-- A character is no digit, or there is a sign without digits. -/
  | badDigit
  /-- The number is above the range. -/
  | tooLarge
  /-- The number is below the range. -/
  | tooSmall
deriving DecidableEq, Repr

/-- The wording of a flaw. -/
def Flaw.message : Flaw → String
  | .empty => "cannot parse integer from empty string"
  | .badDigit => "invalid digit found in string"
  | .tooLarge => "number too large to fit in target type"
  | .tooSmall => "number too small to fit in target type"

/-- The value of a decimal digit. -/
def digit? (c : Char) : Option Nat :=
  if '0' ≤ c ∧ c ≤ '9' then some (c.toNat - '0'.toNat) else none

/-- Continues a number that is read so far as `n` with more digits, each of
them moving it away from zero in the direction `sign`. -/
def readDigits (r : WordRange) (sign : Int) (n : Int) : List Char → Except Flaw Int
  | [] => .ok n
  | c :: cs =>
    match digit? c with
    | none => .error .badDigit
    | some d =>
      let next := 10 * n + sign * d
      if next < r.least then .error .tooSmall
      else if r.greatest < next then .error .tooLarge
      else readDigits r sign next cs

/-- Reads a whole number of a range: decimal digits with an optional plus sign,
or a minus sign if the range has negative numbers. -/
def read (r : WordRange) : List Char → Except Flaw Int
  | [] => .error .empty
  | ['+'] => .error .badDigit
  | ['-'] => .error .badDigit
  | '+' :: cs => readDigits r 1 0 cs
  | '-' :: cs => if r.least < 0 then readDigits r (-1) 0 cs else .error .badDigit
  | cs => readDigits r 1 0 cs

/-- Reads a signed 64-bit number. -/
def readSigned64? (cs : List Char) : Option Int :=
  match read .signed64 cs with
  | .ok n => some n
  | .error _ => none

/-! ## Powers and totals -/

/-- A power of two. -/
def twoTo (n : Nat) : Nat := Nat.pow 2 n

/-- A power of ten. -/
def tenTo (n : Nat) : Nat := Nat.pow 10 n

/-- The total of some numbers. -/
def total : List Nat → Nat
  | [] => 0
  | n :: rest => n + total rest

/-! ## Writing -/

/-- The decimal digits of a number. -/
def digits (n : Nat) : List Char :=
  Nat.toDigits 10 n

/-- A number in decimal, with a minus sign if it is negative. -/
def chars : Int → List Char
  | .ofNat n => digits n
  | .negSucc n => '-' :: digits (n + 1)

/-- A number in decimal. -/
def text (n : Int) : String :=
  String.ofList (chars n)

/-- A number in decimal with at least `width` digits. -/
def padded (width n : Nat) : List Char :=
  let ds := digits n
  List.replicate (width - ds.length) '0' ++ ds

end Integer

end ControlPlane
