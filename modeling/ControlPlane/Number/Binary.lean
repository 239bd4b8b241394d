/-
Binary floating-point numbers.

Page geometry, scroll distances and the sampling temperature are binary
fractions of a fixed precision. They are held here as what they are, a signed
significand times a power of two, and every operation is the exact result
rounded once to the nearest number of the format, a tie going to the even
significand. Infinities have no place in the type: an operation whose result is
too large answers `none`.
-/
import ControlPlane.Number.Integer

set_option autoImplicit false

namespace ControlPlane

/-- A binary format: how many bits a significand has, and the exponents of the
last bit of its smallest and of its largest numbers. -/
structure BinaryFormat where
  /-- The number of bits of a full significand. -/
  precision : Nat
  /-- The exponent of the last bit of the numbers next to zero. -/
  least : Int
  /-- The exponent of the last bit of the largest numbers. -/
  greatest : Int
deriving DecidableEq, Repr

namespace BinaryFormat

/-- Double precision: 64 bits. -/
def double : BinaryFormat := ⟨53, -1074, 971⟩

/-- Single precision: 32 bits. -/
def single : BinaryFormat := ⟨24, -149, 104⟩

end BinaryFormat

/-- A finite number of a binary format: `significand * 2 ^ exponent`, with a
sign of its own so that the two zeros differ. -/
structure Binary (format : BinaryFormat) where
  /-- Whether there is a minus sign. -/
  negative : Bool
  /-- The digits, as a whole number. -/
  significand : Nat
  /-- The exponent of the last digit. -/
  exponent : Int
deriving DecidableEq, Repr

/-- A number of double precision. -/
abbrev Double := Binary .double

/-- A number of single precision. -/
abbrev Single := Binary .single

namespace Binary

variable {f : BinaryFormat}

/-- The zero of a format. -/
def zero (f : BinaryFormat) (negative : Bool) : Binary f :=
  ⟨negative, 0, f.least⟩

instance : Inhabited (Binary f) := ⟨zero f false⟩

/-- Whether the number is one of the two zeros. -/
def isZero (x : Binary f) : Bool :=
  x.significand == 0

/-- The quotient of two whole numbers, rounded to the nearest whole number; a
tie goes to the even one. -/
def roundQuotient (num den : Nat) : Nat :=
  let q := num / den
  let twice := 2 * (num % den)
  if den < twice ∨ (twice = den ∧ q % 2 = 1) then q + 1 else q

/-- The number of the quotient `num / den * 2 ^ (-e)` as a fraction. -/
def scaled (num den : Nat) (e : Int) : Nat × Nat :=
  if 0 ≤ e then (num, den * Integer.twoTo e.toNat)
  else (num * Integer.twoTo (-e).toNat, den)

/-- The exponent of the last digit of the number of the format next to a
positive fraction: as small as the precision and the format permit. -/
def unitExponent (f : BinaryFormat) (num den : Nat) : Int :=
  let guess : Int := (num.log2 : Int) - (den.log2 : Int) - ((f.precision : Int) - 1)
  let (a, b) := scaled num den guess
  let e := if a < b * Integer.twoTo (f.precision - 1) then guess - 1 else guess
  max e f.least

/-- The number of the format nearest to a fraction, unless that is too large. -/
def ofRatio (f : BinaryFormat) (negative : Bool) (num den : Nat) : Option (Binary f) :=
  if num = 0 then some (zero f negative)
  else
    let e := unitExponent f num den
    let (a, b) := scaled num den e
    let s := roundQuotient a b
    let (s, e) :=
      if s = Integer.twoTo f.precision then (Integer.twoTo (f.precision - 1), e + 1) else (s, e)
    if f.greatest < e then none
    else if s = 0 then some (zero f negative)
    else some ⟨negative, s, e⟩

/-- The number of the format nearest to a natural number. -/
def ofNat? (f : BinaryFormat) (n : Nat) : Option (Binary f) :=
  ofRatio f false n 1

/-- The number of the format nearest to a whole number. -/
def ofInt? (f : BinaryFormat) (n : Int) : Option (Binary f) :=
  ofRatio f (decide (n < 0)) n.natAbs 1

/-- The magnitude as a fraction. -/
def ratio (x : Binary f) : Nat × Nat :=
  if 0 ≤ x.exponent then (x.significand * Integer.twoTo x.exponent.toNat, 1)
  else (x.significand, Integer.twoTo (-x.exponent).toNat)

/-- The number with the other sign. -/
def neg (x : Binary f) : Binary f :=
  { x with negative := !x.negative }

/-- The product, rounded. -/
def mul (x y : Binary f) : Option (Binary f) :=
  let (a, b) := x.ratio
  let (c, d) := y.ratio
  ofRatio f (x.negative != y.negative) (a * c) (b * d)

/-- The quotient by a number other than zero, rounded. -/
def div (x y : Binary f) : Option (Binary f) :=
  let (a, b) := x.ratio
  let (c, d) := y.ratio
  if c = 0 then none
  else ofRatio f (x.negative != y.negative) (a * d) (b * c)

/-- The number of another format nearest to this one. -/
def convert (g : BinaryFormat) (x : Binary f) : Option (Binary g) :=
  let (a, b) := x.ratio
  ofRatio g x.negative a b

/-- The nearest whole number; a half goes away from zero. -/
def roundAway (x : Binary f) : Int :=
  let (a, b) := x.ratio
  let n : Int := ((2 * a + b) / (2 * b) : Nat)
  if x.negative then -n else n

/-- The nearest whole number without its sign; a half goes to the even one. -/
def roundEvenAbs (x : Binary f) : Nat :=
  let (a, b) := x.ratio
  roundQuotient a b

end Binary

end ControlPlane
