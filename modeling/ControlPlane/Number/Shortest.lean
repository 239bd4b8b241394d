/-
The shortest decimal of a binary number.

A number is written with the fewest decimal digits that are read back as the
same number, and among those with the digits nearest to it. A decimal is read
back as the number exactly if it lies in the interval of the reals that round to
it, whose ends belong to it when the significand is even. If an interval holds a
decimal with so many digits at all, it holds one of the two such decimals next
to the number, so only these are tried, for one digit, two digits and so on.

How the digits are laid out is a matter of the place where they are written; the
layouts in use stand at the end.
-/
import ControlPlane.Number.Binary
import ControlPlane.Number.Integer

set_option autoImplicit false

namespace ControlPlane

/-- A positive decimal fraction `0.d₁d₂… * 10 ^ point`. -/
structure Decimal where
  /-- The digits, the first of them not zero. -/
  digits : List Char
  /-- The power of ten of the place just before the first digit. -/
  point : Int
deriving DecidableEq, Repr

namespace Binary

variable {f : BinaryFormat}

/-- Four times the ends of the interval of the reals that round to a number, and
four times the number itself, in units of `2 ^ exponent`. Below a power of two
the neighbours are only half as far away. -/
def interval (f : BinaryFormat) (x : Binary f) : Nat × Nat × Nat :=
  let m := 4 * x.significand
  let below :=
    if x.significand = Integer.twoTo (f.precision - 1) ∧ f.least < x.exponent then 1 else 2
  (m - below, m, m + 2)

/-- The power of ten just above a positive fraction: the least `p` with
`num / den < 10 ^ p`. -/
def decimalPoint (num den : Nat) : Int :=
  if den ≤ num then ((Nat.toDigits 10 (num / den)).length : Int)
  else
    let guess := (Nat.toDigits 10 den).length - (Nat.toDigits 10 num).length
    -- `10 ^ (guess - 1) < den / num < 10 ^ (guess + 1)`
    if den ≤ num * Integer.tenTo (guess - 1) then 2 - (guess : Int)
    else if den ≤ num * Integer.tenTo guess then 1 - (guess : Int)
    else -(guess : Int)

/-- The decimal with `count` digits, counted from `10 ^ point` down, that is
nearest to a number and lies in its interval. The arguments are four times the
ends and the number as fractions over `den`. -/
def candidate? (closed : Bool) (low mid high den : Nat) (point : Int) (count : Nat) :
    Option Nat :=
  let e := point - (count : Int)
  -- a decimal `n` stands for `n * 10 ^ e`
  let (up, down) := if 0 ≤ e then (Integer.tenTo e.toNat, 1) else (1, Integer.tenTo (-e).toNat)
  let unit := up * den
  let holds (n : Nat) : Bool :=
    if closed then decide (low * down ≤ n * unit) && decide (n * unit ≤ high * down)
    else decide (low * down < n * unit) && decide (n * unit < high * down)
  let n := mid * down / unit
  let rest := mid * down - n * unit
  let lowFits := decide (0 < n) && holds n
  let highFits := holds (n + 1)
  if lowFits && highFits then
    some (if 2 * rest < unit ∨ (2 * rest = unit ∧ n % 2 = 0) then n else n + 1)
  else if lowFits then some n
  else if highFits then some (n + 1)
  else none

/-- Tries `count` digits and more, `fuel` times. -/
def shortestFrom (closed : Bool) (low mid high den : Nat) (point : Int) :
    Nat → Nat → Decimal
  | 0, count => ⟨Integer.digits (mid * Integer.tenTo count / den), point⟩
  | fuel + 1, count =>
    match candidate? closed low mid high den point count with
    | some n =>
      let ds := Integer.digits n
      let shift : Int := (ds.length : Int) - (count : Int)
      ⟨(ds.reverse.dropWhile (· = '0')).reverse, point + shift⟩
    | none => shortestFrom closed low mid high den point fuel (count + 1)

/-- The shortest decimal of a number other than zero. Seventeen digits are
enough for double precision. -/
def shortest (x : Binary f) : Decimal :=
  let (low, mid, high) := interval f x
  let (up, den) : Nat × Nat :=
    if 0 ≤ x.exponent then (Integer.twoTo x.exponent.toNat, 4)
    else (1, 4 * Integer.twoTo (-x.exponent).toNat)
  let point := decimalPoint (mid * up) den
  shortestFrom (x.significand % 2 == 0) (low * up) (mid * up) (high * up) den point 17 1

end Binary

/-! ## Layouts -/

/-- How a decimal is laid out. -/
structure DecimalLayout where
  /-- Positional notation is used while the point stands above this place … -/
  above : Option Int
  /-- … and not above this one; otherwise an exponent is written. -/
  upTo : Option Int
  /-- Whether a whole number is written with `.0` at its end. -/
  wholeMark : Bool
deriving DecidableEq, Repr

namespace DecimalLayout

/-- JSON texts: an exponent from 10¹⁶ up and below 10⁻⁵, and a whole number
keeps a `.0`. -/
def json : DecimalLayout := ⟨some (-5), some 16, true⟩

/-- JSON texts, for single precision: an exponent from 10¹³ up. -/
def jsonSingle : DecimalLayout := ⟨some (-5), some 13, true⟩

/-- Prose: never an exponent, and a whole number looks like one. -/
def plain : DecimalLayout := ⟨none, none, false⟩

/-- Whether a decimal whose point stands at a place is written in positional
notation. -/
def positional (layout : DecimalLayout) (point : Int) : Bool :=
  (match layout.above with | some p => decide (p < point) | none => true) &&
    (match layout.upTo with | some p => decide (point ≤ p) | none => true)

/-- A decimal in positional notation. -/
def place (layout : DecimalLayout) (d : Decimal) : List Char :=
  let n := d.digits.length
  if (n : Int) ≤ d.point then
    d.digits ++ List.replicate (d.point.toNat - n) '0' ++
      (if layout.wholeMark then ['.', '0'] else [])
  else if 0 < d.point then
    d.digits.take d.point.toNat ++ '.' :: d.digits.drop d.point.toNat
  else '0' :: '.' :: List.replicate (-d.point).toNat '0' ++ d.digits

/-- A decimal as one digit before the point and a signed power of ten. -/
def withExponent (d : Decimal) : List Char :=
  let e := d.point - 1
  let mantissa :=
    match d.digits with
    | [] => []
    | [c] => [c]
    | c :: cs => c :: '.' :: cs
  mantissa ++ 'e' :: (if e < 0 then [] else ['+']) ++ Integer.chars e

/-- A decimal in a layout. -/
def chars (layout : DecimalLayout) (d : Decimal) : List Char :=
  if layout.positional d.point then layout.place d else withExponent d

end DecimalLayout

namespace Binary

variable {f : BinaryFormat}

/-- A number in a layout. -/
def chars (layout : DecimalLayout) (x : Binary f) : List Char :=
  let magnitude :=
    if x.isZero then (if layout.wholeMark then ['0', '.', '0'] else ['0'])
    else layout.chars x.shortest
  if x.negative then '-' :: magnitude else magnitude

/-- A number in a layout. -/
def text (layout : DecimalLayout) (x : Binary f) : String :=
  String.ofList (x.chars layout)

end Binary

end ControlPlane
