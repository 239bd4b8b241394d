/-
Reading JSON texts.

The reader goes through the characters once and answers the outline of the value
they begin with, and what follows it. It never gives up: where the text breaks
off, the outline says so.

Numbers are read the way the format's fastest readers do it: the digits are
collected in an unsigned 64-bit word until it is full, and the word is then
multiplied or divided by a power of ten, with one rounding for each step.
-/
import ControlPlane.Json.Outline

set_option autoImplicit false

namespace ControlPlane

/-! ## Texts -/

/-- One element of a quoted text. -/
inductive TextPiece where
  /-- A character that stands for itself or is written with a short escape. -/
  | char (c : Char)
  /-- A code unit written as `\u` and four hexadecimal digits. -/
  | unit (n : Nat)
deriving DecidableEq, Repr

namespace TextPiece

/-- A code unit that is the first half of a surrogate pair. -/
def isLead (n : Nat) : Bool := 0xD800 ≤ n && n < 0xDC00

/-- A code unit that is the second half of a surrogate pair. -/
def isTrail (n : Nat) : Bool := 0xDC00 ≤ n && n < 0xE000

/-- The characters of a text, if every surrogate is half of a pair. -/
def join? : List TextPiece → Option (List Char)
  | [] => some []
  | .char c :: rest => (join? rest).map (c :: ·)
  | .unit n :: rest =>
    if isTrail n then none
    else if isLead n then
      match rest with
      | .unit m :: rest =>
        if isTrail m then
          (join? rest).map (Char.ofNat (0x10000 + (n - 0xD800) * 1024 + (m - 0xDC00)) :: ·)
        else none
      | _ => none
    else (join? rest).map (Char.ofNat n :: ·)

end TextPiece

namespace Reader

/-- The blanks between the parts of a JSON text. -/
def isSpace (c : Char) : Bool :=
  c = ' ' || c = '\n' || c = '\t' || c = '\r'

/-- Without the blanks in front. -/
def skip (cs : List Char) : List Char :=
  cs.dropWhile isSpace

/-- The value of a hexadecimal digit of either case. -/
def hexValue? (c : Char) : Option Nat :=
  if '0' ≤ c ∧ c ≤ '9' then some (c.toNat - 48)
  else if 'a' ≤ c ∧ c ≤ 'f' then some (c.toNat - 87)
  else if 'A' ≤ c ∧ c ≤ 'F' then some (c.toNat - 55)
  else none

/-- The code unit that four hexadecimal digits stand for. -/
def unit? (a b c d : Char) : Option Nat :=
  match hexValue? a, hexValue? b, hexValue? c, hexValue? d with
  | some a, some b, some c, some d => some (((a * 16 + b) * 16 + c) * 16 + d)
  | _, _, _, _ => none

/-- The character of a short escape. -/
def shortEscape? (c : Char) : Option Char :=
  if c = '"' then some '"'
  else if c = '\\' then some '\\'
  else if c = '/' then some '/'
  else if c = 'b' then some (Char.ofNat 8)
  else if c = 'f' then some (Char.ofNat 12)
  else if c = 'n' then some '\n'
  else if c = 'r' then some '\r'
  else if c = 't' then some '\t'
  else none

/-- The elements of a quoted text after its opening quote, and what follows the
closing one. -/
def textPieces? : List Char → Option (List TextPiece × List Char)
  | [] => none
  | '"' :: rest => some ([], rest)
  | '\\' :: 'u' :: a :: b :: c :: d :: rest =>
    match unit? a b c d with
    | some n => (textPieces? rest).map fun (ps, r) => (.unit n :: ps, r)
    | none => none
  | '\\' :: e :: rest =>
    match shortEscape? e with
    | some c => (textPieces? rest).map fun (ps, r) => (.char c :: ps, r)
    | none => none
  | c :: rest =>
    if c = '\\' ∨ c.toNat < 32 then none
    else (textPieces? rest).map fun (ps, r) => (.char c :: ps, r)

/-- A quoted text after its opening quote. -/
def quotedText? (cs : List Char) : Option (Option String × List Char) :=
  (textPieces? cs).map fun (ps, r) => ((TextPiece.join? ps).map String.ofList, r)

/-! ## Numbers -/

/-- The digits of a number, and the power of ten they are multiplied by. -/
structure Mantissa where
  /-- The digits that fit a 64-bit word. -/
  word : Nat
  /-- The power of ten. -/
  exponent : Int
  /-- Whether digits of the whole part were left out. -/
  full : Bool
deriving DecidableEq, Repr

/-- The largest 64-bit word. -/
def wordMax : Nat := 18446744073709551615

/-- The value of a decimal digit. -/
def digitValue (c : Char) : Nat := c.toNat - 48

/-- Whether a character is a decimal digit. -/
def isDigit (c : Char) : Bool := '0' ≤ c && c ≤ '9'

/-- Takes in the digits before the point. -/
def wholeDigits (m : Mantissa) : List Char → Mantissa
  | [] => m
  | c :: cs =>
    if m.full ∨ wordMax < 10 * m.word + digitValue c then
      wholeDigits { m with exponent := m.exponent + 1, full := true } cs
    else wholeDigits { m with word := 10 * m.word + digitValue c } cs

/-- Takes in the digits after the point, as long as they fit. -/
def fractionDigits (m : Mantissa) : List Char → Mantissa
  | [] => m
  | c :: cs =>
    if wordMax < 10 * m.word + digitValue c then m
    else fractionDigits
      { m with word := 10 * m.word + digitValue c, exponent := m.exponent - 1 } cs

/-- A power of ten in double precision. -/
def powerOfTen (n : Nat) : Double :=
  (Binary.ofRatio .double false (Integer.tenTo n) 1).getD default

/-- The greatest power of ten that fits double precision. -/
def greatestPower : Nat := 308

/-- Divides by `10 ^ exponent` in steps of at most the greatest power of ten, each
of them rounded; `steps` bounds their number. -/
def scaleDown? (x : Double) (exponent : Nat) : Nat → Option Double
  | 0 => x.div (powerOfTen exponent)
  | steps + 1 =>
    if exponent ≤ greatestPower then x.div (powerOfTen exponent)
    else if x.isZero then some x
    else
      match x.div (powerOfTen greatestPower) with
      | some y => scaleDown? y (exponent - greatestPower) steps
      | none => none

/-- Multiplies by a power of ten. -/
def scale? (x : Double) (exponent : Int) : Option Double :=
  if exponent < 0 then scaleDown? x exponent.natAbs (exponent.natAbs / greatestPower)
  else if exponent.natAbs ≤ greatestPower then x.mul (powerOfTen exponent.natAbs)
  else if x.isZero then some x
  else none

/-- The number of double precision that a mantissa stands for. -/
def floatOf? (negative : Bool) (m : Mantissa) : Option JsonNumber :=
  match Binary.ofNat? .double m.word with
  | some x =>
    (scale? x m.exponent).map fun y => .float (if negative then y.neg else y)
  | none => none

/-- The number that a whole part alone stands for. A negative zero, and what
does not fit a 64-bit word, is a number of double precision. -/
def wholeOf? (negative : Bool) (m : Mantissa) : Option JsonNumber :=
  if m.full then floatOf? negative m
  else if negative then
    if m.word = 0 ∨ 9223372036854775808 < m.word then floatOf? true m
    else some (.int (-(m.word : Int)))
  else some (.int m.word)

/-- The digits that the characters begin with, and what follows them. -/
def takeDigits (cs : List Char) : List Char × List Char :=
  (cs.takeWhile isDigit, cs.dropWhile isDigit)

/-- The value of some digits. -/
def digitsValue (ds : List Char) : Nat :=
  ds.foldl (fun n c => 10 * n + digitValue c) 0

/-- The exponent after its mark: a sign that may be left out, and digits. -/
def exponent? (cs : List Char) : Option (Int × List Char) :=
  let (negative, cs) :=
    match cs with
    | '+' :: rest => (false, rest)
    | '-' :: rest => (true, rest)
    | rest => (false, rest)
  match takeDigits cs with
  | ([], _) => none
  | (ds, rest) =>
    let n : Int := digitsValue ds
    some (if negative then -n else n, rest)

/-- Whether a character marks an exponent. -/
def isExponentMark (c : Char) : Bool := c = 'e' || c = 'E'

/-- The number of a mantissa and the exponent that may follow it. -/
def withExponent? (negative : Bool) (m : Mantissa) :
    List Char → Option (Option JsonNumber × List Char)
  | [] => some (floatOf? negative m, [])
  | c :: cs =>
    if isExponentMark c then
      match exponent? cs with
      | some (e, rest) => some (floatOf? negative { m with exponent := m.exponent + e }, rest)
      | none => none
    else some (floatOf? negative m, c :: cs)

/-- A number without its sign. The outer `none` is a number that breaks off, the
inner one a number that is too large. -/
def magnitude? (negative : Bool) (cs : List Char) : Option (Option JsonNumber × List Char) :=
  match takeDigits cs with
  | ([], _) => none
  | ('0' :: _ :: _, _) => none
  | (ds, rest) =>
    let m := wholeDigits ⟨0, 0, false⟩ ds
    match rest with
    | '.' :: rest =>
      match takeDigits rest with
      | ([], _) => none
      | (fs, rest) => withExponent? negative (fractionDigits m fs) rest
    | c :: rest =>
      if isExponentMark c then withExponent? negative m (c :: rest)
      else some (wholeOf? negative m, c :: rest)
    | [] => some (wholeOf? negative m, [])

/-- A number. -/
def number? : List Char → Option (Option JsonNumber × List Char)
  | '-' :: cs => magnitude? true cs
  | cs => magnitude? false cs

/-! ## Values -/

/-- A fixed word and the outline it stands for. -/
def word (w : List Char) (o : Outline) (cs : List Char) : Outline × List Char :=
  match Text.stripFront w cs with
  | some rest => (o, rest)
  | none => (.broken, [])

/-- A text, a number or a fixed word. -/
def scalar : List Char → Outline × List Char
  | [] => (.broken, [])
  | c :: cs =>
    if c = '"' then
      match quotedText? cs with
      | some (s, rest) => (.string s, rest)
      | none => (.broken, [])
    else if c = 'n' then word ['u', 'l', 'l'] .null cs
    else if c = 't' then word ['r', 'u', 'e'] (.bool true) cs
    else if c = 'f' then word ['a', 'l', 's', 'e'] (.bool false) cs
    else
      match number? (c :: cs) with
      | some (n, rest) => (.number n, rest)
      | none => (.broken, [])

mutual

/-- The outline of the value that the characters begin with, and what follows
it. `fuel` bounds the number of steps; twice the number of characters is always
enough. -/
def value : Nat → List Char → Outline × List Char
  | 0, _ => (.broken, [])
  | fuel + 1, cs =>
    match skip cs with
    | '[' :: rest =>
      let (items, closed, rest) := items fuel true rest
      (.array items closed, rest)
    | '{' :: rest =>
      let (members, closed, rest) := members fuel true rest
      (.object members closed, rest)
    | rest => scalar rest

/-- The items of a list up to its closing bracket. `first` says that no item
came before. -/
def items : Nat → Bool → List Char → List Outline × Bool × List Char
  | 0, _, _ => ([], false, [])
  | fuel + 1, first, cs =>
    match skip cs with
    | ']' :: rest => ([], true, rest)
    | c :: rest =>
      match (if first then some (c :: rest) else if c = ',' then some rest else none) with
      | none => ([], false, [])
      | some next =>
        if !first && (skip next).head? == some ']' then ([], false, [])
        else
          let (o, rest) := value fuel next
          if o.isWhole then
            let (os, closed, rest) := items fuel false rest
            (o :: os, closed, rest)
          else ([o], false, [])
    | [] => ([], false, [])

/-- The members of an object up to its closing brace. -/
def members : Nat → Bool → List Char → List (Option String × Outline) × Bool × List Char
  | 0, _, _ => ([], false, [])
  | fuel + 1, first, cs =>
    match skip cs with
    | '}' :: rest => ([], true, rest)
    | c :: rest =>
      match (if first then some (c :: rest) else if c = ',' then some rest else none) with
      | none => ([], false, [])
      | some next =>
        match skip next with
        | '"' :: next =>
          match quotedText? next with
          | none => ([], false, [])
          | some (name, next) =>
            match skip next with
            | ':' :: next =>
              let (o, rest) := value fuel next
              if o.isWhole then
                let (ms, closed, rest) := members fuel false rest
                ((name, o) :: ms, closed, rest)
              else ([(name, o)], false, [])
            | _ => ([(name, .broken)], false, [])
        | _ => ([], false, [])
    | [] => ([], false, [])

end

end Reader

/-- A JSON text as it was read: its outline, and whether nothing but blanks
follows the value. -/
structure Document where
  /-- The value up to the place where it breaks off. -/
  root : Outline
  /-- Whether the text ends with the value. -/
  clean : Bool
deriving Repr

namespace Document

/-- Reads a JSON text. -/
def ofChars (cs : List Char) : Document :=
  let (root, rest) := Reader.value (2 * cs.length + 2) cs
  ⟨root, (Reader.skip rest).isEmpty⟩

/-- Reads a JSON text. -/
def ofText (s : String) : Document :=
  ofChars s.toList

/-- The value of a text that is one JSON value and nothing else. -/
def toJson? (d : Document) : Option Json :=
  if d.clean then d.root.toJson? Outline.nestingLimit else none

end Document

namespace Json

/-- Reads a JSON text: one value with blanks around it at most. -/
def parseChars? (cs : List Char) : Option Json :=
  (Document.ofChars cs).toJson?

/-- Reads a JSON text: one value with blanks around it at most. -/
def parse? (s : String) : Option Json :=
  parseChars? s.toList

end Json

end ControlPlane
