/-
Percent escapes.

An address carries arbitrary text as bytes, each written as `%` and two
hexadecimal digits. Two readings are in use. In a query value a broken escape
spoils the whole value and `+` means a space; in a path a broken escape stands
for itself. In both, the bytes have to spell a text in UTF-8.
-/

set_option autoImplicit false

namespace ControlPlane.Text

/-- The value of a hexadecimal digit of either case. -/
def hexValue? (c : Char) : Option Nat :=
  if '0' ≤ c ∧ c ≤ '9' then some (c.toNat - '0'.toNat)
  else if 'a' ≤ c ∧ c ≤ 'f' then some (c.toNat - 'a'.toNat + 10)
  else if 'A' ≤ c ∧ c ≤ 'F' then some (c.toNat - 'A'.toNat + 10)
  else none

/-- The bytes of a character in UTF-8. -/
def charBytes (c : Char) : List UInt8 :=
  (String.singleton c).toUTF8.toList

/-- The text that a list of bytes spells in UTF-8. -/
def ofBytes? (bytes : List UInt8) : Option String :=
  String.fromUTF8? ⟨bytes.toArray⟩

/-! ## Query values -/

/-- The byte that two characters after a `%` stand for. The first of them may
also be a plus sign in front of a single digit. -/
def queryByte? (a b : Char) : Option UInt8 :=
  match (if a = '+' then some 0 else hexValue? a), hexValue? b with
  | some x, some y => some (16 * x + y).toUInt8
  | _, _ => none

/-- The bytes of a query value. -/
def queryBytes? : List Char → Option (List UInt8)
  | [] => some []
  | '+' :: rest => (queryBytes? rest).map (32 :: ·)
  | '%' :: a :: b :: rest =>
    match queryByte? a b with
    | some byte => (queryBytes? rest).map (byte :: ·)
    | none => none
  | '%' :: _ => none
  | c :: rest => (queryBytes? rest).map (charBytes c ++ ·)

/-- The text of a query value. -/
def decodeQuery? (value : List Char) : Option String :=
  (queryBytes? value).bind ofBytes?

/-! ## Path segments -/

/-- The bytes of a path segment. -/
def segmentBytes : List Char → List UInt8
  | [] => []
  | '%' :: a :: b :: rest =>
    match hexValue? a, hexValue? b with
    | some x, some y => (16 * x + y).toUInt8 :: segmentBytes rest
    | _, _ => 37 :: segmentBytes (a :: b :: rest)
  | c :: rest => charBytes c ++ segmentBytes rest

/-- The text of a path segment. -/
def decodeSegment? (segment : List Char) : Option String :=
  ofBytes? (segmentBytes segment)

end ControlPlane.Text
