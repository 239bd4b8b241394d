/-
JSON values as text.

There are two ways to write a value: on one line without any blank, which is
what travels, and spread over lines with two blanks for each level, which is
what people read. Both write the same texts and numbers.
-/
import ControlPlane.Json.Basic

set_option autoImplicit false

namespace ControlPlane

namespace JsonNumber

/-- A number as it is written. -/
def chars : JsonNumber → List Char
  | .int n => Integer.chars n
  | .float x => x.chars .json
  | .single x => x.chars .jsonSingle

end JsonNumber

namespace Json

/-- A hexadecimal digit in lower case. -/
def hexChar (n : Nat) : Char :=
  Char.ofNat (if n < 10 then 48 + n else 87 + n)

/-- A character inside a quoted text: quotes, backslashes and control characters
are escaped, all others stand for themselves. -/
def escapeChar (c : Char) : List Char :=
  if c = '"' then ['\\', '"']
  else if c = '\\' then ['\\', '\\']
  else if c = '\n' then ['\\', 'n']
  else if c = '\r' then ['\\', 'r']
  else if c = '\t' then ['\\', 't']
  else if c.toNat = 8 then ['\\', 'b']
  else if c.toNat = 12 then ['\\', 'f']
  else if c.toNat < 32 then
    ['\\', 'u', '0', '0', hexChar (c.toNat / 16), hexChar (c.toNat % 16)]
  else [c]

/-- A text between quotes. -/
def stringChars (s : String) : List Char :=
  '"' :: s.toList.flatMap escapeChar ++ ['"']

/-! ## On one line -/

mutual

/-- A value on one line. -/
def chars : Json → List Char
  | .null => ['n', 'u', 'l', 'l']
  | .bool true => ['t', 'r', 'u', 'e']
  | .bool false => ['f', 'a', 'l', 's', 'e']
  | .number n => n.chars
  | .string s => stringChars s
  | .array items => '[' :: itemChars items ++ [']']
  | .object members => '{' :: memberChars members ++ ['}']

/-- The items of a list with commas between them. -/
def itemChars : List Json → List Char
  | [] => []
  | [v] => v.chars
  | v :: rest => v.chars ++ ',' :: itemChars rest

/-- The members of an object with commas between them. -/
def memberChars : List (String × Json) → List Char
  | [] => []
  | [(name, v)] => stringChars name ++ ':' :: v.chars
  | (name, v) :: rest => stringChars name ++ ':' :: v.chars ++ ',' :: memberChars rest

end

/-- A value as text on one line. -/
def text (v : Json) : String :=
  String.ofList v.chars

/-! ## Over several lines -/

/-- A new line at a level. -/
def lineStart (level : Nat) : List Char :=
  '\n' :: List.replicate (2 * level) ' '

mutual

/-- A value over several lines; the lines after the first are at a level or
deeper. -/
def prettyChars (level : Nat) : Json → List Char
  | .array [] => ['[', ']']
  | .array (v :: rest) =>
    '[' :: lineStart (level + 1) ++ prettyItems (level + 1) (v :: rest) ++
      lineStart level ++ [']']
  | .object [] => ['{', '}']
  | .object (m :: rest) =>
    '{' :: lineStart (level + 1) ++ prettyMembers (level + 1) (m :: rest) ++
      lineStart level ++ ['}']
  | v => v.chars

/-- Items on lines of their own. -/
def prettyItems (level : Nat) : List Json → List Char
  | [] => []
  | [v] => v.prettyChars level
  | v :: rest => v.prettyChars level ++ ',' :: lineStart level ++ prettyItems level rest

/-- Members on lines of their own. -/
def prettyMembers (level : Nat) : List (String × Json) → List Char
  | [] => []
  | [(name, v)] => stringChars name ++ ':' :: ' ' :: v.prettyChars level
  | (name, v) :: rest =>
    stringChars name ++ ':' :: ' ' :: v.prettyChars level ++ ',' :: lineStart level ++
      prettyMembers level rest

end

/-- A value as text over several lines. -/
def prettyText (v : Json) : String :=
  String.ofList (v.prettyChars 0)

end Json

end ControlPlane
