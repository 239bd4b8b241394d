/-
Quoted texts.

Where a message shows a text that somebody else wrote, it shows it between
double quotes and makes everything in it visible: a quote or a backslash gets a
backslash in front, the four common control characters have a letter, and any
other hidden character is shown by its number in lower-case hexadecimal.
-/
import ControlPlane.Text.Hidden

set_option autoImplicit false

namespace ControlPlane.Text

/-- The lower-case hexadecimal digits of a number, without leading zeros. -/
def hexDigits (n : Nat) : List Char :=
  Nat.toDigits 16 n

/-- One character as it stands between the quotes. -/
def quoteChar (c : Char) : List Char :=
  if c = '"' then ['\\', '"']
  else if c = '\\' then ['\\', '\\']
  else if c = '\n' then ['\\', 'n']
  else if c = '\r' then ['\\', 'r']
  else if c = '\t' then ['\\', 't']
  else if c.toNat = 0 then ['\\', '0']
  else if isHidden c then '\\' :: 'u' :: '{' :: hexDigits c.toNat ++ ['}']
  else [c]

/-- A text between quotes, with everything in it visible. -/
def quoted (s : String) : String :=
  String.ofList ('"' :: s.toList.flatMap quoteChar ++ ['"'])

end ControlPlane.Text
