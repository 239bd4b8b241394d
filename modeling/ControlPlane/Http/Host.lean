/-
Hosts to listen at.

A host is written as a name, as four numbers with dots between them, or as an
address of sixteen bytes, which may stand in brackets. This machine answers to its
own name, to the addresses of the loop and to the address that stands for all of
its addresses.
-/
import ControlPlane.Number.Integer
import ControlPlane.Text.Blank

set_option autoImplicit false

namespace ControlPlane

namespace Http

/-- How a host is written. -/
inductive Host where
  /-- As four numbers. -/
  | quad (a b c d : Nat)
  /-- As an address of sixteen bytes. -/
  | wide (digits : String)
  /-- As a name. -/
  | name (text : String)
deriving DecidableEq, Repr

namespace Host

/-- One of the four numbers: a number below 256 without needless zeros. -/
def octet? (cs : List Char) : Option Nat :=
  match (Integer.read .unsigned16 cs).toOption with
  | some n =>
    if n < 256 ∧ (Integer.text n).toList = cs then some n.toNat else none
  | none => none

/-- A text without the brackets around it. -/
def withoutBrackets (s : String) : String :=
  match s.toList with
  | '[' :: rest =>
    if rest.getLast? = some ']' then String.ofList rest.dropLast else s
  | _ => s

/-- Reads a host. -/
def read (s : String) : Host :=
  match (Text.splitAtEach '.' s.toList).mapM octet? with
  | some [a, b, c, d] => quad a b c d
  | _ =>
    if s.toList.contains ':' then wide (withoutBrackets s) else name s

/-- Whether this machine answers to a host. -/
def isOwn : Host → Bool
  | quad a b c d => a = 127 ∨ (a = 0 ∧ b = 0 ∧ c = 0 ∧ d = 0)
  | wide digits => digits = "::" ∨ digits = "::1"
  | name text => text = "localhost"

end Host

end Http

end ControlPlane
