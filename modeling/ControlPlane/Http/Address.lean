/-
Addresses of services.

An address names a host and what is asked of it. What follows the host is sent as
the target of the request: a path, in which dots for "here" and "one up" are
worked out and characters that cannot be sent are percent-encoded, and the query.
What follows a number sign is not sent.
-/
import ControlPlane.Text.Blank
import ControlPlane.Text.Percent
import ControlPlane.Number.Integer

set_option autoImplicit false

namespace ControlPlane

namespace Http

/-- An address. -/
structure Address where
  /-- The host, with a port if one is given. -/
  authority : String
  /-- What is asked of it. -/
  target : String
deriving DecidableEq, Repr

namespace Address

/-- A byte as it is percent-encoded. -/
def escapeByte (b : UInt8) : List Char :=
  let digit (n : Nat) := Char.ofNat (if n < 10 then 48 + n else 55 + n)
  ['%', digit (b.toNat / 16), digit (b.toNat % 16)]

/-- A character, percent-encoded if it is among the given ones or outside of the
visible characters of ASCII. -/
def escapeChar (special : List Char) (c : Char) : List Char :=
  if c.toNat ≤ 32 ∨ 127 ≤ c.toNat ∨ c ∈ special then (Text.charBytes c).flatMap escapeByte
  else [c]

/-- What is percent-encoded in a path. -/
def pathSpecial : List Char := ['"', '#', '<', '>', '?', '\x60', '{', '}']

/-- What is percent-encoded in a query. -/
def querySpecial : List Char := ['"', '#', '<', '>', '\'']

/-- Whether a part of a path stays where it is. -/
def isHere (part : List Char) : Bool :=
  [".", "%2e"].contains (String.ofList (part.map Char.toLower))

/-- Whether a part of a path goes one up. -/
def isUp (part : List Char) : Bool :=
  ["..", ".%2e", "%2e.", "%2e%2e"].contains (String.ofList (part.map Char.toLower))

/-- Works out the parts of a path; `done` are the parts so far, the last one
first. A path that ends in dots ends in a slash. -/
def resolve (done : List (List Char)) : List (List Char) → List (List Char)
  | [] => done.reverse
  | part :: rest =>
    if isUp part then
      let done := done.drop 1
      if rest.isEmpty then ([] :: done).reverse else resolve done rest
    else if isHere part then
      if rest.isEmpty then ([] :: done).reverse else resolve done rest
    else resolve (part.flatMap (escapeChar pathSpecial) :: done) rest

/-- The path that is sent. -/
def pathChars (path : List Char) : List Char :=
  let slashed := path.map fun c => if c = '\\' then '/' else c
  let rest := match slashed with | '/' :: rest => rest | rest => rest
  (resolve [] (Text.splitAtEach '/' rest)).flatMap fun part => '/' :: part

/-- The query that is sent, with its question mark. -/
def queryChars (query : List Char) : List Char :=
  '?' :: query.flatMap (escapeChar querySpecial)

/-- The target that what follows the host makes. -/
def targetChars (rest : List Char) : List Char :=
  let sent := rest.takeWhile (· != '#')
  let path := pathChars (sent.takeWhile (· != '?'))
  match sent.dropWhile (· != '?') with
  | _ :: query => path ++ queryChars query
  | [] => path

/-- Whether a character ends the host. -/
def endsHost (c : Char) : Bool := c = '/' || c = '\\' || c = '?' || c = '#'

/-- Whether a host with a port can be one: there is a host, and the port is a
number of 16 bits. -/
def isAuthority (cs : List Char) : Bool :=
  let isHost (h : List Char) :=
    !h.isEmpty && h.all fun c => 32 < c.toNat && c.toNat != 127 && !("<>^|%".toList.contains c)
  match Text.splitOnce ':' cs with
  | none => isHost cs
  | some (host, port) =>
    isHost host && port.all Char.isDigit &&
      (port.isEmpty || (Integer.read .unsigned16 port).toOption.isSome)

/-- The part of an address after its scheme, which has to be one of the web. -/
def afterScheme? (cs : List Char) : Option (List Char) :=
  match Text.splitOnce ':' cs with
  | some (scheme, rest) =>
    if ["http", "https"].contains (String.ofList (scheme.map Char.toLower)) then
      some (rest.dropWhile fun c => c = '/' || c = '\\')
    else none
  | none => none

/-- Reads an address. -/
def read? (s : String) : Option Address :=
  let cs := (Text.trimChars s.toList).filter fun c => c != '\n' && c != '\r' && c != '\t'
  match afterScheme? cs with
  | none => none
  | some rest =>
    let authority := rest.takeWhile fun c => !endsHost c
    if isAuthority authority then
      some ⟨String.ofList authority,
        String.ofList (targetChars (rest.dropWhile fun c => !endsHost c))⟩
    else none

end Address

end Http

end ControlPlane
