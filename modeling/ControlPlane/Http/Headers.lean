/-
The heads of HTTP messages.

A head is a list of named values. Names are compared without regard to case, and of
several values of one name the first one counts.
-/

set_option autoImplicit false

namespace ControlPlane

/-- The named values at the head of a request. -/
abbrev Headers := List (String × String)

namespace Headers

/-- A name in lower case. -/
def canonical (name : String) : String :=
  String.ofList (name.toList.map Char.toLower)

/-- The first value of a name, in whatever case it is written. -/
def first? (headers : Headers) (name : String) : Option String :=
  (headers.find? fun h => canonical h.1 == name).map (·.2)

/-- Whether a value can be read as text: visible characters of ASCII, blanks and
tabs only. -/
def isReadable (value : String) : Bool :=
  value.toList.all fun c => c = '\t' || (32 ≤ c.toNat && c.toNat < 127)

/-- The first value of a name that can be read as text. -/
def text? (headers : Headers) (name : String) : Option String :=
  (headers.first? name).bind fun v => if isReadable v then some v else none

/-- Whether a text can be the value of a header: no control characters but the
tab. -/
def isAllowed (value : String) : Bool :=
  value.toList.all fun c => c = '\t' || (32 ≤ c.toNat && c.toNat != 127)

end Headers

end ControlPlane
