/-
JSON values.

A number is kept as a whole number if it is written as one and fits 64 bits,
signed or unsigned, and as a number of double precision otherwise. Numbers of
single precision are only written, never read. The members
of an object are kept in the order in which they are to be written.
-/
import ControlPlane.Number.Shortest

set_option autoImplicit false

namespace ControlPlane

/-- A JSON number. -/
inductive JsonNumber where
  /-- A whole number of 64 bits. -/
  | int (n : Int)
  /-- Any other number. -/
  | float (x : Double)
  /-- A number of single precision. -/
  | single (x : Single)
deriving DecidableEq, Repr

/-- A JSON value. -/
inductive Json where
  /-- The value `null`. -/
  | null
  /-- A truth value. -/
  | bool (b : Bool)
  /-- A number. -/
  | number (n : JsonNumber)
  /-- A text. -/
  | string (s : String)
  /-- A list of values. -/
  | array (items : List Json)
  /-- Named values. -/
  | object (members : List (String × Json))
deriving Repr

namespace Json

instance : Inhabited Json := ⟨null⟩

/-- A whole number as a value. -/
def int (n : Int) : Json := .number (.int n)

/-- A number of double precision as a value. -/
def float (x : Double) : Json := .number (.float x)

/-- The value of an optional one, `null` if it is absent. -/
def orNull {α : Type} (f : α → Json) : Option α → Json
  | some a => f a
  | none => .null

/-- A member that is left out when its value is absent. -/
def optional {α : Type} (name : String) (f : α → Json) : Option α → List (String × Json)
  | some a => [(name, f a)]
  | none => []

/-- The value of a member, the last one if the name occurs more than once. -/
def member? (name : String) : Json → Option Json
  | .object members => (members.reverse.find? (·.1 == name)).map (·.2)
  | _ => none

/-- Puts a member into a list sorted by name, in place of one of that name. -/
def insertMember (name : String) (value : Json) :
    List (String × Json) → List (String × Json)
  | [] => [(name, value)]
  | (n, v) :: rest =>
    if name < n then (name, value) :: (n, v) :: rest
    else if name = n then (name, value) :: rest
    else (n, v) :: insertMember name value rest

/-- Members in the order of their names; of two with one name the last stays. -/
def sortMembers (members : List (String × Json)) : List (String × Json) :=
  members.foldl (fun sorted (name, value) => insertMember name value sorted) []

end Json

end ControlPlane
