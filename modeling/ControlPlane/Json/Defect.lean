/-
What is wrong with a JSON text that should hold a record.

A defect is a cause and the place where it was met. Most readers show the cause
alone; the request bodies of the gateway show the place as well.
-/
import ControlPlane.Json.Outline
import ControlPlane.Json.Printer
import ControlPlane.Text.Quoted
import ControlPlane.Time.Stamp

set_option autoImplicit false

namespace ControlPlane

/-- A value as a complaint about its kind describes it. -/
inductive Found where
  /-- The value `null`. -/
  | null
  /-- A truth value. -/
  | bool (b : Bool)
  /-- A number. -/
  | number (n : JsonNumber)
  /-- A text. -/
  | text (s : String)
  /-- A list. -/
  | list
  /-- An object. -/
  | object
deriving DecidableEq, Repr

/-- The wording of a value in a complaint. -/
def Found.message : Found → String
  | .null => "null"
  | .bool b => "boolean `" ++ (if b then "true" else "false") ++ "`"
  | .number (.int n) => "integer `" ++ Integer.text n ++ "`"
  | .number (.float x) => "floating point `" ++ x.text .json ++ "`"
  | .number (.single x) => "floating point `" ++ x.text .jsonSingle ++ "`"
  | .text s => "string " ++ Text.quoted s
  | .list => "sequence"
  | .object => "map"

namespace Defect

/-- Why a text cannot be read as a record. -/
inductive Cause where
  /-- The text is no JSON. -/
  | malformed
  /-- A value is of the wrong kind. -/
  | wrongType (found : Found) (wanted : String)
  /-- A whole number does not fit its field. -/
  | outOfRange (n : Int) (wanted : String)
  /-- A list has too few or too many items. -/
  | wrongLength (length : Nat) (wanted : String)
  /-- A field that has to be there is not. -/
  | missing (field : String)
  /-- A field is there twice. -/
  | duplicate (field : String)
  /-- A name is none of those that are known. -/
  | unknownName (name : String) (known : List String)
  /-- A choice is written as an object that does not have exactly one member. -/
  | notSingle
  /-- A value has none of the forms that it may take. -/
  | noForm (name : String)
  /-- A text that should be an identifier is none. -/
  | badIdentifier (text : String)
  /-- A text that should be a point in time is none. -/
  | badTime (flaw : Stamp.Flaw)
deriving DecidableEq, Repr

/-- The known names as a complaint lists them. -/
def listed (known : List String) : String :=
  let ticked := known.map fun name => "`" ++ name ++ "`"
  match ticked with
  | [] => "there are no variants"
  | [a] => "expected " ++ a
  | [a, b] => "expected " ++ a ++ " or " ++ b
  | many => "expected one of " ++ ", ".intercalate many

/-- The wording of a cause. -/
def Cause.message : Cause → String
  | .malformed => "JSON syntax error"
  | .wrongType found wanted => "invalid type: " ++ found.message ++ ", expected " ++ wanted
  | .outOfRange n wanted =>
    "invalid value: integer `" ++ Integer.text n ++ "`, expected " ++ wanted
  | .wrongLength length wanted =>
    "invalid length " ++ Integer.text length ++ ", expected " ++ wanted
  | .missing field => "missing field `" ++ field ++ "`"
  | .duplicate field => "duplicate field `" ++ field ++ "`"
  | .unknownName name known => "unknown variant `" ++ name ++ "`, " ++ listed known
  | .notSingle => "invalid value: map, expected map with a single key"
  | .noForm name => "data did not match any variant of untagged enum " ++ name
  | .badIdentifier text => "invalid id: " ++ Text.quoted text
  | .badTime flaw => flaw.message

/-- One step from a container to what it holds. -/
inductive Step where
  /-- To the value of a member. -/
  | member (name : String)
  /-- To an item of a list. -/
  | item (index : Nat)
deriving DecidableEq, Repr

/-- The wording of a step that follows another one or stands first. -/
def Step.message (first : Bool) : Step → String
  | .member name => if first then name else "." ++ name
  | .item index => "[" ++ Integer.text index ++ "]"

end Defect

/-- What is wrong, and where. -/
structure Defect where
  /-- The way from the whole value to the place. -/
  place : List Defect.Step
  /-- What is wrong there. -/
  cause : Defect.Cause
deriving DecidableEq, Repr

namespace Defect

/-- A defect of the value at hand. -/
def here (cause : Cause) : Defect := ⟨[], cause⟩

/-- The same defect seen from the container of the value. -/
def inside (step : Step) (d : Defect) : Defect := { d with place := step :: d.place }

/-- The wording without the place. -/
def message (d : Defect) : String := d.cause.message

/-- The wording of the place. -/
def placeMessage : List Step → String
  | [] => ""
  | first :: rest => first.message true ++ String.join (rest.map (Step.message false))

/-- The wording with the place in front, unless it is the whole value. -/
def messageInPlace (d : Defect) : String :=
  match d.place with
  | [] => d.message
  | place => placeMessage place ++ ": " ++ d.message

end Defect

end ControlPlane
