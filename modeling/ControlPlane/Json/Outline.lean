/-
What a JSON text says up to the first place where it breaks off.

A reader of a record takes one member after the other and complains about the
first thing that is wrong, be it a missing bracket further on or a number where
a text should stand. An outline is therefore a value together with the marks of
what is wrong in it: a value that cannot be read, a container that is not closed,
a number too large for its format, and a text with half of a surrogate pair. The
last two are wrong only where the value is wanted; a member nobody asks for may
hold them, and may also be nested deeper than a value that is kept.
-/
import ControlPlane.Json.Basic
import ControlPlane.Text.Blank

set_option autoImplicit false

namespace ControlPlane

/-- A JSON text up to the place where it breaks off. -/
inductive Outline where
  /-- Nothing can be read here. -/
  | broken
  /-- The value `null`. -/
  | null
  /-- A truth value. -/
  | bool (b : Bool)
  /-- A number, `none` if it is too large for any format. -/
  | number (n : Option JsonNumber)
  /-- A text, `none` if half of a surrogate pair stands alone in it. -/
  | string (s : Option String)
  /-- A list of values, and whether it is closed. -/
  | array (items : List Outline) (closed : Bool)
  /-- Named values, and whether the object is closed. -/
  | object (members : List (Option String × Outline)) (closed : Bool)
deriving Repr

namespace Outline

instance : Inhabited Outline := ⟨broken⟩

/-! ## Complete outlines -/

mutual

/-- Whether the text is well-formed here, wanted or not. -/
def isWhole : Outline → Bool
  | .broken => false
  | .array items closed => closed && allWhole items
  | .object members closed => closed && allMembersWhole members
  | _ => true

/-- Whether all items are well-formed. -/
def allWhole : List Outline → Bool
  | [] => true
  | o :: rest => o.isWhole && allWhole rest

/-- Whether all members are well-formed. -/
def allMembersWhole : List (Option String × Outline) → Bool
  | [] => true
  | (_, o) :: rest => o.isWhole && allMembersWhole rest

end

/-- How many containers may stand inside one another in a value that is kept. -/
def nestingLimit : Nat := 127

mutual

/-- The value of an outline in which nothing is wrong. At most `room` containers
may stand inside one another. Members are sorted by name, and of two with one
name the last one counts. -/
def toJson? (room : Nat) : Outline → Option Json
  | .broken => none
  | .null => some .null
  | .bool b => some (.bool b)
  | .number n => n.map .number
  | .string s => s.map .string
  | .array items closed =>
    match room with
    | 0 => none
    | room + 1 =>
      if closed then (itemsToJson? room items).map .array else none
  | .object members closed =>
    match room with
    | 0 => none
    | room + 1 =>
      if closed then (membersToJson? room members).map fun ms => .object (Json.sortMembers ms)
      else none

/-- The values of a list of outlines. -/
def itemsToJson? (room : Nat) : List Outline → Option (List Json)
  | [] => some []
  | o :: rest =>
    match toJson? room o, itemsToJson? room rest with
    | some v, some vs => some (v :: vs)
    | _, _ => none

/-- The values of a list of members. -/
def membersToJson? (room : Nat) :
    List (Option String × Outline) → Option (List (String × Json))
  | [] => some []
  | (name, o) :: rest =>
    match name, toJson? room o, membersToJson? room rest with
    | some name, some v, some ms => some ((name, v) :: ms)
    | _, _, _ => none

end

mutual

/-- A value as an outline. -/
def ofJson : Json → Outline
  | .null => .null
  | .bool b => .bool b
  | .number n => .number (some n)
  | .string s => .string (some s)
  | .array items => .array (ofItems items) true
  | .object members => .object (ofMembers members) true

/-- Values as outlines. -/
def ofItems : List Json → List Outline
  | [] => []
  | v :: rest => ofJson v :: ofItems rest

/-- Members as outlines. -/
def ofMembers : List (String × Json) → List (Option String × Outline)
  | [] => []
  | (name, v) :: rest => (some name, ofJson v) :: ofMembers rest

end

end Outline

end ControlPlane
