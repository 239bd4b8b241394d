/-
What the gateway can be asked for.

A path names a resource, and a method what is to be done with it. Numbers in a
path are percent-decoded before they are read.
-/
import ControlPlane.Http.Message
import ControlPlane.Text.Percent
import ControlPlane.Text.Blank
import ControlPlane.Text.Quoted
import ControlPlane.Number.Integer

set_option autoImplicit false

namespace ControlPlane

namespace Gateway

/-- A resource of the gateway. A part of a path that stands for a number is kept
as it is written. -/
inductive Resource where
  /-- Whether the gateway is up. -/
  | health
  /-- The connection of a conversation's browser. -/
  | socket (id : List Char)
  /-- The conversations. -/
  | conversations
  /-- A conversation. -/
  | conversation (id : List Char)
  /-- The messages of a conversation. -/
  | messages (id : List Char)
  /-- The actions of a message. -/
  | actions (id : List Char)
  /-- The figures at a glance. -/
  | summary
  /-- The tasks of a week. -/
  | weeklyVolume
  /-- The success rate of a week. -/
  | weeklySuccessRate
deriving DecidableEq, Repr

namespace Resource

/-- The parts of a path between its slashes. -/
def parts (path : List Char) : List String :=
  (Text.splitAtEach '/' path).map String.ofList

/-- The resource of a path. A number at the end of a path cannot be empty. -/
def ofPath? (path : List Char) : Option Resource :=
  match parts path with
  | ["", "v1", "health"] => some health
  | ["", "v1", "browser-agent", "ws", id] =>
    if id.isEmpty then none else some (socket id.toList)
  | ["", "v1", "browser-agent", "conversations"] => some conversations
  | ["", "v1", "browser-agent", "conversations", id] =>
    if id.isEmpty then none else some (conversation id.toList)
  | ["", "v1", "browser-agent", "conversations", id, "messages"] => some (messages id.toList)
  | ["", "v1", "browser-agent", "messages", id, "actions"] => some (actions id.toList)
  | ["", "v1", "browser-agent", "dashboard", "summary"] => some summary
  | ["", "v1", "browser-agent", "dashboard", "weekly-task-volume"] => some weeklyVolume
  | ["", "v1", "browser-agent", "dashboard", "weekly-task-success-rate"] =>
    some weeklySuccessRate
  | _ => none

/-- The methods that a resource knows, as an answer lists them. -/
def allowed : Resource → String
  | conversations => "GET,HEAD,POST"
  | messages _ => "GET,HEAD,POST"
  | conversation _ => "GET,HEAD,PUT"
  | _ => "GET,HEAD"

end Resource

/-- What can be done. -/
inductive Verb where
  /-- Answer something. -/
  | get
  /-- Create something. -/
  | post
  /-- Change something. -/
  | put
deriving DecidableEq, Repr

/-- What a method does with a resource, if the resource knows it. Asking for the
head alone is asking for the whole and leaving out the body. -/
def Verb.ofMethod? (method : String) (r : Resource) : Option Verb :=
  if method = "GET" ∨ method = "HEAD" then some .get
  else
    match r with
    | .conversations => if method = "POST" then some .post else none
    | .messages _ => if method = "POST" then some .post else none
    | .conversation _ => if method = "PUT" then some .put else none
    | _ => none

/-! ## Numbers in paths and queries -/

/-- Why a part of a path is no number. -/
inductive PathFlaw where
  /-- The bytes spell no text. -/
  | notText (name : String)
  /-- The text is no number. -/
  | notNumber (text : String)
deriving DecidableEq, Repr

/-- The wording of a flaw. -/
def PathFlaw.message : PathFlaw → String
  | notText name => "Invalid URL: Invalid UTF-8 in `" ++ name ++ "`"
  | notNumber text => "Invalid URL: Cannot parse `" ++ Text.quoted text ++ "` to a `i64`"

/-- The text of a part of a path. -/
def pathText (name : String) (part : List Char) : Except PathFlaw String :=
  match Text.decodeSegment? part with
  | some s => .ok s
  | none => .error (.notText name)

/-- The number in a part of a path. -/
def pathNumber (part : List Char) : Except PathFlaw Int :=
  match pathText "id" part with
  | .error e => .error e
  | .ok s =>
    match Integer.readSigned64? s.toList with
    | some n => .ok n
    | none => .error (.notNumber s)

/-- A page of a list. -/
structure Paging where
  /-- How many items, if given. -/
  limit : Option Nat
  /-- How many to leave out, if given. -/
  offset : Option Nat
deriving DecidableEq, Repr

/-- Why a query is no page. -/
inductive QueryFlaw where
  /-- A value is no number. -/
  | notNumber (flaw : Integer.Flaw)
  /-- A value is there twice. -/
  | duplicate (name : String)
deriving DecidableEq, Repr

/-- The wording of a flaw. -/
def QueryFlaw.message (f : QueryFlaw) : String :=
  "Failed to deserialize query string: " ++
    (match f with
      | notNumber flaw => flaw.message
      | duplicate name => "duplicate field `" ++ name ++ "`")

/-- A part of a query, byte by byte; a plus sign is a blank. -/
def queryChars (part : List Char) : List Char :=
  (Text.segmentBytes (part.map fun c => if c = '+' then ' ' else c)).map fun b =>
    Char.ofNat b.toNat

/-- The names and values of a query. -/
def queryPairs (query : List Char) : List (List Char × List Char) :=
  ((Text.splitAtEach '&' query).filter fun piece => !piece.isEmpty).map fun piece =>
    match Text.splitOnce '=' piece with
    | some (name, value) => (queryChars name, queryChars value)
    | none => (queryChars piece, [])

/-- Reads a value of a page that has not been given yet. -/
def pageValue (name : String) (old : Option Nat) (value : List Char) :
    Except QueryFlaw (Option Nat) :=
  if old.isSome then .error (.duplicate name)
  else
    match Integer.read .unsigned64 value with
    | .ok n => .ok (some n.toNat)
    | .error flaw => .error (.notNumber flaw)

/-- Takes in the names and values of a query, one after the other. -/
def pagingFrom (p : Paging) : List (List Char × List Char) → Except QueryFlaw Paging
  | [] => .ok p
  | (name, value) :: rest =>
    if name = "limit".toList then
      match pageValue "limit" p.limit value with
      | .ok limit => pagingFrom { p with limit := limit } rest
      | .error e => .error e
    else if name = "offset".toList then
      match pageValue "offset" p.offset value with
      | .ok offset => pagingFrom { p with offset := offset } rest
      | .error e => .error e
    else pagingFrom p rest

/-- The page that a query asks for. -/
def paging (query : List Char) : Except QueryFlaw Paging :=
  pagingFrom ⟨none, none⟩ (queryPairs query)

end Gateway

end ControlPlane
