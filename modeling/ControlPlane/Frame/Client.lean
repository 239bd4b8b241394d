/-
Frames from the browser.

A frame asks for work on a message, or reports the result of an action. It is one
JSON object with a type. A text that is no such object, an unknown type and a bad
field are told apart, so that the answer can say what was wrong.
-/
import ControlPlane.Fault
import ControlPlane.Page

set_option autoImplicit false

namespace ControlPlane

/-- A request for work on a message. -/
structure TaskFrame where
  /-- The number of the message. -/
  messageId : Int
  /-- What the browser shows. -/
  page : Page
  /-- What is to be done, if the message is not there yet. -/
  task : Option String
deriving DecidableEq, Repr

/-- The result of an action. -/
structure ResultFrame where
  /-- The number of the action. -/
  actionId : Int
  /-- Whether it was carried out. -/
  success : Bool
  /-- Why not. -/
  error : Option String
  /-- How long it took, in milliseconds. -/
  executionTime : Option Int
  /-- What the browser shows now. -/
  page : Option Page
deriving DecidableEq, Repr

/-- A frame from the browser. -/
inductive ClientFrame where
  /-- A request for work on a message. -/
  | task (frame : TaskFrame)
  /-- The result of an action. -/
  | result (frame : ResultFrame)
deriving DecidableEq, Repr

namespace TaskFrame

/-- The reader of a request for work. -/
def reader : RecordReader TaskFrame :=
  (RecordReader.start TaskFrame.mk)
    |>.required "message_id" Decoder.identifier
    |>.defaulted "pageState" Page.decoder .blank
    |>.optional "task" Decoder.text

/-- A request for work as a value. -/
def toJson (f : TaskFrame) : Json :=
  .object <|
    [("type", .string "task"), ("message_id", .string (Integer.text f.messageId)),
      ("pageState", f.page.toJson)] ++
    Json.optional "task" .string f.task

end TaskFrame

namespace ResultFrame

/-- The reader of a result. -/
def reader : RecordReader ResultFrame :=
  (RecordReader.start ResultFrame.mk)
    |>.required "action_id" Decoder.identifier
    |>.defaulted "success" Decoder.bool false
    |>.optional "error" Decoder.text
    |>.optional "execution_time" Decoder.signed64
    |>.optional "pageState" Page.decoder

/-- A result as a value. -/
def toJson (f : ResultFrame) : Json :=
  .object <|
    [("type", .string "result"), ("action_id", .string (Integer.text f.actionId)),
      ("success", .bool f.success)] ++
    Json.optional "error" .string f.error ++
    Json.optional "execution_time" Json.int f.executionTime ++
    Json.optional "pageState" Page.toJson f.page

end ResultFrame

namespace ClientFrame

/-- A frame as a value. -/
def toJson : ClientFrame → Json
  | task f => f.toJson
  | result f => f.toJson

/-- Reads the members of a frame without its type. -/
def ofMembers {α : Type} (r : RecordReader α) (members : List (String × Json)) :
    Except Defect α :=
  r.ofMembers .buffered true
    (Outline.ofMembers (members.filter fun m => m.1 != "type"))

/-- Reads a frame from a value. -/
def ofJson (v : Json) : Except Fault ClientFrame :=
  match v, v.member? "type" with
  | .object members, some (.string "task") =>
    match ofMembers TaskFrame.reader members with
    | .ok f => .ok (.task f)
    | .error e => .error (.badFrameFields "task" e)
  | .object members, some (.string "result") =>
    match ofMembers ResultFrame.reader members with
    | .ok f => .ok (.result f)
    | .error e => .error (.badFrameFields "result" e)
  | .object _, some (.string other) => .error (.unknownFrame other)
  | _, _ => .error .badFrame

/-- Reads the text of a frame. -/
def read (s : String) : Except Fault ClientFrame :=
  match Json.parse? s with
  | some v => ofJson v
  | none => .error .badFrame

end ClientFrame

end ControlPlane
