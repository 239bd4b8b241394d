/-
Frames for the browser.

A frame tells the browser to carry out an action, that the work is finished, or
that something went wrong. It is one JSON object; numbers of actions are written
as decimal texts, because a browser does not hold all 64-bit numbers.
-/
import ControlPlane.Action.Form

set_option autoImplicit false

namespace ControlPlane

/-- An action as the browser is told of it. -/
structure ActionOrder where
  /-- The number of the action. -/
  actionId : Int
  /-- What is to be done. -/
  kind : Action.Kind
  /-- What the browser needs to know. -/
  parameters : Action.Parameters
deriving DecidableEq, Repr

/-- A frame for the browser. -/
inductive ServerFrame where
  /-- An action to carry out. -/
  | action (order : ActionOrder)
  /-- The work is finished. -/
  | finish (message : String)
  /-- Something went wrong. -/
  | error (message : String)
deriving DecidableEq, Repr

namespace ActionOrder

/-- The order to carry out a stored action. -/
def ofAction (a : Action) : ActionOrder := ⟨a.id, a.kind, a.parameters⟩

/-- An order as a value. -/
def toJson (o : ActionOrder) : Json :=
  .object <|
    [("action_id", .string (Integer.text o.actionId)), ("action", .string o.kind.name)] ++
    Json.optional "selector" .string o.parameters.selector ++
    Json.optional "value" .string o.parameters.value ++
    Json.optional "url" .string o.parameters.url ++
    Json.optional "distance" Json.int o.parameters.distance ++
    Json.optional "timeout" Json.int o.parameters.timeout

/-- Puts an order together from its fields in the order in which they are
written. -/
def assemble (actionId : Int) (kind : Action.Kind) (selector value url : Option String)
    (distance timeout : Option Int) : ActionOrder :=
  ⟨actionId, kind, ⟨url, selector, value, distance, timeout⟩⟩

/-- An order from a value. -/
def decoder : Decoder ActionOrder :=
  (RecordReader.start assemble)
    |>.required "action_id" Decoder.identifier
    |>.required "action" Action.Kind.decoder
    |>.optional "selector" Decoder.text
    |>.optional "value" Decoder.text
    |>.optional "url" Decoder.text
    |>.optional "distance" Decoder.signed64
    |>.optional "timeout" Decoder.signed64
    |>.decoder "struct ActionPayload"

end ActionOrder

namespace ServerFrame

/-- The frame that hands out a stored action. -/
def ofAction (a : Action) : ServerFrame := .action (.ofAction a)

/-- The type of a frame. -/
def type : ServerFrame → String
  | action _ => "action"
  | finish _ => "finish"
  | error _ => "error"

/-- A frame as a value. -/
def toJson : ServerFrame → Json
  | action order => .object [("type", .string "action"), ("action", order.toJson)]
  | finish message => .object [("type", .string "finish"), ("message", .string message)]
  | error message => .object [("type", .string "error"), ("message", .string message)]

/-- A frame as text. -/
def text (f : ServerFrame) : String := f.toJson.text

/-! ## Reading -/

/-- The types of frames. -/
inductive Tag where
  /-- An action to carry out. -/
  | action
  /-- The work is finished. -/
  | finish
  /-- Something went wrong. -/
  | error
deriving DecidableEq, Repr

/-- The types by name. -/
def Tag.options : List (String × Tag) :=
  [("action", .action), ("finish", .finish), ("error", .error)]

/-- The type of a frame from a value. -/
def Tag.decoder : Decoder Tag
  | _, .string (some s) => Decoder.named Tag.options s
  | _, o => .error (Decoder.mismatch o "variant identifier")

/-- The rest of a frame of a type, from a value that is there as a whole. -/
def contentDecoder : Tag → Decoder ServerFrame
  | .action =>
    (RecordReader.start action).required "action" ActionOrder.decoder
      |>.decoder "struct variant ServerMessage::Action"
  | .finish =>
    (RecordReader.start finish).required "message" Decoder.text
      |>.decoder "struct variant ServerMessage::Finish"
  | .error =>
    (RecordReader.start error).required "message" Decoder.text
      |>.decoder "struct variant ServerMessage::Error"

/-- Goes through the members of a frame: its type, and the others. -/
def splitTag (mode : ReadMode) (closed : Bool) (found : Option Tag) :
    List (Option String × Outline) →
      Except Defect (Option Tag × List (Option String × Outline))
  | [] => if closed then .ok (found, []) else .error (.here .malformed)
  | (none, _) :: _ => .error (.here .malformed)
  | (some name, o) :: rest =>
    if name = "type" then
      if found.isSome then .error (.here (.duplicate "type"))
      else
        match Tag.decoder mode o with
        | .error e => .error (e.inside (.member "type"))
        | .ok tag => splitTag mode closed (some tag) rest
    else if (o.toJson? RecordReader.memberRoom).isSome then
      match splitTag mode closed found rest with
      | .error e => .error e
      | .ok (tag, others) => .ok (tag, (some name, o) :: others)
    else .error ((Defect.here .malformed).inside (.member name))

/-- Whether the items of a list are all sound. -/
def soundItems (closed : Bool) (items : List Outline) : Bool :=
  closed && items.all fun o => (o.toJson? RecordReader.memberRoom).isSome

/-- A frame from a value: an object, or a list that begins with the type. -/
def decoder : Decoder ServerFrame
  | mode, .object members closed =>
    match splitTag mode closed none members with
    | .error e => .error e
    | .ok (none, _) => .error (.here (.missing "type"))
    | .ok (some tag, others) => contentDecoder tag .buffered (.object others true)
  | mode, .array (o :: items) closed =>
    match Tag.decoder mode o with
    | .error e => .error (e.inside (.item 0))
    | .ok tag =>
      if soundItems closed items then contentDecoder tag .buffered (.array items true)
      else .error (.here .malformed)
  | _, .array [] closed =>
    if closed then .error (.here (.missing "type")) else .error (.here .malformed)
  | _, o => .error (Decoder.mismatch o "internally tagged enum ServerMessage")

/-- Reads the text of a frame. -/
def read (s : String) : Except Defect ServerFrame := decoder.ofText s

end ServerFrame

end ControlPlane
