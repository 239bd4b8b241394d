/-
Decisions out of what a model says.

A model should answer with one JSON object and nothing else, but often puts it
between fences or into prose. The JSON is looked for by taking the text from its
first bracket on and giving up characters at the end until what is left can be
read. The object names an action and what it needs; it is checked like any other
decision before it is used.
-/
import ControlPlane.Decision.Basic

set_option autoImplicit false

namespace ControlPlane

namespace Answer

/-! ## Finding the JSON -/

/-- The mark of a fence. -/
def fence : List Char := ['`', '`', '`']

/-- A text without the fences around it. -/
def unfenced (cs : List Char) : List Char :=
  match Text.stripFront fence cs with
  | none => cs
  | some rest =>
    let rest := (Text.stripFront "json".toList rest).getD rest
    Text.trimChars ((Text.stripBack fence rest).getD rest)

/-- Whether a text is JSON. -/
def isJson (cs : List Char) : Bool := (Json.parseChars? cs).isSome

/-- Whether a character opens an object or a list. -/
def opens (c : Char) : Bool := c = '\x7b' || c = '['

/-- Gives up characters at the end until what is left is JSON. The argument is the
text from behind. -/
def shrink? : List Char → Option (List Char)
  | [] => none
  | c :: rest =>
    if isJson (c :: rest).reverse then some (c :: rest).reverse else shrink? rest

/-- The JSON in what a model says. -/
def extractChars (raw : List Char) : Except Fault (List Char) :=
  let cs := unfenced (Text.trimChars raw)
  if isJson cs then .ok cs
  else
    match cs.dropWhile fun c => !opens c with
    | [] => .error .noJsonInAnswer
    | found =>
      match shrink? found.reverse with
      | some json => .ok (Text.trimEnd json)
      | none => .error .noCompleteJsonInAnswer

/-- The JSON in what a model says. -/
def extract (raw : String) : Except Fault String :=
  (extractChars raw.toList).map String.ofList

/-! ## Reading the decision -/

/-- A decision as the model writes it. -/
structure Raw where
  /-- The name of the action. -/
  action : String
  /-- An address. -/
  url : Option String
  /-- A description of an element. -/
  selector : Option String
  /-- A value of any kind. -/
  value : Option Json
  /-- A distance. -/
  distance : Option Double
  /-- A time. -/
  timeout : Option Double
deriving Repr

/-- A decision as the model writes it, from a value. -/
def Raw.decoder : Decoder Raw :=
  (RecordReader.start Raw.mk)
    |>.required "action" Decoder.text
    |>.optional "url" Decoder.text
    |>.optional "selector" Decoder.text
    |>.optional "value" (Decoder.any RecordReader.memberRoom)
    |>.optional "distance" Decoder.double
    |>.optional "timeout" Decoder.double
    |>.decoder "struct RawDecision"

/-- The name by which a model says that the task is done. -/
def finishName : String := "close_browser"

/-- A character in lower case, where that is a letter of the alphabet from a to z.
The sign for kelvin is a capital k. -/
def lower (c : Char) : Char :=
  if c = '\u212a' then 'k' else c.toLower

/-- The name of an action as it is looked up. -/
def normalName (name : String) : String :=
  String.ofList ((Text.trimChars name.toList).map lower)

/-- A value as text: a text as it is, and anything else as JSON. -/
def valueText : Json → String
  | .string s => s
  | v => v.text

/-- A number as the nearest whole number of 64 bits. -/
def whole (x : Double) : Int := WordRange.signed64.clamp x.roundAway

/-- What the action needs, out of what the model wrote. -/
def Raw.parameters (r : Raw) : Action.Parameters :=
  ⟨r.url, r.selector, r.value.map valueText, r.distance.map whole, r.timeout.map whole⟩

/-- The decision that the model wrote. -/
def Raw.decision (r : Raw) : Except Fault Decision :=
  let name := normalName r.action
  if name = finishName then .ok (.finished "Task completed")
  else
    match Action.Kind.ofName? name with
    | none => .error (.unknownAction r.action)
    | some kind =>
      match r.parameters.missing? kind with
      | some parameter => .error (.incompleteDecision kind parameter)
      | none => .ok (.act kind r.parameters)

/-- Reads a decision. -/
def parse (json : String) : Except Fault Decision :=
  match Raw.decoder.ofText json with
  | .error e => .error (.badDecision e)
  | .ok r => r.decision

/-- The decision in what a model says. -/
def decision (raw : String) : Except Fault Decision :=
  match extract raw with
  | .error e => .error e
  | .ok json => parse json

end Answer

end ControlPlane
