/-
Asking the model.

A decision is asked for with one HTTP request, whose body holds the instructions
and the text about the task. The answer holds what the model says; a status other
than success, an answer that cannot be read and an empty one are all failures.
-/
import ControlPlane.Decision.Prompt
import ControlPlane.Decision.Answer
import ControlPlane.Settings
import ControlPlane.Http.Address
import ControlPlane.Http.Headers
import ControlPlane.Http.Status

set_option autoImplicit false

namespace ControlPlane

namespace Exchange

/-- A request to the model's service. -/
structure Request where
  /-- The address. -/
  url : String
  /-- What shows that the request may be made. -/
  authorization : String
  /-- The body. -/
  body : Json
deriving Repr

/-- A text without the slashes at its end. -/
def withoutSlashes (s : String) : String :=
  String.ofList (s.toList.reverse.dropWhile (· = '/')).reverse

/-- One side's part in a chat. -/
def turn (role content : String) : Json :=
  .object [("role", .string role), ("content", .string content)]

/-- The request for a decision. -/
def request (s : Settings.Decision) (prompt : String) : Request where
  url := withoutSlashes s.apiBase ++ "/chat/completions"
  authorization := "Bearer " ++ s.apiKey
  body :=
    .object
      [("model", .string s.model),
        ("messages", .array [turn "system" Prompt.system, turn "user" prompt]),
        ("max_tokens", Settings.count s.maxTokens),
        ("temperature", Settings.temperatureJson s.temperature)]

/-- The head of a request as it is sent. -/
structure Head where
  /-- The first line. -/
  line : String
  /-- What shows that the request may be made. -/
  authorization : String
  /-- What the body is. -/
  contentType : String
deriving DecidableEq, Repr

/-- The head of a request, if it can be sent: the address has to be one of the web,
and the key a text that a head can carry. -/
def Request.head? (r : Request) : Option Head :=
  match Http.Address.read? r.url with
  | none => none
  | some address =>
    if Headers.isAllowed r.authorization then
      some ⟨"POST " ++ address.target ++ " HTTP/1.1", r.authorization, "application/json"⟩
    else none

/-- What comes back. -/
inductive Response where
  /-- Nothing: the service cannot be reached or breaks off. -/
  | none
  /-- A status and a body. -/
  | answer (status : Nat) (body : String)
deriving DecidableEq, Repr

/-- What the model says in one of its proposals. -/
def proposal : Decoder (Option String) :=
  (RecordReader.start (fun (content : Option String) => content))
    |>.optional "content" Decoder.text
    |>.decoder "struct ResponseMessage"

/-- One of the proposals. -/
def choice : Decoder (Option String) :=
  (RecordReader.start (fun (content : Option String) => content))
    |>.required "message" proposal
    |>.decoder "struct Choice"

/-- The proposals in an answer. -/
def choices : Decoder (List (Option String)) :=
  (RecordReader.start (fun (cs : List (Option String)) => cs))
    |>.required "choices" (Decoder.list choice)
    |>.decoder "struct ChatResponse"

/-- As many characters from the front as fit a number of bytes. -/
def takeBytes : Nat → List Char → List Char
  | _, [] => []
  | room, c :: cs =>
    if c.utf8Size ≤ room then c :: takeBytes (room - c.utf8Size) cs else []

/-- How many bytes of an answer are shown when it cannot be read. -/
def excerptSize : Nat := 500

/-- The beginning of an answer. -/
def excerpt (body : String) : String :=
  String.ofList (takeBytes excerptSize body.toList)

/-- The body that an answer of a status can have: where there is no content, there is
none. -/
def bodyOf (status : Nat) (body : String) : String := if status = 204 then "" else body

/-- What the model says. -/
def content : Response → Except Fault String
  | .none => .error .noExchange
  | .answer status body =>
    if status / 100 = 2 then
      let body := bodyOf status body
      match choices.ofText body with
      | .error e => .error (.badAnswer e (excerpt body))
      | .ok found =>
        match (found.head?.bind id).bind Text.nonBlank? with
        | some said => .ok said
        | none => .error .emptyAnswer
    else .error (.refused (Http.statusLine status))

/-- The decision that an answer holds. -/
def decision (r : Response) : Except Fault Decision :=
  match content r with
  | .error e => .error e
  | .ok said => Answer.decision said

end Exchange

end ControlPlane
