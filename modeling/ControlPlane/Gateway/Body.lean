/-
What requests carry.

A body has to say that it is JSON, has to be JSON, and has to hold the record that
the request needs; the first of the three that fails decides the answer.
-/
import ControlPlane.Conversation
import ControlPlane.Http.MediaType
import ControlPlane.Http.Message

set_option autoImplicit false

namespace ControlPlane

namespace Gateway

/-- A request for a new conversation. -/
structure NewConversation where
  /-- Its title. -/
  title : String
  /-- The browser it is to run in. -/
  browserType : String
deriving DecidableEq, Repr

/-- The browser where none is named. -/
def standardBrowser : String := "chrome"

/-- A request for a new conversation from a value. -/
def NewConversation.decoder : Decoder NewConversation :=
  (RecordReader.start NewConversation.mk)
    |>.required "title" Decoder.text
    |>.defaulted "browserType" Decoder.text standardBrowser
    |>.decoder "struct CreateConversationRequest"

/-- The title in a request for another title. -/
def titleDecoder : Decoder String :=
  (RecordReader.start (fun (title : String) => title))
    |>.required "title" Decoder.text
    |>.decoder "struct RenameConversationRequest"

/-- The text in a request for a new message. -/
def contentDecoder : Decoder String :=
  (RecordReader.start (fun (content : String) => content))
    |>.required "content" Decoder.text
    |>.decoder "struct CreateMessageRequest"

/-- Why a body cannot be used. -/
inductive BodyFlaw where
  /-- It does not say that it is JSON. -/
  | notJsonType
  /-- It is not the JSON that it should be. -/
  | defect (d : Defect)
deriving DecidableEq, Repr

/-- The answer to a request whose body cannot be used. -/
def BodyFlaw.response : BodyFlaw → Http.Response
  | notJsonType => .text 415 "Expected request with `Content-Type: application/json`"
  | defect d =>
    if d.cause = .malformed then
      .text 400 ("Failed to parse the request body as JSON: " ++ d.messageInPlace)
    else
      .text 422
        ("Failed to deserialize the JSON body into the target type: " ++ d.messageInPlace)

/-- Reads a body. What follows the value is not looked at. -/
def readBody {α : Type} (d : Decoder α) (r : Http.Request) : Except BodyFlaw α :=
  if Http.hasJsonBody r.headers then
    match d .streaming (Document.ofText r.body).root with
    | .ok a => .ok a
    | .error e => .error (.defect e)
  else .error .notJsonType

end Gateway

end ControlPlane
