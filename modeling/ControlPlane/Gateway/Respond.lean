/-
Answering requests.

A request is let in by its token, all but the question whether the gateway is up.
It then meets a resource and is answered by calls to the store. What belongs to
another user is answered as if it were not there.
-/
import ControlPlane.Access
import ControlPlane.Dashboard
import ControlPlane.Gateway.Body
import ControlPlane.Gateway.Route
import ControlPlane.Http.Cors
import ControlPlane.Action.Form

set_option autoImplicit false

namespace ControlPlane

namespace Gateway

/-- How many characters a title may have. -/
def titleLimit : Nat := 100

/-- The size of a page where none is given, and the largest one. -/
def standardPage : Nat := 50

/-- The largest page. -/
def largestPage : Nat := 200

/-- A title without the blanks around it, if it can be one. -/
def checkTitle (raw : String) : Except Fault String :=
  let title := Text.trim raw
  if title.isEmpty then .error .noTitle
  else if titleLimit < title.length then .error (.longTitle titleLimit)
  else .ok title

/-! ## What is done with resources -/

/-- A conversation that a session may see. -/
def loadConversation (session : Access.Session) (id : Int) : Procedure Conversation := do
  let found ← Procedure.call (.getConversation id)
  Procedure.orFail (.missing .conversation id) (found.filter fun c => session.canAccess c.userId)

/-- Creates a conversation. -/
def createConversation (session : Access.Session) (body : NewConversation) :
    Procedure Conversation := do
  let title ← Procedure.ofExcept (checkTitle body.title)
  let browser := (Text.nonBlank? body.browserType).getD standardBrowser
  Procedure.call (.createConversation title browser session.userId)

/-- Answers a page of conversations. -/
def listConversations (session : Access.Session) (p : Paging) : Procedure (List Conversation) :=
  let limit := max 1 (min largestPage (p.limit.getD standardPage))
  Procedure.call (.listConversations session.userId limit (p.offset.getD 0))

/-- Changes the title of a conversation. -/
def renameConversation (session : Access.Session) (id : Int) (rawTitle : String) :
    Procedure Conversation := do
  let title ← Procedure.ofExcept (checkTitle rawTitle)
  let _ ← loadConversation session id
  if ← Procedure.call (.renameConversation id title) then loadConversation session id
  else Procedure.fail (.missing .conversation id)

/-- Creates a message in a running conversation. -/
def createMessage (session : Access.Session) (id : Int) (rawContent : String) :
    Procedure Message := do
  let conversation ← loadConversation session id
  if conversation.state.isTerminal then Procedure.fail (.ended id conversation.state)
  else
    let content ← Procedure.orFail .noContent (Text.nonBlank? rawContent)
    Procedure.call (.createMessage id .user content)

/-- Answers the messages of a conversation. -/
def listMessages (session : Access.Session) (id : Int) : Procedure (List Message) := do
  let _ ← loadConversation session id
  Procedure.call (.listMessages id)

/-- Answers the actions of a message. Whatever is wrong with its conversation, the
message is then not there. -/
def listActions (session : Access.Session) (id : Int) : Procedure (List Action) := do
  let found ← Procedure.call (.getMessage id)
  let message ← Procedure.orFail (.missing .message id) found
  match ← (loadConversation session message.conversationId).attempt with
  | .ok _ => Procedure.call (.listActions id)
  | .error _ => Procedure.fail (.missing .message id)

/-! ## The connection of a browser -/

/-- Why a request for a connection is not one. -/
inductive UpgradeFlaw where
  /-- The method is another one. -/
  | method
  /-- The connection is not to be upgraded. -/
  | connection
  /-- It is to be upgraded to something else. -/
  | upgrade
  /-- The version is another one. -/
  | version
  /-- There is no key. -/
  | key
  /-- The transport cannot be upgraded. -/
  | transport
deriving DecidableEq, Repr

/-- The answer to a request that cannot be upgraded. -/
def UpgradeFlaw.response : UpgradeFlaw → Http.Response
  | method => .text 405 "Request method must be `GET`"
  | connection => .text 400 "Connection header did not include 'upgrade'"
  | upgrade => .text 400 "`Upgrade` header did not include 'websocket'"
  | version => .text 400 "`Sec-WebSocket-Version` header did not include '13'"
  | key => .text 400 "`Sec-WebSocket-Key` header missing"
  | transport =>
    .text 426 "WebSocket request couldn't be upgraded since no upgrade state was present"

/-- Whether some characters stand in others one after the other. -/
def occursIn (needle : List Char) : List Char → Bool
  | [] => needle.isEmpty
  | c :: cs => (Text.stripFront needle (c :: cs)).isSome || occursIn needle cs

/-- Whether the first value of a name passes a test, in lower case. -/
def headerPasses (headers : Headers) (name : String) (test : String → Bool) : Bool :=
  match headers.first? name with
  | some value => test (Headers.canonical value)
  | none => false

/-- Checks that a request asks for a connection; `upgradable` says whether the
transport can be upgraded. -/
def checkUpgrade (r : Http.Request) (upgradable : Bool) : Except UpgradeFlaw Unit :=
  if r.method ≠ "GET" then .error .method
  else if !headerPasses r.headers "connection" fun v => occursIn "upgrade".toList v.toList then
    .error .connection
  else if !headerPasses r.headers "upgrade" (· == "websocket") then .error .upgrade
  else if !headerPasses r.headers "sec-websocket-version" (· == "13") then .error .version
  else if (r.headers.first? "sec-websocket-key").isNone then .error .key
  else if !upgradable then .error .transport
  else .ok ()

/-- The number of the conversation whose connection is asked for. -/
def socketId (text : String) : Except Fault Int :=
  match Integer.readSigned64? (Text.trimChars text.toList) with
  | some id => .ok id
  | none => .error (.badConversationId text)

/-! ## Answers -/

/-- What a request leads to. -/
inductive Outcome where
  /-- An answer. -/
  | answer (r : Http.Response)
  /-- The connection of a conversation's browser. -/
  | connect (conversationId : Int)
deriving DecidableEq, Repr

/-- The answer that reports a fault. -/
def faultResponse (f : Fault) : Http.Response := .json f.status f.body

/-- Answers with the value that a procedure ends with, or reports its fault. -/
def reply {α : Type} (toJson : α → Json) (p : Procedure α) : Program Outcome :=
  p.run.bind fun
    | .ok a => .done (.answer (.json 200 (toJson a)))
    | .error f => .done (.answer (faultResponse f))

/-- Answers at once. -/
def answerNow (r : Http.Response) : Program Outcome := .done (.answer r)

/-- Goes on with the number in a path. -/
def withNumber (part : List Char) (f : Int → Program Outcome) : Program Outcome :=
  match pathNumber part with
  | .ok id => f id
  | .error flaw => answerNow (.text 400 flaw.message)

/-- Goes on with the body of a request. -/
def withBody {α : Type} (d : Decoder α) (r : Http.Request) (f : α → Program Outcome) :
    Program Outcome :=
  match readBody d r with
  | .ok a => f a
  | .error flaw => answerNow flaw.response

/-- A list as a value. -/
def listJson {α : Type} (toJson : α → Json) (items : List α) : Json :=
  .array (items.map toJson)

/-- Answers whether the gateway is up. -/
def healthResponse (connections : Nat) : Http.Response :=
  .json 200 (.object [("status", .string "ok"), ("connections", Settings.count connections)])

/-- Answers a request for the connection of a conversation's browser. -/
def connect (session : Access.Session) (r : Http.Request) (upgradable : Bool)
    (part : List Char) : Program Outcome :=
  match pathText "conversation_id" part with
  | .error flaw => answerNow (.text 400 flaw.message)
  | .ok text =>
    match socketId text with
    | .error f => answerNow (faultResponse f)
    | .ok id =>
      (loadConversation session id).run.bind fun
        | .error f => answerNow (faultResponse f)
        | .ok _ =>
          match checkUpgrade r upgradable with
          | .error flaw => answerNow flaw.response
          | .ok () => .done (.connect id)

/-- Answers a request that is let in. -/
def serve (session : Access.Session) (r : Http.Request) (connections : Nat)
    (upgradable : Bool) : Resource → Verb → Program Outcome
  | .health, _ => answerNow (healthResponse connections)
  | .socket part, _ => connect session r upgradable part
  | .conversations, .get =>
    match paging r.query with
    | .ok p => reply (listJson Conversation.toJson) (listConversations session p)
    | .error flaw => answerNow (.text 400 flaw.message)
  | .conversations, _ =>
    withBody NewConversation.decoder r fun body =>
      reply Conversation.toJson (createConversation session body)
  | .conversation part, .get =>
    withNumber part fun id => reply Conversation.toJson (loadConversation session id)
  | .conversation part, _ =>
    withNumber part fun id =>
      withBody titleDecoder r fun title =>
        reply Conversation.toJson (renameConversation session id title)
  | .messages part, .get =>
    withNumber part fun id => reply (listJson Message.toJson) (listMessages session id)
  | .messages part, _ =>
    withNumber part fun id =>
      withBody contentDecoder r fun content =>
        reply Message.toJson (createMessage session id content)
  | .actions part, _ =>
    withNumber part fun id => reply (listJson Action.toJson) (listActions session id)
  | .summary, _ =>
    reply Dashboard.Summary.toJson do Dashboard.summary session.userId (← Procedure.now)
  | .weeklyVolume, _ =>
    reply Dashboard.Series.toJson do
      Dashboard.weeklyVolume session.userId (← Procedure.now).date
  | .weeklySuccessRate, _ =>
    reply Dashboard.Series.toJson do
      Dashboard.weeklySuccessRate session.userId (← Procedure.now).date

/-- The session of a request. Whether the gateway is up may be asked by anyone. -/
def sessionOf (tokens : Access.Tokens) (r : Http.Request) : Except Fault Access.Session :=
  if r.path == "/v1/health".toList then .ok .operator
  else tokens.authenticate (.ofRequest r.headers r.target)

/-- Changes the answer of an outcome. -/
def Outcome.mapAnswer (f : Http.Response → Http.Response) : Outcome → Outcome
  | answer r => answer (f r)
  | connect id => connect id

/-- Answers a request other than a preflight. Asking for the head alone leaves out
the body, and a method that a resource does not know is answered with those that
it knows. -/
def respond (tokens : Access.Tokens) (connections : Nat) (upgradable : Bool)
    (r : Http.Request) : Program Outcome :=
  match Resource.ofPath? r.path with
  | none =>
    match sessionOf tokens r with
    | .error f => answerNow (faultResponse f)
    | .ok _ => answerNow (.bare 404)
  | some resource =>
    match Verb.ofMethod? r.method resource with
    | none =>
      let response :=
        match sessionOf tokens r with
        | .error f => faultResponse f
        | .ok _ => .bare 405
      answerNow (response.withHeader "allow" resource.allowed)
    | some verb =>
      let outcome :=
        match sessionOf tokens r with
        | .error f => answerNow (faultResponse f)
        | .ok session => serve session r connections upgradable resource verb
      if r.method = "HEAD" then
        outcome.bind fun o => .done (o.mapAnswer Http.Response.withoutBody)
      else outcome

/-- The answer to a preflight, before anybody is let in. -/
def preflight (policy : Http.Cors) (r : Http.Request) : Http.Response :=
  let response : Http.Response := ⟨200, policy.preflight r, ""⟩
  match Resource.ofPath? r.path with
  | some resource => response.withHeader "allow" resource.allowed
  | none => response

/-- Answers a request. -/
def handle (policy : Http.Cors) (tokens : Access.Tokens) (connections : Nat)
    (upgradable : Bool) (r : Http.Request) : Program Outcome :=
  if r.method = "OPTIONS" then answerNow (preflight policy r)
  else
    (respond tokens connections upgradable r).bind fun o =>
      .done (o.mapAnswer fun a => { a with headers := policy.ordinary r ++ a.headers })

end Gateway

end ControlPlane
