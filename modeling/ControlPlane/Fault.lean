/-
What can go wrong, and how it is reported.

A fault is a cause. Its kind decides the first words of the report, whether the
connection on which it happens can go on, and the status of an answer over HTTP.
Faults of services outside the program come with a kind and a text of their own.
-/
import ControlPlane.Action.Basic
import ControlPlane.Conversation

set_option autoImplicit false

namespace ControlPlane

namespace Fault

/-- The kinds of faults. -/
inductive Kind where
  /-- The settings cannot be used. -/
  | config
  /-- A file cannot be read or written. -/
  | io
  /-- A text is not the JSON that it should be. -/
  | json
  /-- The store cannot do what it should. -/
  | storage
  /-- Something is not there. -/
  | notFound
  /-- A frame cannot be understood. -/
  | protocol
  /-- No decision, or none that can be used. -/
  | decision
  /-- Something is not in the state that is needed. -/
  | conflict
  /-- A value cannot be accepted. -/
  | validation
  /-- Somebody may not do what they ask for. -/
  | permissionDenied
  /-- Something took too long. -/
  | timeout
  /-- A connection is broken. -/
  | transport
  /-- Anything else. -/
  | other
deriving DecidableEq, Repr

namespace Kind

/-- All kinds. -/
def all : List Kind :=
  [config, io, json, storage, notFound, protocol, decision, conflict, validation,
    permissionDenied, timeout, transport, other]

/-- The name of a kind. -/
def name : Kind → String
  | config => "Config"
  | io => "Io"
  | json => "Json"
  | storage => "Storage"
  | notFound => "NotFound"
  | protocol => "Protocol"
  | decision => "Decision"
  | conflict => "Conflict"
  | validation => "Validation"
  | permissionDenied => "PermissionDenied"
  | timeout => "Timeout"
  | transport => "Transport"
  | other => "Other"

/-- The kind of a name. -/
def ofName? (s : String) : Option Kind := all.find? (·.name == s)

/-- The first words of a report. -/
def opening : Kind → String
  | config => "Config error: "
  | io => "IO error: "
  | json => "JSON error: "
  | storage => "Storage error: "
  | notFound => "Not found: "
  | protocol => "Protocol error: "
  | decision => "Decision error: "
  | conflict => "Conflict: "
  | validation => "Validation error: "
  | permissionDenied => "Permission denied: "
  | timeout => "Timeout: "
  | transport => "Transport error: "
  | other => ""

/-- Whether a connection ends with a fault of this kind. -/
def endsConnection : Kind → Bool
  | transport => true
  | timeout => true
  | _ => false

/-- The status of an HTTP answer that reports a fault of this kind. -/
def status : Kind → Nat
  | notFound => 404
  | validation => 400
  | protocol => 400
  | conflict => 409
  | permissionDenied => 401
  | _ => 500

end Kind

/-- The things that have numbers. -/
inductive Entity where
  /-- A conversation. -/
  | conversation
  /-- A message. -/
  | message
  /-- An action. -/
  | action
deriving DecidableEq, Repr

/-- The name of an entity. -/
def Entity.name : Entity → String
  | .conversation => "conversation"
  | .message => "message"
  | .action => "action"

/-- Why a stored row cannot be read. -/
inductive RowFlaw where
  /-- A text is no point in time. -/
  | badTime (raw : String) (flaw : Stamp.Flaw)
  /-- A text is none of the names it should be one of. -/
  | unknownName (what raw : String)
deriving DecidableEq, Repr

/-- The wording of a flaw of a row. -/
def RowFlaw.message : RowFlaw → String
  | .badTime raw flaw => "Storage error: bad timestamp " ++ raw ++ ": " ++ flaw.message
  | .unknownName what raw => "Validation error: unknown " ++ what ++ ": " ++ raw

/-- Why the store cannot do what it should. -/
inductive StoreFlaw where
  /-- A row names another one that is not there. -/
  | noParent
  /-- Two rows would have the same key. -/
  | taken (columns : String)
  /-- A row cannot be read; the column is counted from zero. -/
  | unreadable (column : Nat) (flaw : RowFlaw)
  /-- A counter does not fit its word. -/
  | counterRange (value : Int)
deriving DecidableEq, Repr

/-- The wording of a flaw of the store. -/
def StoreFlaw.message : StoreFlaw → String
  | .noParent => "FOREIGN KEY constraint failed"
  | .taken columns => "UNIQUE constraint failed: " ++ columns
  | .unreadable column flaw =>
    "Conversion error from type Text at index: " ++ Integer.text column ++ ", " ++ flaw.message
  | .counterRange value => "Integer " ++ Integer.text value ++ " out of range at index 0"

end Fault

/-- What went wrong. -/
inductive Fault where
  /-- The period of the pings does not fit the time allowed for an answer. -/
  | pingPeriod (period wait : Nat)
  /-- The queue of a connection has no room. -/
  | noSendBuffer
  /-- No failed decision is tolerated at all. -/
  | noFailureBudget
  /-- The token of a user is blank. -/
  | blankUserToken (user : Int)
  /-- The token of a user is the operator's. -/
  | sharedUserToken (user : Int)
  /-- The schedule of the sweeps cannot be read. -/
  | badSchedule (text : String)
  /-- A file is a directory. -/
  | isDirectory
  /-- A text is not the JSON that it should be. -/
  | badJson (defect : Defect)
  /-- The store failed while it was doing something. -/
  | store (doing : String) (flaw : Fault.StoreFlaw)
  /-- The store cannot be opened. -/
  | storeUnavailable (doing reason : String)
  /-- Something with this number is not there. -/
  | missing (entity : Fault.Entity) (id : Int)
  /-- A frame is no JSON object with a type. -/
  | badFrame
  /-- A frame is of an unknown type. -/
  | unknownFrame (type : String)
  /-- A frame of a known type has something wrong in it. -/
  | badFrameFields (type : String) (defect : Defect)
  /-- There is nothing on the page to work with. -/
  | emptyPage
  /-- The model's answer holds no JSON. -/
  | noJsonInAnswer
  /-- The model's answer holds JSON that is not complete. -/
  | noCompleteJsonInAnswer
  /-- The model's answer is no decision. -/
  | badDecision (defect : Defect)
  /-- The model wants an action that there is not. -/
  | unknownAction (name : String)
  /-- The model wants an action without what it needs. -/
  | incompleteDecision (kind : Action.Kind) (parameter : String)
  /-- The model could not be reached. -/
  | noExchange
  /-- The model's service refused. -/
  | refused (status : String)
  /-- The answer of the model's service cannot be read. -/
  | badAnswer (defect : Defect) (excerpt : String)
  /-- The model said nothing. -/
  | emptyAnswer
  /-- A conversation has ended. -/
  | ended (conversation : Int) (state : Conversation.State)
  /-- An action was taken away before it was handed out. -/
  | leftPending (action : Int)
  /-- A text is none of the names it should be one of. -/
  | unknownName (what text : String)
  /-- An action lacks what it needs. -/
  | incompleteAction (kind : Action.Kind) (parameter : String)
  /-- A conversation cannot be moved to a state. -/
  | cannotMove (conversation : Int) (state : Conversation.State)
  /-- An action cannot end with a status. -/
  | cannotComplete (action : Int) (status : Action.Status)
  /-- An action cannot be forced to a status. -/
  | cannotForce (action : Int) (status : Action.Status)
  /-- A title is blank. -/
  | noTitle
  /-- A title is too long. -/
  | longTitle (limit : Nat)
  /-- A message is blank. -/
  | noContent
  /-- A text is no number of a conversation. -/
  | badConversationId (text : String)
  /-- Something belongs to another conversation. -/
  | foreign (entity : Fault.Entity) (id conversation : Int)
  /-- No token, or a wrong one. -/
  | badToken
  /-- The client does not take what is sent to it. -/
  | stalled
  /-- The connection is closed. -/
  | connectionClosed
  /-- Nobody takes what is queued any more. -/
  | queueClosed
  /-- A point in time lies outside of the calendar. -/
  | beyondCalendar
  /-- A product does not fit its word. -/
  | overflow
  /-- A fault that a service outside the program reports. -/
  | reported (kind : Fault.Kind) (text : String)
deriving DecidableEq, Repr

namespace Fault

/-- The kind of a fault. -/
def kind : Fault → Kind
  | pingPeriod _ _ => .config
  | noSendBuffer => .config
  | noFailureBudget => .config
  | blankUserToken _ => .config
  | sharedUserToken _ => .config
  | badSchedule _ => .config
  | isDirectory => .io
  | badJson _ => .json
  | store _ _ => .storage
  | storeUnavailable _ _ => .storage
  | missing _ _ => .notFound
  | badFrame => .protocol
  | unknownFrame _ => .protocol
  | badFrameFields _ _ => .protocol
  | emptyPage => .protocol
  | noJsonInAnswer => .decision
  | noCompleteJsonInAnswer => .decision
  | badDecision _ => .decision
  | unknownAction _ => .decision
  | incompleteDecision _ _ => .decision
  | noExchange => .decision
  | refused _ => .decision
  | badAnswer _ _ => .decision
  | emptyAnswer => .decision
  | ended _ _ => .conflict
  | leftPending _ => .conflict
  | unknownName _ _ => .validation
  | incompleteAction _ _ => .validation
  | cannotMove _ _ => .validation
  | cannotComplete _ _ => .validation
  | cannotForce _ _ => .validation
  | noTitle => .validation
  | longTitle _ => .validation
  | noContent => .validation
  | badConversationId _ => .validation
  | foreign _ _ _ => .permissionDenied
  | badToken => .permissionDenied
  | stalled => .timeout
  | connectionClosed => .transport
  | queueClosed => .transport
  | beyondCalendar => .other
  | overflow => .other
  | reported k _ => k

/-- What an action of a kind lacks. -/
def lacking (kind : Action.Kind) (parameter : String) : String :=
  kind.name ++ " action requires " ++ parameter

/-- The wording of a fault without its kind. -/
def detail : Fault → String
  | pingPeriod period wait =>
    "connection.pingPeriodSecs (" ++ Integer.text period ++
      ") must be > 0 and < connection.pongWaitSecs (" ++ Integer.text wait ++ ")"
  | noSendBuffer => "connection.sendBuffer must be > 0"
  | noFailureBudget => "decision.maxConsecutiveFailures must be >= 1"
  | blankUserToken user =>
    "gateway.userTokens: empty token for user " ++ Integer.text user
  | sharedUserToken user =>
    "gateway.userTokens: token for user " ++ Integer.text user ++ " equals gateway.apiToken"
  | badSchedule text =>
    "invalid sweeper schedule " ++ Text.quoted text ++
      ": Invalid expression: Invalid cron expression."
  | isDirectory => "Is a directory (os error 21)"
  | badJson defect => defect.message
  | store doing flaw => doing ++ ": " ++ flaw.message
  | storeUnavailable doing reason => doing ++ ": " ++ reason
  | missing entity id => entity.name ++ " " ++ Integer.text id
  | badFrame => "message format error"
  | unknownFrame type => "unknown message type: " ++ type
  | badFrameFields type defect => "invalid " ++ type ++ " message: " ++ defect.message
  | emptyPage => "page state has no interactive elements"
  | noJsonInAnswer => "no JSON found in model output"
  | noCompleteJsonInAnswer => "could not extract valid JSON from model output"
  | badDecision defect => "invalid decision object: " ++ defect.message
  | unknownAction name => "unsupported action: " ++ name
  | incompleteDecision kind parameter =>
    Kind.validation.opening ++ lacking kind parameter
  | noExchange => "Request failed"
  | refused status => "API error " ++ status
  | badAnswer defect excerpt =>
    "Failed to parse response: " ++ defect.message ++ ". Body: " ++ excerpt
  | emptyAnswer => "model returned empty content"
  | ended conversation state =>
    "conversation " ++ Integer.text conversation ++ " is already " ++ state.name
  | leftPending action => "action " ++ Integer.text action ++ " left pending before dispatch"
  | unknownName what text => "unknown " ++ what ++ ": " ++ text
  | incompleteAction kind parameter => lacking kind parameter
  | cannotMove conversation state =>
    "conversation " ++ Integer.text conversation ++ " cannot be moved to " ++ state.name
  | cannotComplete action status =>
    "action " ++ Integer.text action ++ " cannot complete as " ++ status.name
  | cannotForce action status =>
    "action " ++ Integer.text action ++ " cannot be forced to " ++ status.name
  | noTitle => "title is required"
  | longTitle limit => "title must be at most " ++ Integer.text limit ++ " characters"
  | noContent => "content is required"
  | badConversationId text => "invalid conversation id: " ++ text
  | foreign entity id conversation =>
    entity.name ++ " " ++ Integer.text id ++ " does not belong to conversation " ++
      Integer.text conversation
  | badToken => "invalid or missing Bearer token"
  | stalled => "client is not draining its queue"
  | connectionClosed => "connection closed"
  | queueClosed => "outbound queue closed"
  | beyondCalendar => "point in time beyond the calendar"
  | overflow => "attempt to multiply with overflow"
  | reported _ text => text

/-- The wording of a fault. -/
def message (f : Fault) : String := f.kind.opening ++ f.detail

/-- Whether the connection on which the fault happens has to end. -/
def endsConnection (f : Fault) : Bool := f.kind.endsConnection

/-- The status of an HTTP answer that reports the fault. -/
def status (f : Fault) : Nat := f.kind.status

/-- The body of an HTTP answer that reports the fault. -/
def body (f : Fault) : Json := .object [("error", .string f.message)]

end Fault

/-! ## Checks of domain values -/

namespace Action

/-- Checks that an action of a kind has what it needs. -/
def Parameters.check (p : Parameters) (kind : Kind) : Except Fault Unit :=
  match p.missing? kind with
  | some parameter => .error (.incompleteAction kind parameter)
  | .none => .ok ()

/-- Reads the name of a kind. -/
def Kind.parse (s : String) : Except Fault Kind :=
  match Kind.ofName? s with
  | some k => .ok k
  | none => .error (.unknownName "action kind" s)

/-- Reads the name of a status. -/
def Status.parse (s : String) : Except Fault Status :=
  match Status.ofName? s with
  | some k => .ok k
  | none => .error (.unknownName "action status" s)

end Action

/-- Reads the name of a state. -/
def Conversation.State.parse (s : String) : Except Fault Conversation.State :=
  match Conversation.State.ofName? s with
  | some k => .ok k
  | none => .error (.unknownName "conversation state" s)

/-- Reads the name of a role. -/
def Message.Role.parse (s : String) : Except Fault Message.Role :=
  match Message.Role.ofName? s with
  | some k => .ok k
  | none => .error (.unknownName "message role" s)

end ControlPlane
