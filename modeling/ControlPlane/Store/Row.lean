/-
Stored rows.

The store keeps what it is given: names of states and points in time are texts,
and a row is only understood when it is read. A row that holds anything else than
one of the known names, or than a time in the strict form, cannot be read; the
report names the column by its position, and the leftmost one in reading order
comes first.
-/
import ControlPlane.Fault

set_option autoImplicit false

namespace ControlPlane

/-- A stored conversation. -/
structure ConversationRow where
  /-- Its number. -/
  id : Int
  /-- Its title. -/
  title : String
  /-- The name of its state. -/
  state : String
  /-- The browser it runs in. -/
  browserType : String
  /-- The user it belongs to. -/
  userId : Option Int
  /-- When it was created. -/
  createdAt : String
  /-- When it was last changed. -/
  updatedAt : String
deriving DecidableEq, Repr

/-- A stored message. -/
structure MessageRow where
  /-- Its number. -/
  id : Int
  /-- The conversation it belongs to. -/
  conversationId : Int
  /-- The name of the role of its writer. -/
  role : String
  /-- What it says. -/
  content : String
  /-- How many rounds of decisions have failed since the last one that did not. -/
  failures : Int
  /-- When it was created. -/
  createdAt : String
deriving DecidableEq, Repr

/-- A stored action. -/
structure ActionRow where
  /-- Its number. -/
  id : Int
  /-- The message it serves. -/
  messageId : Int
  /-- The name of its kind. -/
  kind : String
  /-- Its place among the actions of the message. -/
  sequence : Int
  /-- The name of its status. -/
  status : String
  /-- What the browser needs to know. -/
  parameters : Action.Parameters
  /-- Why it did not succeed. -/
  errorMessage : Option String
  /-- How long the browser took, in milliseconds. -/
  executionTime : Option Int
  /-- When it was created. -/
  createdAt : String
  /-- When it was handed out. -/
  startedAt : Option String
  /-- When it ended. -/
  finishedAt : Option String
deriving DecidableEq, Repr

namespace Row

/-- Reads a column that holds a point in time. -/
def time (column : Nat) (raw : String) : Except Fault.StoreFlaw Instant :=
  match Stamp.read raw with
  | .ok i => .ok i
  | .error flaw => .error (.unreadable column (.badTime raw flaw))

/-- Reads a column that holds a point in time or nothing. -/
def time? (column : Nat) : Option String → Except Fault.StoreFlaw (Option Instant)
  | some raw => (time column raw).map some
  | none => .ok none

/-- Reads a column that holds a name. -/
def named {α : Type} (ofName? : String → Option α) (what : String) (column : Nat)
    (raw : String) : Except Fault.StoreFlaw α :=
  match ofName? raw with
  | some a => .ok a
  | none => .error (.unreadable column (.unknownName what raw))

end Row

namespace ConversationRow

/-- The conversation that a row holds. -/
def read (r : ConversationRow) : Except Fault.StoreFlaw Conversation := do
  let state ← Row.named Conversation.State.ofName? "conversation state" 2 r.state
  let createdAt ← Row.time 5 r.createdAt
  let updatedAt ← Row.time 6 r.updatedAt
  .ok ⟨r.id, r.title, state, r.browserType, r.userId, createdAt, updatedAt⟩

end ConversationRow

namespace MessageRow

/-- The message that a row holds; the column of its time depends on the table. -/
def read (timeColumn : Nat) (r : MessageRow) : Except Fault.StoreFlaw Message := do
  let role ← Row.named Message.Role.ofName? "message role" 2 r.role
  let createdAt ← Row.time timeColumn r.createdAt
  .ok ⟨r.id, r.conversationId, role, r.content, createdAt⟩

end MessageRow

namespace ActionRow

/-- Whether there is no result yet. -/
def isOpen (r : ActionRow) : Bool :=
  r.status == Action.Status.pending.name || r.status == Action.Status.running.name

/-- The time from which an action's budget counts. -/
def clockStart (r : ActionRow) : String := r.startedAt.getD r.createdAt

/-- The action that a row holds. -/
def read (r : ActionRow) : Except Fault.StoreFlaw Action := do
  let kind ← Row.named Action.Kind.ofName? "action kind" 2 r.kind
  let status ← Row.named Action.Status.ofName? "action status" 4 r.status
  let createdAt ← Row.time 12 r.createdAt
  let startedAt ← Row.time? 13 r.startedAt
  let finishedAt ← Row.time? 14 r.finishedAt
  .ok ⟨r.id, r.messageId, kind, r.sequence, status, r.parameters, r.errorMessage,
    r.executionTime, createdAt, startedAt, finishedAt⟩

end ActionRow

end ControlPlane
