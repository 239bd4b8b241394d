/-
Conversations and their messages.

A conversation belongs to a user, or to nobody, and runs until it is finished or
has failed. Its messages are the tasks that the browser is to carry out.
-/
import ControlPlane.Json.Decode

set_option autoImplicit false

namespace ControlPlane

namespace Conversation

/-- How far a conversation has come. -/
inductive State where
  /-- Work goes on. -/
  | running
  /-- The task is done. -/
  | finished
  /-- The work was stopped. -/
  | error
deriving DecidableEq, Repr

namespace State

/-- All states. -/
def all : List State := [running, finished, error]

/-- The name of a state. -/
def name : State → String
  | running => "running"
  | finished => "finished"
  | error => "error"

/-- The state of a name. -/
def ofName? (s : String) : Option State := all.find? (·.name == s)

/-- Whether nothing can follow. -/
def isTerminal : State → Bool
  | running => false
  | _ => true

end State

end Conversation

/-- A conversation. -/
structure Conversation where
  /-- Its number. -/
  id : Int
  /-- Its title. -/
  title : String
  /-- How far it has come. -/
  state : Conversation.State
  /-- The browser it runs in. -/
  browserType : String
  /-- The user it belongs to. -/
  userId : Option Int
  /-- When it was created. -/
  createdAt : Instant
  /-- When it was last changed. -/
  updatedAt : Instant
deriving DecidableEq, Repr

namespace Conversation

/-- A conversation as a value. -/
def toJson (c : Conversation) : Json :=
  .object
    [("id", Json.int c.id), ("title", .string c.title), ("state", .string c.state.name),
      ("browserType", .string c.browserType), ("userId", Json.orNull Json.int c.userId),
      ("createdAt", .string c.createdAt.text), ("updatedAt", .string c.updatedAt.text)]

end Conversation

namespace Message

/-- Who wrote a message. -/
inductive Role where
  /-- The user. -/
  | user
  /-- The assistant. -/
  | assistant
deriving DecidableEq, Repr

namespace Role

/-- All roles. -/
def all : List Role := [user, assistant]

/-- The name of a role. -/
def name : Role → String
  | user => "user"
  | assistant => "assistant"

/-- The role of a name. -/
def ofName? (s : String) : Option Role := all.find? (·.name == s)

end Role

end Message

/-- A message. -/
structure Message where
  /-- Its number. -/
  id : Int
  /-- The conversation it belongs to. -/
  conversationId : Int
  /-- Who wrote it. -/
  role : Message.Role
  /-- What it says. -/
  content : String
  /-- When it was created. -/
  createdAt : Instant
deriving DecidableEq, Repr

namespace Message

/-- A message as a value. -/
def toJson (m : Message) : Json :=
  .object
    [("id", Json.int m.id), ("conversationId", Json.int m.conversationId),
      ("role", .string m.role.name), ("content", .string m.content),
      ("createdAt", .string m.createdAt.text)]

/-- A message from a value. -/
def decoder : Decoder Message :=
  (RecordReader.start Message.mk)
    |>.required "id" Decoder.signed64
    |>.required "conversationId" Decoder.signed64
    |>.required "role" (Decoder.choice (Role.all.map fun r => (r.name, r)))
    |>.required "content" Decoder.text
    |>.required "createdAt" Decoder.instant
    |>.decoder "struct Message"

end Message

end ControlPlane
