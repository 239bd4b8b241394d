/-
The store as JSON.

A saved store is one object with the rows of the three tables, column by column,
and the largest numbers so far. Columns that have a default may be left out, and so
may the numbers: then the largest ones among the rows count.
-/
import ControlPlane.Action.Form
import ControlPlane.Store.Basic

set_option autoImplicit false

namespace ControlPlane

namespace ConversationRow

/-- A row as a value. -/
def toJson (r : ConversationRow) : Json :=
  .object
    [("id", Json.int r.id), ("title", .string r.title), ("state", .string r.state),
      ("browser_type", .string r.browserType), ("user_id", Json.orNull Json.int r.userId),
      ("created_at", .string r.createdAt), ("updated_at", .string r.updatedAt)]

/-- A row from a value. -/
def decoder : Decoder ConversationRow :=
  (RecordReader.start ConversationRow.mk)
    |>.required "id" Decoder.signed64
    |>.required "title" Decoder.text
    |>.defaulted "state" Decoder.text Conversation.State.running.name
    |>.defaulted "browser_type" Decoder.text "chrome"
    |>.optional "user_id" Decoder.signed64
    |>.required "created_at" Decoder.text
    |>.required "updated_at" Decoder.text
    |>.decoder "row of conversations"

end ConversationRow

namespace MessageRow

/-- A row as a value. -/
def toJson (r : MessageRow) : Json :=
  .object
    [("id", Json.int r.id), ("conversation_id", Json.int r.conversationId),
      ("role", .string r.role), ("content", .string r.content),
      ("decision_failures", Json.int r.failures), ("created_at", .string r.createdAt)]

/-- A row from a value. -/
def decoder : Decoder MessageRow :=
  (RecordReader.start MessageRow.mk)
    |>.required "id" Decoder.signed64
    |>.required "conversation_id" Decoder.signed64
    |>.required "role" Decoder.text
    |>.required "content" Decoder.text
    |>.defaulted "decision_failures" Decoder.signed64 0
    |>.required "created_at" Decoder.text
    |>.decoder "row of messages"

end MessageRow

namespace ActionRow

/-- Puts a row together from its columns. -/
def assemble (id messageId : Int) (kind : String) (sequence : Int) (status : String)
    (url selector value : Option String) (distance timeout : Option Int)
    (errorMessage : Option String) (executionTime : Option Int) (createdAt : String)
    (startedAt finishedAt : Option String) : ActionRow :=
  ⟨id, messageId, kind, sequence, status, ⟨url, selector, value, distance, timeout⟩,
    errorMessage, executionTime, createdAt, startedAt, finishedAt⟩

/-- A row as a value. -/
def toJson (r : ActionRow) : Json :=
  .object <|
    [("id", Json.int r.id), ("message_id", Json.int r.messageId), ("kind", .string r.kind),
      ("sequence", Json.int r.sequence), ("status", .string r.status)] ++
    r.parameters.members ++
    [("error_message", Json.orNull .string r.errorMessage),
      ("execution_time", Json.orNull Json.int r.executionTime),
      ("created_at", .string r.createdAt), ("started_at", Json.orNull .string r.startedAt),
      ("finished_at", Json.orNull .string r.finishedAt)]

/-- A row from a value. -/
def decoder : Decoder ActionRow :=
  (RecordReader.start assemble)
    |>.required "id" Decoder.signed64
    |>.required "message_id" Decoder.signed64
    |>.required "kind" Decoder.text
    |>.required "sequence" Decoder.signed64
    |>.defaulted "status" Decoder.text Action.Status.pending.name
    |>.optional "url" Decoder.text
    |>.optional "selector" Decoder.text
    |>.optional "value" Decoder.text
    |>.optional "distance" Decoder.signed64
    |>.optional "timeout" Decoder.signed64
    |>.optional "error_message" Decoder.text
    |>.optional "execution_time" Decoder.signed64
    |>.required "created_at" Decoder.text
    |>.optional "started_at" Decoder.text
    |>.optional "finished_at" Decoder.text
    |>.decoder "row of actions"

end ActionRow

namespace Store

/-- Puts a store together from its rows, which come in any order, and from the
largest numbers so far. -/
def assemble (conversations : List ConversationRow) (messages : List MessageRow)
    (actions : List ActionRow) (lastConversation lastMessage lastAction : Int)
    (messageTimeColumn : Int) : Store :=
  let s : Store :=
    { empty with
      lastConversation := lastConversation, lastMessage := lastMessage,
      lastAction := lastAction, messageTimeColumn := messageTimeColumn.toNat }
  let s := conversations.foldl placeConversation s
  let s := messages.foldl placeMessage s
  actions.foldl placeAction s

/-- A store as a value. -/
def toJson (s : Store) : Json :=
  .object
    [("conversations", .array (s.conversations.map ConversationRow.toJson)),
      ("messages", .array (s.messages.map MessageRow.toJson)),
      ("actions", .array (s.actions.map ActionRow.toJson)),
      ("last_conversation", Json.int s.lastConversation),
      ("last_message", Json.int s.lastMessage), ("last_action", Json.int s.lastAction),
      ("message_time_column", Json.int s.messageTimeColumn)]

/-- A store from a value. -/
def decoder : Decoder Store :=
  (RecordReader.start assemble)
    |>.defaulted "conversations" (Decoder.list ConversationRow.decoder) []
    |>.defaulted "messages" (Decoder.list MessageRow.decoder) []
    |>.defaulted "actions" (Decoder.list ActionRow.decoder) []
    |>.defaulted "last_conversation" Decoder.signed64 0
    |>.defaulted "last_message" Decoder.signed64 0
    |>.defaulted "last_action" Decoder.signed64 0
    |>.defaulted "message_time_column" Decoder.signed64 timeColumn
    |>.decoder "store"

end Store

end ControlPlane
