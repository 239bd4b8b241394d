/-
The store.

The store holds three tables. A row gets the number after the largest one that its
table has ever seen; rows are never taken away. Tables are kept in the order of
their numbers.
-/
import ControlPlane.Store.Row

set_option autoImplicit false

namespace ControlPlane

/-- The store. -/
structure Store where
  /-- The conversations. -/
  conversations : List ConversationRow
  /-- The messages. -/
  messages : List MessageRow
  /-- The actions. -/
  actions : List ActionRow
  /-- The largest number of a conversation so far. -/
  lastConversation : Int
  /-- The largest number of a message so far. -/
  lastMessage : Int
  /-- The largest number of an action so far. -/
  lastAction : Int
  /-- The column in which the time of a message stands: the sixth, or the fifth in
  a table that got its failure counter later. -/
  messageTimeColumn : Nat
deriving DecidableEq, Repr

namespace Store

/-- The column of a message's time where the failure counter stands before it. -/
def timeColumn : Nat := 5

/-- The column of a message's time where the failure counter was added later. -/
def olderTimeColumn : Nat := 4

/-- A store without rows. -/
def empty : Store := ⟨[], [], [], 0, 0, 0, timeColumn⟩

instance : Inhabited Store := ⟨empty⟩

/-! ## Tables -/

/-- Changes the rows for which something holds. -/
def modify {ρ : Type} (p : ρ → Bool) (f : ρ → ρ) (rows : List ρ) : List ρ :=
  rows.map fun r => if p r then f r else r

/-- Puts a row into a table that is ordered by number. -/
def place {ρ : Type} (id : ρ → Int) (r : ρ) : List ρ → List ρ
  | [] => [r]
  | x :: rest => if id x ≤ id r then x :: place id r rest else r :: x :: rest

/-- Puts a conversation with a number of its own into the store. -/
def placeConversation (s : Store) (r : ConversationRow) : Store :=
  { s with
    conversations := place (·.id) r s.conversations
    lastConversation := max s.lastConversation r.id }

/-- Puts a message with a number of its own into the store. -/
def placeMessage (s : Store) (r : MessageRow) : Store :=
  { s with
    messages := place (·.id) r s.messages
    lastMessage := max s.lastMessage r.id }

/-- Puts an action with a number of its own into the store. -/
def placeAction (s : Store) (r : ActionRow) : Store :=
  { s with
    actions := place (·.id) r s.actions
    lastAction := max s.lastAction r.id }

/-! ## Looking up -/

/-- The conversation with a number. -/
def conversation? (s : Store) (id : Int) : Option ConversationRow :=
  s.conversations.find? (·.id == id)

/-- The message with a number. -/
def message? (s : Store) (id : Int) : Option MessageRow :=
  s.messages.find? (·.id == id)

/-- The action with a number. -/
def action? (s : Store) (id : Int) : Option ActionRow :=
  s.actions.find? (·.id == id)

/-- The messages of a conversation. -/
def messagesOf (s : Store) (conversation : Int) : List MessageRow :=
  s.messages.filter (·.conversationId == conversation)

/-- Puts an action into a list that is ordered by sequence. -/
def insertBySequence (r : ActionRow) : List ActionRow → List ActionRow
  | [] => [r]
  | x :: rest =>
    if x.sequence ≤ r.sequence then x :: insertBySequence r rest else r :: x :: rest

/-- The actions of a message by sequence. -/
def actionsOf (s : Store) (message : Int) : List ActionRow :=
  (s.actions.filter (·.messageId == message)).foldl (fun sorted r => insertBySequence r sorted) []

/-- The largest sequence among the actions of a message, zero if it has none. -/
def lastSequence (s : Store) (message : Int) : Int :=
  match (s.actions.filter (·.messageId == message)).map (·.sequence) with
  | [] => 0
  | n :: rest => rest.foldl max n

/-- Whether a message is the newest of its conversation. -/
def isNewest (s : Store) (m : MessageRow) : Bool :=
  (s.messagesOf m.conversationId).all fun x => x.id ≤ m.id

/-- Whether a conversation is there and running. -/
def isRunning (s : Store) (id : Int) : Bool :=
  match s.conversation? id with
  | some c => c.state == Conversation.State.running.name
  | none => false

/-- Whether a message has an action without a result. -/
def hasOpen (s : Store) (message : Int) : Bool :=
  s.actions.any fun a => a.messageId == message && a.isOpen

end Store

end ControlPlane
