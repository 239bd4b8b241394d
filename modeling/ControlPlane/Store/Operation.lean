/-
What can be done with the store.

Every change of a state or a status depends on the one before, so that of two
parties who race for a row only one succeeds; the answer says whether anything was
changed. An operation that answers rows reads them after it has written, and may
therefore fail with its change made.
-/
import ControlPlane.Store.Basic

set_option autoImplicit false

namespace ControlPlane

/-- Bounds for counting: an owner, and a stretch of time. -/
structure Window where
  /-- Only what belongs to this user. -/
  userId : Option Int
  /-- Only what was created at this time or later. -/
  since : Option Instant
  /-- Only what was created before this time. -/
  until_ : Option Instant
deriving DecidableEq, Repr

/-- What happened on one day. -/
structure DailyActivity where
  /-- The day. -/
  day : Date
  /-- How many messages were created. -/
  messages : Nat
  /-- How many actions were created. -/
  actions : Nat
  /-- How many of these have succeeded. -/
  successful : Nat
deriving DecidableEq, Repr

/-- How many rows there are, by state and by status. -/
structure StoreStats where
  /-- The conversations by the name of their state. -/
  conversations : List (String × Nat)
  /-- The number of messages. -/
  messages : Nat
  /-- The actions by the name of their status. -/
  actions : List (String × Nat)
deriving DecidableEq, Repr

namespace Store

/-- What an operation answers, and the store after it. -/
abbrev Result (α : Type) := Except Fault α × Store

/-- The failure of an operation. -/
def failure {α : Type} (doing : String) (flaw : Fault.StoreFlaw) : Except Fault α :=
  .error (.store doing flaw)

/-- An answer that was read from a row. -/
def answer {α : Type} (doing : String) : Except Fault.StoreFlaw α → Except Fault α
  | .ok a => .ok a
  | .error flaw => failure doing flaw

/-- Reads a row that may not be there. -/
def answer? {ρ α : Type} (doing : String) (read : ρ → Except Fault.StoreFlaw α) :
    Option ρ → Except Fault (Option α)
  | none => .ok none
  | some r => (answer doing (read r)).map some

/-- Reads rows; the first one that cannot be read decides. -/
def readAll {ρ α : Type} (read : ρ → Except Fault.StoreFlaw α) :
    List ρ → Except Fault.StoreFlaw (List α)
  | [] => .ok []
  | r :: rest =>
    match read r with
    | .error e => .error e
    | .ok a =>
      match readAll read rest with
      | .error e => .error e
      | .ok as => .ok (a :: as)

/-- Reads a row that has to be there. -/
def present {α : Type} (entity : Fault.Entity) (id : Int) :
    Except Fault (Option α) → Except Fault α
  | .ok (some a) => .ok a
  | .ok none => .error (.missing entity id)
  | .error e => .error e

/-! ## Conversations -/

/-- Answers the conversation with a number. -/
def getConversation (s : Store) (id : Int) : Except Fault (Option Conversation) :=
  answer? "Get conversation error" ConversationRow.read (s.conversation? id)

/-- Adds a running conversation. -/
def createConversation (s : Store) (now : Instant) (title browserType : String)
    (userId : Option Int) : Result Conversation :=
  let id := s.lastConversation + 1
  let row : ConversationRow :=
    ⟨id, title, Conversation.State.running.name, browserType, userId, now.storedText,
      now.storedText⟩
  let s := { s with conversations := s.conversations ++ [row], lastConversation := id }
  (present .conversation id (s.getConversation id), s)

/-- Leaves out items from the front, and keeps no more than a number of those that
follow. Both numbers are signed words: a negative limit is none, and a negative
offset is zero. -/
def page {α : Type} (limit offset : Int) (items : List α) : List α :=
  let rest := items.drop offset.toNat
  if limit < 0 then rest else rest.take limit.toNat

/-- Answers conversations, the newest first; with a user, only that user's. -/
def listConversations (s : Store) (userId : Option Int) (limit offset : Nat) :
    Except Fault (List Conversation) :=
  let wanted := s.conversations.filter fun c => userId.isNone || c.userId == userId
  answer "List conversations error" <|
    readAll ConversationRow.read <|
      page (WordRange.wrapSigned64 limit) (WordRange.wrapSigned64 offset) wanted.reverse

/-- Changes the title of a conversation. -/
def renameConversation (s : Store) (now : Instant) (id : Int) (title : String) : Result Bool :=
  let hit (c : ConversationRow) := c.id == id
  (.ok (s.conversations.any hit),
    { s with
      conversations := modify hit
        (fun c => { c with title := title, updatedAt := now.storedText }) s.conversations })

/-- Moves a running conversation to a state in which it ends. -/
def endConversation (s : Store) (now : Instant) (id : Int) (state : Conversation.State) :
    Result Bool :=
  if state.isTerminal then
    let hit (c : ConversationRow) :=
      c.id == id && c.state == Conversation.State.running.name
    (.ok (s.conversations.any hit),
      { s with
        conversations := modify hit
          (fun c => { c with state := state.name, updatedAt := now.storedText })
          s.conversations })
  else (.error (.cannotMove id state), s)

/-! ## Messages -/

/-- Answers the message with a number. -/
def getMessage (s : Store) (id : Int) : Except Fault (Option Message) :=
  answer? "Get message error" (MessageRow.read s.messageTimeColumn) (s.message? id)

/-- Adds a message to a conversation. -/
def createMessage (s : Store) (now : Instant) (conversationId : Int) (role : Message.Role)
    (content : String) : Result Message :=
  if (s.conversation? conversationId).isSome then
    let id := s.lastMessage + 1
    let row : MessageRow := ⟨id, conversationId, role.name, content, 0, now.storedText⟩
    let s := { s with messages := s.messages ++ [row], lastMessage := id }
    (present .message id (s.getMessage id), s)
  else (failure "Insert message error" .noParent, s)

/-- Answers the messages of a conversation. -/
def listMessages (s : Store) (conversationId : Int) : Except Fault (List Message) :=
  answer "List messages error" <|
    readAll (MessageRow.read s.messageTimeColumn) (s.messagesOf conversationId)

/-- A failure counter as it is answered. -/
def counter (n : Int) : Except Fault Nat :=
  if WordRange.unsigned32.holds n then .ok n.toNat
  else failure "Get message error" (.counterRange n)

/-- Counts one more failed round of decisions for a message. -/
def recordFailure (s : Store) (messageId : Int) : Result Nat :=
  match s.message? messageId with
  | none => (.error (.missing .message messageId), s)
  | some m =>
    (counter (m.failures + 1),
      { s with
        messages := modify (·.id == messageId)
          (fun m => { m with failures := m.failures + 1 }) s.messages })

/-- Forgets the failed rounds of a message. -/
def resetFailures (s : Store) (messageId : Int) : Result Unit :=
  (.ok (),
    { s with
      messages := modify (fun m => m.id == messageId && decide (0 < m.failures))
        (fun m => { m with failures := 0 }) s.messages })

/-- Answers how many rounds of a message have failed. -/
def failures (s : Store) (messageId : Int) : Except Fault Nat :=
  match s.message? messageId with
  | none => .error (.missing .message messageId)
  | some m => counter m.failures

/-! ## Actions -/

/-- Answers the action with a number. -/
def getAction (s : Store) (id : Int) : Except Fault (Option Action) :=
  answer? "Get action error" ActionRow.read (s.action? id)

/-- Adds a pending action to a message, with the next sequence. -/
def createAction (s : Store) (now : Instant) (messageId : Int) (kind : Action.Kind)
    (parameters : Action.Parameters) : Result Action :=
  if (s.message? messageId).isSome then
    let id := s.lastAction + 1
    let row : ActionRow :=
      ⟨id, messageId, kind.name, s.lastSequence messageId + 1, Action.Status.pending.name,
        parameters, none, none, now.storedText, none, none⟩
    let s := { s with actions := s.actions ++ [row], lastAction := id }
    (present .action id (s.getAction id), s)
  else (failure "Insert action error" .noParent, s)

/-- Hands out a pending action. -/
def startAction (s : Store) (now : Instant) (id : Int) : Result Bool :=
  let hit (a : ActionRow) := a.id == id && a.status == Action.Status.pending.name
  (.ok (s.actions.any hit),
    { s with
      actions := modify hit
        (fun a => { a with
          status := Action.Status.running.name, startedAt := some now.storedText })
        s.actions })

/-- Answers the actions of a message by sequence. -/
def listActions (s : Store) (messageId : Int) : Except Fault (List Action) :=
  answer "List actions error" (readAll ActionRow.read (s.actionsOf messageId))

/-- Records how a running action went. -/
def completeAction (s : Store) (now : Instant) (id : Int) (status : Action.Status)
    (errorMessage : Option String) (executionTime : Option Int) : Result Bool :=
  if status = .success ∨ status = .failed then
    let hit (a : ActionRow) := a.id == id && a.status == Action.Status.running.name
    (.ok (s.actions.any hit),
      { s with
        actions := modify hit
          (fun a => { a with
            status := status.name, errorMessage := errorMessage,
            executionTime := executionTime, finishedAt := some now.storedText })
          s.actions })
  else (.error (.cannotComplete id status), s)

/-- A row after its action was ended from outside. -/
def forced (now : Instant) (status : Action.Status) (reason : String) (a : ActionRow) :
    ActionRow :=
  { a with
    status := status.name, errorMessage := some reason, finishedAt := some now.storedText }

/-- Ends an action that has no result. -/
def forceAction (s : Store) (now : Instant) (id : Int) (status : Action.Status)
    (reason : String) : Result Bool :=
  if status.isTerminal then
    let hit (a : ActionRow) := a.id == id && a.isOpen
    (.ok (s.actions.any hit),
      { s with actions := modify hit (forced now status reason) s.actions })
  else (.error (.cannotForce id status), s)

/-- Skips actions one after the other, and reads each of them again. -/
def skipEach (now : Instant) (reason : String) : List Int → Store → Result (List Action)
  | [], s => (.ok [], s)
  | id :: rest, s =>
    let hit (a : ActionRow) := a.id == id && a.isOpen
    let changed := s.actions.any hit
    let s := { s with actions := modify hit (forced now .skipped reason) s.actions }
    match (if changed then s.getAction id else .ok none) with
    | .error e => (.error e, s)
    | .ok found =>
      match skipEach now reason rest s with
      | (.ok skipped, s) => (.ok (found.toList ++ skipped), s)
      | (.error e, s) => (.error e, s)

/-- Skips the actions of a message that have no result. -/
def skipOpenActions (s : Store) (now : Instant) (messageId : Int) (reason : String) :
    Result (List Action) :=
  skipEach now reason (((s.actionsOf messageId).filter (·.isOpen)).map (·.id)) s

/-! ## Abandoned work -/

/-- Answers the actions without a result that were handed out, or else created,
before a time. -/
def staleActions (s : Store) (cutoff : Instant) : Except Fault (List Action) :=
  answer "Stale actions error" <|
    readAll ActionRow.read <|
      s.actions.filter fun a => a.isOpen && decide (a.clockStart < cutoff.storedText)

/-- Whether a message was created before a time and still has something to do: an
action without a result, or a running conversation in which it is the newest. -/
def isStale (s : Store) (cutoff : Instant) (m : MessageRow) : Bool :=
  decide (m.createdAt < cutoff.storedText) &&
    (s.hasOpen m.id || (s.isNewest m && s.isRunning m.conversationId))

/-- Answers the messages that were created before a time and still have something
to do. -/
def staleMessages (s : Store) (cutoff : Instant) : Except Fault (List Message) :=
  answer "Stale messages error" <|
    readAll (MessageRow.read s.messageTimeColumn) (s.messages.filter (s.isStale cutoff))

/-! ## Counting -/

/-- Counts one more of a name, in a list ordered by name. -/
def tally (name : String) : List (String × Nat) → List (String × Nat)
  | [] => [(name, 1)]
  | (n, k) :: rest =>
    if name < n then (name, 1) :: (n, k) :: rest
    else if name = n then (n, k + 1) :: rest
    else (n, k) :: tally name rest

/-- How often each name occurs. -/
def tallies (names : List String) : List (String × Nat) :=
  names.foldl (fun counts name => tally name counts) []

/-- Counts the rows. -/
def stats (s : Store) : StoreStats :=
  ⟨tallies (s.conversations.map (·.state)), s.messages.length,
    tallies (s.actions.map (·.status))⟩

/-- Whether a row that was created at some time, under an owner, lies in a
window. -/
def inWindow (w : Window) (owner : Option Int) (createdAt : String) : Bool :=
  (w.userId.isNone || owner == w.userId) &&
    (match w.since with
      | some t => decide (t.storedText ≤ createdAt)
      | none => true) &&
    (match w.until_ with
      | some t => decide (createdAt < t.storedText)
      | none => true)

/-- Whether a message counts in a window; its conversation has to be there. -/
def messageCounts (s : Store) (w : Window) (m : MessageRow) : Bool :=
  match s.conversation? m.conversationId with
  | some c => inWindow w c.userId m.createdAt
  | none => false

/-- Whether an action counts in a window; its message and conversation have to be
there. -/
def actionCounts (s : Store) (w : Window) (a : ActionRow) : Bool :=
  match s.message? a.messageId with
  | some m =>
    match s.conversation? m.conversationId with
    | some c => inWindow w c.userId a.createdAt
    | none => false
  | none => false

/-- How many messages lie in a window. -/
def countMessages (s : Store) (w : Window) : Nat :=
  (s.messages.filter (s.messageCounts w)).length

/-- How many actions lie in a window, of one status if that is given. -/
def countActions (s : Store) (w : Window) (status : Option Action.Status) : Nat :=
  (s.actions.filter fun a =>
    s.actionCounts w a &&
      (match status with
        | some st => a.status == st.name
        | none => true)).length

/-- The day in whose text a time begins. -/
def dayText (createdAt : String) : String :=
  String.ofList (createdAt.toList.take 10)

/-- Changes the entry of a day. -/
def onDay (day : Date) (f : DailyActivity → DailyActivity) :
    List DailyActivity → List DailyActivity
  | [] => []
  | a :: rest => if a.day = day then f a :: rest else a :: onDay day f rest

/-- Enters what happened on each day, given by the texts in which its times
begin. -/
def enter (set : String → Nat → DailyActivity → DailyActivity) (counts : List (String × Nat))
    (days : List DailyActivity) : List DailyActivity :=
  counts.foldl
    (fun days (text, n) =>
      match Stamp.readDate? text with
      | some day => onDay day (set text n) days
      | none => days)
    days

/-- The days from a first one on, as far as the calendar goes. -/
def daysFrom (first : Date) (days : Nat) : List Date :=
  ((List.range days).map fun (i : Nat) => Date.ofDayNumber (first.dayNumber + (i : Int))).filter
    fun d => decide (d.year ≤ Date.lastYear)

/-- The midnight after a day; on the last day of the calendar, the one before. -/
def midnightAfter (d : Date) : Instant :=
  let next := Date.ofDayNumber (d.dayNumber + 1)
  .startOfDay (if next.year ≤ Date.lastYear then d.dayNumber + 1 else d.dayNumber)

/-- What happened on each of some consecutive days. -/
def dailyActivity (s : Store) (userId : Option Int) (first : Date) (days : Nat) :
    List DailyActivity :=
  let dates := daysFrom first days
  match dates.getLast? with
  | none => []
  | some last =>
    let w : Window := ⟨userId, some (.startOfDay first.dayNumber), some (midnightAfter last)⟩
    let messages := s.messages.filter (s.messageCounts w)
    let actions := s.actions.filter (s.actionCounts w)
    let texts := actions.map fun a => dayText a.createdAt
    let successes (text : String) : Nat :=
      (actions.filter fun a =>
        a.status == Action.Status.success.name && dayText a.createdAt == text).length
    (dates.map fun d => (⟨d, 0, 0, 0⟩ : DailyActivity))
      |> enter (fun _ n a => { a with messages := n })
        (tallies (messages.map fun m => dayText m.createdAt))
      |> enter (fun text n a => { a with actions := n, successful := successes text })
        (tallies texts)

end Store

end ControlPlane
