/-
The coordinator.

The coordinator answers the frames of a conversation. A task frame starts, or
starts over, the work on a message; a result frame records how an action went.
Both end in a decision, and the decision in the next action or in the end of the
conversation. Of a message at most one action is under way: the next one is
decided on when there is a result for the last.

A decision that fails is asked for again a few times, with growing pauses. When a
whole round has failed, the failure is counted with the message; a message with
too many failed rounds in a row stops its conversation. A pause that cannot be
counted breaks off the round and the answer with it.
-/
import ControlPlane.Procedure
import ControlPlane.Frame.Client
import ControlPlane.Frame.Server
import ControlPlane.Settings

set_option autoImplicit false

namespace ControlPlane

namespace Coordinator

/-- Why an action is skipped when the work on its message starts over. -/
def supersededReason : String := "superseded by a new task"

/-- Why an action failed for which the browser gives no reason. -/
def unknownReason : String := "action failed"

/-! ## Guards -/

/-- The conversation with a number, which has to be running. -/
def runningConversation (id : Int) : Procedure Conversation := do
  let found ← Procedure.call (.getConversation id)
  let conversation ← Procedure.orFail (.missing .conversation id) found
  if conversation.state.isTerminal then Procedure.fail (.ended id conversation.state)
  else pure conversation

/-- The message that a task frame is about: the one with its number, which has to
belong to the conversation, or else a new one with the text of the task. -/
def resolveMessage (conversation : Conversation) (frame : TaskFrame) : Procedure Message := do
  match ← Procedure.call (.getMessage frame.messageId) with
  | some message =>
    if message.conversationId = conversation.id then pure message
    else Procedure.fail (.foreign .message frame.messageId conversation.id)
  | none =>
    match frame.task.bind Text.nonBlank? with
    | some text => Procedure.call (.createMessage conversation.id .user text)
    | none => Procedure.fail (.missing .message frame.messageId)

/-! ## Deciding -/

/-- The pause before the repetition number `n`, in milliseconds: it doubles from
one repetition to the next, four times at most. -/
def retryPause (base n : Nat) : Nat := base * Integer.twoTo (min (n - 1) 4)

/-- Waits before the repetition number `n`. The pause is a 64-bit word; where the
product does not fit one, nothing is waited for and the work is broken off. -/
def waitBefore (base n : Nat) : Procedure Unit :=
  if WordRange.unsigned64.holds (retryPause base n) then Procedure.pause (retryPause base n)
  else Procedure.fail .overflow

/-- One call for a decision; a decision without what it needs is a failure. -/
def decideOnce (context : Decision.Context) : Procedure (Except Fault Decision) := do
  match ← Procedure.decide context with
  | .error e => pure (.error e)
  | .ok decision =>
    match decision.check with
    | .error e => pure (.error e)
    | .ok () => pure (.ok decision)

/-- Call number `n` for a decision, counted from zero, after the pause before it;
`otherwise` follows a call that failed. -/
def decideOr (base : Nat) (messageId : Int) (context : Decision.Context) (n : Nat)
    (otherwise : Fault → Procedure (Except Fault Decision)) :
    Procedure (Except Fault Decision) := do
  if 0 < n then waitBefore base n
  match ← decideOnce context with
  | .error e => otherwise e
  | .ok decision =>
    match ← (Procedure.call (.resetFailures messageId)).attempt with
    | .ok () => pure (.ok decision)
    | .error e => pure (.error e)

/-- Calls for a decision until there is one, beginning with call number `n`; after
it, `left` more may follow. -/
def decideFrom (base : Nat) (messageId : Int) (context : Decision.Context) (n : Nat) :
    Nat → Procedure (Except Fault Decision)
  | 0 => decideOr base messageId context n fun e => pure (.error e)
  | left + 1 =>
    decideOr base messageId context n fun _ => decideFrom base messageId context (n + 1) left

/-- A round of calls for a decision. -/
def decideRound (s : Settings.Decision) (messageId : Int) (context : Decision.Context) :
    Procedure (Except Fault Decision) :=
  decideFrom s.retryDelay messageId context 0 s.maxRetries

/-- What follows a round in which every call failed. -/
def decisionFailed (s : Settings.Decision) (conversation : Conversation) (messageId : Int)
    (e : Fault) : Procedure ServerFrame := do
  let failures ← Procedure.call (.recordFailure messageId)
  if failures < s.maxConsecutiveFailures then
    pure (.error ("failed to decide the next action: " ++ e.message))
  else
    let _ ← Procedure.call (.endConversation conversation.id .error)
    pure (.finish ("Stopped after " ++ Integer.text failures ++
      " failed attempts to decide the next action: " ++ e.message))

/-- Carries out a decision: the action is stored, handed out and sent, or the
conversation ends. -/
def apply (conversation : Conversation) (message : Message) :
    Decision → Procedure ServerFrame
  | .act kind parameters => do
    let created ← Procedure.call (.createAction message.id kind parameters)
    if ← Procedure.call (.startAction created.id) then
      let found ← Procedure.call (.getAction created.id)
      let action ← Procedure.orFail (.missing .action created.id) found
      pure (.ofAction action)
    else Procedure.fail (.leftPending created.id)
  | .finished summary => do
    let _ ← Procedure.call (.endConversation conversation.id .finished)
    pure (.finish summary)

/-- Decides what follows and carries it out. -/
def proceed (s : Settings.Decision) (conversation : Conversation) (message : Message)
    (context : Decision.Context) : Procedure ServerFrame := do
  match ← decideRound s message.id context with
  | .ok decision => apply conversation message decision
  | .error e => decisionFailed s conversation message.id e

/-! ## Frames -/

/-- Starts, or starts over, the work on a message. -/
def handleTask (s : Settings.Decision) (conversationId : Int) (frame : TaskFrame) :
    Procedure ServerFrame := do
  let conversation ← runningConversation conversationId
  let message ← resolveMessage conversation frame
  if frame.page.isEmpty then Procedure.fail .emptyPage
  else
    let _ ← Procedure.call (.skipOpenActions message.id supersededReason)
    let history ← Procedure.call (.listActions message.id)
    proceed s conversation message (.task ⟨message, frame.page, history⟩)

/-- The status with which an action ends, and why it did not succeed. -/
def verdict (frame : ResultFrame) : Action.Status × Option String :=
  if frame.success then (.success, none)
  else
    (.failed, some ((frame.error.filter fun e => !Text.isBlankText e).getD unknownReason))

/-- The action that a result frame is about and its message, which has to belong to
the conversation. -/
def resolveAction (conversationId : Int) (frame : ResultFrame) :
    Procedure (Action × Message) := do
  let found ← Procedure.call (.getAction frame.actionId)
  let action ← Procedure.orFail (.missing .action frame.actionId) found
  let owner ← Procedure.call (.getMessage action.messageId)
  let message ← Procedure.orFail (.missing .message action.messageId) owner
  if message.conversationId = conversationId then pure (action, message)
  else Procedure.fail (.foreign .action action.id conversationId)

/-- What follows a result that was recorded. -/
def afterResult (s : Settings.Decision) (conversation : Conversation) (message : Message)
    (action : Action) (frame : ResultFrame) : Procedure ServerFrame := do
  let completed ← Procedure.call (.getAction action.id)
  let history ← Procedure.call (.listActions message.id)
  let outcome : Decision.Outcome :=
    ⟨completed.getD action, frame.success, (verdict frame).2, frame.executionTime⟩
  proceed s conversation message (.result ⟨message, outcome, frame.page, history⟩)

/-- Records how an action went, and answers what follows. A result that finds its
action not running changes nothing and is answered with nothing. -/
def handleResult (s : Settings.Decision) (conversationId : Int) (frame : ResultFrame) :
    Procedure (Option ServerFrame) := do
  let (action, message) ← resolveAction conversationId frame
  let (status, error) := verdict frame
  if ← Procedure.call (.completeAction action.id status error frame.executionTime) then
    match ← (runningConversation conversationId).attempt with
    | .ok conversation => some <$> afterResult s conversation message action frame
    | .error e =>
      if e.kind = .conflict then pure (some (.finish e.detail)) else Procedure.fail e
  else pure none

/-- The answer to a frame, if there is one; a fault is raised. -/
def answer (s : Settings.Decision) (conversationId : Int) :
    ClientFrame → Procedure (Option ServerFrame)
  | .task frame => some <$> handleTask s conversationId frame
  | .result frame => handleResult s conversationId frame

/-- The frame that reports a fault. Work that is broken off reports nothing. -/
def reportOf : Fault → Option ServerFrame
  | .overflow => none
  | e => some (.error e.message)

/-- The answer to a frame, if there is one; a fault is answered with an error
frame. -/
def handle (s : Settings.Decision) (conversationId : Int) (frame : ClientFrame) :
    Program (Option ServerFrame) :=
  (answer s conversationId frame).run.bind fun
    | .ok reply => .done reply
    | .error e => .done (reportOf e)

end Coordinator

end ControlPlane
