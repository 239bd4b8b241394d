/-
Calls to the store.

A call is a request for one operation; carrying it out is one indivisible step.
Whoever works with the store does so by calls alone, so that the work of several
parties can be interleaved between any two of them.
-/
import ControlPlane.Store.Operation

set_option autoImplicit false

namespace ControlPlane

namespace Store

/-- A request for one operation. -/
inductive Call where
  /-- Adds a running conversation. -/
  | createConversation (title browserType : String) (userId : Option Int)
  /-- Answers a conversation. -/
  | getConversation (id : Int)
  /-- Answers a page of conversations. -/
  | listConversations (userId : Option Int) (limit offset : Nat)
  /-- Changes a title. -/
  | renameConversation (id : Int) (title : String)
  /-- Ends a running conversation. -/
  | endConversation (id : Int) (state : Conversation.State)
  /-- Adds a message. -/
  | createMessage (conversationId : Int) (role : Message.Role) (content : String)
  /-- Answers a message. -/
  | getMessage (id : Int)
  /-- Answers the messages of a conversation. -/
  | listMessages (conversationId : Int)
  /-- Counts one more failed round of decisions. -/
  | recordFailure (messageId : Int)
  /-- Forgets the failed rounds. -/
  | resetFailures (messageId : Int)
  /-- Answers the number of failed rounds. -/
  | failures (messageId : Int)
  /-- Adds a pending action. -/
  | createAction (messageId : Int) (kind : Action.Kind) (parameters : Action.Parameters)
  /-- Hands out a pending action. -/
  | startAction (id : Int)
  /-- Answers an action. -/
  | getAction (id : Int)
  /-- Answers the actions of a message. -/
  | listActions (messageId : Int)
  /-- Records how a running action went. -/
  | completeAction (id : Int) (status : Action.Status) (errorMessage : Option String)
      (executionTime : Option Int)
  /-- Ends an action that has no result. -/
  | forceAction (id : Int) (status : Action.Status) (reason : String)
  /-- Skips the actions of a message that have no result. -/
  | skipOpenActions (messageId : Int) (reason : String)
  /-- Answers actions whose time is up. -/
  | staleActions (cutoff : Instant)
  /-- Answers messages whose time is up. -/
  | staleMessages (cutoff : Instant)
  /-- Counts the rows. -/
  | stats
  /-- Counts messages. -/
  | countMessages (window : Window)
  /-- Counts actions. -/
  | countActions (window : Window) (status : Option Action.Status)
  /-- Answers what happened on some days. -/
  | dailyActivity (userId : Option Int) (first : Date) (days : Nat)
deriving DecidableEq, Repr

/-- What a call answers. -/
abbrev Call.Answer : Call → Type
  | createConversation _ _ _ => Conversation
  | getConversation _ => Option Conversation
  | listConversations _ _ _ => List Conversation
  | renameConversation _ _ => Bool
  | endConversation _ _ => Bool
  | createMessage _ _ _ => Message
  | getMessage _ => Option Message
  | listMessages _ => List Message
  | recordFailure _ => Nat
  | resetFailures _ => Unit
  | failures _ => Nat
  | createAction _ _ _ => Action
  | startAction _ => Bool
  | getAction _ => Option Action
  | listActions _ => List Action
  | completeAction _ _ _ _ => Bool
  | forceAction _ _ _ => Bool
  | skipOpenActions _ _ => List Action
  | staleActions _ => List Action
  | staleMessages _ => List Message
  | stats => StoreStats
  | countMessages _ => Nat
  | countActions _ _ => Nat
  | dailyActivity _ _ _ => List DailyActivity

/-- Carries out a call at a time. -/
def perform (s : Store) (now : Instant) : (c : Call) → Result c.Answer
  | .createConversation title browserType userId =>
    s.createConversation now title browserType userId
  | .getConversation id => (s.getConversation id, s)
  | .listConversations userId limit offset => (s.listConversations userId limit offset, s)
  | .renameConversation id title => s.renameConversation now id title
  | .endConversation id state => s.endConversation now id state
  | .createMessage conversationId role content =>
    s.createMessage now conversationId role content
  | .getMessage id => (s.getMessage id, s)
  | .listMessages conversationId => (s.listMessages conversationId, s)
  | .recordFailure messageId => s.recordFailure messageId
  | .resetFailures messageId => s.resetFailures messageId
  | .failures messageId => (s.failures messageId, s)
  | .createAction messageId kind parameters => s.createAction now messageId kind parameters
  | .startAction id => s.startAction now id
  | .getAction id => (s.getAction id, s)
  | .listActions messageId => (s.listActions messageId, s)
  | .completeAction id status errorMessage executionTime =>
    s.completeAction now id status errorMessage executionTime
  | .forceAction id status reason => s.forceAction now id status reason
  | .skipOpenActions messageId reason => s.skipOpenActions now messageId reason
  | .staleActions cutoff => (s.staleActions cutoff, s)
  | .staleMessages cutoff => (s.staleMessages cutoff, s)
  | .stats => (.ok s.stats, s)
  | .countMessages window => (.ok (s.countMessages window), s)
  | .countActions window status => (.ok (s.countActions window status), s)
  | .dailyActivity userId first days => (.ok (s.dailyActivity userId first days), s)

end Store

end ControlPlane
