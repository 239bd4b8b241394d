/-
Decisions.

A decision says what the browser of a conversation should do next, or that the
task is done. It is made from what is known about a message: its text, the actions
so far, the page, and how the last action went.
-/
import ControlPlane.Fault
import ControlPlane.Page

set_option autoImplicit false

namespace ControlPlane

/-- What is to be done next. -/
inductive Decision where
  /-- An action. -/
  | act (kind : Action.Kind) (parameters : Action.Parameters)
  /-- Nothing: the task is done. -/
  | finished (summary : String)
deriving DecidableEq, Repr

namespace Decision

/-- Checks that an action has what it needs. -/
def check : Decision → Except Fault Unit
  | act kind parameters => parameters.check kind
  | finished _ => .ok ()

/-- What the first decision on a task is made from. -/
structure TaskContext where
  /-- The message. -/
  message : Message
  /-- What the browser shows. -/
  page : Page
  /-- The earlier actions of the message. -/
  history : List Action
deriving DecidableEq, Repr

/-- How an action went. -/
structure Outcome where
  /-- The action. -/
  action : Action
  /-- Whether it was carried out. -/
  success : Bool
  /-- Why not. -/
  error : Option String
  /-- How long it took, in milliseconds. -/
  executionTime : Option Int
deriving DecidableEq, Repr

/-- What the decision after an action is made from. -/
structure ResultContext where
  /-- The message. -/
  message : Message
  /-- How the action went. -/
  outcome : Outcome
  /-- What the browser shows now, if it says so. -/
  page : Option Page
  /-- All actions of the message. -/
  history : List Action
deriving DecidableEq, Repr

/-- What a decision is made from. -/
inductive Context where
  /-- For a task. -/
  | task (c : TaskContext)
  /-- After an action. -/
  | result (c : ResultContext)
deriving DecidableEq, Repr

end Decision

end ControlPlane
