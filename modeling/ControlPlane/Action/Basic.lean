/-
Actions.

An action is one operation that the browser of a conversation is asked to carry
out. It is created pending, becomes running when it is handed out, and ends as a
success, a failure or skipped. What it needs to know depends on its kind.
-/
import ControlPlane.Text.Blank
import ControlPlane.Time.Instant

set_option autoImplicit false

namespace ControlPlane

namespace Action

/-- What the browser is asked to do. -/
inductive Kind where
  /-- Open an address. -/
  | goto
  /-- Click an element. -/
  | click
  /-- Type a text into an element. -/
  | input
  /-- Choose an option of an element. -/
  | select
  /-- Scroll by some distance. -/
  | scroll
  /-- Wait for some time. -/
  | wait
deriving DecidableEq, Repr

namespace Kind

/-- All kinds. -/
def all : List Kind := [goto, click, input, select, scroll, wait]

/-- The name of a kind. -/
def name : Kind → String
  | goto => "goto"
  | click => "click"
  | input => "input"
  | select => "select"
  | scroll => "scroll"
  | wait => "wait"

/-- The kind of a name. -/
def ofName? (s : String) : Option Kind := all.find? (·.name == s)

end Kind

/-- How far an action has come. -/
inductive Status where
  /-- Not handed out yet. -/
  | pending
  /-- Handed out. -/
  | running
  /-- Carried out. -/
  | success
  /-- Not carried out. -/
  | failed
  /-- Given up before there was a result. -/
  | skipped
deriving DecidableEq, Repr

namespace Status

/-- All statuses. -/
def all : List Status := [pending, running, success, failed, skipped]

/-- The name of a status. -/
def name : Status → String
  | pending => "pending"
  | running => "running"
  | success => "success"
  | failed => "failed"
  | skipped => "skipped"

/-- The status of a name. -/
def ofName? (s : String) : Option Status := all.find? (·.name == s)

/-- Whether nothing can follow. -/
def isTerminal : Status → Bool
  | pending => false
  | running => false
  | _ => true

end Status

/-- What the browser needs to know. -/
structure Parameters where
  /-- An address. -/
  url : Option String
  /-- A description of an element. -/
  selector : Option String
  /-- A text. -/
  value : Option String
  /-- A distance in pixels. -/
  distance : Option Int
  /-- A time in milliseconds. -/
  timeout : Option Int
deriving DecidableEq, Repr

namespace Parameters

/-- No parameter at all. -/
def none : Parameters := ⟨.none, .none, .none, .none, .none⟩

instance : Inhabited Parameters := ⟨none⟩

/-- Whether a text is there and not blank. -/
def isPresent : Option String → Bool
  | some s => !Text.isBlankText s
  | .none => false

/-- The first parameter that an action of a kind lacks. -/
def missing? (p : Parameters) : Kind → Option String
  | .goto => if isPresent p.url then .none else some "url"
  | .click => if isPresent p.selector then .none else some "selector"
  | .input =>
    if !isPresent p.selector then some "selector"
    else if p.value.isNone then some "value" else .none
  | .select =>
    if !isPresent p.selector then some "selector"
    else if p.value.isNone then some "value" else .none
  | .scroll => if p.distance.isNone then some "distance" else .none
  | .wait => if p.timeout.isNone then some "timeout" else .none

end Parameters

end Action

/-- An action as the store answers it. -/
structure Action where
  /-- Its number. -/
  id : Int
  /-- The message it serves. -/
  messageId : Int
  /-- What is to be done. -/
  kind : Action.Kind
  /-- Its place among the actions of the message, from 1. -/
  sequence : Int
  /-- How far it has come. -/
  status : Action.Status
  /-- What the browser needs to know. -/
  parameters : Action.Parameters
  /-- Why it did not succeed. -/
  errorMessage : Option String
  /-- How long the browser took, in milliseconds. -/
  executionTime : Option Int
  /-- When it was created. -/
  createdAt : Instant
  /-- When it was handed out. -/
  startedAt : Option Instant
  /-- When it ended. -/
  finishedAt : Option Instant
deriving DecidableEq, Repr

end ControlPlane
