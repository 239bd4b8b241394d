/-
Carrying out a procedure.

A procedure that runs by itself needs a store to call, a clock to look at and
somebody who decides. The world holds all three. Its clock stands still until it
is set. What the model will say is laid down beforehand, together with what others
do to the store while the model is thinking; when that is used up, a decision
fails. The world keeps a record of what was asked and how long was waited.
-/
import ControlPlane.Procedure

set_option autoImplicit false

namespace ControlPlane

/-- Something that others do while a decision is being made. -/
inductive Interruption where
  /-- They call the store. -/
  | call (c : Store.Call)
  /-- Time goes on. -/
  | clock (t : Instant)
deriving DecidableEq, Repr

/-- What happens when a decision is asked for. -/
structure Turn where
  /-- What others do before there is an answer. -/
  meanwhile : List Interruption
  /-- The answer. -/
  answer : Except Fault Decision

/-- What surrounds a procedure. -/
structure World where
  /-- The store. -/
  store : Store
  /-- The time. -/
  now : Instant
  /-- What happens when decisions are asked for. -/
  turns : List Turn
  /-- The fault of a model that has nothing more to say. -/
  silence : Fault
  /-- What has been asked, the last question first. -/
  asked : List Decision.Context
  /-- How long was waited, in milliseconds. -/
  waited : Nat

namespace World

/-- A world with a store, at a time, in which nothing has happened. Its model has
nothing to say. -/
def start (store : Store) (now : Instant) : World :=
  ⟨store, now, [], .reported .decision "model unavailable", [], 0⟩

instance : Inhabited World := ⟨start .empty default⟩

/-- Forgets what was asked and waited, and lays down what the model will say. -/
def rehearse (w : World) (turns : List Turn) : World :=
  { w with turns := turns, asked := [], waited := 0 }

/-- Calls the store. -/
def call (w : World) (c : Store.Call) : Except Fault c.Answer × World :=
  let (r, store) := w.store.perform w.now c
  (r, { w with store := store })

/-- What others do. -/
def interrupt (w : World) : Interruption → World
  | .call c => (w.call c).2
  | .clock t => { w with now := t }

/-- Asks for a decision. -/
def ask (w : World) (context : Decision.Context) : Except Fault Decision × World :=
  let w := { w with asked := context :: w.asked }
  match w.turns with
  | [] => (.error w.silence, w)
  | turn :: rest =>
    (turn.answer, turn.meanwhile.foldl interrupt { w with turns := rest })

end World

namespace Program

/-- Carries out a program. -/
def run {α : Type} : Program α → World → α × World
  | done a, w => (a, w)
  | call c next, w => (next (w.call c).1).run (w.call c).2
  | decide context next, w => (next (w.ask context).1).run (w.ask context).2
  | pause milliseconds next, w => (next ()).run { w with waited := w.waited + milliseconds }
  | clock next, w => (next w.now).run w

end Program

namespace Procedure

/-- Carries out a procedure. -/
def runIn {α : Type} (p : Procedure α) (w : World) : Except Fault α × World :=
  Program.run p.run w

end Procedure

end ControlPlane
