/-
Procedures.

What the program does for a frame, a request or a sweep is a procedure: a sequence
of calls to the store, decisions, pauses and looks at the clock, each depending on
the answers so far. A procedure is a value that says what it does next, and does
nothing by itself. So it can be carried out alone, broken off after any step, or
interleaved with others, and it is the same procedure in all three cases.

A fault ends a procedure, unless it is caught.
-/
import ControlPlane.Decision.Basic
import ControlPlane.Store.Call

set_option autoImplicit false

namespace ControlPlane

/-- What is to be done, step by step, until there is a result. -/
inductive Program (α : Type) where
  /-- The result is there. -/
  | done (a : α)
  /-- Calls the store. -/
  | call (c : Store.Call) (next : Except Fault c.Answer → Program α)
  /-- Asks for a decision. -/
  | decide (context : Decision.Context) (next : Except Fault Decision → Program α)
  /-- Waits for some milliseconds. -/
  | pause (milliseconds : Nat) (next : Unit → Program α)
  /-- Looks at the clock. -/
  | clock (next : Instant → Program α)

namespace Program

variable {α β : Type}

instance [Inhabited α] : Inhabited (Program α) := ⟨done default⟩

/-- Goes on with the result. -/
def bind : Program α → (α → Program β) → Program β
  | done a, f => f a
  | call c next, f => call c fun r => (next r).bind f
  | decide context next, f => decide context fun r => (next r).bind f
  | pause ms next, f => pause ms fun r => (next r).bind f
  | clock next, f => clock fun r => (next r).bind f

instance : Monad Program where
  pure := done
  bind := bind

end Program

/-- What is to be done, step by step, until there is a result or a fault. -/
abbrev Procedure := ExceptT Fault Program

namespace Procedure

/-- Calls the store. -/
def call (c : Store.Call) : Procedure c.Answer :=
  ExceptT.mk (.call c .done)

/-- Asks for a decision; a failure is answered, not raised. -/
def decide (context : Decision.Context) : Procedure (Except Fault Decision) :=
  ExceptT.mk (.decide context fun r => .done (.ok r))

/-- Waits for some milliseconds. -/
def pause (milliseconds : Nat) : Procedure Unit :=
  ExceptT.mk (.pause milliseconds fun _ => .done (.ok ()))

/-- Looks at the clock. -/
def now : Procedure Instant :=
  ExceptT.mk (.clock fun t => .done (.ok t))

/-- Raises a fault. -/
def fail {α : Type} (f : Fault) : Procedure α :=
  ExceptT.mk (.done (.error f))

/-- Does something and answers its fault instead of raising it. -/
def attempt {α : Type} (p : Procedure α) : Procedure (Except Fault α) :=
  ExceptT.mk (p.run.bind fun r => .done (.ok r))

/-- What is there, or a fault if nothing is. -/
def orFail {α : Type} (f : Fault) : Option α → Procedure α
  | some a => pure a
  | none => fail f

/-- The value of a computation that may have failed. -/
def ofExcept {α : Type} : Except Fault α → Procedure α
  | .ok a => pure a
  | .error f => fail f

end Procedure

end ControlPlane
