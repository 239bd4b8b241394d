/-
What commands print.

A command prints lines and may end with a complaint; what it has printed before
stays. Work on the store is done by procedures, whose faults become complaints.
-/
import ControlPlane.Procedure

set_option autoImplicit false

namespace ControlPlane

/-- Why a command fails. -/
inductive Complaint where
  /-- A fault. -/
  | fault (f : Fault)
  /-- A conversation is not there. -/
  | unknownConversation (id : Int)
  /-- A title is blank. -/
  | noTitle
  /-- The system refuses something. -/
  | system (reason : String)
  /-- The list of web sites contradicts itself. -/
  | contradictoryOrigins
deriving DecidableEq, Repr

namespace Complaint

/-- The port is taken. -/
def portTaken : Complaint := system "Address already in use (os error 98)"

/-- The address is not one of this machine. -/
def addressElsewhere : Complaint := system "Cannot assign requested address (os error 99)"

/-- The name of the host is not known. -/
def unknownHost : Complaint :=
  system "failed to lookup address information: Temporary failure in name resolution"

/-- The wording of a complaint. -/
def message : Complaint → String
  | fault f => f.message
  | unknownConversation id => "conversation " ++ Integer.text id ++ " not found"
  | noTitle => "title is required"
  | system reason => reason
  | contradictoryOrigins => "contradictory list of origins"

/-- What lies behind a complaint. Behind faults of files and of JSON there is the
report of the reader. -/
def cause? : Complaint → Option String
  | fault f => if f.kind = .io ∨ f.kind = .json then some f.detail else none
  | _ => none

/-- The report of a complaint. -/
def report (c : Complaint) : String :=
  "Error: " ++ c.message ++
    (match c.cause? with
      | some cause => "\n\nCaused by:\n    " ++ cause
      | none => "") ++ "\n"

/-- The status with which the program ends. -/
def status : Complaint → Nat
  | contradictoryOrigins => 101
  | _ => 1

end Complaint

/-- Something that prints lines and may fail. -/
abbrev Shell := ExceptT Complaint (StateT (List String) Program)

namespace Shell

/-- Prints a line. -/
def say (line : String) : Shell Unit :=
  ExceptT.mk fun printed => .done (.ok (), printed ++ [line])

/-- Prints lines. -/
def sayAll : List String → Shell Unit
  | [] => pure ()
  | line :: rest => do
    say line
    sayAll rest

/-- Fails. -/
def complain {α : Type} (c : Complaint) : Shell α :=
  ExceptT.mk fun printed => .done (.error c, printed)

/-- Does something with the store. -/
def doing {α : Type} (p : Procedure α) : Shell α :=
  ExceptT.mk fun printed =>
    p.run.bind fun
      | .ok a => .done (.ok a, printed)
      | .error f => .done (.error (.fault f), printed)

/-- The whole of what is printed, and how it ends. -/
def transcript {α : Type} (s : Shell α) (printed : List String) :
    Program (Except Complaint α × List String) :=
  StateT.run (ExceptT.run s) printed

/-! ## Columns -/

/-- A text with blanks after it up to a width. -/
def padAfter (width : Nat) (s : String) : String :=
  s ++ String.ofList (List.replicate (width - s.length) ' ')

/-- A text with blanks before it up to a width. -/
def padBefore (width : Nat) (s : String) : String :=
  String.ofList (List.replicate (width - s.length) ' ') ++ s

end Shell

end ControlPlane
