/-
HTTP requests and answers.

A request names a method and a target, a path that a query may follow; an answer has
a status. Both have a head and a body. The body of an answer is JSON or plain text,
and its head says which.
-/
import ControlPlane.Http.Headers
import ControlPlane.Json.Printer

set_option autoImplicit false

namespace ControlPlane

namespace Http

/-- A request. -/
structure Request where
  /-- What is to be done. -/
  method : String
  /-- With what: a path, and perhaps a query. -/
  target : String
  /-- The head. -/
  headers : Headers
  /-- The body. -/
  body : String
deriving DecidableEq, Repr

/-- An answer. -/
structure Response where
  /-- How it went. -/
  status : Nat
  /-- The head. -/
  headers : Headers
  /-- The body. -/
  body : String
deriving DecidableEq, Repr

namespace Request

/-- The path of the target. -/
def path (r : Request) : List Char :=
  r.target.toList.takeWhile fun c => c != '?' && c != '#'

/-- The query of the target. -/
def query (r : Request) : List Char :=
  ((r.target.toList.takeWhile (· != '#')).dropWhile (· != '?')).drop 1

end Request

namespace Response

/-- An answer without a body. -/
def bare (status : Nat) : Response := ⟨status, [], ""⟩

/-- An answer with a value. -/
def json (status : Nat) (v : Json) : Response :=
  ⟨status, [("content-type", "application/json")], v.text⟩

/-- An answer with a text. -/
def text (status : Nat) (s : String) : Response :=
  ⟨status, [("content-type", "text/plain; charset=utf-8")], s⟩

/-- An answer with one more value in its head. -/
def withHeader (r : Response) (name value : String) : Response :=
  { r with headers := r.headers ++ [(name, value)] }

/-- An answer without its body. -/
def withoutBody (r : Response) : Response := { r with body := "" }

end Response

end Http

end ControlPlane
