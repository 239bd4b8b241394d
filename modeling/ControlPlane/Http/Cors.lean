/-
Which web sites may use the gateway.

A browser lets a page talk to another site only if that site agrees. The gateway
agrees with every site, unless its settings list the ones it agrees with; then it
names the site that asks, if it is on the list. An entry that cannot be the value
of a header is no entry. A list with a star in it contradicts itself and makes no
policy at all.
-/
import ControlPlane.Http.Message
import ControlPlane.Text.Blank

set_option autoImplicit false

namespace ControlPlane

namespace Http

/-- The sites that may use the gateway. -/
inductive Cors where
  /-- All sites. -/
  | everyone
  /-- The sites of a list. -/
  | only (origins : List String)
deriving DecidableEq, Repr

namespace Cors

/-- The entries of a list that can be the value of a header. -/
def usable (allowed : List String) : List String :=
  (allowed.map Text.trim).filter Headers.isAllowed

/-- The policy that the settings list. -/
def ofOrigins? (allowed : List String) : Option Cors :=
  let origins := usable allowed
  if origins.isEmpty then some everyone
  else if origins.contains "*" then none
  else some (only origins)

/-- What an answer says about the site that asks. -/
def allowOrigin (policy : Cors) (request : Request) : Headers :=
  match policy with
  | everyone => [("access-control-allow-origin", "*")]
  | only origins =>
    match request.headers.first? "origin" with
    | some origin =>
      if origins.contains origin then [("access-control-allow-origin", origin)] else []
    | none => []

/-- On what the answer depends. -/
def vary : Headers :=
  [("vary", "origin, access-control-request-method, access-control-request-headers")]

/-- The head of the answer to the question what may be asked. -/
def preflight (policy : Cors) (request : Request) : Headers :=
  policy.allowOrigin request ++ vary ++
    [("access-control-allow-methods", "*"), ("access-control-allow-headers", "*")]

/-- What is added to the head of any other answer. -/
def ordinary (policy : Cors) (request : Request) : Headers :=
  policy.allowOrigin request ++ vary ++
    (match policy with
      | everyone => [("access-control-expose-headers", "*")]
      | only _ => [])

end Cors

end Http

end ControlPlane
