/-
Who may use the gateway.

A client shows a token, in a header or in the address. The operator's token opens
a session that sees everything; the token of a user opens one that sees what
belongs to that user. Where no token is configured, everybody is the operator.

Tokens are compared without stopping at the first difference, so that the time it
takes says nothing about the token.
-/
import ControlPlane.Http.Headers
import ControlPlane.Settings
import ControlPlane.Text.Percent

set_option autoImplicit false

namespace ControlPlane

namespace Access

/-! ## Credentials -/

/-- The tokens that a request carries. -/
structure Credentials where
  /-- The one in the head of the request. -/
  bearer : Option String
  /-- The one in the address. -/
  query : Option String
deriving DecidableEq, Repr

/-- The part of an address between the question mark and the number sign. -/
def queryPart? (uri : List Char) : Option (List Char) :=
  (Text.splitOnce '?' (uri.takeWhile (· != '#'))).map (·.2)

/-- The pairs of a query whose parts an equals sign separates. -/
def pairs (query : List Char) : List (List Char × List Char) :=
  (Text.splitAtEach '&' query).filterMap (Text.splitOnce '=')

/-- The token in the query of an address: the first pair of that name counts. -/
def queryToken? (query : List Char) : Option String :=
  match (pairs query).find? fun p => p.1 == "token".toList with
  | some (_, value) => Text.decodeQuery? value
  | none => none

/-- The token in an address. -/
def uriToken? (uri : String) : Option String :=
  (queryPart? uri.toList).bind queryToken?

/-- The token in the head of a request. -/
def bearer? (headers : Headers) : Option String :=
  match headers.text? "authorization" with
  | some value =>
    (Text.stripFront "Bearer ".toList value.toList).map fun rest =>
      String.ofList (Text.trimChars rest)
  | none => none

/-- The tokens that a request carries. -/
def Credentials.ofRequest (headers : Headers) (uri : String) : Credentials :=
  ⟨bearer? headers, uriToken? uri⟩

/-! ## Sessions -/

/-- On whose behalf a request is made; nobody's is the operator's. -/
structure Session where
  /-- The user. -/
  userId : Option Int
deriving DecidableEq, Repr

/-- The operator's session. -/
def Session.operator : Session := ⟨none⟩

/-- Whether a session may see what belongs to somebody. -/
def Session.canAccess (s : Session) (owner : Option Int) : Bool :=
  match s.userId with
  | none => true
  | some id => owner == some id

/-! ## Tokens -/

/-- Whether two texts are equal, looking at every byte of them. -/
def secureEq (a b : String) : Bool :=
  let xs := a.toUTF8.toList
  let ys := b.toUTF8.toList
  if xs.length = ys.length then
    (List.zipWith (· ^^^ ·) xs ys).foldl (· ||| ·) 0 == 0
  else false

/-- The tokens that are let in. -/
structure Tokens where
  /-- The operator's. -/
  operator : Option String
  /-- Those of users. -/
  users : List Settings.UserToken
deriving DecidableEq, Repr

namespace Tokens

/-- The tokens that are let in by the settings; a blank token lets nobody in. -/
def ofSettings (operator : Option String) (users : List Settings.UserToken) : Tokens :=
  ⟨operator.filter fun t => !Text.isBlankText t,
    users.filter fun u => !Text.isBlankText u.token⟩

/-- The session that one token opens. Tokens of users come before the
operator's. -/
def session? (tokens : Tokens) (presented : String) : Option Session :=
  match tokens.users.find? fun u => secureEq presented (Text.trim u.token) with
  | some u => some ⟨some u.userId⟩
  | none =>
    match tokens.operator with
    | some expected => if secureEq presented expected then some .operator else none
    | none => none

/-- The session of a request. -/
def authenticate (tokens : Tokens) (c : Credentials) : Except Fault Session :=
  if tokens.operator.isNone && tokens.users.isEmpty then .ok .operator
  else
    match (c.bearer.toList ++ c.query.toList).findSome? tokens.session? with
    | some s => .ok s
    | none => .error .badToken

end Tokens

/-- The tokens that the gateway lets in under some settings. -/
def Tokens.ofGateway (s : Settings) : Tokens :=
  .ofSettings s.operatorToken? s.gateway.userTokens

end Access

end ControlPlane
