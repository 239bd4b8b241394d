/-
Media types.

The head of a request says what its body is: a type, a subtype that may end in a
suffix after a plus sign, and parameters. A body counts as JSON if the subtype or
the suffix says so.
-/
import ControlPlane.Http.Headers

set_option autoImplicit false

namespace ControlPlane

namespace Http

/-- Whether a character may stand in a name. -/
def isToken (c : Char) : Bool :=
  c.isAlphanum || "!#$%&'*+-.^_\x60|~".toList.contains c

/-- Whether a character may stand between quotes. -/
def isQuotable (c : Char) : Bool :=
  32 ≤ c.toNat && c.toNat != 127

/-- What follows the value of a parameter that stands between quotes: nothing, or
a semicolon and more. -/
def afterQuotes? : List Char → Option (List Char)
  | [] => some []
  | c :: rest =>
    if c = ';' then some rest else if c = ' ' then afterQuotes? rest else none

/-- Takes away the value of a parameter, and the semicolon after it. -/
def afterValue? (cs : List Char) : Option (List Char) :=
  match cs with
  | '"' :: rest =>
    match rest.dropWhile fun c => isQuotable c && c != '"' with
    | '"' :: after =>
      if (rest.takeWhile fun c => isQuotable c && c != '"').isEmpty then none
      else afterQuotes? after
    | _ => none
  | cs =>
    match cs.dropWhile isToken with
    | [] => some []
    | ';' :: after => if (cs.takeWhile isToken).isEmpty then none else some after
    | _ => none

/-- Whether characters are parameters; `fuel` bounds their number. -/
def areParameters : Nat → List Char → Bool
  | _, [] => true
  | 0, _ => false
  | fuel + 1, cs =>
    let cs := cs.dropWhile (· = ' ')
    match cs.dropWhile isToken with
    | '=' :: rest =>
      if (cs.takeWhile isToken).isEmpty then false
      else
        match afterValue? rest with
        | some after => areParameters fuel after
        | none => false
    | _ => false

/-- A subtype without its suffix, and the suffix: what stands before and after the
last plus sign that is not the first character. -/
def splitSuffix (subtype : List Char) : List Char × Option (List Char) :=
  let suffix := (subtype.reverse.takeWhile (· != '+')).reverse
  let rest := subtype.take (subtype.length - suffix.length - 1)
  if suffix.length < subtype.length ∧ rest ≠ [] then (rest, some suffix) else (subtype, none)

/-- Whether a media type says that a body is JSON. -/
def isJsonType (value : String) : Bool :=
  let cs := value.toList
  let type := cs.takeWhile isToken
  match cs.dropWhile isToken with
  | '/' :: rest =>
    let subtype := rest.takeWhile isToken
    let wellFormed :=
      !type.isEmpty && !subtype.isEmpty &&
        (match rest.dropWhile isToken with
          | [] => true
          | c :: parameters =>
            (c = ';' || c = ' ') && areParameters parameters.length parameters)
    let (name, suffix) := splitSuffix (subtype.map Char.toLower)
    wellFormed && type.map Char.toLower == "application".toList &&
      (name == "json".toList || suffix == some "json".toList)
  | _ => false

/-- Whether the body of a request is said to be JSON. -/
def hasJsonBody (headers : Headers) : Bool :=
  match headers.text? "content-type" with
  | some value => isJsonType value
  | none => false

end Http

end ControlPlane
