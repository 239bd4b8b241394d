/-
Records out of JSON texts.

A record is read from an object whose members come in any order, or from a list
that gives the fields by position. Members nobody asks for are passed over. The
reader goes through the members in the order of the text and complains about the
first one that is wrong; only when all of them are fine does it look for fields
that are not there.

Texts are read in one of two modes. A text that streams by is judged as it comes,
so what is broken is noticed only when the reader gets there. A value that was
buffered is known to be whole, and a few things are judged differently: how a
choice between names may be written, and what is said about a list that is too
long.
-/
import ControlPlane.Json.Defect
import ControlPlane.Json.Reader

set_option autoImplicit false

namespace ControlPlane

/-- How a text is read. -/
inductive ReadMode where
  /-- As it streams by. -/
  | streaming
  /-- From a value that is there as a whole. -/
  | buffered
deriving DecidableEq, Repr

/-- A reader of values of one type. -/
abbrev Decoder (α : Type) := ReadMode → Outline → Except Defect α

namespace Decoder

/-- The complaint about a value of the wrong kind. A scalar that is itself broken
is no JSON at all; of a container only the opening is looked at. -/
def mismatch (o : Outline) (wanted : String) : Defect :=
  .here <|
    match o with
    | .broken => .malformed
    | .null => .wrongType .null wanted
    | .bool b => .wrongType (.bool b) wanted
    | .number (some n) => .wrongType (.number n) wanted
    | .number none => .malformed
    | .string (some s) => .wrongType (.text s) wanted
    | .string none => .malformed
    | .array _ _ => .wrongType .list wanted
    | .object _ _ => .wrongType .object wanted

/-! ## Scalars -/

/-- A text. -/
def text : Decoder String
  | _, .string (some s) => .ok s
  | _, o => .error (mismatch o "a string")

/-- A truth value. -/
def bool : Decoder Bool
  | _, .bool b => .ok b
  | _, o => .error (mismatch o "a boolean")

/-- A whole number of a range. -/
def integer (range : WordRange) (wanted : String) : Decoder Int
  | _, .number (some (.int n)) =>
    if range.holds n then .ok n else .error (.here (.outOfRange n wanted))
  | _, o => .error (mismatch o wanted)

/-- A whole number of a range that starts at zero. -/
def natural (range : WordRange) (wanted : String) : Decoder Nat :=
  fun mode o => (integer range wanted mode o).map Int.toNat

/-- A signed 64-bit number. -/
def signed64 : Decoder Int := integer .signed64 "i64"

/-- A number of double precision. Every whole number of 64 bits has one next to
it. -/
def double : Decoder Double
  | _, .number (some (.float x)) => .ok x
  | _, .number (some (.int n)) => .ok ((Binary.ofInt? .double n).getD default)
  | _, .number (some (.single x)) => .ok ((x.convert .double).getD default)
  | _, o => .error (mismatch o "f64")

/-- A number of single precision; `none` is a number that is too large for it.
A fraction is rounded to double precision first. -/
def single : Decoder (Option Single)
  | _, .number (some (.float x)) => .ok (x.convert .single)
  | _, .number (some (.int n)) => .ok (Binary.ofInt? .single n)
  | _, .number (some (.single x)) => .ok (some x)
  | _, o => .error (mismatch o "f32")

/-- A point in time. -/
def instant : Decoder Instant
  | _, .string (some s) =>
    match Stamp.readRelaxed s with
    | .ok i => .ok i
    | .error flaw => .error (.here (.badTime flaw))
  | _, o => .error (mismatch o "an RFC 3339 formatted date and time string")

/-- An identifier: a whole number, or its digits as a text. -/
def identifier : Decoder Int
  | _, .broken => .error (.here .malformed)
  | _, .string (some s) =>
    match Integer.readSigned64? (Text.trimChars s.toList) with
    | some n => .ok n
    | none => .error (.here (.badIdentifier s))
  | _, .number (some (.int n)) =>
    if WordRange.signed64.holds n then .ok n else .error (.here (.noForm "RawId"))
  | _, _ => .error (.here (.noForm "RawId"))

/-- A value that may be `null`. -/
def orNull {α : Type} (d : Decoder α) : Decoder (Option α)
  | _, .null => .ok none
  | mode, o => (d mode o).map some

/-- Any value at all, with room for so many containers inside one another. -/
def any (room : Nat) : Decoder Json :=
  fun _ o =>
    match o.toJson? room with
    | some v => .ok v
    | none => .error (.here .malformed)

/-! ## Lists -/

/-- Reads the items from number `index` on. -/
def items {α : Type} (d : Decoder α) (mode : ReadMode) (closed : Bool) :
    Nat → List Outline → Except Defect (List α)
  | _, [] => if closed then .ok [] else .error (.here .malformed)
  | index, o :: rest =>
    match d mode o with
    | .error e => .error (e.inside (.item index))
    | .ok a =>
      match items d mode closed (index + 1) rest with
      | .error e => .error e
      | .ok as => .ok (a :: as)

/-- A list. -/
def list {α : Type} (d : Decoder α) : Decoder (List α)
  | mode, .array os closed => items d mode closed 0 os
  | _, o => .error (mismatch o "a sequence")

/-! ## Choices between names -/

/-- The value that a name stands for. -/
def named {α : Type} (options : List (String × α)) (name : String) : Except Defect α :=
  match options.find? (·.1 == name) with
  | some (_, a) => .ok a
  | none => .error (.here (.unknownName name (options.map (·.1))))

/-- Whether a value may stand beside a name that needs none. -/
def nothing : ReadMode → Outline → Except Defect Unit
  | _, .null => .ok ()
  | .buffered, .object [] _ => .ok ()
  | _, o => .error (mismatch o "unit")

/-- A choice between names: the name as a text, or as the only member of an
object without a value. -/
def choice {α : Type} (options : List (String × α)) : Decoder α
  | _, .string (some s) => named options s
  | mode, .object [(some name, o)] closed =>
    match named options name with
    | .error e => .error e
    | .ok a =>
      match nothing mode o with
      | .error e => .error e
      | .ok () => if closed then .ok a else .error (.here .malformed)
  | .streaming, .object ((some name, o) :: _) _ =>
    match named options name with
    | .error e => .error e
    | .ok _ =>
      match nothing .streaming o with
      | .error e => .error e
      | .ok () => .error (.here .malformed)
  | .buffered, .object _ _ => .error (.here .notSingle)
  | .buffered, o => .error (mismatch o "string or map")
  | .streaming, _ => .error (.here .malformed)

end Decoder

/-! ## Records -/

/-- A field as the scan of a record sees it. -/
structure RecordField where
  /-- Its name. -/
  name : String
  /-- Whether a record without it can be read. -/
  canBeAbsent : Bool
  /-- What is wrong with a value of it, if anything. -/
  check : ReadMode → Outline → Except Defect Unit

/-- The values that are there, by name. -/
abbrev RecordValues := List (String × Outline)

/-- How a record is read: its fields in the order of their declaration, and how
it is put together from values that have passed the scan. -/
structure RecordReader (α : Type) where
  /-- The fields. -/
  fields : List RecordField
  /-- Puts the record together. -/
  build : ReadMode → RecordValues → Except Defect α

namespace RecordReader

variable {α β : Type}

/-- The record without any field. -/
def start (a : α) : RecordReader α := ⟨[], fun _ _ => .ok a⟩

/-- Adds a field; `absent` is its value in a record that does not have it. -/
def field (r : RecordReader (α → β)) (name : String) (d : Decoder α) (absent : Option α) :
    RecordReader β where
  fields := r.fields ++ [⟨name, absent.isSome, fun mode o => (d mode o).map fun _ => ()⟩]
  build mode values :=
    match r.build mode values with
    | .error e => .error e
    | .ok f =>
      match values.find? (·.1 == name) with
      | some (_, o) => (d mode o).map f
      | none =>
        match absent with
        | some a => .ok (f a)
        | none => .error (.here (.missing name))

/-- Adds a field that has to be there. -/
def required (r : RecordReader (α → β)) (name : String) (d : Decoder α) : RecordReader β :=
  r.field name d none

/-- Adds a field that has a value of its own where it is not given. -/
def defaulted (r : RecordReader (α → β)) (name : String) (d : Decoder α) (absent : α) :
    RecordReader β :=
  r.field name d (some absent)

/-- Adds a field that may be `null` or not there. -/
def optional (r : RecordReader (Option α → β)) (name : String) (d : Decoder α) :
    RecordReader β :=
  r.field name (Decoder.orNull d) (some none)

/-- Goes through the members in the order of the text. `seen` are the fields met
so far, and `passes` says what the value of another member may be. -/
def scan (fields : List RecordField) (passes : Outline → Bool) (mode : ReadMode)
    (closed : Bool) (seen : List String) :
    List (Option String × Outline) → Except Defect RecordValues
  | [] => if closed then .ok [] else .error (.here .malformed)
  | (none, _) :: _ => .error (.here .malformed)
  | (some name, o) :: rest =>
    match fields.find? (·.name == name) with
    | some f =>
      if seen.contains name then .error (.here (.duplicate name))
      else
        match f.check mode o with
        | .error e => .error (e.inside (.member name))
        | .ok () =>
          match scan fields passes mode closed (name :: seen) rest with
          | .error e => .error e
          | .ok values => .ok ((name, o) :: values)
    | none =>
      if passes o then scan fields passes mode closed seen rest
      else .error ((Defect.here .malformed).inside (.member name))

/-- The number of fields as a complaint about a list states it. -/
def elements (n : Nat) : String :=
  Integer.text n ++ (if n = 1 then " element" else " elements")

/-- Goes through a list that gives the fields by position. -/
def scanItems (record : String) (count total : Nat) (mode : ReadMode) (closed : Bool) :
    Nat → List RecordField → List Outline → Except Defect RecordValues
  | _, [], rest =>
    match mode with
    | .streaming => if rest.isEmpty && closed then .ok [] else .error (.here .malformed)
    | .buffered =>
      if rest.isEmpty then .ok []
      else .error (.here (.wrongLength total (elements count ++ " in sequence")))
  | index, f :: fs, [] =>
    if !closed then .error (.here .malformed)
    else if f.canBeAbsent then scanItems record count total mode closed (index + 1) fs []
    else .error (.here (.wrongLength index (record ++ " with " ++ elements count)))
  | index, f :: fs, o :: rest =>
    match f.check mode o with
    | .error e => .error (e.inside (.item index))
    | .ok () =>
      match scanItems record count total mode closed (index + 1) fs rest with
      | .error e => .error e
      | .ok values => .ok ((f.name, o) :: values)

/-- The reader of the members of an object alone. -/
def ofMembers (r : RecordReader α) (mode : ReadMode) (closed : Bool)
    (members : List (Option String × Outline)) : Except Defect α :=
  match scan r.fields Outline.isWhole mode closed [] members with
  | .error e => .error e
  | .ok values => r.build mode values

/-- How many containers may stand inside one another in a member of a record. -/
def memberRoom : Nat := Outline.nestingLimit - 1

/-- The reader of an object whose other members make up a second record. These
are buffered, and looked at when the first record is there. -/
def withRest (r : RecordReader (β → α)) (rest : RecordReader β) (mode : ReadMode)
    (closed : Bool) (members : List (Option String × Outline)) : Except Defect α :=
  let passes o := (Outline.toJson? memberRoom o).isSome
  match scan r.fields passes mode closed [] members with
  | .error e => .error e
  | .ok values =>
    match r.build mode values with
    | .error e => .error e
    | .ok f => (rest.ofMembers .buffered true members).map f

/-- The reader of a record from an object or a list; `record` is what complaints
call it. -/
def decoder (r : RecordReader α) (record : String) : Decoder α
  | mode, .object members closed => r.ofMembers mode closed members
  | mode, .array items closed =>
    match scanItems record r.fields.length items.length mode closed 0 r.fields items with
    | .error e => .error e
    | .ok values => r.build mode values
  | _, o => .error (Decoder.mismatch o record)

end RecordReader

/-! ## Whole texts -/

namespace Document

/-- Reads a text as a value of one type; nothing but blanks may follow it. -/
def decode {α : Type} (d : Decoder α) (doc : Document) : Except Defect α :=
  match d .streaming doc.root with
  | .error e => .error e
  | .ok a => if doc.clean then .ok a else .error (.here .malformed)

end Document

namespace Decoder

/-- Reads a text as a value of one type. -/
def ofText {α : Type} (d : Decoder α) (s : String) : Except Defect α :=
  (Document.ofText s).decode d

/-- Reads a value that is there as a whole. -/
def ofJson {α : Type} (d : Decoder α) (v : Json) : Except Defect α :=
  d .buffered (.ofJson v)

end Decoder

end ControlPlane
