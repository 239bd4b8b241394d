/-
Arguments.

An argument is an option, the value of one, or stands for itself. An option has a
long name after two dashes or a letter after one; letters can share a dash. The
value of an option follows an equals sign or is the next argument, which must not
look like an option. After two dashes alone all arguments stand for themselves. No
option is given twice.
-/
import ControlPlane.Text.Blank

set_option autoImplicit false

namespace ControlPlane

namespace CommandLine

/-- An option. -/
structure OptionSpec where
  /-- Its long name. -/
  name : String
  /-- Its letter. -/
  letter : Option Char
  /-- Whether it has a value. -/
  hasValue : Bool
deriving DecidableEq, Repr

/-- Arguments as they are understood. -/
structure Arguments where
  /-- The arguments that stand for themselves. -/
  plain : List String
  /-- The options by long name, with their values; an option without one has an
  empty value. -/
  options : List (String × String)
deriving DecidableEq, Repr

namespace Arguments

/-- No arguments. -/
def none : Arguments := ⟨[], []⟩

/-- The value of an option. -/
def value? (a : Arguments) (name : String) : Option String :=
  (a.options.find? (·.1 == name)).map (·.2)

/-- Whether an option is given. -/
def has (a : Arguments) (name : String) : Bool := (a.value? name).isSome

/-- Adds an argument that stands for itself. -/
def addPlain (a : Arguments) (s : String) : Arguments := { a with plain := a.plain ++ [s] }

/-- Adds an option that is not there yet. -/
def addOption? (a : Arguments) (name value : String) : Option Arguments :=
  if a.has name then .none else some { a with options := a.options ++ [(name, value)] }

end Arguments

/-- What an argument looks like. -/
inductive Shape where
  /-- The mark after which all arguments stand for themselves. -/
  | mark
  /-- A long name, and perhaps a value after an equals sign. -/
  | long (name : String) (value : Option String)
  /-- Letters, and perhaps a value among them. -/
  | short (letters : List Char)
  /-- It stands for itself. -/
  | plain
deriving DecidableEq, Repr

/-- The look of an argument. A single dash stands for itself. -/
def Shape.of (argument : String) : Shape :=
  match argument.toList with
  | ['-', '-'] => mark
  | '-' :: '-' :: rest =>
    match Text.splitOnce '=' rest with
    | some (name, value) => long (String.ofList name) (some (String.ofList value))
    | none => long (String.ofList rest) none
  | '-' :: c :: rest => short (c :: rest)
  | _ => plain

/-- What some letters say: options without a value, and perhaps one with a value at
the end, which has it among the letters or waits for it. -/
inductive Letters where
  /-- All options are complete. -/
  | complete (a : Arguments)
  /-- The value of an option is the next argument. -/
  | awaiting (name : String) (a : Arguments)
  /-- The letters cannot be understood. -/
  | unknown

/-- Reads letters. -/
def readLetters (specs : List OptionSpec) (a : Arguments) : List Char → Letters
  | [] => .complete a
  | c :: rest =>
    match specs.find? (·.letter == some c) with
    | none => .unknown
    | some spec =>
      if spec.hasValue then
        match rest with
        | [] => .awaiting spec.name a
        | '=' :: value =>
          match a.addOption? spec.name (String.ofList value) with
          | some a => .complete a
          | none => .unknown
        | value =>
          match a.addOption? spec.name (String.ofList value) with
          | some a => .complete a
          | none => .unknown
      else
        match a.addOption? spec.name "" with
        | some a => readLetters specs a rest
        | none => .unknown

/-- Whether an argument can be the value of an option. -/
def canBeValue (argument : String) : Bool := Shape.of argument == .plain

/-- Reads an option with a long name: the arguments after it, and whether its value
is the next one. -/
def readLong? (specs : List OptionSpec) (a : Arguments) (name : String)
    (value : Option String) : Option Letters :=
  match specs.find? (·.name == name), value with
  | some spec, some v => if spec.hasValue then (a.addOption? name v).map .complete else none
  | some spec, none =>
    if spec.hasValue then some (.awaiting name a) else (a.addOption? name "").map .complete
  | none, _ => none

/-- What options have been read, as letters say it. -/
def readShape? (specs : List OptionSpec) (a : Arguments) : Shape → Option Letters
  | .long name value => readLong? specs a name value
  | .short letters => some (readLetters specs a letters)
  | _ => none

/-- How many arguments can stand for themselves. -/
inductive Room where
  /-- None: the first one ends the reading. -/
  | front
  /-- So many and no more. -/
  | plain (count : Nat)
deriving DecidableEq, Repr

/-- Whether some arguments are enough: a question about the program itself is
answered without reading on. -/
def Arguments.areEnough (a : Arguments) : Bool := a.has "help" || a.has "version"

/-- Reads arguments. `awaiting` is an option whose value is the next argument. What
is left is answered. -/
def scan? (specs : List OptionSpec) (room : Room) (awaiting : Option String)
    (a : Arguments) : List String → Option (Arguments × List String)
  | [] => if awaiting.isSome then none else some (a, [])
  | argument :: rest =>
    match awaiting with
    | some name =>
      if canBeValue argument then
        (a.addOption? name argument).bind fun a => scan? specs room none a rest
      else none
    | none =>
      match Shape.of argument, room with
      | .mark, .front => none
      | .mark, .plain count =>
        if a.plain.length + rest.length ≤ count then
          some ({ a with plain := a.plain ++ rest }, [])
        else none
      | .plain, .front => some (a, argument :: rest)
      | .plain, .plain count =>
        if a.plain.length < count then scan? specs room none (a.addPlain argument) rest
        else none
      | shape, _ =>
        match readShape? specs a shape with
        | some (.complete a) =>
          if a.areEnough then some (a, rest) else scan? specs room none a rest
        | some (.awaiting name a) => scan? specs room (some name) a rest
        | _ => none

/-- Reads all arguments, of which so many can stand for themselves. -/
def readAll? (specs : List OptionSpec) (count : Nat) (arguments : List String) :
    Option Arguments :=
  (scan? specs (.plain count) none .none arguments).map (·.1)

/-- Reads options up to the first argument that stands for itself; this one and what
follows it are answered. -/
def readFront? (specs : List OptionSpec) (arguments : List String) :
    Option (Arguments × List String) :=
  scan? specs .front none .none arguments

end CommandLine

end ControlPlane
