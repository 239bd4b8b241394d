/-
Commands.

A command starts the gateway, makes one sweep, shows how things are, or works on
conversations. Arguments that make no command are a misuse.
-/
import ControlPlane.CommandLine.Arguments
import ControlPlane.Number.Integer

set_option autoImplicit false

namespace ControlPlane

/-- A command. -/
inductive Command where
  /-- Starts the gateway. -/
  | gateway (host : Option String) (port : Option Nat)
  /-- Makes one sweep. -/
  | sweep
  /-- Shows how things are. -/
  | status
  /-- Creates a conversation, perhaps with a first message. -/
  | create (title browser : String) (task : Option String)
  /-- Shows a conversation. -/
  | display (id : Int)
  /-- Lists conversations. -/
  | list (limit offset : Nat) (user : Option Int)
  /-- Changes the title of a conversation. -/
  | rename (id : Int) (title : String)
deriving DecidableEq, Repr

namespace Command

open CommandLine

/-- What is asked for. -/
inductive Request where
  /-- A command. -/
  | command (c : Command)
  /-- The version. -/
  | version
  /-- The usage. -/
  | help
  /-- Nothing that is understood. -/
  | misuse
deriving DecidableEq, Repr

/-- The name of the program. -/
def programName : String := "pilot"

/-- The version of the program. -/
def programVersion : String := "0.1.0"

/-- The version as the program prints it. -/
def versionLine : String := programName ++ " " ++ programVersion

/-- The usage, in lines. -/
def usage : List String :=
  ["Usage: " ++ programName ++ " [-v] COMMAND",
    "",
    "  gateway [--host HOST] [--port PORT]",
    "  sweep",
    "  status",
    "  conversation create TITLE [--browser BROWSER] [--task TASK]",
    "  conversation show ID",
    "  conversation list [--limit N] [--offset N] [--user ID]",
    "  conversation rename ID TITLE"]

/-! ## Options -/

/-- An option without a value. -/
def flag (name : String) (letter : Char) : OptionSpec := ⟨name, some letter, false⟩

/-- An option with a value. -/
def option (name : String) (letter : Option Char) : OptionSpec := ⟨name, letter, true⟩

/-- The options that every command has. -/
def everywhere : List OptionSpec := [flag "verbose" 'v', flag "help" 'h']

/-- The options before the command. -/
def front : List OptionSpec := flag "version" 'V' :: everywhere

/-- The options of the gateway. -/
def gatewayOptions : List OptionSpec := [option "port" (some 'p'), option "host" none]

/-- The options for a new conversation. -/
def createOptions : List OptionSpec := [option "browser" none, option "task" (some 't')]

/-- The options for a list of conversations. -/
def listOptions : List OptionSpec :=
  [option "limit" none, option "offset" none, option "user" none]

/-! ## Values -/

/-- A number of signed 64 bits. -/
def signed? (s : String) : Option Int := Integer.readSigned64? s.toList

/-- A number of unsigned 64 bits. -/
def unsigned? (s : String) : Option Nat :=
  ((Integer.read .unsigned64 s.toList).toOption).map Int.toNat

/-- The number of a port. -/
def port? (s : String) : Option Nat :=
  (signed? s).bind fun n => if WordRange.unsigned16.holds n then some n.toNat else none

/-- The value of an option that may be left out. -/
def given {α : Type} (a : Arguments) (name : String) (read : String → Option α) :
    Option (Option α) :=
  match a.value? name with
  | none => some none
  | some s => (read s).map some

/-! ## Commands -/

/-- Reads the arguments of one command, of which so many stand for themselves. -/
def readWith (specs : List OptionSpec) (count : Nat) (arguments : List String)
    (make : Arguments → Option Command) : Request :=
  match readAll? (specs ++ everywhere) count arguments with
  | none => .misuse
  | some a =>
    if a.has "help" then .help
    else
      match make a with
      | some c => .command c
      | none => .misuse

/-- A command that takes no arguments. -/
def alone (c : Command) (a : Arguments) : Option Command :=
  if a.plain.isEmpty then some c else none

/-- The command to start the gateway. -/
def makeGateway (a : Arguments) : Option Command := do
  let port ← given a "port" port?
  alone (.gateway (a.value? "host") port) a

/-- The command to create a conversation. -/
def makeCreate (a : Arguments) : Option Command :=
  match a.plain with
  | [title] => some (.create title ((a.value? "browser").getD "chrome") (a.value? "task"))
  | _ => none

/-- The command to show a conversation. -/
def makeDisplay (a : Arguments) : Option Command :=
  match a.plain with
  | [id] => (signed? id).map .display
  | _ => none

/-- How many conversations are listed where no number is given. -/
def standardLimit : Nat := 20

/-- The command to list conversations. -/
def makeList (a : Arguments) : Option Command := do
  let limit ← given a "limit" unsigned?
  let offset ← given a "offset" unsigned?
  let user ← given a "user" signed?
  alone (.list (limit.getD standardLimit) (offset.getD 0) user) a

/-- The command to change a title. -/
def makeRename (a : Arguments) : Option Command :=
  match a.plain with
  | [id, title] => (signed? id).map fun id => .rename id title
  | _ => none

/-- Reads a command on conversations. -/
def readConversation (arguments : List String) : Request :=
  match readFront? everywhere arguments with
  | none => .misuse
  | some (a, rest) =>
    if a.has "help" then .help
    else
      match rest with
      | "create" :: rest => readWith createOptions 1 rest makeCreate
      | "show" :: rest => readWith [] 1 rest makeDisplay
      | "list" :: rest => readWith listOptions 0 rest makeList
      | "rename" :: rest => readWith [] 2 rest makeRename
      | "help" :: _ => .help
      | _ => .misuse

/-- Reads the arguments of the program. -/
def read (arguments : List String) : Request :=
  match readFront? front arguments with
  | none => .misuse
  | some (a, rest) =>
    if a.has "help" then .help
    else if a.has "version" then .version
    else
      match rest with
      | "gateway" :: rest => readWith gatewayOptions 0 rest makeGateway
      | "sweep" :: rest => readWith [] 0 rest (alone .sweep)
      | "status" :: rest => readWith [] 0 rest (alone .status)
      | "conversation" :: rest => readConversation rest
      | "help" :: _ => .help
      | _ => .misuse

end Command

end ControlPlane
