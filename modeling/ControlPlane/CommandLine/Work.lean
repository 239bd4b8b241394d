/-
What commands do.

Each command is something that prints, given the settings and a store to work on.
-/
import ControlPlane.CommandLine.Shell
import ControlPlane.Dashboard
import ControlPlane.Sweep

set_option autoImplicit false

namespace ControlPlane

namespace CommandLine

/-! ## Conversations -/

/-- Creates a conversation, and a message in it if there is a task. -/
def create (title browser : String) (task : Option String) : Shell Unit := do
  let c ← Shell.doing (Procedure.call (.createConversation (Text.trim title) browser none))
  Shell.say ("Conversation " ++ Integer.text c.id ++ " created (" ++ c.title ++ ")")
  match task.bind Text.nonBlank? with
  | none => pure ()
  | some text =>
    let m ← Shell.doing (Procedure.call (.createMessage c.id .user text))
    Shell.say ("Message " ++ Integer.text m.id ++ " queued: " ++ m.content)

/-- The line of an action. -/
def actionLine (a : Action) : String :=
  "  " ++ Shell.padBefore 3 (Integer.text a.sequence) ++ ". " ++
    Shell.padAfter 13 a.kind.name ++ " " ++ Shell.padAfter 8 a.status.name ++
    (match a.parameters.selector <|> a.parameters.url with
      | some target => " " ++ target
      | none => "") ++
    (match a.errorMessage with
      | some e => " (" ++ e ++ ")"
      | none => "")

/-- Shows messages with their actions. -/
def displayMessages : List Message → Shell Unit
  | [] => pure ()
  | m :: rest => do
    Shell.say ""
    Shell.say ("[" ++ m.role.name ++ "] #" ++ Integer.text m.id ++ " " ++ m.content)
    let actions ← Shell.doing (Procedure.call (.listActions m.id))
    Shell.sayAll (actions.map actionLine)
    displayMessages rest

/-- Shows a conversation. -/
def display (id : Int) : Shell Unit := do
  match ← Shell.doing (Procedure.call (.getConversation id)) with
  | none => Shell.complain (.unknownConversation id)
  | some c =>
    Shell.sayAll
      ["Conversation " ++ Integer.text c.id ++ ": " ++ c.title,
        "  state:   " ++ c.state.name,
        "  browser: " ++ c.browserType,
        "  created: " ++ c.createdAt.plainText,
        "  updated: " ++ c.updatedAt.plainText]
    displayMessages (← Shell.doing (Procedure.call (.listMessages id)))

/-- The line of a conversation in a list. -/
def conversationLine (id state updated title : String) : String :=
  Shell.padAfter 6 id ++ " " ++ Shell.padAfter 10 state ++ " " ++ Shell.padAfter 20 updated ++
    " " ++ title

/-- Lists conversations. -/
def list (limit offset : Nat) (user : Option Int) : Shell Unit := do
  let cs ← Shell.doing (Procedure.call (.listConversations user limit offset))
  if cs.isEmpty then Shell.say "No conversations."
  else
    Shell.say (conversationLine "ID" "STATE" "UPDATED" "TITLE")
    Shell.sayAll (cs.map fun c =>
      conversationLine (Integer.text c.id) c.state.name c.updatedAt.plainText c.title)

/-- Changes the title of a conversation. -/
def rename (id : Int) (rawTitle : String) : Shell Unit := do
  match Text.nonBlank? rawTitle with
  | none => Shell.complain .noTitle
  | some title =>
    if ← Shell.doing (Procedure.call (.renameConversation id title)) then
      Shell.say ("Conversation " ++ Integer.text id ++ " renamed to " ++ title)
    else Shell.complain (.unknownConversation id)

/-! ## Sweeps -/

/-- What a sweep did, in lines. -/
def reportLines (r : Sweep.Report) : List String :=
  if r.isEmpty then ["Nothing to sweep."]
  else
    ["Timed out actions:     " ++ Integer.text r.timedOutActions,
      "Skipped actions:       " ++ Integer.text r.skippedActions,
      "Expired messages:      " ++ Integer.text r.expiredMessages] ++
    (if r.erroredConversations.isEmpty then []
      else
        ["Errored conversations: " ++
          ", ".intercalate (r.erroredConversations.map Integer.text)])

/-- Makes one sweep, and says when the next one is due. -/
def sweep (s : Settings.Sweeper) : Shell Unit := do
  let schedule ← Shell.doing (Procedure.ofExcept (Sweep.schedule s))
  let report ← Shell.doing (Sweep.sweepNow s)
  Shell.sayAll (reportLines report)
  match schedule.next? (← Shell.doing Procedure.now) with
  | some next => Shell.sayAll ["", "Next scheduled sweep: " ++ next.plainText ++ " UTC"]
  | none => pure ()

/-! ## How things are -/

/-- The lines before anything is read. -/
def statusHead (configPath : String) (configThere : Bool) : List String :=
  ["pilot status", "============", "",
    "Config:    " ++ configPath ++ " " ++ (if configThere then "✓" else "✗ (using defaults)")]

/-- The lines about the settings. -/
def settingsLines (s : Settings) (storePath : String) (storeThere : Bool) : List String :=
  ["Database:  " ++ storePath ++ " " ++ (if storeThere then "✓" else "✗ (not created yet)"),
    "",
    "Gateway:   " ++ s.gateway.host ++ ":" ++ Integer.text s.gateway.port,
    "Auth:      " ++
      (if s.operatorToken?.isSome then "bearer token" else "⚠ open (no apiToken)"),
    "Decision:  " ++ s.decision.model ++ " via " ++ s.decision.apiBase ++ " " ++
      (if Text.isBlankText s.decision.apiKey then "✗ no key" else "✓"),
    "Sweeper:   " ++ (if s.sweeper.enabled then "enabled" else "disabled") ++
      " (schedule \"" ++ s.sweeper.schedule ++ "\", action " ++
      Integer.text s.sweeper.actionMaxDuration ++ "s, message " ++
      Integer.text s.sweeper.messageMaxDuration ++ "s)"]

/-- Shows how many rows there are. -/
def records : Shell Unit := do
  let stats ← Shell.doing (Procedure.call .stats)
  Shell.sayAll ["", "Records:", (Dashboard.statsJson stats).prettyText]

end CommandLine

end ControlPlane
