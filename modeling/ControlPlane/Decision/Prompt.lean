/-
What the model is told.

The model gets fixed instructions and a text about the task at hand: the goal, how
the last action went, the actions so far, and what the page shows.
-/
import ControlPlane.Decision.Basic

set_option autoImplicit false

namespace ControlPlane

namespace Prompt

/-- The instructions. -/
def system : String :=
  "\n".intercalate
    ["You are a browser automation agent.",
      "",
      "Given the user's goal and the current page state, choose the single next",
      "browser operation. You are not a chat assistant: never answer in prose.",
      "",
      "Allowed actions:",
      "- goto(url)",
      "- click(selector)",
      "- input(selector, value)",
      "- select(selector, value)",
      "- scroll(distance)   positive scrolls down, negative scrolls up, in pixels",
      "- wait(timeout)      milliseconds",
      "- close_browser      the goal has been reached",
      "",
      "Output exactly one JSON object and nothing else:",
      "\x7b\"action\": \"goto|click|input|select|scroll|wait|close_browser\", \"url\": \"...\", " ++
        "\"selector\": \"...\", \"value\": \"...\", \"distance\": 0, \"timeout\": 0\x7d",
      "Omit fields the action does not use. No markdown, no explanations, no extra fields.",
      "",
      "Rules:",
      "- Return one action per reply, the most sensible next step.",
      "- Only use selectors listed in the page state; never invent selectors or URLs.",
      "- If an element you need is not listed and the page has more content, scroll.",
      "- If the previous action failed, try a different approach instead of repeating it.",
      "- Do not perform destructive operations or visit sites unrelated to the goal."]

/-- A truth value as a word. -/
def word (b : Bool) : String := if b then "true" else "false"

/-- A text after a label, if there is one that is not empty. -/
def labelled (label : String) : Option String → String
  | some s => if s.isEmpty then "" else label ++ s
  | none => ""

/-- The line of an element, with its number on the page. -/
def elementLine (number : Nat) (e : Page.Element) : String :=
  Integer.text number ++ ". <" ++ e.tag ++ "> " ++ Text.trim e.text ++ " | selector=" ++
    e.selector ++ labelled " | type=" e.fieldType ++ labelled " | value=" e.value ++
    (if e.disabled then " | disabled" else "") ++ (if e.visible then "" else " | hidden") ++ "\n"

/-- The lines of elements, numbered from `number` on. -/
def elementLines (number : Nat) : List Page.Element → String
  | [] => ""
  | e :: rest => elementLine number e ++ elementLines (number + 1) rest

/-- The line about how far a page is scrolled. -/
def scrollLine (s : Page.Scroll) : String :=
  "Scroll: top=" ++ s.scrollTop.text .plain ++ " height=" ++ s.scrollHeight.text .plain ++
    " viewport=" ++ s.clientHeight.text .plain ++ " more_above=" ++ word s.hasMoreAbove ++
    " more_below=" ++ word s.hasMoreBelow ++ "\n"

/-- What a page shows. -/
def pageSection (p : Page) : String :=
  "## Page state\nURL: " ++ p.url ++ "\n" ++
    (if p.title.isEmpty then "" else "Title: " ++ p.title ++ "\n") ++
    "Interactive elements:\n" ++ elementLines 1 p.elements ++
    (match p.scroll with
      | some s => scrollLine s
      | none => "")

/-- What an action acts on. -/
def target (p : Action.Parameters) : String :=
  match p.url with
  | some url => url
  | none => p.selector.getD ""

/-- An action in one line, without blanks at its end. -/
def actionLine (a : Action) : String :=
  let p := a.parameters
  Text.trimRight <|
    a.kind.name ++ " " ++ target p ++
      (match p.value with
        | some v => " value=" ++ Text.quoted v
        | none => "") ++
      (match p.distance with
        | some d => " distance=" ++ Integer.text d
        | none => "") ++
      (match p.timeout with
        | some t => " timeout=" ++ Integer.text t ++ "ms"
        | none => "")

/-- The line of an earlier action. -/
def historyLine (a : Action) : String :=
  Integer.text a.sequence ++ ". " ++ actionLine a ++ " [" ++ a.status.name ++ "]" ++
    (match a.errorMessage with
      | some e => " error: " ++ e
      | none => "") ++ "\n"

/-- The actions so far, and an empty line after them. -/
def historySection (history : List Action) : String :=
  if history.isEmpty then ""
  else "## Actions so far\n" ++ String.join (history.map historyLine) ++ "\n"

/-- What the model is told about a task. -/
def ofTask (c : Decision.TaskContext) : String :=
  "## Goal\n" ++ c.message.content ++ "\n\n" ++ historySection c.history ++ pageSection c.page

/-- How an action went, in one line. -/
def outcomeLine (o : Decision.Outcome) : String :=
  actionLine o.action ++ ": " ++
    (if o.success then "succeeded"
      else "failed (" ++ o.error.getD "no error detail" ++ ")") ++
    (match o.executionTime with
      | some ms => " in " ++ Integer.text ms ++ " ms"
      | none => "")

/-- What the model is told after an action. -/
def ofResult (c : Decision.ResultContext) : String :=
  "## Continue the current task\nOriginal goal: " ++ c.message.content ++ "\n\n" ++
    "## Previous action\n" ++ outcomeLine c.outcome ++ "\n\n" ++ historySection c.history ++
    (match c.page with
      | some p => pageSection p
      | none => "No new page snapshot was provided; assume the page changed as expected.\n")

/-- What the model is told. -/
def ofContext : Decision.Context → String
  | .task c => ofTask c
  | .result c => ofResult c

end Prompt

end ControlPlane
