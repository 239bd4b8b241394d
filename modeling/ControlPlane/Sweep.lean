/-
Sweeps.

A sweep ends the work that clients have abandoned. Messages come first: the open
actions of a message whose time is up are skipped, and its conversation is stopped.
Then the actions whose own time is up fail. Every change depends on the row being
open still, so a result that arrives during the sweep wins.

Sweeps are made on a schedule. The loop looks at the clock now and then; when the
planned time has come, it first plans the next time and then sweeps.
-/
import ControlPlane.Procedure
import ControlPlane.Settings
import ControlPlane.Time.Schedule

set_option autoImplicit false

namespace ControlPlane

namespace Sweep

/-- Why an action fails whose time is up. -/
def actionReason : String := "execution timed out"

/-- Why an action is skipped when the time of its message is up. -/
def messageReason : String := "message execution timed out"

/-- What clients are told: the conversation and the text. -/
abbrev Notice := Int × String

/-- What a sweep did. -/
structure Report where
  /-- How many actions failed because their time was up. -/
  timedOutActions : Nat
  /-- How many actions were skipped because the time of their message was up. -/
  skippedActions : Nat
  /-- How many messages were ended. -/
  expiredMessages : Nat
  /-- The conversations that were stopped, in ascending order. -/
  erroredConversations : List Int
  /-- What clients are told. -/
  notices : List Notice
deriving DecidableEq, Repr

namespace Report

/-- The report of a sweep that did nothing. -/
def empty : Report := ⟨0, 0, 0, [], []⟩

instance : Inhabited Report := ⟨empty⟩

/-- Whether nothing was done. -/
def isEmpty (r : Report) : Bool :=
  r.timedOutActions == 0 && r.skippedActions == 0 && r.expiredMessages == 0

/-- A report as a value. -/
def toJson (r : Report) : Json :=
  .object
    [("timedOutActions", Settings.count r.timedOutActions),
      ("skippedActions", Settings.count r.skippedActions),
      ("expiredMessages", Settings.count r.expiredMessages),
      ("erroredConversations", .array (r.erroredConversations.map Json.int))]

end Report

/-- Puts a number into an ascending list that holds each number once. -/
def insertId (id : Int) : List Int → List Int
  | [] => [id]
  | x :: rest =>
    if id < x then id :: x :: rest
    else if id = x then x :: rest
    else x :: insertId id rest

/-! ## Budgets -/

/-- The longest budget that is taken at its word, in seconds: the most that a
signed 64-bit number of milliseconds holds. -/
def longestBudget : Nat := 9223372036854775

/-- The budget that counts; one that is too long counts as none. -/
def effectiveBudget (seconds : Nat) : Nat :=
  if longestBudget < seconds then 0 else seconds

/-- The first second of the calendar. -/
def calendarStart : Int := Date.dayNumber ⟨Date.firstYear, 1, 1⟩ * Instant.secondsPerDay

/-- The time before which work has to have begun to be abandoned. -/
def cutoff? (now : Instant) (seconds : Nat) : Option Instant :=
  let t := now.minusSeconds (effectiveBudget seconds)
  if t.second < calendarStart then none else some t

/-! ## One sweep -/

/-- The notice about a message whose time is up. -/
def messageNotice (m : Message) : Notice :=
  (m.conversationId, "message " ++ Integer.text m.id ++ " timed out; the conversation was stopped")

/-- The notice about an action whose time is up. -/
def actionNotice (m : Message) (a : Action) : Notice :=
  (m.conversationId,
    "action " ++ Integer.text a.id ++ " (" ++ a.kind.name ++ ") timed out without a result")

/-- Ends the work on messages, one after the other. -/
def expireMessages (report : Report) : List Message → Procedure Report
  | [] => pure report
  | m :: rest => do
    let skipped ← Procedure.call (.skipOpenActions m.id messageReason)
    let ended ← Procedure.call (.endConversation m.conversationId .error)
    if skipped.isEmpty && !ended then expireMessages report rest
    else
      expireMessages
        { report with
          expiredMessages := report.expiredMessages + 1
          skippedActions := report.skippedActions + skipped.length
          erroredConversations :=
            if ended then insertId m.conversationId report.erroredConversations
            else report.erroredConversations
          notices := report.notices ++ [messageNotice m] }
        rest

/-- Lets actions fail, one after the other. -/
def timeOutActions (report : Report) : List Action → Procedure Report
  | [] => pure report
  | a :: rest => do
    if ← Procedure.call (.forceAction a.id .failed actionReason) then
      let found ← Procedure.call (.getMessage a.messageId)
      let notice :=
        match found with
        | some m => [actionNotice m a]
        | none => []
      timeOutActions
        { report with
          timedOutActions := report.timedOutActions + 1
          notices := report.notices ++ notice }
        rest
    else timeOutActions report rest

/-- A sweep as if it were a given time. -/
def sweepAt (s : Settings.Sweeper) (now : Instant) : Procedure Report := do
  let messageCutoff ← Procedure.orFail .beyondCalendar (cutoff? now s.messageMaxDuration)
  let messages ← Procedure.call (.staleMessages messageCutoff)
  let report ← expireMessages .empty messages
  let actionCutoff ← Procedure.orFail .beyondCalendar (cutoff? now s.actionMaxDuration)
  let actions ← Procedure.call (.staleActions actionCutoff)
  timeOutActions report actions

/-- A sweep now. -/
def sweepNow (s : Settings.Sweeper) : Procedure Report := do
  sweepAt s (← Procedure.now)

/-- Reads the schedule of the sweeps. -/
def schedule (s : Settings.Sweeper) : Except Fault Schedule :=
  match Schedule.read? s.schedule with
  | some schedule => .ok schedule
  | none => .error (.badSchedule s.schedule)

/-! ## The loop -/

/-- What the loop keeps between two looks at the clock: when the next sweep is
due, if ever. -/
abbrev Plan := Option Instant

/-- The plan with which the loop starts. -/
def plan (next : Instant → Option Instant) : Procedure Plan := do
  pure (next (← Procedure.now))

/-- One look at the clock. When the planned time has come, the next one is planned
and then a sweep is made; its notices are answered, and a sweep that fails answers
none. -/
def check (next : Instant → Option Instant) (s : Settings.Sweeper) (planned : Plan) :
    Procedure (Plan × List Notice) := do
  match planned with
  | none => pure (none, [])
  | some due =>
    if (← Procedure.now).before due then pure (some due, [])
    else
      let planned ← plan next
      match ← (sweepNow s).attempt with
      | .ok report => pure (planned, report.notices)
      | .error _ => pure (planned, [])

end Sweep

end ControlPlane
