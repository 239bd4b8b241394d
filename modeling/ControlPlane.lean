import ControlPlane.Access
import ControlPlane.Action.Basic
import ControlPlane.Action.Form
import ControlPlane.CommandLine.Arguments
import ControlPlane.CommandLine.Command
import ControlPlane.CommandLine.Disk
import ControlPlane.CommandLine.Run
import ControlPlane.CommandLine.Shell
import ControlPlane.CommandLine.Work
import ControlPlane.Connection.Basic
import ControlPlane.Connection.Client
import ControlPlane.Connection.Hub
import ControlPlane.Connection.Registry
import ControlPlane.Conversation
import ControlPlane.Coordinator
import ControlPlane.Dashboard
import ControlPlane.Decision.Answer
import ControlPlane.Decision.Basic
import ControlPlane.Decision.Exchange
import ControlPlane.Decision.Prompt
import ControlPlane.Fault
import ControlPlane.Frame.Client
import ControlPlane.Frame.Server
import ControlPlane.Gateway.Body
import ControlPlane.Gateway.Respond
import ControlPlane.Gateway.Route
import ControlPlane.Gateway.Server
import ControlPlane.Http.Address
import ControlPlane.Http.Cors
import ControlPlane.Http.Headers
import ControlPlane.Http.Host
import ControlPlane.Http.Line
import ControlPlane.Http.MediaType
import ControlPlane.Http.Message
import ControlPlane.Http.Status
import ControlPlane.Json.Basic
import ControlPlane.Json.Decode
import ControlPlane.Json.Defect
import ControlPlane.Json.Outline
import ControlPlane.Json.Printer
import ControlPlane.Json.Reader
import ControlPlane.Main
import ControlPlane.Number.Binary
import ControlPlane.Number.Integer
import ControlPlane.Number.Shortest
import ControlPlane.Page
import ControlPlane.Procedure
import ControlPlane.Proofs.Admission
import ControlPlane.Proofs.Agreement
import ControlPlane.Proofs.Allowance
import ControlPlane.Proofs.Alone
import ControlPlane.Proofs.Answer
import ControlPlane.Proofs.Backoff
import ControlPlane.Proofs.Blank
import ControlPlane.Proofs.Boundary
import ControlPlane.Proofs.Budget
import ControlPlane.Proofs.Bytes
import ControlPlane.Proofs.Cadence
import ControlPlane.Proofs.Calendar
import ControlPlane.Proofs.Census
import ControlPlane.Proofs.Change
import ControlPlane.Proofs.Chronology
import ControlPlane.Proofs.Clearing
import ControlPlane.Proofs.Condition
import ControlPlane.Proofs.Contract
import ControlPlane.Proofs.ConversationPast
import ControlPlane.Proofs.ConversationState
import ControlPlane.Proofs.Crowd
import ControlPlane.Proofs.Daily
import ControlPlane.Proofs.DecisionReady
import ControlPlane.Proofs.DecisionRound
import ControlPlane.Proofs.Digits
import ControlPlane.Proofs.Dispatch
import ControlPlane.Proofs.Downstream
import ControlPlane.Proofs.Due
import ControlPlane.Proofs.Ending
import ControlPlane.Proofs.Entry
import ControlPlane.Proofs.Escape
import ControlPlane.Proofs.Exact
import ControlPlane.Proofs.Extraction
import ControlPlane.Proofs.Grammar
import ControlPlane.Proofs.HandlerPhases
import ControlPlane.Proofs.Handling
import ControlPlane.Proofs.History
import ControlPlane.Proofs.Holder
import ControlPlane.Proofs.Intake
import ControlPlane.Proofs.Isolation
import ControlPlane.Proofs.JsonOutline
import ControlPlane.Proofs.Keeping
import ControlPlane.Proofs.Lapse
import ControlPlane.Proofs.Layout
import ControlPlane.Proofs.Ledger
import ControlPlane.Proofs.Marking
import ControlPlane.Proofs.Members
import ControlPlane.Proofs.Numeral
import ControlPlane.Proofs.Origin
import ControlPlane.Proofs.Outline
import ControlPlane.Proofs.Overdue
import ControlPlane.Proofs.Paging
import ControlPlane.Proofs.Passage
import ControlPlane.Proofs.Patience
import ControlPlane.Proofs.Prepared
import ControlPlane.Proofs.Privacy
import ControlPlane.Proofs.Prose
import ControlPlane.Proofs.Query
import ControlPlane.Proofs.Quotation
import ControlPlane.Proofs.Readable
import ControlPlane.Proofs.Recording
import ControlPlane.Proofs.Regular
import ControlPlane.Proofs.Rejection
import ControlPlane.Proofs.RepeatedSweep
import ControlPlane.Proofs.Report
import ControlPlane.Proofs.Requesting
import ControlPlane.Proofs.Rereading
import ControlPlane.Proofs.Row
import ControlPlane.Proofs.Saving
import ControlPlane.Proofs.Scene
import ControlPlane.Proofs.Share
import ControlPlane.Proofs.Skip
import ControlPlane.Proofs.Sparing
import ControlPlane.Proofs.Spelling
import ControlPlane.Proofs.Stamp
import ControlPlane.Proofs.Stopping
import ControlPlane.Proofs.StoreLife
import ControlPlane.Proofs.Sweeping
import ControlPlane.Proofs.Table
import ControlPlane.Proofs.Tally
import ControlPlane.Proofs.Tidy
import ControlPlane.Proofs.Timeline
import ControlPlane.Proofs.Titles
import ControlPlane.Proofs.Token
import ControlPlane.Proofs.Totals
import ControlPlane.Proofs.Turn
import ControlPlane.Proofs.Upstream
import ControlPlane.Proofs.Verdict
import ControlPlane.Settings
import ControlPlane.Store.Basic
import ControlPlane.Store.Call
import ControlPlane.Store.Form
import ControlPlane.Store.Operation
import ControlPlane.Store.Row
import ControlPlane.Sweep
import ControlPlane.Sweep.Loop
import ControlPlane.Text.Blank
import ControlPlane.Text.Hidden
import ControlPlane.Text.Percent
import ControlPlane.Text.Quoted
import ControlPlane.Time.Calendar
import ControlPlane.Time.Instant
import ControlPlane.Time.Schedule
import ControlPlane.Time.Stamp
import ControlPlane.World
