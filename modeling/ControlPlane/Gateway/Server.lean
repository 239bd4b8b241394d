/-
The running gateway.

The gateway answers requests, serves the connections of browsers, and sweeps. Its
sweeper looks at the clock when the gateway starts and every half minute from then
on; what clients are told about a sweep goes to the connection that holds the
conversation, if there is one. When the gateway stops, all connections are closed.

How long the gateway has been running is kept in milliseconds. The clock on the
wall goes its own way.
-/
import ControlPlane.Connection.Hub
import ControlPlane.Coordinator
import ControlPlane.Gateway.Respond
import ControlPlane.Sweep.Loop

set_option autoImplicit false

namespace ControlPlane

namespace Gateway

/-- A running gateway. -/
structure Server where
  /-- Its settings. -/
  settings : Settings
  /-- The sites that may use it. -/
  policy : Http.Cors
  /-- The loop of its sweeps. -/
  sweeper : Sweep.Loop
  /-- Its connections, and the world around it. -/
  hub : Hub World
  /-- How long it has been running. -/
  uptime : Nat

namespace Server

/-- The time between two looks of the sweeper at the clock. -/
def checkPeriod : Nat := 30000

/-- How the connections are served: the coordinator answers the frames. -/
def service (s : Server) : Service World where
  timings := .ofSettings s.settings.connection
  handler conversationId frame w :=
    let (reply, w) := (Coordinator.handle s.settings.decision conversationId frame).run w
    ((0, reply), w)

/-- The world around a gateway. -/
def world (s : Server) : World := s.hub.surroundings

/-- A gateway with another world around it. -/
def withWorld (s : Server) (w : World) : Server :=
  { s with hub := { s.hub with surroundings := w } }

/-- Lets everything happen that is due. -/
def settle (s : Server) : Server :=
  { s with hub := s.hub.settle s.service s.uptime }

/-! ## Requests -/

/-- What a request leads to. -/
inductive Reply where
  /-- An answer. -/
  | answer (r : Http.Response)
  /-- A connection. -/
  | connected (key : ConnectionKey)

/-- Answers a request, or makes it a connection. -/
def request (s : Server) (r : Http.Request) (upgradable : Bool) : Reply × Server :=
  let tokens := Access.Tokens.ofGateway s.settings
  let (outcome, w) :=
    (Gateway.handle s.policy tokens s.hub.registry.size upgradable r).run s.world
  let s := s.withWorld w
  match outcome with
  | .answer response => (.answer response, s)
  | .connect id =>
    let (key, _, hub) := s.hub.connect s.service s.uptime id
    (.connected key, { s with hub := hub }.settle)

/-- A text as it comes in: one that is too large breaks the connection. -/
def incomingText (s : Server) (text : String) : Incoming :=
  if s.settings.connection.maxMessageSize < text.utf8ByteSize then .broken else .text text

/-- Takes in a frame from a browser. -/
def receive (s : Server) (key : ConnectionKey) (frame : Incoming) : Server :=
  { s with hub := (s.hub.send key frame).2 }.settle

/-- The frames that have been sent to a browser, the last one first. -/
def sentTo (s : Server) (key : ConnectionKey) : List ServerFrame :=
  s.hub.log.filterMap fun o =>
    if o.key = key then
      match o.effect with
      | .sent (.frame f) => some f
      | _ => none
    else none

/-- Whether a connection is closed. -/
def isClosed (s : Server) (key : ConnectionKey) : Bool :=
  match s.hub.client? key with
  | some c => c.connection.closed
  | none => true

/-! ## Sweeps -/

/-- Tells a client something, and waits until that is in its queue. -/
def tell (s : Server) (notice : Sweep.Notice) : Server :=
  match s.hub.registry.holder? notice.1 with
  | none => s
  | some key =>
    let limit := s.uptime + s.service.timings.writeWait
    let hub := s.hub.enqueue s.service s.uptime key (.error notice.2)
    let (time, hub) := hub.await s.service key limit s.uptime
    { s with hub := hub, uptime := max s.uptime time }

/-- One look of the sweeper at the clock. -/
def check (s : Server) : Server :=
  let (notices, sweeper, w) := s.sweeper.look s.world
  notices.foldl tell { s.withWorld w with sweeper := sweeper }

/-- Starts a gateway. -/
def start (settings : Settings) (policy : Http.Cors) (next : Instant → Option Instant)
    (w : World) : Server :=
  let (notices, sweeper, w) := Sweep.Loop.start next settings.sweeper w
  notices.foldl tell ⟨settings, policy, sweeper, .empty w, 0⟩

/-- The looks of the sweeper at the clock up to a time: when the next ones are. -/
def checkTimes (uptime target : Nat) : List Nat :=
  (List.range (target / checkPeriod + 1)).filterMap fun i =>
    if uptime < i * checkPeriod then some (i * checkPeriod) else none

/-- Lets the gateway run up to a time. -/
def runTo (s : Server) (target : Nat) : Server :=
  { s with hub := s.hub.advance s.service target s.uptime, uptime := max s.uptime target }

/-- Lets time go on, on the clock on the wall as well. -/
def elapse (s : Server) (seconds : Nat) : Server :=
  let target := s.uptime + 1000 * seconds
  let w := s.world
  let s := s.withWorld { w with now := w.now.plusSeconds seconds }
  let s := (checkTimes s.uptime target).foldl (fun s time => (s.runTo time).check) s
  (s.runTo target).settle

/-- Stops the gateway: all connections are closed. -/
def stop (s : Server) : Server :=
  { s with hub := s.hub.closeAll.2 }.settle

end Server

end Gateway

end ControlPlane
