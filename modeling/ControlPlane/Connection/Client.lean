/-
Connections in time.

Every wait in a connection has an end: the reader waits for a frame only so long,
a party waits for room in the queue only so long, the sink is given only so long,
and pings are due at fixed times. A client is a connection together with these
times, the frames that are on their way to it, and its sink.

Of the steps that can happen at one moment, one is chosen: whoever notices that
the connection is closed comes before everything else it could do, the reader
comes before the writer, and the writer sends what is queued before it pings.
Times are milliseconds.
-/
import ControlPlane.Connection.Basic
import ControlPlane.Settings

set_option autoImplicit false

namespace ControlPlane

/-- The times and sizes of a connection, in milliseconds and frames. -/
structure Timings where
  /-- How long a write, or the wait for room in the queue, may take. -/
  writeWait : Nat
  /-- How long the client may be silent. -/
  pongWait : Nat
  /-- The time between two pings. -/
  pingPeriod : Nat
  /-- How many frames the queue holds. -/
  sendBuffer : Nat
deriving DecidableEq, Repr

/-- The times and sizes that the settings give. -/
def Timings.ofSettings (s : Settings.Connection) : Timings :=
  ⟨1000 * s.writeWait, 1000 * s.pongWait, 1000 * s.pingPeriod, s.sendBuffer⟩

/-- What the sink does with what it is given. -/
inductive SinkMode where
  /-- It sends it. -/
  | ok
  /-- It does nothing. -/
  | stall
  /-- It fails. -/
  | fail
deriving DecidableEq, Repr

/-- A connection in time. -/
structure Client where
  /-- The connection. -/
  connection : Connection
  /-- The frames on their way to the reader. -/
  inbox : List Incoming
  /-- Whether more frames may come. -/
  inboxOpen : Bool
  /-- The sink. -/
  sink : SinkMode
  /-- When the reader has waited too long. -/
  readBy : Nat
  /-- When the handler is done, and its answer. -/
  answer : Option (Nat × Option ServerFrame)
  /-- When the reader has waited too long for room in the queue. -/
  readerBy : Nat
  /-- When the others have waited too long for room in the queue. -/
  outsideBy : Nat
  /-- When the next ping is due; none if there are no pings. -/
  pingAt : Option Nat
  /-- When the sink has taken too long. -/
  writeBy : Nat
  /-- Whether the reader has stopped and given up the conversation. -/
  left : Bool
deriving DecidableEq, Repr

namespace Client

/-- A client whose loops have not begun. -/
def fresh (t : Timings) (conversationId : Int) : Client :=
  ⟨.fresh conversationId t.sendBuffer, [], true, .ok, 0, none, 0, 0, none, 0, false⟩

/-- A client whose loops begin. -/
def start (t : Timings) (now : Nat) (c : Client) : Client :=
  { c with
    connection := c.connection.start
    readBy := now + t.pongWait
    pingAt := if t.pingPeriod = 0 then none else some (now + t.pingPeriod) }

/-- Whether the loops have begun. -/
def isServed (c : Client) : Bool := c.connection.reader != .unstarted

/-- Whether a frame can still be sent to the reader. -/
def takesFrames (c : Client) : Bool :=
  c.isServed && c.connection.reader != .stopped && c.inboxOpen

/-! ## What is due -/

/-- When a party has waited too long. -/
def waitBy (c : Client) : Party → Nat
  | .reader => c.readerBy
  | .outside => c.outsideBy

/-- What a party that waits for room has to do. -/
def dueWait? (now : Nat) (c : Client) (party : Party) : Option Connection.Event :=
  if c.connection.waits party then
    if c.connection.closed then some (.refuse party)
    else if c.waitBy party ≤ now then some (.stall party)
    else none
  else none

/-- What the reader has to do. -/
def dueReader? (now : Nat) (c : Client) : Option Connection.Event :=
  match c.connection.reader with
  | .reading =>
    if c.connection.closed then some .leave
    else
      match c.inbox with
      | frame :: _ => some (.arrive frame)
      | [] => if c.readBy ≤ now then some .lapse else none
  | .handling _ =>
    if c.connection.closed then some .leave
    else
      match c.answer with
      | some (time, reply) => if time ≤ now then some (.answer reply) else none
      | none => none
  | .replying => c.dueWait? now .reader
  | _ => none

/-- What the sink has to do, while the writer waits for it. -/
def dueSink? (now : Nat) (c : Client) : Option Connection.Event :=
  match c.sink with
  | .ok => some .succeed
  | .fail => some .fail
  | .stall => if c.writeBy ≤ now then some .fail else none

/-- Whether a ping is due. -/
def isPingDue (now : Nat) (c : Client) : Bool :=
  match c.pingAt with
  | some time => decide (time ≤ now)
  | none => false

/-- What the writer has to do. -/
def dueWriter? (now : Nat) (c : Client) : Option Connection.Event :=
  match c.connection.writer with
  | .idle =>
    if c.connection.closed then some .quit
    else if !c.connection.queue.isEmpty then some .take
    else if c.isPingDue now then some .ping
    else none
  | .writing _ => c.dueSink? now
  | .parting => c.dueSink? now
  | .closing => c.dueSink? now
  | _ => none

/-- Whether somebody who waits can get room. -/
def dueRoom? (c : Client) : Option Connection.Event :=
  if c.connection.enter?.isSome then some .enter else none

/-- What is to happen next, if anything is due. -/
def due? (now : Nat) (c : Client) : Option Connection.Event :=
  c.dueReader? now <|> c.dueWait? now .outside <|> c.dueRoom? <|> c.dueWriter? now

/-- The times at which something will be due if nothing happens before. -/
def deadlines (c : Client) : List Nat :=
  (match c.connection.reader with
    | .reading => [c.readBy]
    | .handling _ => (c.answer.map (·.1)).toList
    | .replying => [c.readerBy]
    | _ => []) ++
  (if c.connection.waits .outside then [c.outsideBy] else []) ++
  (match c.connection.writer with
    | .idle => c.pingAt.toList
    | .writing _ => [c.writeBy]
    | .parting => [c.writeBy]
    | .closing => [c.writeBy]
    | _ => [])

/-! ## What happens -/

/-- Whether the sink has been given something. -/
def isAtSink : Writer → Bool
  | .writing _ => true
  | .parting => true
  | .closing => true
  | _ => false

/-- Whether an event is the arrival of a frame. -/
def isArrival : Connection.Event → Bool
  | .arrive _ => true
  | .miss _ => true
  | _ => false

/-- The times after a step from one connection to another. -/
def timed (t : Timings) (now : Nat) (event : Connection.Event) (before : Client)
    (after : Connection) : Client :=
  let old := before.connection
  let readsAnew := after.reader == .reading && (old.reader != .reading || isArrival event)
  let waitsAnew (party : Party) := after.waits party && !old.waits party
  let writesAnew := isAtSink after.writer && after.writer != old.writer
  { before with
    connection := after
    inbox := if isArrival event then before.inbox.drop 1 else before.inbox
    readBy := if readsAnew then now + t.pongWait else before.readBy
    readerBy := if waitsAnew .reader then now + t.writeWait else before.readerBy
    outsideBy := if waitsAnew .outside then now + t.writeWait else before.outsideBy
    writeBy := if writesAnew then now + t.writeWait else before.writeBy
    pingAt := if event = .ping then before.pingAt.map (· + t.pingPeriod) else before.pingAt }

/-- Lets something happen to a client. What cannot happen does nothing. -/
def apply (t : Timings) (now : Nat) (event : Connection.Event) (c : Client) :
    Client × List Effect :=
  match c.connection.step? event with
  | some (after, effects) => (timed t now event c after, effects)
  | none => (c, [])

/-! ## How much can happen -/

/-- The weight of what the reader is doing. -/
def readerWeight : Reader → Nat
  | .handling _ => 8
  | .replying => 2
  | .reading => 1
  | _ => 0

/-- The weight of what the writer is doing. -/
def writerWeight : Writer → Nat
  | .writing _ => 4
  | .idle => 3
  | .parting => 2
  | .closing => 1
  | _ => 0

/-- How many pings are due. -/
def overduePings (t : Timings) (now : Nat) (c : Client) : Nat :=
  match c.pingAt with
  | some time => if time ≤ now then (now - time) / max 1 t.pingPeriod + 1 else 0
  | none => 0

/-- A bound for what can happen to a client before time has to go on: every step
that is due makes it smaller. -/
def weight (t : Timings) (now : Nat) (c : Client) : Nat :=
  10 * c.inbox.length + readerWeight c.connection.reader + 4 * c.connection.waiting.length +
    3 * c.connection.queue.length + writerWeight c.connection.writer +
    2 * c.overduePings t now + (if c.left then 0 else 1)

end Client

end ControlPlane
