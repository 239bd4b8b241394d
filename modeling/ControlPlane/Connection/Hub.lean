/-
The hub.

The hub holds the connections and the registry. A connection that comes in closes
the one that held its conversation before. A connection whose reader has stopped
gives its conversation up, if it still holds it. All that is due at a moment
happens before time goes on; whoever waits outside for room in a queue comes before
the loops.

Frames are answered by a handler, which may change its surroundings and takes some
time.
-/
import ControlPlane.Connection.Client
import ControlPlane.Connection.Registry

set_option autoImplicit false

namespace ControlPlane

/-- How connections are served. -/
structure Service (σ : Type) where
  /-- The times and sizes of the connections. -/
  timings : Timings
  /-- Answers a frame of a conversation: how long that takes, the answer, and the
  surroundings after it. -/
  handler : Int → ClientFrame → σ → (Nat × Option ServerFrame) × σ

/-- Something that happened to a connection. -/
structure Occurrence where
  /-- When. -/
  time : Nat
  /-- To which connection. -/
  key : ConnectionKey
  /-- What. -/
  effect : Effect
deriving DecidableEq, Repr

/-- The connections and their registry. -/
structure Hub (σ : Type) where
  /-- The connections; the key of a connection is its place. -/
  clients : List Client
  /-- Which connection holds which conversation. -/
  registry : Registry
  /-- The surroundings of the handler. -/
  surroundings : σ
  /-- What has happened, the last thing first. -/
  log : List Occurrence

namespace Hub

variable {σ : Type}

/-- A hub without connections. -/
def empty (surroundings : σ) : Hub σ := ⟨[], .empty, surroundings, []⟩

/-- The connection of a key. -/
def client? (h : Hub σ) (key : ConnectionKey) : Option Client := h.clients[key]?

/-- Changes the connection of a key. -/
def modify (h : Hub σ) (key : ConnectionKey) (f : Client → Client) : Hub σ :=
  { h with clients := h.clients.modify key f }

/-- Forgets what has happened. -/
def clearLog (h : Hub σ) : Hub σ := { h with log := [] }

/-! ## The registry -/

/-- Closes a connection. -/
def close (h : Hub σ) (key : ConnectionKey) : Hub σ :=
  h.modify key fun c => { c with connection := c.connection.close }

/-- Makes a connection the holder of its conversation and closes the one before;
this one is answered. -/
def install (h : Hub σ) (key : ConnectionKey) : Option ConnectionKey × Hub σ :=
  match h.client? key with
  | none => (none, h)
  | some c =>
    let (displaced, registry) := h.registry.install c.connection.conversationId key
    let h := { h with registry := registry }
    match displaced with
    | some old => (displaced, if old = key then h else h.close old)
    | none => (displaced, h)

/-- Lets a connection give its conversation up; whether it held it is answered. -/
def retire (h : Hub σ) (key : ConnectionKey) : Bool × Hub σ :=
  match h.client? key with
  | none => (false, h)
  | some c =>
    let (held, registry) := h.registry.retire c.connection.conversationId key
    (held, { h with registry := registry })

/-- Closes the connections that hold a conversation and lets all of these go; how
many there were is answered. -/
def closeAll (h : Hub σ) : Nat × Hub σ :=
  (h.registry.size, { h.registry.keys.foldl close h with registry := .empty })

/-! ## Connections -/

/-- Adds a connection whose loops have not begun. -/
def add (h : Hub σ) (s : Service σ) (conversationId : Int) : ConnectionKey × Hub σ :=
  (h.clients.length, { h with clients := h.clients ++ [.fresh s.timings conversationId] })

/-- Lets the loops of a connection begin. -/
def start (h : Hub σ) (s : Service σ) (now : Nat) (key : ConnectionKey) : Hub σ :=
  h.modify key (Client.start s.timings now)

/-- Adds a connection and lets its loops begin, as the holder of its
conversation. -/
def connect (h : Hub σ) (s : Service σ) (now : Nat) (conversationId : Int) :
    ConnectionKey × Option ConnectionKey × Hub σ :=
  let (key, h) := h.add s conversationId
  let (displaced, h) := h.install key
  (key, displaced, h.start s now key)

/-! ## What happens -/

/-- What the handler does about a step. -/
def handleEffect (s : Service σ) (now : Nat) (key : ConnectionKey) (conversationId : Int)
    (h : Hub σ) : Effect → Hub σ
  | .handle frame =>
    let ((delay, reply), surroundings) := s.handler conversationId frame h.surroundings
    { h with surroundings := surroundings }.modify key fun c =>
      { c with answer := some (now + delay, reply) }
  | _ => h

/-- Lets something happen to a connection. -/
def apply (s : Service σ) (now : Nat) (key : ConnectionKey) (event : Connection.Event)
    (h : Hub σ) : Hub σ :=
  match h.client? key with
  | none => h
  | some c =>
    let (after, effects) := c.apply s.timings now event
    let h := h.modify key fun _ => after
    let h := { h with log := (effects.map fun e => ⟨now, key, e⟩).reverse ++ h.log }
    effects.foldl (handleEffect s now key c.connection.conversationId) h

/-- Lets a connection leave whose reader has stopped. -/
def depart (h : Hub σ) (key : ConnectionKey) : Hub σ :=
  (h.retire key).2.modify key fun c => { c with left := true }

/-- Whether a connection has to leave. -/
def mustDepart (c : Client) : Bool := c.connection.reader == .stopped && !c.left

/-- The next thing that happens to a connection, if anything is due. -/
def clientStep? (s : Service σ) (now : Nat) (h : Hub σ) (key : ConnectionKey) (c : Client) :
    Option (Hub σ) :=
  if mustDepart c then some (h.depart key)
  else (c.due? now).map fun event => h.apply s now key event

/-- What those who wait outside have to do first. -/
def outsideStep? (s : Service σ) (now : Nat) (h : Hub σ) (key : ConnectionKey) (c : Client) :
    Option (Hub σ) :=
  (c.dueWait? now .outside).map fun event => h.apply s now key event

/-- The next thing that happens, if anything is due. -/
def step? (s : Service σ) (now : Nat) (h : Hub σ) : Option (Hub σ) :=
  let keyed := h.clients.zipIdx
  keyed.findSome? (fun (c, key) => outsideStep? s now h key c) <|>
    keyed.findSome? (fun (c, key) => clientStep? s now h key c)

/-- A bound for what can happen before time has to go on. -/
def weight (s : Service σ) (now : Nat) (h : Hub σ) : Nat :=
  Integer.total (h.clients.map (Client.weight s.timings now))

/-- Lets everything happen that is due. -/
def settle (s : Service σ) (now : Nat) (h : Hub σ) : Hub σ :=
  match step? s now h with
  | none => h
  | some next => if weight s now next < weight s now h then settle s now next else next
termination_by weight s now h

/-! ## Time -/

/-- The next time at which something will be due. -/
def nextTime? (now : Nat) (h : Hub σ) : Option Nat :=
  ((h.clients.flatMap Client.deadlines).filter (now < ·)).min?

/-- Lets time go on, and everything happen that is due at the way and at the
end. -/
def advance (s : Service σ) (target now : Nat) (h : Hub σ) : Hub σ :=
  let h := settle s now h
  match nextTime? now h with
  | none => h
  | some time =>
    if now < time ∧ time ≤ target then advance s target time h else h
termination_by target - now
decreasing_by omega

/-- Lets time go on until a party outside of a connection waits no longer; the time
is answered. It waits no longer than until `limit`. -/
def await (s : Service σ) (key : ConnectionKey) (limit now : Nat) (h : Hub σ) : Nat × Hub σ :=
  let h := settle s now h
  match h.client? key with
  | none => (now, h)
  | some c =>
    if c.connection.waits .outside then
      match nextTime? now h with
      | none => (now, h)
      | some time =>
        if now < time ∧ time ≤ limit then await s key limit time h else (now, h)
    else (now, h)
termination_by limit - now
decreasing_by omega

/-! ## Frames -/

/-- Sends a frame to a connection; whether its reader is still there is
answered. -/
def send (h : Hub σ) (key : ConnectionKey) (frame : Incoming) : Bool × Hub σ :=
  match h.client? key with
  | some c =>
    if c.takesFrames then
      (true, h.modify key fun c =>
        { c with inbox := c.inbox ++ [frame], inboxOpen := frame != .ended })
    else (false, h)
  | none => (false, h)

/-- Puts a frame into the queue of a connection, or begins to wait for room. -/
def enqueue (s : Service σ) (now : Nat) (h : Hub σ) (key : ConnectionKey)
    (frame : ServerFrame) : Hub σ :=
  h.apply s now key (.offer frame)

/-- How an attempt from outside to put a frame into a queue ended, if it has. -/
def enqueued? (h : Hub σ) (key : ConnectionKey) : Option (Except Fault Unit) :=
  h.log.findSome? fun o =>
    if o.key = key then
      match o.effect with
      | .accepted .outside _ => some (.ok ())
      | .refused .outside _ reason => some (.error reason)
      | _ => none
    else none

/-- Changes the sink of a connection. -/
def setSink (h : Hub σ) (key : ConnectionKey) (mode : SinkMode) : Hub σ :=
  h.modify key fun c => { c with sink := mode }

/-- Takes a frame out of the queue of a connection whose loops have not begun. -/
def takeQueued (h : Hub σ) (key : ConnectionKey) : Option ServerFrame × Hub σ :=
  match h.client? key with
  | some c =>
    if c.connection.writer = .unstarted then
      (c.connection.queue.head?, h.modify key fun c =>
        { c with connection := { c.connection with queue := c.connection.queue.drop 1 } })
    else (none, h)
  | none => (none, h)

/-- Gives up the queue of a connection whose loops have not begun: nobody will take
from it any more. -/
def dropQueue (h : Hub σ) (key : ConnectionKey) : Hub σ :=
  h.modify key fun c =>
    if c.connection.writer = .unstarted then
      { c with connection := { c.connection with queue := [], writer := .stopped } }
    else c

/-! ## Views -/

/-- The connections of which something holds. -/
def keysWhere (h : Hub σ) (p : Client → Bool) : List ConnectionKey :=
  (h.clients.zipIdx.filter fun (c, _) => p c).map (·.2)

/-- The connections that are closed. -/
def closedKeys (h : Hub σ) : List ConnectionKey := h.keysWhere fun c => c.connection.closed

/-- The connections whose loops have stopped. -/
def endedKeys (h : Hub σ) : List ConnectionKey := h.keysWhere fun c => c.connection.isOver

end Hub

end ControlPlane
