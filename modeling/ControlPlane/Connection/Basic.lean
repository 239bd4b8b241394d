/-
Connections.

A connection serves the browser of one conversation with two loops. The reader
takes the frames that come in, one after the other, and has each of them answered;
the answers go into a queue of limited size. The writer takes them out and sends
them, and pings the client now and then. Others may put frames into the queue as
well; whoever finds it full waits for room, first come, first served.

The loops share the queue and one flag: whether the connection is closed. Either
loop closes it when it cannot go on, and each of them stops when it notices that
the connection is closed. The writer then tries to send a Close frame and to close
the sink.

What happens to a connection happens in steps that cannot be divided. Here stands
what each step does; when it happens, and which of several possible steps comes
first, is not said here.
-/
import ControlPlane.Frame.Client
import ControlPlane.Frame.Server

set_option autoImplicit false

namespace ControlPlane

/-! ## Frames on the wire -/

/-- What comes in on a connection. -/
inductive Incoming where
  /-- A text. -/
  | text (s : String)
  /-- Anything that is not a text. -/
  | binary
  /-- The question whether the other side is there. -/
  | ping
  /-- The answer to that question. -/
  | pong
  /-- The client says goodbye. -/
  | close
  /-- The transport fails. -/
  | broken
  /-- Nothing more will come. -/
  | ended
deriving DecidableEq, Repr

/-- What goes out on a connection while it is in use. -/
inductive Outgoing where
  /-- A frame for the browser. -/
  | frame (f : ServerFrame)
  /-- The question whether the other side is there. -/
  | ping
deriving DecidableEq, Repr

/-! ## The parties of a connection -/

/-- Who puts frames into the queue. -/
inductive Party where
  /-- The reader, with the answer to what it has read. -/
  | reader
  /-- Somebody else. -/
  | outside
deriving DecidableEq, Repr

/-- What the reader is doing. -/
inductive Reader where
  /-- It has not begun. -/
  | unstarted
  /-- It waits for the next frame. -/
  | reading
  /-- It waits for the answer to a frame. -/
  | handling (frame : ClientFrame)
  /-- It waits for room in the queue. -/
  | replying
  /-- It has stopped. -/
  | stopped
deriving DecidableEq, Repr

/-- What the writer is doing. -/
inductive Writer where
  /-- It has not begun. -/
  | unstarted
  /-- It waits for something to send. -/
  | idle
  /-- It sends. -/
  | writing (what : Outgoing)
  /-- It sends the Close frame. -/
  | parting
  /-- It closes the sink. -/
  | closing
  /-- It has stopped. -/
  | stopped
deriving DecidableEq, Repr

/-- A connection. -/
structure Connection where
  /-- The conversation it serves. -/
  conversationId : Int
  /-- How many frames the queue holds. -/
  capacity : Nat
  /-- The frames that wait to be sent. -/
  queue : List ServerFrame
  /-- Those who wait for room in the queue, each with its frame. -/
  waiting : List (Party × ServerFrame)
  /-- Whether the connection is closed. -/
  closed : Bool
  /-- The reader. -/
  reader : Reader
  /-- The writer. -/
  writer : Writer
deriving DecidableEq, Repr

/-- What a step brings about outside of the connection. -/
inductive Effect where
  /-- The handler is asked to answer a frame. -/
  | handle (frame : ClientFrame)
  /-- A frame was put into the queue. -/
  | accepted (party : Party) (frame : ServerFrame)
  /-- A frame was not put into the queue. -/
  | refused (party : Party) (frame : ServerFrame) (reason : Fault)
  /-- The sink is given something to send. -/
  | handed (what : Outgoing)
  /-- Something was sent. -/
  | sent (what : Outgoing)
  /-- The sink is given the Close frame. -/
  | parting
  /-- The Close frame was sent. -/
  | parted
  /-- The sink was closed. -/
  | sinkClosed
deriving DecidableEq, Repr

namespace Connection

/-- A connection after a step, and what the step brought about. -/
abbrev After := Connection × List Effect

/-- A connection that is not in use yet. There is room for one frame at least. -/
def fresh (conversationId : Int) (sendBuffer : Nat) : Connection :=
  ⟨conversationId, max 1 sendBuffer, [], [], false, .unstarted, .unstarted⟩

/-- A connection whose loops begin. -/
def start (c : Connection) : Connection := { c with reader := .reading, writer := .idle }

/-- Closes a connection. It may be closed already. -/
def close (c : Connection) : Connection := { c with closed := true }

/-- Whether both loops have stopped. -/
def isOver (c : Connection) : Bool := c.reader == .stopped && c.writer == .stopped

/-- Whether there is room in the queue. -/
def hasRoom (c : Connection) : Bool := decide (c.queue.length < c.capacity)

/-- Whether a party waits for room. -/
def waits (c : Connection) (party : Party) : Bool := c.waiting.any (·.1 == party)

/-! ## The queue -/

/-- The reader's next state after its frame was put into the queue. -/
def release (c : Connection) : Party → Connection
  | .reader => { c with reader := .reading }
  | .outside => c

/-- The reader stops, and the connection with it. -/
def stopReader (c : Connection) : Connection := { c with reader := .stopped, closed := true }

/-- What a refusal means for the one who is refused: the reader stops. -/
def turnAway (c : Connection) : Party → Connection
  | .reader => c.stopReader
  | .outside => c

/-- A party comes with a frame for the queue. On a closed connection it is refused
at once, and also where nobody will take from the queue any more; otherwise the
frame goes into the queue, or has to wait if there is no room or others wait
already. -/
def offer (c : Connection) (party : Party) (frame : ServerFrame) : After :=
  if c.closed then (c.turnAway party, [.refused party frame .connectionClosed])
  else if c.writer = .stopped then (c.turnAway party, [.refused party frame .queueClosed])
  else if c.waiting.isEmpty && c.hasRoom then
    ({ c with queue := c.queue ++ [frame] }.release party, [.accepted party frame])
  else
    ({ c with
        waiting := c.waiting ++ [(party, frame)]
        reader := if party = .reader then .replying else c.reader }, [])

/-- The one who has waited longest gets room. -/
def enter? (c : Connection) : Option After :=
  match c.waiting with
  | [] => none
  | (party, frame) :: rest =>
    if c.hasRoom && c.writer != .stopped then
      some ({ c with queue := c.queue ++ [frame], waiting := rest }.release party,
        [.accepted party frame])
    else none

/-- The first frame with which a party waits. -/
def waitingFrame? (c : Connection) (party : Party) : Option ServerFrame :=
  (c.waiting.find? (·.1 == party)).map (·.2)

/-- A party gives up waiting. -/
def giveUp (c : Connection) (party : Party) (frame : ServerFrame) (reason : Fault) : After :=
  ({ c with waiting := c.waiting.eraseP (·.1 == party) }.turnAway party,
    [.refused party frame reason])

/-- A party that waits notices that the connection is closed. -/
def refuse? (c : Connection) (party : Party) : Option After :=
  match c.waitingFrame? party with
  | some frame => if c.closed then some (c.giveUp party frame .connectionClosed) else none
  | none => none

/-- A party has waited too long: the client does not take what it is sent, and the
connection is closed. -/
def stall? (c : Connection) (party : Party) : Option After :=
  match c.waitingFrame? party with
  | some frame => some (c.close.giveUp party frame .stalled)
  | none => none

/-! ## The reader -/

/-- The answer to a text that is no frame. -/
def complaint (f : Fault) : ServerFrame :=
  .error (if f.kind = .protocol then f.detail else f.message)

/-- The answer to what is not a text. -/
def binaryComplaint : ServerFrame := .error "binary frames are not supported"

/-- A frame comes in. -/
def arrive? (c : Connection) (frame : Incoming) : Option After :=
  if c.reader = .reading then
    match frame with
    | .text s =>
      match ClientFrame.read s with
      | .ok f => some ({ c with reader := .handling f }, [.handle f])
      | .error e => some (c.offer .reader (complaint e))
    | .binary => some (c.offer .reader binaryComplaint)
    | .ping => some (c, [])
    | .pong => some (c, [])
    | .close => some (c.stopReader, [])
    | .broken => some (c.stopReader, [])
    | .ended => some (c.stopReader, [])
  else none

/-- A text comes in after the connection was closed, and the reader notices that
before the handler is asked: the frame is dropped. -/
def miss? (c : Connection) (text : String) : Option After :=
  if c.reader = .reading ∧ c.closed then
    match ClientFrame.read text with
    | .ok _ => some (c.stopReader, [])
    | .error _ => none
  else none

/-- Nothing has come in for too long. -/
def lapse? (c : Connection) : Option After :=
  if c.reader = .reading then some (c.stopReader, []) else none

/-- The handler is done with a frame. -/
def answer? (c : Connection) (reply : Option ServerFrame) : Option After :=
  match c.reader with
  | .handling _ =>
    match reply with
    | some frame => some (c.offer .reader frame)
    | none => some ({ c with reader := .reading }, [])
  | _ => none

/-- The reader notices that the connection is closed, and drops what it is doing. -/
def leave? (c : Connection) : Option After :=
  match c.reader with
  | .reading => if c.closed then some (c.stopReader, []) else none
  | .handling _ => if c.closed then some (c.stopReader, []) else none
  | _ => none

/-! ## The writer -/

/-- The writer stops sending: the connection is closed, and a Close frame is
tried. -/
def part (c : Connection) : After := ({ c with writer := .parting, closed := true }, [.parting])

/-- The writer takes the next frame out of the queue. -/
def take? (c : Connection) : Option After :=
  if c.writer = .idle then
    match c.queue with
    | [] => none
    | frame :: rest =>
      some ({ c with queue := rest, writer := .writing (.frame frame) }, [.handed (.frame frame)])
  else none

/-- It is time for a ping. -/
def ping? (c : Connection) : Option After :=
  if c.writer = .idle then some ({ c with writer := .writing .ping }, [.handed .ping]) else none

/-- The writer notices that the connection is closed. -/
def quit? (c : Connection) : Option After :=
  if c.writer = .idle ∧ c.closed then some c.part else none

/-- The sink has done what the writer wanted. -/
def succeed? (c : Connection) : Option After :=
  match c.writer with
  | .writing what => some ({ c with writer := .idle }, [.sent what])
  | .parting => some ({ c with writer := .closing }, [.parted])
  | .closing => some ({ c with writer := .stopped }, [.sinkClosed])
  | _ => none

/-- The sink fails, or takes too long. -/
def fail? (c : Connection) : Option After :=
  match c.writer with
  | .writing _ => some c.part
  | .parting => some ({ c with writer := .closing }, [])
  | .closing => some ({ c with writer := .stopped }, [])
  | _ => none

/-! ## Steps -/

/-- Something that can happen to a connection. -/
inductive Event where
  /-- Somebody closes it. -/
  | close
  /-- Somebody comes with a frame for the queue. -/
  | offer (frame : ServerFrame)
  /-- The one who has waited longest gets room in the queue. -/
  | enter
  /-- A party that waits notices that the connection is closed. -/
  | refuse (party : Party)
  /-- A party has waited too long. -/
  | stall (party : Party)
  /-- A frame comes in. -/
  | arrive (frame : Incoming)
  /-- A text comes in, and is dropped because the connection is closed. -/
  | miss (text : String)
  /-- Nothing has come in for too long. -/
  | lapse
  /-- The handler is done. -/
  | answer (reply : Option ServerFrame)
  /-- The reader notices that the connection is closed. -/
  | leave
  /-- The writer takes a frame. -/
  | take
  /-- It is time for a ping. -/
  | ping
  /-- The writer notices that the connection is closed. -/
  | quit
  /-- The sink has done what the writer wanted. -/
  | succeed
  /-- The sink fails, or takes too long. -/
  | fail
deriving DecidableEq, Repr

/-- What an event does, if it can happen. -/
def step? (c : Connection) : Event → Option After
  | .close => some (c.close, [])
  | .offer frame => some (c.offer .outside frame)
  | .enter => c.enter?
  | .refuse party => c.refuse? party
  | .stall party => c.stall? party
  | .arrive frame => c.arrive? frame
  | .miss text => c.miss? text
  | .lapse => c.lapse?
  | .answer reply => c.answer? reply
  | .leave => c.leave?
  | .take => c.take?
  | .ping => c.ping?
  | .quit => c.quit?
  | .succeed => c.succeed?
  | .fail => c.fail?

end Connection

end ControlPlane
