/-
Running commands.

A command runs in a place: a disk with the settings file and the store, a time, and
the token that the environment gives. The gateway goes on running until it is
stopped; every other command ends by itself.
-/
import ControlPlane.CommandLine.Command
import ControlPlane.CommandLine.Disk
import ControlPlane.CommandLine.Work
import ControlPlane.Gateway.Server
import ControlPlane.Http.Host
import ControlPlane.Http.Line

set_option autoImplicit false

namespace ControlPlane

namespace CommandLine

/-- Where a command runs. -/
structure Place where
  /-- The directory of the program. -/
  base : String
  /-- The token of the environment. -/
  token : Option String
  /-- The time. -/
  now : Instant
  /-- The ports that others use. -/
  takenPorts : List Nat
deriving DecidableEq, Repr

namespace Place

/-- Why the gateway cannot listen at a host and a port, if it cannot: the host has to
be an address of this machine, and the port must be free. -/
def refusal? (p : Place) (host : String) (port : Nat) : Option Complaint :=
  let h := Http.Host.read host
  if h.isOwn then if p.takenPorts.contains port then some .portTaken else none
  else
    match h with
    | .name _ => some .unknownHost
    | _ => some .addressElsewhere

end Place

/-- How a command ended. -/
structure Ending where
  /-- The lines that it has printed. -/
  printed : List String
  /-- The complaint with which it failed. -/
  complaint : Option Complaint
deriving DecidableEq, Repr

namespace Ending

/-- The status with which the program ends. -/
def status (e : Ending) : Nat :=
  match e.complaint with
  | some c => c.status
  | none => 0

/-- The text that the program has printed. -/
def output (e : Ending) : String := String.join (e.printed.map (· ++ "\n"))

/-- The end of a command that fails. -/
def failed (printed : List String) (c : Complaint) : Ending := ⟨printed, some c⟩

end Ending

/-! ## Settings and store -/

/-- The settings in force. -/
def settings (p : Place) (d : Disk) : Except Fault Settings :=
  Settings.inForce (d.settingsFile p.base) p.token

/-- The settings in force and the store, which is opened. -/
def openAll (p : Place) (d : Disk) : Except Fault (Settings × Store) × Disk :=
  match settings p d with
  | .error e => (.error e, d)
  | .ok s =>
    match d.openStore (s.storePath p.base) with
    | (.error e, d) => (.error e, d)
    | (.ok store, d) => (.ok (s, store), d)

/-- Makes the directories of the program. -/
def makeDirectories (p : Place) (d : Disk) : Except Disk.Flaw Disk :=
  match d.makeDirectory (Disk.parts p.base) with
  | .error flaw => .error flaw
  | .ok d => d.makeDirectory (Disk.parts (Settings.dataDirectory p.base))

/-- Carries out something that prints, on a store that is saved afterwards. -/
def carryOut (p : Place) (d : Disk) (path : String) (store : Store) (printed : List String)
    (work : Shell Unit) : Ending × Disk :=
  let ((r, printed), w) := (work.transcript printed).run (.start store p.now)
  let d := d.saveStore path w.store
  match r with
  | .ok () => (⟨printed, none⟩, d)
  | .error c => (.failed printed c, d)

/-- Opens the store and carries out something that prints. -/
def withStore (p : Place) (d : Disk) (work : Settings → Shell Unit) : Ending × Disk :=
  match openAll p d with
  | (.error e, d) => (.failed [] (.fault e), d)
  | (.ok (s, store), d) => carryOut p d (s.storePath p.base) store [] (work s)

/-- Shows how things are. The store is opened only if it is there. -/
def status (p : Place) (d : Disk) : Ending × Disk :=
  let configPath := Settings.filePath p.base
  let head := statusHead configPath (d.holds configPath)
  match settings p d with
  | .error e => (.failed head (.fault e), d)
  | .ok s =>
    let path := s.storePath p.base
    let lines := head ++ settingsLines s path (d.holds path)
    if d.holds path then
      match d.openStore path with
      | (.error e, d) => (.failed lines (.fault e), d)
      | (.ok store, d) => carryOut p d path store lines records
    else (⟨lines, none⟩, d)

/-- Makes the directories of the program and creates a conversation. -/
def createIn (p : Place) (d : Disk) (title browser : String) (task : Option String) :
    Ending × Disk :=
  match makeDirectories p d with
  | .error flaw => (.failed [] (.system flaw.message), d)
  | .ok d => withStore p d fun _ => create title browser task

/-! ## The gateway -/

/-- A gateway that is listening. -/
structure Listening where
  /-- The host and the port. -/
  address : String × Nat
  /-- The file of the store. -/
  storePath : String
  /-- The gateway. -/
  server : Gateway.Server

/-- Starts the gateway. -/
def launch (p : Place) (d : Disk) (host : Option String) (port : Option Nat) :
    Except Complaint Listening × Disk :=
  match makeDirectories p d with
  | .error flaw => (.error (.system flaw.message), d)
  | .ok d =>
    match openAll p d with
    | (.error e, d) => (.error (.fault e), d)
    | (.ok (s, store), d) =>
      match Sweep.schedule s.sweeper with
      | .error e => (.error (.fault e), d)
      | .ok schedule =>
        match Http.Cors.ofOrigins? s.gateway.allowedOrigins with
        | none => (.error .contradictoryOrigins, d)
        | some policy =>
          let host := host.getD s.gateway.host
          let port := port.getD s.gateway.port
          match p.refusal? host port with
          | some complaint => (.error complaint, d)
          | none =>
            let w := { World.start store p.now with silence := .noExchange }
            (.ok ⟨(host, port), s.storePath p.base, .start s policy schedule.next? w⟩, d)

namespace Listening

/-- Lets the gateway run up to a time on the clock on the wall. -/
def runUntil (l : Listening) (now : Instant) : Listening :=
  let seconds := (now.second - l.server.world.now.second).toNat
  let server := l.server.elapse seconds
  { l with server := server.withWorld { server.world with now := now } }

/-- Answers a request that comes in as a line. -/
def answerLine (l : Listening) (now : Instant) (line : String) : String × Listening :=
  let l := l.runUntil now
  match Http.Request.decoder.ofText line with
  | .error e => ((Http.Response.text 400 (Fault.badJson e).message).line, l)
  | .ok r =>
    match l.server.request r false with
    | (.answer response, server) => (response.line, { l with server := server })
    | (.connected _, server) => ((Http.Response.bare 101).line, { l with server := server })

/-- Stops the gateway and saves its store. -/
def stop (l : Listening) (d : Disk) : Disk :=
  d.saveStore l.storePath l.server.stop.world.store

end Listening

/-! ## Commands -/

/-- Runs a command; a gateway that is started is stopped at once. -/
def run (c : Command) (p : Place) (d : Disk) : Ending × Disk :=
  match c with
  | .gateway host port =>
    match launch p d host port with
    | (.error complaint, d) => (.failed [] complaint, d)
    | (.ok listening, d) => (⟨[], none⟩, listening.stop d)
  | .sweep => withStore p d fun s => sweep s.sweeper
  | .status => status p d
  | .create title browser task => createIn p d title browser task
  | .display id => withStore p d fun _ => display id
  | .list limit offset user => withStore p d fun _ => list limit offset user
  | .rename id title => withStore p d fun _ => rename id title

end CommandLine

end ControlPlane
