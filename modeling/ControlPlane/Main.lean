/-
The program.

It looks at the files it needs, runs the command on what it has seen, and writes
back what the command has changed. The gateway takes requests as lines from its
input and writes answers as lines, until the input ends.
-/
import ControlPlane.CommandLine.Run
import Std.Time.DateTime.Timestamp

set_option autoImplicit false

namespace ControlPlane

namespace Terminal

/-- What stands at a path of the file system. -/
def look (path : String) : IO (Option DiskEntry) := do
  try
    let text ← IO.FS.readFile path
    return some (.file text)
  catch
    | .inappropriateType _ 21 _ => return some .directory
    | _ => return none

/-- Looks at a path and at the directories on the way to it. -/
def lookAlong (d : Disk) (path : String) : IO Disk :=
  (Disk.waysTo path).foldlM (fun d ps => do
    match ← look (Disk.pathText ps) with
    | some e => return d.put ps e
    | none => return d) d

/-- Looks at everything that a command may need. -/
def lookAround (p : CommandLine.Place) : IO Disk := do
  let d ← lookAlong .empty (Settings.filePath p.base)
  let d ← lookAlong d (Settings.dataDirectory p.base)
  match CommandLine.settings p d with
  | .ok s => lookAlong d (s.storePath p.base)
  | .error _ => return d

/-- Makes a change in the file system. -/
def apply (change : List String × DiskEntry) : IO Unit :=
  let path := Disk.pathText change.1
  match change.2 with
  | .directory => IO.FS.createDir path
  | .file text => IO.FS.writeFile path text

/-- The time. -/
def wallClock : IO Instant := do
  let t ← Std.Time.Timestamp.now
  return ⟨t.val.second.val, t.val.nano.val.toNat⟩

/-- Where the program runs. -/
def place : IO CommandLine.Place := do
  let base :=
    match ← IO.getEnv "HOME" with
    | some home => home ++ "/.pilot"
    | none => ".pilot"
  return ⟨base, ← IO.getEnv "PILOT_API_TOKEN", ← wallClock, []⟩

/-- Answers lines until the input ends. -/
partial def serve (input output : IO.FS.Stream) (l : CommandLine.Listening) :
    IO CommandLine.Listening := do
  let line ← input.getLine
  if line.isEmpty then return l
  else
    let (answer, l) := l.answerLine (← wallClock) line
    output.putStrLn answer
    output.flush
    serve input output l

/-- Shows how a command ended. -/
def conclude (e : CommandLine.Ending) : IO UInt32 := do
  IO.print e.output
  match e.complaint with
  | some c => IO.eprint c.report
  | none => pure ()
  return e.status.toUInt32

/-- Runs a command. -/
def perform (c : Command) : IO UInt32 := do
  let p ← place
  let before ← lookAround p
  let (ending, after) ←
    match c with
    | .gateway host port =>
      match CommandLine.launch p before host port with
      | (.error complaint, d) => pure (CommandLine.Ending.failed [] complaint, d)
      | (.ok l, d) =>
        let l ← serve (← IO.getStdin) (← IO.getStdout) l
        pure (CommandLine.Ending.mk [] none, l.stop d)
    | c => pure (CommandLine.run c p before)
  (after.changesFrom before).forM apply
  conclude ending

end Terminal

end ControlPlane

/-- Runs the program. -/
def main (arguments : List String) : IO UInt32 := do
  match ControlPlane.Command.read arguments with
  | .command c => ControlPlane.Terminal.perform c
  | .version =>
    IO.println ControlPlane.Command.versionLine
    return 0
  | .help =>
    ControlPlane.Command.usage.forM fun line => IO.println line
    return 0
  | .misuse =>
    ControlPlane.Command.usage.forM fun line => IO.eprintln line
    return 2
