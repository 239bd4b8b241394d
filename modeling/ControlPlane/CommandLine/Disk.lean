/-
Files.

A disk holds directories and files by path. Paths are read part by part; the disk
itself is the directory in which relative paths start. A store is a file whose text
is a saved store; a file without text is a store without rows.
-/
import ControlPlane.Settings
import ControlPlane.Store.Form

set_option autoImplicit false

namespace ControlPlane

/-- What stands at a path. -/
inductive DiskEntry where
  /-- A directory. -/
  | directory
  /-- A file with its text. -/
  | file (text : String)
deriving DecidableEq, Repr

/-- Directories and files. -/
structure Disk where
  /-- What stands at each path. -/
  entries : List (List String × DiskEntry)
deriving DecidableEq, Repr

namespace Disk

/-- A disk without files. -/
def empty : Disk := ⟨[]⟩

instance : Inhabited Disk := ⟨empty⟩

/-- One step along a path; `done` are the parts so far, the last one first. -/
def addPart (done : List String) (part : String) : List String :=
  if part = "" ∨ part = "." then done
  else if part = ".." then done.drop 1
  else part :: done

/-- The parts of a path. A path from the root has the root as its first part. -/
def parts (path : String) : List String :=
  let pieces := (Text.splitAtEach '/' path.toList).map String.ofList
  let relative := (pieces.foldl addPart []).reverse
  if path.toList.head? = some '/' then "/" :: relative else relative

/-- What stands at a path. -/
def entry? (d : Disk) (path : List String) : Option DiskEntry :=
  if path = [] ∨ path = ["/"] then some .directory
  else (d.entries.find? (·.1 == path)).map (·.2)

/-- Whether anything stands at a path. -/
def holds (d : Disk) (path : String) : Bool := (d.entry? (parts path)).isSome

/-- Puts something at a path. -/
def put (d : Disk) (path : List String) (e : DiskEntry) : Disk :=
  ⟨(path, e) :: d.entries.filter (·.1 != path)⟩

/-- The text of the file at a path. -/
def text? (d : Disk) (path : List String) : Option String :=
  match d.entry? path with
  | some (.file text) => some text
  | _ => none

/-! ## Directories -/

/-- Why a directory cannot be made. -/
inductive Flaw where
  /-- A part of the way to it is a file. -/
  | notDirectory
  /-- A file stands in its place. -/
  | fileExists
deriving DecidableEq, Repr

/-- The wording of a flaw. -/
def Flaw.message : Flaw → String
  | notDirectory => "Not a directory (os error 20)"
  | fileExists => "File exists (os error 17)"

/-- Makes the directories of a path; `done` is the way that is there already. -/
def makeFrom (d : Disk) (done : List String) : List String → Except Flaw Disk
  | [] => .ok d
  | part :: rest =>
    let here := done ++ [part]
    match d.entry? here with
    | some .directory => makeFrom d here rest
    | some (.file _) => .error (if rest.isEmpty then .fileExists else .notDirectory)
    | none => makeFrom (d.put here .directory) here rest

/-- Makes a directory and those on the way to it. -/
def makeDirectory (d : Disk) (path : List String) : Except Flaw Disk :=
  makeFrom d [] path

/-- Puts a file at a path and makes the directories on the way to it, as far as
they can be made. -/
def place (d : Disk) (path : String) (text : String) : Disk :=
  let ps := parts path
  ((d.makeDirectory ps.dropLast).toOption.getD d).put ps (.file text)

/-! ## Disks and file systems -/

/-- The text of a path. -/
def pathText : List String → String
  | "/" :: rest => "/" ++ "/".intercalate rest
  | parts => "/".intercalate parts

/-- The ways to the parts of a path; `done` is the way that lies behind. -/
def waysFrom (done : List String) : List String → List (List String)
  | [] => []
  | part :: rest => (done ++ [part]) :: waysFrom (done ++ [part]) rest

/-- The directories on the way to a path, and the path itself. -/
def waysTo (path : String) : List (List String) :=
  (waysFrom [] (parts path)).filter (· != ["/"])

/-- What is different from an older disk, in the order in which it came about. -/
def changesFrom (d older : Disk) : List (List String × DiskEntry) :=
  d.entries.reverse.filter fun e => !older.entries.contains e

/-! ## Settings and stores -/

/-- The settings file in a directory. -/
def settingsFile (d : Disk) (base : String) : Settings.File :=
  match d.entry? (parts (Settings.filePath base)) with
  | none => .absent
  | some .directory => .directory
  | some (.file text) => .text text

/-- The path of a store that is not kept. -/
def unkept : String := ":memory:"

/-- The store that a text holds. -/
def storeOf? (text : String) : Option Store :=
  if text.isEmpty then some .empty else (Store.decoder.ofText text).toOption

/-- Opens the store at a path; the directories on the way to it are made, and a
store that is not there as well. -/
def openStore (d : Disk) (path : String) : Except Fault Store × Disk :=
  let ps := parts path
  match d.makeDirectory ps.dropLast with
  | .error flaw => (.error (.storeUnavailable "Failed to create db directory" flaw.message), d)
  | .ok d =>
    if path = unkept then (.ok .empty, d)
    else
      match d.entry? ps with
      | some .directory =>
        (.error (.storeUnavailable "Failed to open database"
          ("unable to open database file: " ++ path)), d)
      | some (.file text) =>
        match storeOf? text with
        | some store => (.ok store, d)
        | none => (.error (.storeUnavailable "Failed to init schema" "file is not a database"), d)
      | none => (.ok .empty, d.put ps (.file ""))

/-- Saves a store at a path. -/
def saveStore (d : Disk) (path : String) (store : Store) : Disk :=
  if path = unkept then d else d.put (parts path) (.file store.toJson.text)

end Disk

end ControlPlane
