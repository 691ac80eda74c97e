import FleetDesk.Audit.Writer
import FleetDesk.Path
import FleetDesk.Text.Utf8

/-!
# A file tree as data

Directories and files by their absolute paths, without links. Paths are followed component by
component: `..` leads back, and only a directory can be entered. The operations fail as those of a
POSIX file system do.
-/

namespace FleetDesk

inductive DiskError where
  | notFound
  | occupied
  | notDirectory
  | isDirectory
  | nameTooLong
  /-- A path cannot hold the null character. -/
  | nullInPath
  deriving DecidableEq, Repr

def DiskError.message : DiskError → String
  | notFound => "No such file or directory (os error 2)"
  | occupied => "File exists (os error 17)"
  | notDirectory => "Not a directory (os error 20)"
  | isDirectory => "Is a directory (os error 21)"
  | nameTooLong => "File name too long (os error 36)"
  | nullInPath => "file name contained an unexpected NUL byte"

inductive DiskEntry where
  | dir
  | file (content : ByteArray)

/-- The entries by the names that lead to them, the last name first; the root is always there. -/
structure Disk where
  entries : List (List String × DiskEntry) := []
  workingDir : List String := []

namespace Disk

def maxNameBytes : Nat := 255

def maxPathBytes : Nat := 4095

def entry? (d : Disk) (place : List String) : Option DiskEntry :=
  if place.isEmpty then some .dir else d.entries.lookup place

def put (d : Disk) (place : List String) (e : DiskEntry) : Disk :=
  { d with entries := (place, e) :: d.entries.filter fun x => x.1 != place }

/-- Follows one component from a directory. -/
def enter (d : Disk) (place : List String) (name : String) : Except DiskError (List String) :=
  match d.entry? place with
  | none => .error .notFound
  | some (.file _) => .error .notDirectory
  | some .dir =>
    if name = "" || name = "." then .ok place
    else if name = ".." then .ok place.tail
    else if maxNameBytes < name.utf8ByteSize then .error .nameTooLong
    else if (d.entry? (name :: place)).isSome then .ok (name :: place)
    else .error .notFound

/-- The place where a path starts and the components to follow from there. -/
def route (d : Disk) (path : String) : Except DiskError (List String × List String) :=
  if path.toList.contains '\x00' then .error .nullInPath
  else if path = "" then .error .notFound
  else if maxPathBytes < path.utf8ByteSize then .error .nameTooLong
  else .ok (if Path.isAbsolute path then [] else d.workingDir, Path.segments path)

def resolve (d : Disk) (path : String) : Except DiskError (List String) := do
  let (start, names) ← d.route path
  names.foldlM d.enter start

def lookup (d : Disk) (path : String) : Except DiskError DiskEntry := do
  let place ← d.resolve path
  match d.entry? place with
  | some e => .ok e
  | none => .error .notFound

def read (d : Disk) (path : String) : Except DiskError ByteArray := do
  match ← d.lookup path with
  | .file content => .ok content
  | .dir => .error .isDirectory

def isFile (d : Disk) (path : String) : Bool :=
  match d.lookup path with
  | .ok (.file _) => true
  | _ => false

def size (d : Disk) (path : String) : Except DiskError Nat := do
  match ← d.lookup path with
  | .file content => .ok content.size
  | .dir => .ok 4096

/-- Makes the next directory on the way unless it is there; `rest` are the names behind it. -/
def makeDirsFrom (d : Disk) (place : List String) : List String → Except DiskError Disk
  | [] => .ok d
  | name :: rest =>
    match d.enter place name with
    | .ok next =>
      match d.entry? next with
      | some (.file _) => .error (if rest.all (· = "") then .occupied else .notDirectory)
      | _ => makeDirsFrom d next rest
    | .error .notFound => makeDirsFrom (d.put (name :: place) .dir) (name :: place) rest
    | .error e => .error e

/-- Makes a directory and those above it that are missing. -/
def makeDirs (d : Disk) (path : String) : Except DiskError Disk :=
  if path = "" then .ok d
  else do
    let (start, names) ← d.route path
    d.makeDirsFrom start names

/-- The directory that a file is in, and its name there. -/
def parent (d : Disk) (path : String) : Except DiskError (List String × String) := do
  let (start, names) ← d.route path
  let dir ← names.dropLast.foldlM d.enter start
  match d.entry? dir with
  | some .dir => .ok (dir, names.getLastD "")
  | _ => .error .notDirectory

/-- Writes a file anew, or makes it longer. -/
def write (d : Disk) (path : String) (change : ByteArray → ByteArray) : Except DiskError Disk := do
  let (dir, name) ← d.parent path
  if name = "" || name = "." || name = ".." then .error .isDirectory
  else if maxNameBytes < name.utf8ByteSize then .error .nameTooLong
  else match d.entry? (name :: dir) with
    | some .dir => .error .isDirectory
    | some (.file content) => .ok (d.put (name :: dir) (.file (change content)))
    | none => .ok (d.put (name :: dir) (.file (change ByteArray.empty)))

def append (d : Disk) (path : String) (text : String) : Except DiskError Disk :=
  d.write path (· ++ text.toUTF8)

def empty (d : Disk) (path : String) : Except DiskError Disk := do
  discard <| d.read path
  d.write path fun _ => ByteArray.empty

/-- The text of a file, or why there is none. -/
def readText (d : Disk) (path : String) : Except String String :=
  match d.read path with
  | .error e => .error e.message
  | .ok content =>
    match Utf8.decode content.toList with
    | .ok s => .ok s
    | .error _ => .error "stream did not contain valid UTF-8"

end Disk

namespace Audit

def answerOf {α : Type} (d : Disk) (f : α → Answer × Disk) : Except DiskError α → Answer × Disk
  | .ok a => f a
  | .error e => (.failed e.message, d)

/-- The trail in the file tree: its directory and its file. -/
def diskBackend (dir file : String) : Backend Disk := fun op d =>
  match op with
  | .makeDir => answerOf d (fun d => (.done, d)) (d.makeDirs dir)
  | .size => answerOf d (fun n => (.size n, d)) (d.size file)
  | .empty => answerOf d (fun d => (.done, d)) (d.empty file)
  | .append line => answerOf d (fun d => (.done, d)) (d.append file line)

end Audit

end FleetDesk
