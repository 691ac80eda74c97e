import FleetDesk.Config.Document
import FleetDesk.Disk

/-!
# Loading the configuration

A file that is not there gives no settings; one that cannot be read or understood is a flaw, and
comes before every other.
-/

namespace FleetDesk

/-- The trimmed text of a variable, unless that is empty. -/
def Environment.trimmed? (env : Environment) (name : String) : Option String :=
  ((env.text? name).map Text.trim).filter (· != "")

namespace Config

/-- What was found where the configuration file should be. -/
inductive Found where
  | nothing
  | unreadable (why : String)
  | text (s : String)
  deriving DecidableEq, Repr

def Source.ofFound (path : String) : Found → Except Flaw Source
  | .nothing => .ok {}
  | .unreadable why => .error (.unreadable path why)
  | .text s => (Source.ofDocument s).mapError fun m => .malformed path m.message

def load (lookup : String → Option String) (home spareKey : Option String) (path : String)
    (found : Found) : Except Flaw Config := do
  let file ← Source.ofFound path found
  layer lookup home spareKey path file

/-- What a file tree holds at a path; a path that is no text leads nowhere. -/
def Found.onDisk (d : Disk) : OsText → Found
  | .bytes _ => .nothing
  | .text path =>
    match d.read path with
    | .error .notFound => .nothing
    | _ =>
      match d.readText path with
      | .ok s => .text s
      | .error why => .unreadable why

/-- The first of the usual private keys that is there. -/
def spareKey (env : Environment) (d : Disk) : Option String :=
  (Home.keyCandidates env).find? d.isFile

/-- Loads from a file tree. -/
def loadFrom (env : Environment) (lookup : String → Option String) (d : Disk) (path : OsText) :
    Except Flaw Config :=
  load lookup env.home? (spareKey env d) path.display (Found.onDisk d path)

end Config

end FleetDesk
