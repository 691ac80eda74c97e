import FleetDesk.Environment
import FleetDesk.Path
import FleetDesk.Text.Blank

/-!
# Where the program keeps its files

The home directory is `HOME` unless that is blank. A path that is `~` or starts with `~/` is taken
below it; without a home directory such a path stays as it is.
-/

namespace FleetDesk

namespace Environment

def home? (env : Environment) : Option String :=
  (env.text? "HOME").filter fun home => !Text.isBlankText home

end Environment

namespace Home

def opsDirName : String := ".kaitu-ops"

def configFileName : String := "config.toml"

/-- The path with a leading `~` replaced by the home directory. -/
def expand (home : Option String) (path : String) : String :=
  match home with
  | none => path
  | some home =>
    match path.toList with
    | ['~'] => home
    | '~' :: '/' :: rest => Path.join home (String.ofList rest)
    | _ => path

/-- A path that is no text stays as it is. -/
def expandOs (home : Option String) : OsText → OsText
  | .text path => .text (expand home path)
  | .bytes bs => .bytes bs

def opsDir (env : Environment) : String :=
  Path.join (env.home?.getD env.workingDir) opsDirName

/-- A path from a variable, unless that is unset or blank. -/
def pathVariable? (env : Environment) (name : String) : Option String :=
  match env.text? name with
  | none => none
  | some raw => if Text.isBlankText raw then none else some (expand env.home? (Text.trim raw))

def auditDir (env : Environment) : String :=
  (pathVariable? env "KAITU_OPS_AUDIT_DIR").getD (opsDir env)

def configPath (env : Environment) : Option OsText → OsText
  | some path => expandOs env.home? path
  | none =>
    .text ((pathVariable? env "KAITU_OPS_CONFIG").getD (Path.join (opsDir env) configFileName))

/-- The private keys that are tried when none is named. -/
def keyCandidates (env : Environment) : List String :=
  match env.home? with
  | none => []
  | some home =>
    let dir := Path.join home ".ssh"
    [Path.join dir "id_ed25519", Path.join dir "id_rsa"]

end Home

end FleetDesk
