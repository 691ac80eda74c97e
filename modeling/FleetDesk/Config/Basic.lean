import FleetDesk.Decimal.Port
import FleetDesk.Fault
import FleetDesk.Home

/-!
# Settings

The program has five settings. A source gives some of them: the environment first, the configuration
file second; for the private key there are places to look at last. `layer` takes each setting from
the first source that gives it, and says which ones nobody gives.
-/

namespace FleetDesk

inductive Setting where
  | url
  | accessKey
  | keyPath
  | user
  | port
  deriving DecidableEq, Repr

namespace Setting

def all : List Setting := [url, accessKey, keyPath, user, port]

/-- The place in the configuration file. -/
def place : Setting → String
  | url => "center.url"
  | accessKey => "center.access_key"
  | keyPath => "ssh.private_key_path"
  | user => "ssh.user"
  | port => "ssh.port"

/-- The variable of the environment. -/
def variableName : Setting → String
  | url => "KAITU_CENTER_URL"
  | accessKey => "KAITU_ACCESS_KEY"
  | keyPath => "KAITU_SSH_KEY"
  | user => "KAITU_SSH_USER"
  | port => "KAITU_SSH_PORT"

def describe (s : Setting) : String := s.place ++ " (" ++ s.variableName ++ ")"

end Setting

structure Config where
  url : String
  accessKey : String
  keyPath : String
  user : String
  port : Nat
  deriving DecidableEq, Repr

namespace Config

/-- The settings that a source gives. -/
structure Source where
  url : Option String := none
  accessKey : Option String := none
  keyPath : Option String := none
  user : Option String := none
  port : Option Nat := none
  deriving DecidableEq, Repr

namespace Source

/-- What the first source gives, and else the second. -/
def onto (a b : Source) : Source where
  url := a.url.or b.url
  accessKey := a.accessKey.or b.accessKey
  keyPath := a.keyPath.or b.keyPath
  user := a.user.or b.user
  port := a.port.or b.port

def gives (s : Source) : Setting → Bool
  | .url => s.url.isSome
  | .accessKey => s.accessKey.isSome
  | .keyPath => s.keyPath.isSome
  | .user => s.user.isSome
  | .port => s.port.isSome

def missing (s : Source) : List Setting := Setting.all.filter fun x => !s.gives x

def config? (s : Source) : Option Config := do
  let url ← s.url
  let accessKey ← s.accessKey
  let keyPath ← s.keyPath
  let user ← s.user
  let port ← s.port
  some ⟨url, accessKey, keyPath, user, port⟩

theorem config?_eq_none_iff {s : Source} : s.config? = none ↔ s.missing ≠ [] := by
  rcases s with ⟨_ | _, _ | _, _ | _, _ | _, _ | _⟩ <;>
    simp [config?, missing, gives, Setting.all]

theorem config?_eq_some_iff {s : Source} {c : Config} : s.config? = some c ↔
    s = ⟨some c.url, some c.accessKey, some c.keyPath, some c.user, some c.port⟩ := by
  rcases c with ⟨url, accessKey, keyPath, user, port⟩
  rcases s with ⟨_ | _, _ | _, _ | _, _ | _, _ | _⟩ <;> simp [config?]

end Source

/-- Why there is no configuration. -/
inductive Flaw where
  | unreadable (path : String) (why : String)
  | malformed (path : String) (why : String)
  | badPort (raw : String)
  | missing (settings : List Setting) (path : String)
  deriving DecidableEq, Repr

namespace Flaw

def toFault : Flaw → Fault
  | unreadable path why => Fault.of .internal ("Failed to read config " ++ path ++ ": " ++ why)
  | malformed path why => Fault.of .invalidParams ("Invalid config " ++ path ++ ": " ++ why)
  | badPort raw =>
    Fault.of .invalidParams (Setting.port.variableName ++ " must be a port number, got " ++ raw)
  | missing settings path =>
    (Fault.of .invalidParams
      ("Config is missing required fields: " ++ ", ".intercalate (settings.map Setting.describe)))
      |>.withHint ("Set them in " ++ path ++ " or via environment variables.")

end Flaw

/-- The settings that variables give; all but the port are taken as they are. -/
def ofVariables (lookup : String → Option String) : Except Flaw Source := do
  let port ← match lookup Setting.port.variableName with
    | none => .ok none
    | some raw =>
      match port? raw with
      | some n => .ok (some n)
      | none => .error (.badPort raw)
  .ok
    { url := lookup Setting.url.variableName
      accessKey := lookup Setting.accessKey.variableName
      keyPath := lookup Setting.keyPath.variableName
      user := lookup Setting.user.variableName
      port }

/-- Takes a key path below the home directory, or the spare key if none is given. -/
def Source.withKey (home spareKey : Option String) (s : Source) : Source :=
  { s with keyPath := (s.keyPath.map (Home.expand home)).or spareKey }

/-- The configuration from the variables over the file; `path` is where the file is. -/
def layer (lookup : String → Option String) (home spareKey : Option String) (path : String)
    (file : Source) : Except Flaw Config := do
  let given ← ofVariables lookup
  let source := (given.onto file).withKey home spareKey
  match source.config? with
  | some config => .ok config
  | none => .error (.missing source.missing path)

end Config

end FleetDesk
