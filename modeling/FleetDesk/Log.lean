import FleetDesk.Environment
import FleetDesk.Json.Printer
import FleetDesk.Text.Blank

/-!
# Diagnostics

An entry has a level, the part of the program it comes from, a message and optional details. A
logger shows the entries up to its level, each on a line of its own.
-/

namespace FleetDesk.Log

inductive Level where
  | error
  | warn
  | info
  | debug
  deriving DecidableEq, Repr

namespace Level

def rank : Level → Nat
  | error => 0
  | warn => 1
  | info => 2
  | debug => 3

def label : Level → String
  | error => "ERROR"
  | warn => "WARN"
  | info => "INFO"
  | debug => "DEBUG"

/-- A level by its name in any case, blanks around it ignored. -/
def parse? (raw : String) : Option Level :=
  let word := String.ofList ((Text.trimChars raw.toList).map Char.toLower)
  if word = "error" then some error
  else if word = "warn" || word = "warning" then some warn
  else if word = "info" then some info
  else if word = "debug" || word = "trace" then some debug
  else none

/-- The first variable that names a level decides. -/
def ofEnvironment (env : Environment) : Level :=
  let named := ["KAITU_OPS_LOG_LEVEL", "LOG_LEVEL"].findSome? fun name =>
    (env.text? name).bind parse?
  named.getD info

end Level

structure Entry where
  level : Level
  /-- The part of the program, empty for the program itself. -/
  source : String
  message : String
  details : Option Json := none

structure Logger where
  context : String
  level : Level
  deriving DecidableEq, Repr

namespace Logger

def child (l : Logger) (part : String) : Logger :=
  if part = "" then l else { l with context := l.context ++ ":" ++ part }

def enabled (l : Logger) (level : Level) : Bool := level.rank ≤ l.level.rank

/-- The line of a message; details that are null are left out. -/
def line (l : Logger) (timestamp : String) (level : Level) (message : String)
    (details : Option Json) : String :=
  let shown := match details with
    | none | some .null => ""
    | some v => " " ++ v.compact
  "[" ++ timestamp ++ "] " ++ level.label ++ " [" ++ l.context ++ "] " ++ message ++ shown

/-- The line of an entry, if the logger shows it. -/
def line? (l : Logger) (timestamp : String) (e : Entry) : Option String :=
  if l.enabled e.level then some ((l.child e.source).line timestamp e.level e.message e.details)
  else none

end Logger

end FleetDesk.Log
