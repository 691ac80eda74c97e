import FleetDesk.Home
import FleetDesk.Text.Cut
import FleetDesk.Text.Redaction
import FleetDesk.Tool.Argument
import FleetDesk.World

/-!
# Running a command on a node

The output of the command is redacted first and cut afterwards, so a cut cannot uncover part of a
secret. Every request that was understood leaves one record, whether or not the node could be
reached.
-/

namespace FleetDesk.Exec

def toolName : String := "exec_on_node"

def defaultLimitSeconds : Nat := 60

def maxStdoutChars : Nat := 10000

def maxStderrChars : Nat := 2000

def auditedCommandChars : Nat := 200

/-- Reads a script from its input. -/
def scriptShell : String := "bash -s"

structure Request where
  ip : String
  command : String
  /-- In milliseconds. -/
  limit : Nat
  script : Option String
  deriving DecidableEq, Repr

def parse (args : Json) : Except Argument.Complaint Request := do
  let members ← Argument.object "arguments" args
  let ip ← Argument.trimmed "ip" (Argument.named "ip" args)
  let command ← Argument.plainText "command" (Json.member? "command" members)
  let limit ← Argument.timeLimit "timeout" defaultLimitSeconds (Json.member? "timeout" members)
  let script ← Argument.optional Argument.trimmed "scriptPath" (Json.member? "scriptPath" members)
  if script.isNone && Text.isBlankText command then .error ⟨"command", .nothingToRun⟩
  else .ok { ip, command, limit, script }

/-- What the node is asked to run: a script needs a shell if no command is given. -/
def Request.remoteText (r : Request) : String :=
  if r.script.isSome && Text.isBlankText r.command then scriptShell else r.command

/-- Redacted output of limited length. -/
structure Report where
  stdout : String
  stderr : String
  exitCode : Int
  truncated : Bool
  stderrTruncated : Bool
  deriving DecidableEq, Repr

def Report.ofOutput (o : Remote.Output) : Report :=
  let stdout := Text.cut (Text.redact o.stdout) maxStdoutChars
  let stderr := Text.cut (Text.redact o.stderr) maxStderrChars
  { stdout := stdout.kept, stderr := stderr.kept, exitCode := o.exitCode,
    truncated := stdout.shortened, stderrTruncated := stderr.shortened }

inductive Response where
  /-- The command ran to its end, whatever its exit code. -/
  | success (report : Report)
  | timeout (report : Report)
  | sshError (error : String)
  deriving DecidableEq, Repr

namespace Response

def status : Response → String
  | success _ => "success"
  | timeout _ => "timeout"
  | sshError _ => "ssh_error"

def ofOutput (o : Remote.Output) : Response :=
  if o.timedOut then timeout (.ofOutput o) else success (.ofOutput o)

def reportMembers (r : Report) : List (String × Json) :=
  [("stdout", .string r.stdout), ("stderr", .string r.stderr), ("exitCode", Json.int r.exitCode),
    ("truncated", .bool r.truncated), ("stderrTruncated", .bool r.stderrTruncated)]

def members (r : Response) : List (String × Json) :=
  ("status", .string r.status) ::
    match r with
    | success report | timeout report => reportMembers report
    | sshError error => [("error", .string error), ("exitCode", Json.int Remote.timeoutExitCode)]

def toJson (r : Response) : Json := Json.ofMembers r.members

/-- The response with its members in the order of its fields. -/
def toOrderedJson (r : Response) : Json := .object r.members

def ofResult : Except Remote.Failure Remote.Output → Response
  | .ok o => ofOutput o
  | .error f => sshError f.message

end Response

/-- The command for the node, unless it takes a script that cannot be read. -/
def Request.command? (w : World) (r : Request) : Except String Remote.Command :=
  match r.script with
  | none => .ok { host := r.ip, text := r.remoteText, limit := r.limit }
  | some path =>
    match w.script (Home.expand w.home path) with
    | .ok script =>
      .ok { host := r.ip, text := r.remoteText, stdin := some script, limit := r.limit }
    | .error why => .error ("Failed to read script " ++ path ++ ": " ++ why)

def responseFields : Response → List (String × Audit.Field)
  | .success r | .timeout r =>
    [("exitCode", .int r.exitCode), ("truncated", .flag r.truncated),
      ("stderrTruncated", .flag r.stderrTruncated)]
  | .sshError error => [("error", .text error)]

def record (r : Request) (response : Response) : Audit.Record where
  tool := toolName
  fields :=
    [("ip", .text r.ip),
      ("command", .text (Text.cut r.remoteText auditedCommandChars).kept)]
    ++ (r.script.map fun path => ("script", Audit.Field.text path)).toList
    ++ [("status", .text response.status)] ++ responseFields response

def entries (r : Request) : Response → List Log.Entry
  | .sshError error =>
    [{ level := .warn, source := toolName, message := "remote execution failed",
       details := some (Json.ofMembers [("ip", .string r.ip), ("error", .string error)]) }]
  | _ => []

/-- Runs the request, and records it before answering. -/
def Request.perform (w : World) (r : Request) : Response × List Event :=
  let (calls, response) := match r.command? w with
    | .ok c => ([Event.call (.run c)], Response.ofResult (w.run c))
    | .error why => ([], .sshError why)
  (response, calls ++ (entries r response).map .log ++ [.audit (record r response)])

def handle (w : World) (args : Json) : Outcome :=
  match parse args with
  | .error c => ⟨.error c.toFault, []⟩
  | .ok r =>
    let (response, events) := r.perform w
    ⟨.ok response.toJson, events⟩

end FleetDesk.Exec
