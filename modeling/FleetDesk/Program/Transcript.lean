import FleetDesk.Program.CommandLine
import FleetDesk.Program.Startup
import FleetDesk.Rpc.Stream

/-!
# A run of the program

A run reads the standard input to its end and leaves behind what it wrote to the standard output,
what it noted, its exit code and the file tree. The calls to the network and the records of the
trail leave notes too.
-/

namespace FleetDesk.Program

/-- What the program notes of a call, with what came of it. -/
def callEntries (desk : Desk) (w : World) : Call → List Log.Entry
  | .probe _ => []
  | .request r => [desk.client.entry r]
  | .run c =>
    let begun : Log.Entry :=
      { level := .debug
        source := "ssh"
        message := "exec"
        details := some <|
          Json.ofMembers
            [("host", .string c.host), ("timeout_ms", Json.nat c.limit),
              ("stdin", .bool c.stdin.isSome)] }
    match w.run c with
    | .ok _ => [begun]
    | .error failure =>
      [begun,
        { level := .warn
          source := "ssh"
          message := "exec failed"
          details := some <|
            Json.ofMembers [("host", .string c.host), ("error", .string failure.message)] }]

/-- A record that was lost because a file operation failed leaves a note. -/
def recordEntries (tool : String) : Audit.Verdict → List Log.Entry
  | .failed why =>
    [{ level := .debug
       source := "audit"
       message := "audit write dropped"
       details := some (Json.ofMembers [("tool", .string tool), ("error", .string why)]) }]
  | _ => []

def servingEntry : Log.Entry := { level := .info, source := "", message := "serving on stdio" }

def summary (t : Audit.Tally) : Json := Json.ofMembers [("audit", t.toJson)]

def closedEntry (t : Audit.Tally) : Log.Entry :=
  { level := .info, source := "", message := "stdin closed", details := some (summary t) }

/-- The last words of a program that could not go on. -/
def lastWords (f : Fault) : String :=
  CommandLine.programName ++ ": " ++ f.message ++ "\n" ++ (f.hint.map (· ++ "\n")).getD ""

/-! ### On a file tree -/

/-- The trail and what has been noted and answered, both in order. -/
structure State where
  trail : Audit.Trail Disk
  entries : List Log.Entry := []
  output : String := ""

/-- The moments that are written in front of notes and records. -/
structure Stamps where
  note : String
  record : String

def State.note (s : State) (entries : List Log.Entry) : State :=
  { s with entries := s.entries ++ entries }

def State.meet (desk : Desk) (w : World) (stamps : Stamps) (s : State) : Event → State
  | .log e => s.note [e]
  | .call c => s.note (callEntries desk w c)
  | .audit r =>
    let (trail, run) := Audit.Trail.record (Audit.diskBackend desk.auditDir desk.auditFile) s.trail
      (r.render stamps.record)
    { s with trail }.note (recordEntries r.tool run.verdict)

def State.handle (desk : Desk) (net : Network) (home : Option String) (stamps : Stamps) (s : State)
    (line : String) : State :=
  let w := desk.world net home s.trail.store.readText
  let (reply, events) := Rpc.handleLine w line
  let s := events.foldl (meet desk w stamps) s
  { s with output := s.output ++ Rpc.written reply }

structure Transcript where
  exit : Nat
  stdout : String
  stderr : String
  disk : Disk

def renderEntries (env : Environment) (stamp : String) (entries : List Log.Entry) : String :=
  let logger : Log.Logger := ⟨CommandLine.programName, Log.Level.ofEnvironment env⟩
  String.join ((entries.filterMap (logger.line? stamp)).map (· ++ "\n"))

/-- Serves the standard input once the desk is ready. -/
def serve (net : Network) (env : Environment) (stamps : Stamps) (d : Disk) (startup : Startup)
    (desk : Desk) (stdin : List UInt8) : Transcript :=
  let start : State := { trail := { store := d }, entries := startup.entries ++ [servingEntry] }
  let (s, flaw) := Rpc.feed (State.handle desk net env.home? stamps) start stdin
  let s := s.note [closedEntry s.trail.tally]
  let notes := renderEntries env stamps.note s.entries
  { exit := if flaw.isSome then 1 else 0
    stdout := s.output
    stderr := notes ++ (flaw.map fun f => lastWords (Rpc.brokenInput f)).getD ""
    disk := s.trail.store }

def run (net : Network) (env : Environment) (stamps : Stamps) (d : Disk) (args : List OsText)
    (stdin : List UInt8) : Transcript :=
  match CommandLine.read args with
  | .error m => ⟨2, "", m.text, d⟩
  | .ok .help => ⟨0, CommandLine.helpText, "", d⟩
  | .ok .version => ⟨0, CommandLine.versionText, "", d⟩
  | .ok (.serve explicit) =>
    let startup := Startup.start env d explicit
    match startup.desk with
    | .error f => ⟨1, "", renderEntries env stamps.note startup.entries ++ lastWords f, d⟩
    | .ok desk => serve net env stamps d startup desk stdin

end FleetDesk.Program
