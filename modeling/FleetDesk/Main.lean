import FleetDesk.Program.Stamp
import FleetDesk.Program.Transcript
import Std.Time.DateTime.Timestamp

/-!
# The program

Carries out on this machine what the library decides: reads the environment, the configuration and
the standard input, keeps the trail in its file, and writes answers and notes. It has no way to the
network.
-/

namespace FleetDesk.Program

def variableNames : List String :=
  ["HOME", "KAITU_OPS_CONFIG", "KAITU_OPS_AUDIT_DIR", "KAITU_OPS_LOG_LEVEL", "LOG_LEVEL"]
    ++ Setting.all.map Setting.variableName

def readEnvironment : IO Environment := do
  let values ← variableNames.mapM fun name => do
    let value ← IO.getEnv name
    pure (name, value.map OsText.text)
  let dir ← IO.currentDir
  pure { raw? := fun name => (values.lookup name).join, workingDir := dir.toString }

def describe : IO.Error → String
  | .noFileOrDirectory .. => DiskError.notFound.message
  | .alreadyExists .. => DiskError.occupied.message
  | .permissionDenied .. => "Permission denied (os error 13)"
  | e => toString e

/-- The text of a file, or why there is none. -/
def readText (path : String) : IO (Except String String) := do
  try
    let content ← IO.FS.readBinFile path
    match Utf8.decode content.toList with
    | .ok s => pure (.ok s)
    | .error _ => pure (.error "stream did not contain valid UTF-8")
  catch e => pure (.error (describe e))

def isFile (path : String) : IO Bool := do
  try
    discard (IO.FS.readBinFile path)
    pure true
  catch _ => pure false

def readConfig : OsText → IO Config.Found
  | .bytes _ => pure .nothing
  | .text path => do
    match ← readText path with
    | .ok s => pure (.text s)
    | .error why => pure (if why = DiskError.notFound.message then .nothing else .unreadable why)

def startup (env : Environment) (explicit : Option OsText) : IO Startup := do
  let path := Home.configPath env explicit
  let found ← readConfig path
  let keys ← (Home.keyCandidates env).filterM (isFile ·)
  pure <| Startup.ofConfig (Home.auditDir env) path.display <|
    Config.load env.trimmed? env.home? keys.head? path.display found

def now : IO Stamp.Moment := do
  let t ← Std.Time.Timestamp.now
  pure (.ofNanoseconds t.toNanosecondsSinceUnixEpoch.toInt.toNat)

/-! ### The trail -/

def answered (act : IO Audit.Answer) : IO Audit.Answer := do
  try act catch e => pure (.failed (describe e))

def performOp (dir file : String) : Audit.Op → IO Audit.Answer
  | .makeDir => answered do
    IO.FS.createDirAll dir
    pure .done
  | .size => answered do
    let content ← IO.FS.readBinFile file
    pure (.size content.size)
  | .empty => answered do
    IO.FS.writeFile file ""
    pure .done
  | .append line => answered do
    let handle ← IO.FS.Handle.mk file .append
    handle.putStr line
    handle.flush
    pure .done

partial def write (dir file : String) (w : Audit.Writer) : IO Audit.Verdict :=
  match w.next? with
  | none => pure w.verdict
  | some op => do
    let answer ← performOp dir file op
    write dir file (w.advance answer)

/-! ### Serving -/

def note (env : Environment) (entries : List Log.Entry) : IO Unit := do
  let moment ← now
  IO.eprint (renderEntries env moment.note entries)

def meet (env : Environment) (desk : Desk) (w : World) (tally : Audit.Tally) :
    Event → IO Audit.Tally
  | .log e => do
    note env [e]
    pure tally
  | .call c => do
    note env (callEntries desk w c)
    pure tally
  | .audit r => do
    let moment ← now
    let verdict ← write desk.auditDir desk.auditFile (.start (r.render moment.record))
    note env (recordEntries r.tool verdict)
    pure (tally.add verdict)

/-- The script that a line asks for, if it calls for one. -/
def scriptOf? (line : String) : Option String :=
  match Rpc.decide line with
  | .call _ tool args =>
    if tool = Exec.toolName then ((Exec.parse args).toOption).bind Exec.Request.script else none
  | _ => none

def handle (env : Environment) (desk : Desk) (tally : Audit.Tally) (line : String) :
    IO Audit.Tally := do
  let script ← match scriptOf? line with
    | some path => readText (Home.expand env.home? path)
    | none => pure (.error DiskError.notFound.message)
  let w := desk.world Network.offline env.home? fun _ => script
  let (reply, events) := Rpc.handleLine w line
  let tally ← events.foldlM (meet env desk w) tally
  if let some reply := reply then
    let out ← IO.getStdout
    out.putStr reply.line
    out.flush
  pure tally

/-- The bytes up to a line feed, with it, or up to the end. -/
partial def readLine (input : IO.FS.Stream) (acc : List UInt8) : IO (List UInt8) := do
  let chunk ← input.read 1
  match chunk.toList with
  | [] => pure acc.reverse
  | b :: _ => if b = Rpc.lineFeed then pure (b :: acc).reverse else readLine input (b :: acc)

/-- Serves to the end of the input; gives what is wrong with its last line. -/
partial def serveInput (env : Environment) (desk : Desk) (tally : Audit.Tally) :
    IO (Audit.Tally × Option Utf8.Flaw) := do
  let line ← readLine (← IO.getStdin) []
  if line.isEmpty then pure (tally, none)
  else match Rpc.lineText line with
    | .ok text => serveInput env desk (← handle env desk tally text)
    | .error flaw => pure (tally, some flaw)

def serveDesk (env : Environment) (desk : Desk) : IO UInt32 := do
  note env [servingEntry]
  let (tally, flaw) ← serveInput env desk {}
  note env [closedEntry tally]
  match flaw with
  | none => pure 0
  | some flaw => do
    IO.eprint (lastWords (Rpc.brokenInput flaw))
    pure 1

def begin (explicit : Option OsText) : IO UInt32 := do
  let env ← readEnvironment
  let startup ← startup env explicit
  note env startup.entries
  match startup.desk with
  | .error f => do
    IO.eprint (lastWords f)
    pure 1
  | .ok desk => serveDesk env desk

def launch (args : List String) : IO UInt32 := do
  match CommandLine.read (args.map OsText.text) with
  | .error m => do
    IO.eprint m.text
    pure 2
  | .ok .help => do
    IO.print CommandLine.helpText
    pure 0
  | .ok .version => do
    IO.print CommandLine.versionText
    pure 0
  | .ok (.serve explicit) => begin explicit

end FleetDesk.Program

def main (args : List String) : IO UInt32 := FleetDesk.Program.launch args
