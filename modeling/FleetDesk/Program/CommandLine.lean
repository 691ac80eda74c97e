import FleetDesk.Environment
import FleetDesk.Text.Similarity
import FleetDesk.Text.Split

/-!
# The command line

There is one option, and two flags that ask for a text. Arguments are read in order, and the first
that asks for a text, or is misused, decides. The value of the option may follow it, or be attached
with an equals sign; a value that follows does not start with a hyphen, and is looked at only when
the next option comes or the arguments end.
-/

namespace FleetDesk.CommandLine

def programName : String := "kaitu-ops"

def programVersion : String := "0.3.0"

inductive Flag where
  | config
  | help
  | version
  deriving DecidableEq, Repr

namespace Flag

def all : List Flag := [config, help, version]

def name : Flag → String
  | config => "config"
  | help => "help"
  | version => "version"

def dashed (f : Flag) : String := "--" ++ f.name

/-- How the flag is shown in a usage line. -/
def usage : Flag → String
  | config => "--config <CONFIG>"
  | f => f.dashed

def ofName? (name : String) : Option Flag := all.find? (·.name = name)

def ofLetter? (c : Char) : Option Flag :=
  if c = 'h' then some help else if c = 'V' then some version else none

/-- The flag most similar to a name, if any is similar enough. -/
def similar? (name : String) : Option Flag :=
  let scored := all.map fun f => (f, Text.similarity name.toList f.name.toList)
  let close := scored.filter fun (_, num, den) => 7 * den < 10 * num
  let best := close.foldl (fun (best : Option (Flag × Nat × Nat)) x =>
    match best with
    | some (f, num, den) => if x.2.1 * den < num * x.2.2 then some (f, num, den) else some x
    | none => some x) none
  best.map Prod.fst

end Flag

inductive Request where
  | help
  | version
  | serve (config : Option OsText)
  deriving DecidableEq, Repr

inductive Misuse where
  | unexpected (arg : String) (similar : Option Flag) (used : List Flag)
  | noValue
  | repeated
  | attached (value : String) (flag : Flag) (used : List Flag)
  deriving DecidableEq, Repr

/-! ### Texts -/

def usageLine (used : List Flag) : String :=
  let shown := if used.isEmpty then "[OPTIONS]" else " ".intercalate (used.map Flag.usage)
  "Usage: " ++ programName ++ " " ++ shown ++ "\n"

def helpText : String :=
  "MCP tool server for Kaitu fleet operations over stdio\n\n" ++ usageLine [] ++ "\n"
    ++ "Options:\n"
    ++ "      --config <CONFIG>  "
    ++ "Config file (default: $KAITU_OPS_CONFIG or ~/.kaitu-ops/config.toml)\n"
    ++ "  -h, --help             Print help\n"
    ++ "  -V, --version          Print version\n"

def versionText : String := programName ++ " " ++ programVersion ++ "\n"

def Misuse.complaint : Misuse → String
  | unexpected arg none used =>
    "unexpected argument '" ++ arg ++ "' found\n\n" ++ usageLine used
  | unexpected arg (some flag) used =>
    "unexpected argument '" ++ arg ++ "' found\n\n  tip: a similar argument exists: '"
      ++ flag.dashed ++ "'\n\n" ++ usageLine used
  | noValue =>
    "a value is required for '" ++ Flag.config.usage ++ "' but none was supplied\n"
  | repeated =>
    "the argument '" ++ Flag.config.usage ++ "' cannot be used multiple times\n\n" ++ usageLine []
  | attached value flag used =>
    "unexpected value '" ++ value ++ "' for '" ++ flag.usage
      ++ "' found; no more were expected\n\n" ++ usageLine used

def Misuse.text (m : Misuse) : String :=
  "error: " ++ m.complaint ++ "\nFor more information, try '--help'.\n"

/-! ### Reading -/

/-- What is read so far: the value of the option, and the option once more if it is still open, with
the value that follows it. -/
structure Reading where
  config : Option OsText := none
  pending : Option (Option OsText) := none

namespace Reading

/-- Takes up the value of the open option. -/
def settle (r : Reading) : Except Misuse Reading :=
  match r.pending with
  | none => .ok r
  | some none => .error .noValue
  | some (some value) =>
    if r.config.isSome then .error .repeated
    else if value = .text "" then .error .noValue
    else .ok { config := some value }

/-- The flags that a usage line shows once the open option has been taken up as far as it goes. -/
def used (r : Reading) : List Flag :=
  match r.pending with
  | some (some _) => if r.config.isSome then [] else [.config]
  | _ => if r.config.isSome then [.config] else []

end Reading

/-- The bytes of a value that is attached to a flag. -/
def attachedValue (arg : OsText) (flag : Flag) (value : List Char) : OsText :=
  match arg with
  | .text _ => .text (String.ofList value)
  | .bytes bs => .bytes (bs.drop (flag.dashed.length + 1))

def asked : Flag → Request
  | .version => .version
  | _ => .help

/-- What a long argument does: it ends the reading, or leaves the option open or settled. -/
def readLong (r : Reading) (arg : OsText) (cs : List Char) : Except Misuse (Reading ⊕ Request) := do
  let (name, value) := Text.cutAt '=' cs
  match Flag.ofName? (String.ofList name), value with
  | none, _ =>
    let similar := Flag.similar? (String.ofList name)
    let used := r.used ++ similar.toList.filter (!r.used.contains ·)
    .error (.unexpected ("--" ++ String.ofList name) similar used)
  | some .config, none => do
    let r ← r.settle
    .ok (.inl { r with pending := some none })
  | some .config, some value => do
    let r ← r.settle
    let r ← { r with pending := some (some (attachedValue arg .config value)) : Reading }.settle
    .ok (.inl r)
  | some flag, none => do
    let _ ← r.settle
    .ok (.inr (asked flag))
  | some flag, some value =>
    let used := if r.config.isSome then [Flag.config, flag] else [flag]
    .error (.attached (String.ofList value) flag used)

/-- The first letter behind a single hyphen decides. -/
def readShort (r : Reading) (c : Char) : Except Misuse Request :=
  match Flag.ofLetter? c with
  | some flag => r.settle.map fun _ => asked flag
  | none => .error (.unexpected (String.ofList ['-', c]) none [])

/-- Reads on; behind two hyphens on their own, no argument is taken. -/
def readFrom (r : Reading) (closed : Bool) : List OsText → Except Misuse Request
  | [] => r.settle.map fun r => .serve r.config
  | arg :: args =>
    let stray := Misuse.unexpected arg.display none []
    if closed then .error stray
    else match arg.display.toList with
      | ['-', '-'] => readFrom r true args
      | '-' :: '-' :: cs => do
        match ← readLong r arg cs with
        | .inl r => readFrom r false args
        | .inr request => .ok request
      | '-' :: c :: _ => readShort r c
      | _ =>
        match r.pending with
        | some none => readFrom { r with pending := some (some arg) } false args
        | _ => .error stray

def read (args : List OsText) : Except Misuse Request := readFrom {} false args

end FleetDesk.CommandLine
