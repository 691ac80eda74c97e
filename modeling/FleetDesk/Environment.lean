import FleetDesk.Text.Utf8

/-!
# The environment of the program

Variables and the working directory. The value of a variable need not be text; only those that are
can be read as one.
-/

namespace FleetDesk

/-- A text of the operating system: UTF-8, or bytes that are not. -/
inductive OsText where
  | text (s : String)
  | bytes (bs : List UInt8)
  deriving DecidableEq, Repr

def OsText.text? : OsText → Option String
  | text s => some s
  | bytes _ => none

/-- For people to read. -/
def OsText.display : OsText → String
  | text s => s
  | bytes bs => Utf8.decodeLossy bs

structure Environment where
  raw? : String → Option OsText
  workingDir : String

namespace Environment

def text? (env : Environment) (name : String) : Option String := (env.raw? name).bind OsText.text?

end Environment

end FleetDesk
