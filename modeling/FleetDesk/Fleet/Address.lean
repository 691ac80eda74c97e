import FleetDesk.Fault
import FleetDesk.Text.Blank
import FleetDesk.Url.Reader

/-!
# The address of the fleet backend

The backend is named by a URL. Requests go below its base: the origin and the path of the URL,
without slashes at the end. Between the base and the path of a request stands exactly one slash.
-/

namespace FleetDesk.Fleet

/-- Why a text is no address. -/
inductive AddressFlaw where
  | missing
  | notUrl (text : String)
  deriving DecidableEq, Repr

def AddressFlaw.toFault : AddressFlaw → Fault
  | missing =>
    (Fault.of .invalidParams "center.url is required")
      |>.withHint "Set center.url, e.g. \"https://api.example.com\"."
  | notUrl text =>
    (Fault.of .invalidParams "Invalid center.url")
      |>.withHint "Expected a valid URL, e.g. \"https://api.example.com\"."
      |>.withDetails (Json.ofMembers [("url", .string text)])

def isSlash (c : Char) : Bool := c = '/'

def dropSlashesAtEnd (s : String) : String :=
  String.ofList (s.toList.reverse.dropWhile isSlash).reverse

def dropSlashesAtStart (s : String) : String := String.ofList (s.toList.dropWhile isSlash)

def baseOf (u : Url) : String := dropSlashesAtEnd (u.origin ++ u.withoutSearch.path.text)

/-- The base that a configured text stands for. -/
def address (raw : String) : Except AddressFlaw String :=
  let text := Text.trim raw
  if text = "" then .error .missing
  else match Url.parse text with
    | .error _ => .error (.notUrl text)
    | .ok u => .ok (baseOf u)

def below (base path : String) : String := base ++ "/" ++ dropSlashesAtStart path

end FleetDesk.Fleet
