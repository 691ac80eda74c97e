import FleetDesk.Fleet.Address
import FleetDesk.Fleet.Request
import FleetDesk.Http
import FleetDesk.Json.Printer
import FleetDesk.Json.Reader
import FleetDesk.Log

/-!
# The client of the fleet backend

A request carries the access key and expects a JSON text, which is handed on whatever the status of
the response. All that goes wrong on the way is worth a retry, but for an access key that cannot be
sent.
-/

namespace FleetDesk.Fleet

structure Client where
  base : String
  accessKey : String
  deriving DecidableEq, Repr

/-- In milliseconds. -/
def timeLimit : Nat := 30000

def userAgent : String := "kaitu-ops/0.3.0"

/-- Why a request brought no JSON. -/
inductive ClientFlaw where
  | badAccessKey
  | timedOut
  | notSent (why : String)
  | notRead (why : String)
  | notJson (status : Nat) (url : String)
  deriving DecidableEq, Repr

def ClientFlaw.toFault : ClientFlaw → Fault
  | badAccessKey => Fault.of .invalidParams "center.access_key is not a valid header value"
  | timedOut =>
    Fault.of .timeout ("Center API request timed out after " ++ toString timeLimit ++ "ms")
  | notSent why => Fault.of .retryable ("Center API request failed: " ++ why)
  | notRead why => Fault.of .retryable ("Center API read failed: " ++ why)
  | notJson status url =>
    (Fault.of .retryable ("Center API returned non-JSON response (" ++ toString status ++ ")"))
      |>.withDetails (Json.ofMembers [("url", .string url)])

/-- A header holds no control characters but the tab. -/
def isHeaderChar (c : Char) : Bool := c = '\t' || (0x20 ≤ c.toNat && c.toNat != 0x7F)

/-- The URL that is dialled: it must be one of HTTP. -/
def target (url : String) : Except String Url :=
  match Url.parse url with
  | .error flaw => .error ("builder error: " ++ flaw.message)
  | .ok u =>
    if u.hasHost && (u.scheme = "http" || u.scheme = "https") then .ok u
    else .error ("builder error for url (" ++ u.text ++ "): URL scheme is not allowed")

namespace Client

def create (url accessKey : String) : Except AddressFlaw Client :=
  (address url).map fun b => ⟨b, accessKey⟩

def url (c : Client) (r : Request) : String := below c.base r.path

def headers (c : Client) : List (String × String) :=
  [("accept", "application/json"), ("content-type", "application/json"), ("user-agent", userAgent),
    ("x-access-key", c.accessKey)]

def message (c : Client) (target : Url) (r : Request) : Http.Request where
  method := r.method
  url := target.text
  headers := c.headers
  body := r.body.map Json.compact

def failed : Http.Failure → ClientFlaw
  | .timedOut => .timedOut
  | .notSent why => .notSent why
  | .notRead why => .notRead why

def request (c : Client) (transport : Http.Transport) (r : Request) : Except ClientFlaw Json := do
  if !c.accessKey.toList.all isHeaderChar then .error .badAccessKey
  else do
    let target ← (target (c.url r)).mapError .notSent
    let response ← (transport (c.message target r)).mapError failed
    match Json.parse? response.text with
    | some v => .ok v
    | none => .error (.notJson response.status (c.url r))

/-- What is noted before a request. -/
def entry (c : Client) (r : Request) : Log.Entry where
  level := .debug
  source := "center"
  message := "request"
  details := some (Json.ofMembers [("method", .string r.method), ("url", .string (c.url r))])

end Client

end FleetDesk.Fleet
