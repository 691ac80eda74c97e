import FleetDesk.Tool.Argument
import FleetDesk.World

/-!
# Deleting the record of a node

Removes what the backend knows of a node and touches nothing on the node. A refusal of the backend
is an answer, not a fault.
-/

namespace FleetDesk.Delete

def toolName : String := "delete_node"

def collection : String := "/app/nodes"

/-- The node that was to be deleted, and why it was not. -/
structure Response where
  ip : String
  error : Option String
  deriving DecidableEq, Repr

def Response.deleted (r : Response) : Bool := r.error.isNone

def Response.toJson (r : Response) : Json :=
  Json.ofMembers <|
    [("deleted", .bool r.deleted), ("ip", .string r.ip)]
    ++ (r.error.map fun e => ("error", Json.string e)).toList

def successCode : Int := 0

/-- Why the backend refused, unless its code is the one of success. -/
def refusal? (answer : Json) : Option String :=
  match ((answer.get? "code").bind Json.number?).bind Number.signed? with
  | some code =>
    if code = successCode then none
    else some (((answer.get? "message").bind Json.string?).getD
      ("Center API returned code " ++ toString code))
  | none =>
    some (((answer.get? "message").bind Json.string?).getD "Center API response has no code")

def outcome : Except Fault Json → Option String
  | .ok answer => refusal? answer
  | .error f => some f.message

def record (r : Response) : Audit.Record where
  tool := toolName
  fields :=
    [("ip", .text r.ip), ("deleted", .flag r.deleted)]
    ++ (r.error.map fun e => ("error", Audit.Field.text e)).toList

def entries (r : Response) : List Log.Entry :=
  (r.error.map fun e =>
    { level := Log.Level.info, source := toolName, message := "delete refused",
      details := some (Json.ofMembers [("ip", .string r.ip), ("error", .string e)]) }).toList

def request (ip : String) : Fleet.Request := .delete (collection ++ "/" ++ ip)

def perform (w : World) (ip : String) : Response × List Event :=
  let response : Response := ⟨ip, outcome (w.fleet (request ip))⟩
  (response, .call (.request (request ip)) :: (entries response).map .log
    ++ [.audit (record response)])

def parse (args : Json) : Except Argument.Complaint String :=
  Argument.address "ip" (Argument.named "ip" args)

def handle (w : World) (args : Json) : Outcome :=
  match parse args with
  | .error c => ⟨.error c.toFault, []⟩
  | .ok ip =>
    let (response, events) := perform w ip
    ⟨.ok response.toJson, events⟩

end FleetDesk.Delete
