import FleetDesk.Tool.Argument
import FleetDesk.World

/-!
# Asking whether a node can be reached

A connection with authentication and nothing more. How long a failing one took is recorded, but not
told to the caller.
-/

namespace FleetDesk.Ping

def toolName : String := "ping_node"

inductive Response where
  | reachable (latency : Nat)
  | unreachable (error : String)
  deriving DecidableEq, Repr

namespace Response

def ofProbe : Except Remote.Failure Nat → Response
  | .ok latency => reachable latency
  | .error f => unreachable f.message

def toJson : Response → Json
  | reachable latency => Json.ofMembers [("reachable", .bool true), ("latencyMs", Json.nat latency)]
  | unreachable error => Json.ofMembers [("reachable", .bool false), ("error", .string error)]

end Response

def record (w : World) (ip : String) (response : Response) : Audit.Record where
  tool := toolName
  fields := ("ip", .text ip) ::
    match response with
    | .reachable latency => [("reachable", .flag true), ("latencyMs", .count latency)]
    | .unreachable error =>
      [("reachable", .flag false), ("latencyMs", .count w.probeTime), ("error", .text error)]

def entries (ip : String) : Response → List Log.Entry
  | .reachable _ => []
  | .unreachable error =>
    [{ level := .debug, source := toolName, message := "node unreachable",
       details := some (Json.ofMembers [("ip", .string ip), ("error", .string error)]) }]

def parse (args : Json) : Except Argument.Complaint String :=
  Argument.trimmed "ip" (Argument.named "ip" args)

def perform (w : World) (ip : String) : Response × List Event :=
  let response := Response.ofProbe (w.probe ip)
  (response, .call (.probe ip) :: (entries ip response).map .log ++ [.audit (record w ip response)])

def handle (w : World) (args : Json) : Outcome :=
  match parse args with
  | .error c => ⟨.error c.toFault, []⟩
  | .ok ip =>
    let (response, events) := perform w ip
    ⟨.ok response.toJson, events⟩

end FleetDesk.Ping
