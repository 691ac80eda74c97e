import FleetDesk.Node.Listing
import FleetDesk.Tool.Argument
import FleetDesk.World

/-!
# Listing the nodes of the fleet

The only tool whose failures are faults: without an answer from the backend, or without one that can
be read, there is no list, and no record either.
-/

namespace FleetDesk.Listing

def toolName : String := "list_nodes"

def path : String := "/app/nodes/batch-matrix"

def parse (args : Json) : Except Argument.Complaint Node.Filter := do
  let country ← Argument.optional Argument.nonBlank "country" (args.get? "country")
  let name ← Argument.optional Argument.nonBlank "name" (args.get? "name")
  .ok { country, name }

def record (filter : Node.Filter) (nodes : List Node) : Audit.Record where
  tool := toolName
  fields := [("filter", .text filter.describe), ("count", .count nodes.length)]

def entry (f : Fault) : Log.Entry where
  level := .error
  source := toolName
  message := "batch-matrix contract violation"
  details := some (Json.ofMembers [("error", .string f.message)])

def perform (w : World) (filter : Node.Filter) : Except Fault (List Node) × List Event :=
  let call := Event.call (.request (.get path))
  match w.fleet (.get path) with
  | .error f => (.error f, [call])
  | .ok answer =>
    match Node.list answer filter with
    | .error e => (.error e.toFault, [call, .log (entry e.toFault)])
    | .ok nodes => (.ok nodes, [call, .audit (record filter nodes)])

def handle (w : World) (args : Json) : Outcome :=
  match parse args with
  | .error c => ⟨.error c.toFault, []⟩
  | .ok filter =>
    let (result, events) := perform w filter
    ⟨result.map fun nodes => .array (nodes.map Node.toJson), events⟩

end FleetDesk.Listing
