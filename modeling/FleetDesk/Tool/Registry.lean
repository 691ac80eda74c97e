import FleetDesk.Text.Suggestion
import FleetDesk.Tool.Catalog
import FleetDesk.Tool.Delete
import FleetDesk.Tool.Exec
import FleetDesk.Tool.List
import FleetDesk.Tool.Ping

/-!
# Tools by name

A registry runs the handler of a name and logs how the call went. Of two handlers with one name the
later one counts. For a name without a handler the fault suggests others.
-/

namespace FleetDesk

structure Handler where
  name : String
  handle : Json → Outcome

abbrev Registry := List Handler

namespace Registry

def find? (r : Registry) (name : String) : Option Handler := r.reverse.find? (·.name = name)

/-- The names of the handlers in order, each once. -/
def names (r : Registry) : List String :=
  ((r.map Handler.name).mergeSort fun a b => !(b < a : Bool)).eraseDups

def unknownTool (r : Registry) (name : String) : Fault :=
  let hint := match Text.suggest name r.names 3 with
    | [] => "Available tools: " ++ ", ".intercalate r.names
    | suggestions => "Did you mean: " ++ ", ".intercalate suggestions
  (Fault.of .invalidParams ("Unknown tool: " ++ name)).withHint hint

def entry (callTime : Nat) (name : String) : Except Fault Json → Log.Entry
  | .ok _ =>
    { level := .debug, source := "executor", message := "tool call finished",
      details := some (Json.ofMembers
        [("tool", .string name), ("duration_ms", Json.nat callTime)]) }
  | .error f =>
    { level := .warn, source := "executor", message := "tool call failed",
      details := some (Json.ofMembers
        [("tool", .string name), ("duration_ms", Json.nat callTime), ("code", .string f.code),
          ("error", .string f.message)]) }

def execute (r : Registry) (callTime : Nat) (name : String) (args : Json) : Outcome :=
  match r.find? name with
  | none => ⟨.error (r.unknownTool name), []⟩
  | some h =>
    let o := h.handle args
    ⟨o.result, o.events ++ [.log (entry callTime name o.result)]⟩

end Registry

def Tool.handle (w : World) : Tool → Json → Outcome
  | exec => Exec.handle w
  | ping => Ping.handle w
  | list => Listing.handle w
  | delete => Delete.handle w

/-- The tools of the catalog, at work in a world. -/
def World.registry (w : World) : Registry := Tool.all.map fun t => ⟨t.name, t.handle w⟩

end FleetDesk
