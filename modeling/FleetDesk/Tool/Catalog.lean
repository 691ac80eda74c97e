import FleetDesk.Rpc.Message
import FleetDesk.Tool.Schema

/-!
# The catalog of tools

Four tools, each with a description and the schema of its arguments. `checkArguments` refuses
arguments that break the schema of a known tool; arguments of an unknown tool are not looked at
here.
-/

namespace FleetDesk

inductive Tool where
  | exec
  | ping
  | list
  | delete
  deriving DecidableEq, Repr

namespace Tool

def all : List Tool := [exec, ping, list, delete]

def name : Tool → String
  | exec => "exec_on_node"
  | ping => "ping_node"
  | list => "list_nodes"
  | delete => "delete_node"

def ofName? (name : String) : Option Tool := all.find? fun t => t.name = name

def description : Tool → String
  | exec =>
    "Execute a command on a Kaitu node via SSH. Output is redacted of secrets and truncated "
      ++ "(stdout 10000 chars, stderr 2000 chars). With scriptPath, the local script is piped to "
      ++ "the remote shell given by command (default \"bash -s\"). Returns status success, timeout "
      ++ "(partial output, exitCode -1) or ssh_error."
  | ping =>
    "Check if a Kaitu node is reachable via SSH. Returns latency on success, error on failure. "
      ++ "No command is executed."
  | list =>
    "List all Kaitu VPN nodes with their tunnels. Optionally filter by country or exact name. "
      ++ "Internal ids, status, timestamps and batch script results are never returned."
  | delete =>
    "Delete a node from Center. Use for decommissioned or inactive nodes. This removes only the "
      ++ "Center record; it does NOT stop containers or anything else running on the node."

def nodeAddress : Parameter where
  name := "ip"
  kind := .text
  rules := [.minLength 1]
  description := "Node IP address"

def schema : Tool → Schema
  | exec =>
    { parameters :=
        [{ name := "command", kind := .text,
           description := "Command to run. With scriptPath, the shell that reads the script "
             ++ "from stdin (empty means \"bash -s\")." },
          nodeAddress,
          { name := "scriptPath", kind := .text, rules := [.minLength 1],
            description := "Local script file to pipe to the remote shell via stdin" },
          { name := "timeout", kind := .number, rules := [.positive], default := some 60,
            description := "Timeout in seconds (default 60)" }],
      required := ["ip", "command"] }
  | ping => { parameters := [nodeAddress], required := ["ip"] }
  | list =>
    { parameters :=
        [{ name := "country", kind := .text,
           description := "Filter nodes by country code (e.g. \"jp\", \"sg\")" },
          { name := "name", kind := .text,
            description := "Filter nodes by exact node name (e.g. \"jp-01\")" }],
      required := [] }
  | delete =>
    { parameters :=
        [{ nodeAddress with
            rules := [.minLength 1, .addressChars], description := "Node IP address to delete" }],
      required := ["ip"] }

def toJson (t : Tool) : Json :=
  Json.ofMembers
    [("name", .string t.name), ("description", .string t.description),
      ("inputSchema", t.schema.toJson)]

theorem ofName?_name (t : Tool) : ofName? t.name = some t := by cases t <;> decide +kernel

end Tool

namespace Catalog

def names : List String := Tool.all.map Tool.name

def listing : Json := Json.ofMembers [("tools", .array (Tool.all.map Tool.toJson))]

def checkArguments (name : String) (args : Json) : Except Rpc.Error Unit :=
  match Tool.ofName? name with
  | none => .ok ()
  | some tool =>
    match tool.schema.violations args with
    | [] => .ok ()
    | vs => .error ⟨.invalidParams, tool.schema.report tool.name vs⟩

end Catalog

end FleetDesk
