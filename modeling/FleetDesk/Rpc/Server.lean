import FleetDesk.Json.Reader
import FleetDesk.Tool.Registry

/-!
# Answering a line

A line is decided first: it is passed over, answered at once, or asks for a tool to be called. Only
in the last case anything happens in the world. A request without an id is never answered, and its
tool never called.
-/

namespace FleetDesk.Rpc

inductive Action where
  | silence
  | answer (reply : Reply)
  /-- The arguments have passed the schema of the tool. -/
  | call (id : Json) (tool : String) (args : Json)

def protocolVersion : String := "2025-06-18"

def serverName : String := "kaitu-ops"

def serverVersion : String := "0.3.0"

def greeting : Json :=
  Json.ofMembers
    [("protocolVersion", .string protocolVersion),
      ("capabilities", Json.ofMembers [("tools", Json.ofMembers [])]),
      ("serverInfo",
        Json.ofMembers [("name", .string serverName), ("version", .string serverVersion)])]

/-- A tool and its arguments; without arguments the empty object stands for them. -/
def decideCall (params : Json) : Except Error (String × Json) :=
  match CallParams.read params with
  | .error m => .error ⟨.invalidParams, "Invalid tools/call params: " ++ m.message⟩
  | .ok p =>
    if Text.isBlankText p.name then .error ⟨.invalidParams, "Missing tool name"⟩
    else
      let args := p.arguments.getD (.object [])
      (Catalog.checkArguments p.name args).map fun _ => (p.name, args)

def notificationStart : List Char := "notifications/".toList

def decideRequest (r : Request) : Action :=
  if notificationStart.isPrefixOf r.method.toList then .silence
  else match r.id with
    | none => .silence
    | some id =>
      if r.method = "initialize" then .answer (.success id greeting)
      else if r.method = "ping" then .answer (.success id (Json.ofMembers []))
      else if r.method = "tools/list" then .answer (.success id Catalog.listing)
      else if r.method = "tools/call" then
        match decideCall r.params with
        | .ok (name, args) => .call id name args
        | .error e => .answer (.failure id e)
      else .answer (.failure id ⟨.methodNotFound, "Method not found"⟩)

def decide (line : String) : Action :=
  let text := Text.trim line
  if text = "" then .silence
  else match Json.parse? text with
    | none => .answer (.failure .null ⟨.parseError, "Parse error"⟩)
    | some v =>
      match Request.read v with
      | .error _ => .answer (.failure .null ⟨.invalidRequest, "Invalid request"⟩)
      | .ok r => decideRequest r

/-- The text that stands for the value of a tool; the list of nodes is written over several lines.
-/
def resultText (tool : String) (v : Json) : String :=
  if tool = Listing.toolName then v.pretty else v.compact

def toolReply (id : Json) (tool : String) : Except Fault Json → Reply
  | .ok v => .success id (TextResult.toJson Json.ofMembers { text := resultText tool v })
  | .error f => .failure id (.ofFault tool f)

def perform (w : World) : Action → Option Reply × List Event
  | .silence => (none, [])
  | .answer reply => (some reply, [])
  | .call id tool args =>
    let o := w.registry.execute w.callTime tool args
    (some (toolReply id tool o.result), o.events)

/-- The reply to a line, if one is due, and what happened on the way. -/
def handleLine (w : World) (line : String) : Option Reply × List Event := perform w (decide line)

end FleetDesk.Rpc
