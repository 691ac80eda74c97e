import FleetDesk.Fault
import FleetDesk.Json.Decode

/-!
# Messages of the JSON-RPC channel

Requests and the parameters of a tool call as they are read, replies as they are written. A reply
has the id of its request and either a result or an error.
-/

namespace FleetDesk.Rpc

structure Request where
  version : String := ""
  id : Option Json := none
  method : String := ""
  params : Json := .null

/-- A value that is null counts as absent. -/
def present : Json → Option Json
  | .null => none
  | v => some v

namespace Request

def shape : Decode.Shape Request where
  title := "struct JsonRpcRequest"
  slots :=
    [⟨"id", 1, false, fun v r => .ok { r with id := present v }⟩,
      ⟨"jsonrpc", 0, true, fun v r => do .ok { r with version := ← Decode.text v }⟩,
      ⟨"method", 2, true, fun v r => do .ok { r with method := ← Decode.text v }⟩,
      ⟨"params", 3, false, fun v r => .ok { r with params := v }⟩]

def read (v : Json) : Except Decode.Misfit Request := shape.read {} v

end Request

structure CallParams where
  name : String := ""
  arguments : Option Json := none

namespace CallParams

def shape : Decode.Shape CallParams where
  title := "struct ToolCallParams"
  slots :=
    [⟨"arguments", 1, false, fun v p => .ok { p with arguments := present v }⟩,
      ⟨"name", 0, false, fun v p => do .ok { p with name := ← Decode.text v }⟩]

def read (v : Json) : Except Decode.Misfit CallParams := shape.read {} v

end CallParams

inductive ErrorCode where
  | requestTimeout
  | parseError
  | invalidRequest
  | methodNotFound
  | invalidParams
  | internalError
  deriving DecidableEq, Repr

namespace ErrorCode

def number : ErrorCode → Int
  | requestTimeout => -32001
  | parseError => -32700
  | invalidRequest => -32600
  | methodNotFound => -32601
  | invalidParams => -32602
  | internalError => -32603

def name : ErrorCode → String
  | requestTimeout => "RequestTimeout"
  | parseError => "ParseError"
  | invalidRequest => "InvalidRequest"
  | methodNotFound => "MethodNotFound"
  | invalidParams => "InvalidParams"
  | internalError => "InternalError"

def all : List ErrorCode :=
  [requestTimeout, parseError, invalidRequest, methodNotFound, invalidParams, internalError]

/-- How a fault of a tool is reported. -/
def ofKind : FaultKind → ErrorCode
  | .invalidParams => invalidParams
  | .timeout => requestTimeout
  | _ => internalError

end ErrorCode

structure Error where
  code : ErrorCode
  message : String
  deriving DecidableEq, Repr

def Error.display (e : Error) : String := e.message ++ " (" ++ toString e.code.number ++ ")"

def Error.toJson (e : Error) : Json :=
  Json.ofMembers [("code", .string e.code.name), ("message", .string e.message)]

/-- The fault of a tool, line by line. -/
def Error.ofFault (tool : String) (f : Fault) : Error :=
  let lines :=
    ["KaituOpsError", "tool: " ++ tool, "kind: " ++ f.kind.label, "code: " ++ f.code,
      "retryable: " ++ (if f.retryable then "true" else "false"), "message: " ++ f.message]
    ++ (f.hint.map fun h => "hint: " ++ h).toList
  ⟨.ofKind f.kind, "\n".intercalate lines⟩

inductive Body where
  | result (v : Json)
  | error (code : Int) (message : String)

structure Reply where
  id : Json
  body : Body

namespace Reply

def success (id result : Json) : Reply := ⟨id, .result result⟩

def failure (id : Json) (e : Error) : Reply := ⟨id, .error e.code.number e.message⟩

def toJson (r : Reply) : Json :=
  .object <| [("jsonrpc", .string "2.0"), ("id", r.id)] ++
    match r.body with
    | .result v => [("result", v)]
    | .error code message =>
      [("error", .object [("code", Json.int code), ("message", .string message)])]

end Reply

/-- The result of a tool call: one block of text. -/
structure TextResult where
  text : String
  isError : Bool := false
  deriving DecidableEq, Repr

/-- The result with `object` putting the members of each part together. -/
def TextResult.toJson (object : List (String × Json) → Json) (r : TextResult) : Json :=
  object <|
    [("content", .array [object [("type", .string "text"), ("text", .string r.text)]])]
    ++ if r.isError then [("isError", .bool true)] else []

end FleetDesk.Rpc
