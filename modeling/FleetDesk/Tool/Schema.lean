import FleetDesk.Json.Printer
import FleetDesk.Text.Suggestion
import FleetDesk.Tool.Argument

/-!
# Schemas of tool arguments

The arguments of a tool are an object of known parameters, each a text or a number under a few
rules. `Schema.violations` lists everything that is wrong with an object: first parameter by
parameter, then the fields that are unknown, then those that are missing.
-/

namespace FleetDesk

inductive ParameterKind where
  | text
  | number
  deriving DecidableEq, Repr

def ParameterKind.name : ParameterKind → String
  | text => "string"
  | number => "number"

/-- What a value of the right kind must satisfy besides. -/
inductive Rule where
  | minLength (chars : Nat)
  | positive
  | addressChars
  deriving DecidableEq, Repr

namespace Rule

def addressPattern : String := "^[A-Za-z0-9.:_-]+$"

def admits : Rule → Json → Bool
  | minLength n, .string s => n ≤ s.toList.length
  | positive, .number x => x.isPositive
  | addressChars, .string s => s != "" && s.toList.all Argument.isAddressChar
  | _, _ => true

/-- What is said of a value that the rule does not admit. -/
def complaint : Rule → String
  | minLength 1 => " is shorter than 1 character"
  | minLength n => " is shorter than " ++ toString n ++ " characters"
  | positive => " is less than or equal to the minimum of 0"
  | addressChars => " does not match \"" ++ addressPattern ++ "\""

def toMember : Rule → String × Json
  | minLength n => ("minLength", Json.nat n)
  | positive => ("exclusiveMinimum", Json.nat 0)
  | addressChars => ("pattern", .string addressPattern)

end Rule

structure Parameter where
  name : String
  kind : ParameterKind
  rules : List Rule := []
  default : Option Nat := none
  description : String

namespace Parameter

def hasKind (p : Parameter) : Json → Bool
  | .string _ => p.kind = .text
  | .number _ => p.kind = .number
  | _ => false

def toJson (p : Parameter) : Json :=
  Json.ofMembers <|
    [("type", .string p.kind.name), ("description", .string p.description)]
    ++ p.rules.map Rule.toMember ++ (p.default.map fun d => ("default", Json.nat d)).toList

end Parameter

/-- The parameters in the order of their names, and those that must be given. -/
structure Schema where
  parameters : List Parameter
  required : List String

inductive Violation where
  | notObject
  | wrongKind (field : String) (kind : ParameterKind)
  | broken (field : String) (value : Json) (rule : Rule)
  | unknown (field : String)
  | missing (field : String)

def Violation.line : Violation → String
  | notObject => "(root): expected object"
  | wrongKind field kind => "/" ++ field ++ ": expected " ++ kind.name
  | broken field value rule => "/" ++ field ++ ": " ++ value.compact ++ rule.complaint
  | unknown field => "(root): unknown field '" ++ field ++ "'"
  | missing field => "(root): missing required field '" ++ field ++ "'"

namespace Schema

def names (s : Schema) : List String := s.parameters.map Parameter.name

def checkParameter (args : Json) (p : Parameter) : List Violation :=
  match args.get? p.name with
  | none => []
  | some v =>
    if p.hasKind v then (p.rules.filter fun r => !r.admits v).map fun r => .broken p.name v r
    else [.wrongKind p.name p.kind]

def violations (s : Schema) : Json → List Violation
  | .object members =>
    s.parameters.flatMap (checkParameter (.object members))
      ++ ((members.map Prod.fst).filter fun k => !s.names.contains k).map .unknown
      ++ (s.required.filter fun k => (Json.member? k members).isNone).map .missing
  | _ => [.notObject]

def toJson (s : Schema) : Json :=
  Json.ofMembers <|
    [("type", .string "object"), ("additionalProperties", .bool false),
      ("properties", Json.ofMembers (s.parameters.map fun p => (p.name, p.toJson)))]
    ++ if s.required.isEmpty then [] else [("required", .array (s.required.map .string))]

/-- The known names that an unknown field may stand for. -/
def guess? (s : Schema) : Violation → Option String
  | .unknown field =>
    match Text.suggest field s.names 3 with
    | [] => none
    | names => some ("field '" ++ field ++ "': " ++ ", ".intercalate names)
  | _ => none

/-- All violations in one message, with what the unknown fields may stand for. -/
def report (s : Schema) (tool : String) (vs : List Violation) : String :=
  let guesses := match vs.filterMap s.guess? with
    | [] => []
    | gs => ["Did you mean: " ++ " | ".intercalate gs]
  "\n".intercalate
    (("Invalid arguments for " ++ tool) :: vs.map (fun v => "- " ++ v.line) ++ guesses)

end Schema

end FleetDesk
