import FleetDesk.Json.Value

/-!
# Faults of a tool call

A fault has a kind, a code for programs and a message for people; a hint and details are optional.
Only faults of a passing nature are worth a retry.
-/

namespace FleetDesk

inductive FaultKind where
  | invalidParams
  | timeout
  | retryable
  /-- The fleet backend answered with a shape that is not understood. -/
  | contractViolation
  | internal
  deriving DecidableEq, Repr

namespace FaultKind

def name : FaultKind → String
  | invalidParams => "invalid_params"
  | timeout => "timeout"
  | retryable => "retryable"
  | contractViolation => "contract_violation"
  | internal => "internal"

/-- The kind as one word in lower case. -/
def label : FaultKind → String
  | invalidParams => "invalidparams"
  | timeout => "timeout"
  | retryable => "retryable"
  | contractViolation => "contractviolation"
  | internal => "internal"

def code : FaultKind → String
  | invalidParams => "INVALID_PARAMS"
  | timeout => "TIMEOUT"
  | retryable => "RETRYABLE"
  | contractViolation => "CONTRACT_VIOLATION"
  | internal => "INTERNAL"

end FaultKind

structure Fault where
  kind : FaultKind
  code : String
  message : String
  hint : Option String := none
  details : Option Json := none

namespace Fault

/-- A fault with the code of its kind. -/
def of (kind : FaultKind) (message : String) : Fault := { kind, code := kind.code, message }

def retryable (f : Fault) : Bool := f.kind = .timeout || f.kind = .retryable

def withHint (f : Fault) (hint : String) : Fault := { f with hint := some hint }

def withDetails (f : Fault) (details : Json) : Fault := { f with details := some details }

def toJson (f : Fault) : Json :=
  Json.ofMembers <|
    [("kind", .string f.kind.name), ("code", .string f.code), ("message", .string f.message),
      ("retryable", .bool f.retryable)]
    ++ (f.hint.map fun h => ("hint", Json.string h)).toList
    ++ (f.details.map fun d => ("details", d)).toList

end Fault

end FleetDesk
