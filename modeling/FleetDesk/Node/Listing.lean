import FleetDesk.Fault
import FleetDesk.Node.Record

/-!
# Listing nodes

The backend's answer holds the nodes of the fleet in `data.nodes`. A filter is applied to them as
they were sent; only those it keeps are read, so what is wrong with another node does not matter.
-/

namespace FleetDesk.Node

structure Filter where
  country : Option String := none
  name : Option String := none
  deriving DecidableEq, Repr

namespace Filter

/-- The given values joined by commas, or `none`. -/
def describe (f : Filter) : String :=
  match [f.country, f.name].filterMap fun v => v.filter (· != "") with
  | [] => "none"
  | parts => ",".intercalate parts

/-- A node as it was sent has this text in the field, if a text is wanted. -/
def fieldMatches (key : String) (wanted : Option String) (v : Json) : Bool :=
  match wanted with
  | none => true
  | some text => (v.get? key).bind Json.string? = some text

def keeps (f : Filter) (v : Json) : Bool :=
  fieldMatches "country" f.country v && fieldMatches "name" f.name v

end Filter

inductive ListingError where
  /-- The answer is not an object with a numeric code and a list of nodes. -/
  | shape
  | node (misfit : Decode.Misfit)
  deriving DecidableEq, Repr

def ListingError.message : ListingError → String
  | shape => "Invalid batch-matrix response shape from Center API"
  | node misfit => "Invalid node in batch-matrix response: " ++ misfit.message

def ListingError.toFault (e : ListingError) : Fault := Fault.of .contractViolation e.message

/-- The nodes of an answer as they were sent. -/
def sentNodes? (answer : Json) : Option (List Json) :=
  match (answer.get? "code").bind Json.number? with
  | none => none
  | some _ => ((answer.get? "data").bind fun data => data.get? "nodes").bind Json.array?

def list (answer : Json) (filter : Filter) : Except ListingError (List Node) :=
  match sentNodes? answer with
  | none => .error .shape
  | some sent => ((sent.filter filter.keeps).mapM Node.read).mapError ListingError.node

end FleetDesk.Node
