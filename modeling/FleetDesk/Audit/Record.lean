/-!
# Records of the audit trail

A record names a tool and carries fields in order. A line of the trail shows texts between quotes
and other values bare; a quote or a line break inside a text is written as it is.
-/

namespace FleetDesk.Audit

inductive Field where
  | text (s : String)
  | int (n : Int)
  | flag (b : Bool)
  deriving DecidableEq, Repr

/-- The largest integer that a field holds. -/
def maxInt : Int := 0x7FFFFFFFFFFFFFFF

/-- A count, capped at the largest integer. -/
def Field.count (n : Nat) : Field := .int (min n maxInt)

def Field.render : Field → String
  | text s => "\"" ++ s ++ "\""
  | int n => toString n
  | flag true => "true"
  | flag false => "false"

structure Record where
  tool : String
  fields : List (String × Field)
  deriving DecidableEq, Repr

def renderField (key : String) (field : Field) : String := " " ++ key ++ "=" ++ field.render

/-- The line of a record, with the line break that ends it. -/
def Record.render (r : Record) (timestamp : String) : String :=
  "[" ++ timestamp ++ "] [" ++ r.tool ++ "]"
    ++ String.join (r.fields.map fun (key, field) => renderField key field) ++ "\n"

end FleetDesk.Audit
