/-!
# Exchanges over HTTP

A transport sends a request and brings back the response, or says at which point it failed.
-/

namespace FleetDesk.Http

structure Request where
  method : String
  url : String
  headers : List (String × String)
  body : Option String := none
  deriving DecidableEq, Repr

structure Response where
  status : Nat
  /-- The body as text. -/
  text : String
  deriving DecidableEq, Repr

inductive Failure where
  | timedOut
  /-- No response began. -/
  | notSent (why : String)
  /-- The response broke off. -/
  | notRead (why : String)
  deriving DecidableEq, Repr

abbrev Transport := Request → Except Failure Response

end FleetDesk.Http
