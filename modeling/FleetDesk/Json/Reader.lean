import FleetDesk.Json.Token

/-!
# Reading a JSON text

The tokens of a text drive a machine with a stack of the containers that are still open. A state
says what may come next. At most `depthLimit` containers may be open at once.
-/

namespace FleetDesk.Json

/-- A container that waits for the value that is being read: an array with the items before it, last
first, or an object with the members before it and the key of this one. -/
inductive Frame where
  | items (done : List Json)
  | member (done : List (String × Json)) (key : String)

inductive ReadState where
  /-- A value must follow. -/
  | want (stack : List Frame)
  /-- An array was opened: a value or its end must follow. -/
  | opened (stack : List Frame)
  /-- In an object a key must follow; in a fresh one also its end may. -/
  | entry (stack : List Frame) (done : List (String × Json)) (fresh : Bool)
  /-- A colon must follow the key. -/
  | named (stack : List Frame) (done : List (String × Json)) (key : String)
  /-- A value is complete. -/
  | got (stack : List Frame) (v : Json)

def depthLimit : Nat := 127

/-- The state after the first token of a value. -/
def ReadState.start (stack : List Frame) : Token → Option ReadState
  | .null => some (.got stack .null)
  | .bool b => some (.got stack (.bool b))
  | .number n => some (.got stack (.number n))
  | .string s => some (.got stack (.string s))
  | .openArray => if stack.length < depthLimit then some (.opened stack) else none
  | .openObject => if stack.length < depthLimit then some (.entry stack [] true) else none
  | _ => none

def ReadState.step : ReadState → Token → Option ReadState
  | .want stack, t => start stack t
  | .opened stack, .closeArray => some (.got stack (.array []))
  | .opened stack, t => start (.items [] :: stack) t
  | .entry stack _ true, .closeObject => some (.got stack (.object []))
  | .entry stack done _, .string key => some (.named stack done key)
  | .named stack done key, .colon => some (.want (.member done key :: stack))
  | .got (.items done :: stack) v, .comma => some (.want (.items (v :: done) :: stack))
  | .got (.items done :: stack) v, .closeArray => some (.got stack (.array (v :: done).reverse))
  | .got (.member done key :: stack) v, .comma =>
    some (.entry stack (insertMember key v done) false)
  | .got (.member done key :: stack) v, .closeObject =>
    some (.got stack (.object (insertMember key v done)))
  | _, _ => none

def ofTokens? (ts : List Token) : Option Json :=
  match ts.foldlM ReadState.step (.want []) with
  | some (.got [] v) => some v
  | _ => none

def parse? (s : String) : Option Json := (tokens? s.toList).bind ofTokens?

end FleetDesk.Json
