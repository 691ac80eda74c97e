import FleetDesk.Text.Split

/-!
# Paths

Paths are texts with `/` between their components. `join` appends below a directory, unless the
second path is absolute and takes its place; `components` are the names, without the empty ones and
`.`.
-/

namespace FleetDesk.Path

def isAbsolute (p : String) : Bool := p.toList.head? = some '/'

def endsInSlash (p : String) : Bool := p.toList.getLast? = some '/'

def join (base rest : String) : String :=
  if isAbsolute rest then rest
  else if base = "" || endsInSlash base then base ++ rest
  else base ++ "/" ++ rest

def segments (p : String) : List String :=
  (Text.splitChars (· = '/') p.toList).map String.ofList

def components (p : String) : List String :=
  (segments p).filter fun s => s != "" && s != "."

end FleetDesk.Path
