import FleetDesk.Toml.Moment

/-!
# Tables under construction

A document states its tables piece by piece: a header opens a table or another element of an array
of tables, a pair puts a value under a key, and both may name a path of tables on the way. `Node` is
the tree that grows meanwhile. It remembers what a table was made by, because no table may be stated
twice, and neither a header nor a dotted key may reopen one that the other has made.
-/

namespace FleetDesk

inductive Toml where
  | string (s : String)
  | number (n : Toml.Number)
  | boolean (b : Bool)
  | moment (m : Toml.Moment)
  | array (items : List Toml)
  | table (members : List (String × Toml))

namespace Toml

/-- How a table came about: by a header of its own, on the way to another header, or on the way to
the last part of a dotted key. -/
inductive Origin where
  | stated
  | implied
  | dotted
  deriving DecidableEq, Repr

inductive Node where
  | value (v : Toml)
  | table (origin : Origin) (entries : List (String × Node))
  /-- An array of tables, last first. -/
  | tables (elements : List (List (String × Node)))

abbrev Entries := List (String × Node)

/-- The path of the tables that lead to a name. -/
structure Key where
  parents : List String
  name : String
  deriving DecidableEq, Repr

def Key.path (k : Key) : List String := k.parents ++ [k.name]

inductive Statement where
  | table (key : Key)
  | element (key : Key)
  | pair (key : Key) (v : Toml)

namespace Entries

def put (name : String) (x : Node) : Entries → Entries
  | [] => [(name, x)]
  | (n, y) :: rest => if n = name then (n, x) :: rest else (n, y) :: put name x rest

/-- Changes the table at the end of a path. Missing tables are made as `new` says; of an array of
tables the last is entered. -/
def change (new : Origin) (f : Origin → Entries → Option Entries) :
    List String → Origin → Entries → Option Entries
  | [], origin, es => f origin es
  | name :: path, _, es =>
    match es.lookup name with
    | none => (change new f path new []).map fun sub => put name (.table new sub) es
    | some (.table origin sub) =>
      if new = .dotted && origin = .stated then none
      else (change new f path origin sub).map fun sub => put name (.table origin sub) es
    | some (.tables (sub :: earlier)) =>
      (change new f path .stated sub).map fun sub => put name (.tables (sub :: earlier)) es
    | some _ => none

/-- Puts a value under a key that is not taken. -/
def addPair (key : Key) (v : Toml) (es : Entries) : Option Entries :=
  change .dotted
    (fun origin es =>
      if (origin = .dotted || key.parents.isEmpty) && (es.lookup key.name).isNone then
        some (put key.name (.value v) es)
      else none)
    key.parents .stated es

def addTable (key : Key) (es : Entries) : Option Entries :=
  change .implied
    (fun _ es =>
      match es.lookup key.name with
      | none => some (put key.name (.table .stated []) es)
      | some (.table .implied sub) => some (put key.name (.table .stated sub) es)
      | some _ => none)
    key.parents .stated es

def addElement (key : Key) (es : Entries) : Option Entries :=
  change .implied
    (fun _ es =>
      match es.lookup key.name with
      | none => some (put key.name (.tables [[]]) es)
      | some (.tables elements) => some (put key.name (.tables ([] :: elements)) es)
      | some _ => none)
    key.parents .stated es

end Entries

/-- The entries of a document, and the table that pairs go to. -/
structure Draft where
  entries : Entries := []
  current : List String := []

def Draft.add (d : Draft) : Statement → Option Draft
  | .table key => (d.entries.addTable key).map fun es => ⟨es, key.path⟩
  | .element key => (d.entries.addElement key).map fun es => ⟨es, key.path⟩
  | .pair key v =>
    (d.entries.change .implied (fun _ es => es.addPair key v) d.current .stated).map fun es =>
      { d with entries := es }

mutual

def Node.toToml : Node → Toml
  | .value v => v
  | .table _ entries => .table (membersOf entries)
  | .tables elements => .array (tablesOf [] elements)

def membersOf : List (String × Node) → List (String × Toml)
  | [] => []
  | (name, x) :: rest => (name, x.toToml) :: membersOf rest

/-- The elements in order, given last first. -/
def tablesOf (acc : List Toml) : List (List (String × Node)) → List Toml
  | [] => acc
  | entries :: rest => tablesOf (.table (membersOf entries) :: acc) rest

end

/-- The members of the table that some statements make up. -/
def ofStatements? (statements : List Statement) : Option (List (String × Toml)) :=
  (statements.foldlM Draft.add {}).map fun d => membersOf d.entries

/-- The table between braces that some pairs make up. -/
def ofPairs? (pairs : List (Key × Toml)) : Option Toml :=
  (pairs.foldlM (fun es (key, v) => Entries.addPair key v es) []).map fun es =>
    .table (membersOf es)

end Toml

end FleetDesk
