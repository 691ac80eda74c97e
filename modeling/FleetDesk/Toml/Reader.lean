import FleetDesk.Toml.Table

/-!
# Reading a TOML document

Every statement has a line of its own. Arrays may run over several lines, tables between braces may
not. At most `depthLimit` arrays and tables are open at once, and a key has at most as many parts.
-/

namespace FleetDesk.Toml

def depthLimit : Nat := 79

def isBareKeyChar (c : Char) : Bool := c.isAlphanum || c = '-' || c = '_'

def bareKey? (cs : List Char) : Option (String × List Char) :=
  let name := cs.takeWhile isBareKeyChar
  if name.isEmpty then none else some (String.ofList name, cs.dropWhile isBareKeyChar)

def keyPart? (cs : List Char) : Option (String × List Char) :=
  match lineText? cs with
  | some found => some found
  | none => bareKey? cs

/-- Reads the parts of a dotted key, `fuel` at most; `acc` holds those before, last first. -/
def keyFrom (acc : List String) : Nat → List Char → Option (Key × List Char)
  | 0, _ => none
  | fuel + 1, cs => do
    let (name, cs) ← keyPart? (skipSpaces cs)
    match skipSpaces cs with
    | '.' :: rest => keyFrom (name :: acc) fuel rest
    | rest => some (⟨acc.reverse, name⟩, rest)

def key? (cs : List Char) : Option (Key × List Char) := keyFrom [] depthLimit cs

def scalarValue? (cs : List Char) : Option (Toml × List Char) :=
  match cs with
  | '"' :: _ | '\'' :: _ => (text? cs).map fun (s, rest) => (.string s, rest)
  | 't' :: 'r' :: 'u' :: 'e' :: rest => some (.boolean true, rest)
  | 'f' :: 'a' :: 'l' :: 's' :: 'e' :: rest => some (.boolean false, rest)
  | cs =>
    match moment? cs with
    | some (m, rest) => some (.moment m, rest)
    | none => (number? cs).map fun (n, rest) => (.number n, rest)

/-- Reads the items of an array and the bracket that ends it; a comma may follow the last. -/
def itemsFrom (item : Reader Toml) (acc : List Toml) :
    Nat → List Char → Option (List Toml × List Char)
  | 0, _ => none
  | fuel + 1, cs =>
    match skipGap false cs with
    | ']' :: rest => some (acc.reverse, rest)
    | cs => do
      let (v, cs) ← item cs
      match skipGap false cs with
      | ']' :: rest => some ((v :: acc).reverse, rest)
      | ',' :: rest => itemsFrom item (v :: acc) fuel rest
      | _ => none

def pair? (value : Reader Toml) (cs : List Char) : Option ((Key × Toml) × List Char) := do
  let (key, cs) ← key? cs
  match cs with
  | '=' :: rest =>
    let (v, cs) ← value (skipSpaces rest)
    some ((key, v), cs)
  | _ => none

/-- Reads the pairs of a table and the brace that ends it. -/
def pairsFrom (value : Reader Toml) (acc : List (Key × Toml)) :
    Nat → List Char → Option (List (Key × Toml) × List Char)
  | 0, _ => none
  | fuel + 1, cs => do
    let (p, cs) ← pair? value cs
    match skipSpaces cs with
    | '\x7d' :: rest => some ((p :: acc).reverse, rest)
    | ',' :: rest => pairsFrom value (p :: acc) fuel rest
    | _ => none

def braced? (value : Reader Toml) (cs : List Char) : Option (Toml × List Char) :=
  match skipSpaces cs with
  | '\x7d' :: rest => some (.table [], rest)
  | cs => do
    let (pairs, rest) ← pairsFrom value [] (cs.length + 1) cs
    let v ← ofPairs? pairs
    some (v, rest)

/-- Reads a value in which at most `depth` arrays and tables are open at once. -/
def value? : Nat → Reader Toml
  | 0, cs => scalarValue? cs
  | depth + 1, cs =>
    match cs with
    | '[' :: rest =>
      (itemsFrom (value? depth) [] (rest.length + 1) rest).map fun (items, rest) =>
        (.array items, rest)
    | '\x7b' :: rest => braced? (value? depth) rest
    | cs => scalarValue? cs

def statement? (cs : List Char) : Option (Statement × List Char) :=
  match cs with
  | '[' :: '[' :: rest => do
    let (key, cs) ← key? rest
    match cs with
    | ']' :: ']' :: rest => some (.element key, rest)
    | _ => none
  | '[' :: rest => do
    let (key, cs) ← key? rest
    match cs with
    | ']' :: rest => some (.table key, rest)
    | _ => none
  | cs => (pair? (value? depthLimit) cs).map fun ((key, v), rest) => (.pair key v, rest)

def statementsFrom (acc : List Statement) : Nat → List Char → Option (List Statement)
  | 0, _ => none
  | fuel + 1, cs =>
    match skipGap false cs with
    | [] => some acc.reverse
    | cs => do
      let (s, cs) ← statement? cs
      let cs ← lineEnd? cs
      statementsFrom (s :: acc) fuel cs

def byteOrderMark : Char := '\ufeff'

/-- The members of the table that a document is. -/
def parse? (s : String) : Option (List (String × Toml)) :=
  let cs := match s.toList with
    | c :: rest => if c = byteOrderMark then rest else c :: rest
    | [] => []
  (statementsFrom [] (cs.length + 1) cs).bind ofStatements?

end FleetDesk.Toml
