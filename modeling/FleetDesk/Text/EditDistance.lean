/-!
# Edit distance

The least number of insertions, deletions and substitutions of one character that turn one text into
another, computed row by row: after the characters `cs` the row holds the distance from `cs` to
every front part of the second text, shortest first.
-/

namespace FleetDesk.Text

/-- The cells of the next row, given the cells above them and the cell on their left. -/
def editCells (c : Char) : List Char → List Nat → Nat → List Nat
  | d :: ds, diagonal :: above :: row, left =>
    let cell := min (min (above + 1) (left + 1)) (diagonal + if c = d then 0 else 1)
    cell :: editCells c ds (above :: row) cell
  | _, _, _ => []

def editRow (ds : List Char) (row : List Nat) (c : Char) : List Nat :=
  let first := row.headD 0 + 1
  first :: editCells c ds row first

/-- The row before any character was read: a front part of length `k` is `k` insertions away. -/
def editStart (ds : List Char) : List Nat := List.range (ds.length + 1)

def editDistance (cs ds : List Char) : Nat :=
  (cs.foldl (editRow ds) (editStart ds)).getLastD 0

end FleetDesk.Text
