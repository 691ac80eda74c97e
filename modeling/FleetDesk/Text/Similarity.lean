/-!
# Similar words

The similarity of two words is the mean of three shares: the letters of each word that match one of
the other, and the matching letters that come in the same order. Two letters match if they are equal
and not too far apart.
-/

namespace FleetDesk.Text

/-- How far apart matching letters may be. -/
def reach (a b : List Char) : Nat := max a.length b.length / 2 - 1

/-- Takes a letter's match: the first equal letter between two places that is still free. -/
def takeMatch (c : Char) (low high : Nat) (free : List (Nat × Char)) : Option Nat :=
  (free.find? fun x => x.2 = c && low ≤ x.1 && x.1 ≤ high).map Prod.fst

/-- The letters of `a`, from a place on, that match, and the places of their matches. -/
def matchesFrom (reach : Nat) (free : List (Nat × Char)) (place : Nat) :
    List Char → List (Char × Nat)
  | [] => []
  | c :: cs =>
    match takeMatch c (place - reach) (place + reach) free with
    | none => matchesFrom reach free (place + 1) cs
    | some n => (c, n) :: matchesFrom reach (free.filter (·.1 != n)) (place + 1) cs

/-- The similarity as a fraction. -/
def similarity (a b : List Char) : Nat × Nat :=
  if a.isEmpty && b.isEmpty then (1, 1) else
    let found := matchesFrom (reach a b) ((List.range b.length).zip b) 0 a
    let m := found.length
    if m = 0 then (0, 1) else
      let places := (found.map Prod.snd).mergeSort
      let inOrder := places.filterMap fun n => b[n]?
      let moved := ((found.map Prod.fst).zip inOrder).countP fun x => x.1 != x.2
      let kept := m - moved / 2
      (m * b.length * m + m * a.length * m + kept * a.length * b.length,
        3 * a.length * b.length * m)

end FleetDesk.Text
