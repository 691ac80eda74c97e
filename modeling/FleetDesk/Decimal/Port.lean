import FleetDesk.Text.Digits

/-!
# Port numbers as text

A port is written in decimal digits, with a plus sign before them if one likes.
-/

namespace FleetDesk

def maxPort : Nat := 65535

/-- The value of a run of digits that is not empty. -/
def decimal? : List Char → Option Nat
  | [] => none
  | cs => Text.numberIn? 10 cs

def port? (s : String) : Option Nat :=
  let digits := match s.toList with
    | '+' :: cs => cs
    | cs => cs
  (decimal? digits).filter (· ≤ maxPort)

end FleetDesk
