import FleetDesk.Text.EditDistance
import FleetDesk.Text.Occurs

/-!
# Suggestions for a mistyped name

Names are compared by their key: letters in lower case and digits, all else dropped. A candidate is
close when one key contains the other or when few edits lead from one to the other; the closest come
first, equally close ones in the order of their characters.
-/

namespace FleetDesk.Text

/-- The letter or digit of the Latin alphabet that a character stands for when case is ignored. Two
characters beyond ASCII have such a lower case: the Kelvin sign and the dotted capital I. -/
def keyChar? (c : Char) : Option Char :=
  if c.isAlphanum then some c.toLower
  else if c = '\u212A' then some 'k'
  else if c = '\u0130' then some 'i'
  else none

def nameKey (s : String) : List Char := s.toList.filterMap keyChar?

def closeness (needle hay : List Char) : Nat :=
  if occursIn needle hay || occursIn hay needle then 1 else editDistance needle hay

/-- The edits that are still taken for a typing error. -/
def tolerance (needle : List Char) : Nat := max (needle.length / 3) 2

structure Scored where
  score : Nat
  name : String
  deriving DecidableEq

/-- Closer first, then by name. -/
def Scored.before (a b : Scored) : Bool :=
  a.score < b.score || (a.score == b.score && !(b.name < a.name : Bool))

def scored? (needle : List Char) (candidate : String) : Option Scored :=
  let hay := nameKey candidate
  let score := closeness needle hay
  if hay.isEmpty || tolerance needle < score then none else some ⟨score, candidate⟩

def rank (needle : List Char) (candidates : List String) : List String :=
  ((candidates.filterMap (scored? needle)).mergeSort Scored.before).map Scored.name

/-- Takes the names in their order, each once, until there are enough. -/
def pick (enough : Nat) (out : List String) : List String → List String
  | [] => out
  | name :: names =>
    let out := if name ∈ out then out else out ++ [name]
    if enough ≤ out.length then out else pick enough out names

/-- At least one suggestion is allowed, whatever the limit. -/
def suggest (input : String) (candidates : List String) (limit : Nat) : List String :=
  let needle := nameKey input
  if needle.isEmpty then [] else pick (max limit 1) [] (rank needle candidates)

end FleetDesk.Text
