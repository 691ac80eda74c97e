import FleetDesk.Text.Digits
import FleetDesk.Text.Split

/-!
# Tables of character properties

A row speaks of a run of code points. It is written as the first of them, a sign for what they
share, and numbers. All numbers are hexadecimal in lower case; those of a group are set apart by
points, groups by commas, and rows by blanks.
-/

namespace FleetDesk.Domain

structure Row where
  first : Nat
  sign : Char
  groups : List (List Nat)
  deriving DecidableEq, Repr

namespace Row

def isDigit (c : Char) : Bool := c.isDigit || ('a' ≤ c && c ≤ 'f')

def number (ds : List Char) : Nat := (Text.numberIn? 16 ds).getD 0

def group (cs : List Char) : List Nat := (Text.splitChars (· = '.') cs).map number

def ofChars (cs : List Char) : Row :=
  let rest := cs.dropWhile isDigit
  { first := number (cs.takeWhile isDigit)
    sign := rest.headD ' '
    groups := (Text.splitChars (· = ',') rest.tail).map group }

def ofLines (lines : List String) : List Row :=
  lines.flatMap fun l => (Text.splitChars (· = ' ') l.toList).map ofChars

/-- A number of the first group. -/
def field (r : Row) (n : Nat) : Nat := ((r.groups.headD [])[n]?).getD 0

/-- The row whose run a code point lies in, where the first number is the length of the run. -/
def find? (rows : List Row) (n : Nat) : Option Row :=
  rows.find? fun r => r.first ≤ n && n < r.first + r.field 0

/-- The sign of that row. -/
def signOf (rows : List Row) (default : Char) (n : Nat) : Char :=
  ((find? rows n).map Row.sign).getD default

end Row

end FleetDesk.Domain
