import FleetDesk.Decimal.Double
import FleetDesk.Toml.Text

/-!
# Numbers

Single underscores may stand between digits. An integer has a sign or a base other than ten, not
both, and fits 64 bits; in base ten it does not start with a zero. A number with a point or a power
of ten is rounded to the nearest `Double`; beyond the largest one only the negative ones are read.
-/

namespace FleetDesk.Toml

inductive Real where
  | finite (x : Double)
  | infinite (negative : Bool)
  | nan
  deriving DecidableEq, Repr

inductive Number where
  | integer (n : Int)
  | real (x : Real)
  deriving DecidableEq, Repr

/-- The digits at the front, with the underscores between them left out. -/
def digitsFrom (isDigit : Char → Bool) : List Char → List Char × List Char
  | [] => ([], [])
  | '_' :: c :: rest =>
    if isDigit c then
      let (ds, after) := digitsFrom isDigit rest
      (c :: ds, after)
    else ([], '_' :: c :: rest)
  | c :: rest =>
    if isDigit c then
      let (ds, after) := digitsFrom isDigit rest
      (c :: ds, after)
    else ([], c :: rest)

/-- At least one digit. -/
def digits? (isDigit : Char → Bool) : Reader (List Char)
  | [] => none
  | c :: rest => if isDigit c then some (digitsFrom isDigit (c :: rest)) else none

def wholeDigits? : Reader (List Char)
  | '0' :: rest => some (['0'], rest)
  | cs => digits? Char.isDigit cs

def valueIn (base : Nat) (ds : List Char) : Nat := (Text.numberIn? base ds).getD 0

def sign : List Char → Option Bool × List Char
  | '-' :: rest => (some true, rest)
  | '+' :: rest => (some false, rest)
  | cs => (none, cs)

def signed (negative : Bool) (n : Nat) : Int := if negative then -n else n

def minInteger : Int := -0x8000000000000000

def maxInteger : Int := 0x7FFFFFFFFFFFFFFF

def integer? (n : Int) : Option Number :=
  if minInteger ≤ n && n ≤ maxInteger then some (.integer n) else none

def isBaseDigit (base : Nat) (c : Char) : Bool := (Text.digitIn? base c).isSome

/-- Digits of a base that is named before them. -/
def based? (base : Nat) (cs : List Char) : Option (Number × List Char) := do
  let (ds, rest) ← digits? (isBaseDigit base) cs
  let n ← integer? (valueIn base ds)
  some (n, rest)

def fraction? : Reader (Option (List Char))
  | '.' :: rest => (digits? Char.isDigit rest).map fun (ds, rest) => (some ds, rest)
  | cs => some (none, cs)

def power? : Reader (Option Int)
  | c :: rest =>
    if c = 'e' || c = 'E' then
      let (negative, rest) := sign rest
      (digits? Char.isDigit rest).map fun (ds, rest) =>
        (some (signed (negative.getD false) (valueIn 10 ds)), rest)
    else some (none, c :: rest)
  | [] => some (none, [])

def real? (negative : Bool) (digits : Nat) (power : Int) : Option Number :=
  match Double.ofDecimal? negative digits power with
  | some x => some (.real (.finite x))
  | none => if negative then some (.real (.infinite true)) else none

def decimal? (negative : Bool) (cs : List Char) : Option (Number × List Char) := do
  let (whole, cs) ← wholeDigits? cs
  let (fraction, cs) ← fraction? cs
  let (power, cs) ← power? cs
  let n ←
    if fraction.isNone && power.isNone then integer? (signed negative (valueIn 10 whole))
    else
      let behind := fraction.getD []
      real? negative (valueIn 10 (whole ++ behind)) (power.getD 0 - behind.length)
  some (n, cs)

def number? (cs : List Char) : Option (Number × List Char) :=
  match cs with
  | '0' :: 'x' :: rest => based? 16 rest
  | '0' :: 'o' :: rest => based? 8 rest
  | '0' :: 'b' :: rest => based? 2 rest
  | cs =>
    let (negative, cs) := sign cs
    match cs with
    | 'i' :: 'n' :: 'f' :: rest => some (.real (.infinite (negative.getD false)), rest)
    | 'n' :: 'a' :: 'n' :: rest => some (.real .nan, rest)
    | cs => decimal? (negative.getD false) cs

end FleetDesk.Toml
