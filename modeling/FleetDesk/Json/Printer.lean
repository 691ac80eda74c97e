import FleetDesk.Decimal.Shortest
import FleetDesk.Json.Quoted
import FleetDesk.Json.Value

/-!
# Writing JSON

`compact` writes a value without blanks, `pretty` with one item or member a line, two spaces deeper
for each container around it. Members come in the order in which the object holds them. A `Double`
has the fewest digits that read back and always a point or an exponent.
-/

namespace FleetDesk.Json

def decimalDigits (n : Nat) : List Char := Nat.toDigits 10 n

def intDigits (n : Int) : List Char :=
  if n < 0 then '-' :: decimalDigits n.natAbs else decimalDigits n.natAbs

/-- Positional from 10^-5 up to 10^16; beyond that one digit, a point if more follow, and a signed
power of ten. `point` counts the digits before the decimal point. -/
def placeDigits (ds : List Char) (point : Int) : List Char :=
  if 0 < point && point ≤ 16 then
    let n := point.toNat
    if ds.length ≤ n then ds ++ List.replicate (n - ds.length) '0' ++ ['.', '0']
    else ds.take n ++ '.' :: ds.drop n
  else if -5 < point && point ≤ 0 then
    '0' :: '.' :: List.replicate (-point).toNat '0' ++ ds
  else
    let power := point - 1
    let mantissa := match ds with
      | d :: e :: rest => d :: '.' :: e :: rest
      | ds => ds
    mantissa ++ 'e' :: (if power < 0 then '-' else '+') :: decimalDigits power.natAbs

def doubleDigits (x : Double) : List Char :=
  let unsigned :=
    if x.isZero then "0.0".toList else
      let (ds, point) := x.shortest.significant
      placeDigits ds point
  if x.negative then '-' :: unsigned else unsigned

def numberChars : Number → List Char
  | .int n => intDigits n
  | .real x => doubleDigits x

/-- `parts` with `sep` between them. -/
def joinWith (sep : List Char) : List (List Char) → List Char
  | [] => []
  | [p] => p
  | p :: q :: ps => p ++ sep ++ joinWith sep (q :: ps)

mutual

def compactChars : Json → List Char
  | .null => "null".toList
  | .bool true => "true".toList
  | .bool false => "false".toList
  | .number n => numberChars n
  | .string s => quote s
  | .array items => '[' :: joinWith [','] (compactItems items) ++ [']']
  | .object members => '\x7b' :: joinWith [','] (compactMembers members) ++ ['\x7d']

def compactItems : List Json → List (List Char)
  | [] => []
  | v :: vs => compactChars v :: compactItems vs

def compactMembers : List (String × Json) → List (List Char)
  | [] => []
  | (k, v) :: ms => (quote k ++ ':' :: compactChars v) :: compactMembers ms

end

def compact (v : Json) : String := String.ofList (compactChars v)

def newLine (depth : Nat) : List Char := '\n' :: List.replicate (2 * depth) ' '

/-- A container with one part a line, the parts one step deeper than its end. -/
def block (depth : Nat) (opening closing : Char) : List (List Char) → List Char
  | [] => [opening, closing]
  | parts =>
    opening :: newLine (depth + 1) ++ joinWith (',' :: newLine (depth + 1)) parts
      ++ newLine depth ++ [closing]

mutual

def prettyChars (depth : Nat) : Json → List Char
  | .null => "null".toList
  | .bool true => "true".toList
  | .bool false => "false".toList
  | .number n => numberChars n
  | .string s => quote s
  | .array items => block depth '[' ']' (prettyItems (depth + 1) items)
  | .object members => block depth '\x7b' '\x7d' (prettyMembers (depth + 1) members)

def prettyItems (depth : Nat) : List Json → List (List Char)
  | [] => []
  | v :: vs => prettyChars depth v :: prettyItems depth vs

def prettyMembers (depth : Nat) : List (String × Json) → List (List Char)
  | [] => []
  | (k, v) :: ms => (quote k ++ ':' :: ' ' :: prettyChars depth v) :: prettyMembers depth ms

end

def pretty (v : Json) : String := String.ofList (prettyChars 0 v)

end FleetDesk.Json
