import FleetDesk.Domain.Ascii
import FleetDesk.Url.Percent

/-!
# Hosts

A host is a name or a numeric address. On the web a name is a domain name, and one whose last label
is a number must be an address of version 4, which may be written with up to four numbers in base
eight, ten or sixteen; an address of version 6 stands between brackets.
-/

namespace FleetDesk.Url

inductive Host where
  | name (s : String)
  | v4 (address : Nat)
  /-- The eight pieces of 16 bits. -/
  | v6 (pieces : List Nat)
  deriving DecidableEq, Repr

/-- Why a text is no URL. -/
inductive Flaw where
  | emptyHost
  | badDomain
  | badPort
  | badV4
  | badV6
  | badHostChar
  | relative
  deriving DecidableEq, Repr

def Flaw.message : Flaw → String
  | emptyHost => "empty host"
  | badDomain => "invalid international domain name"
  | badPort => "invalid port number"
  | badV4 => "invalid IPv4 address"
  | badV6 => "invalid IPv6 address"
  | badHostChar => "invalid domain character"
  | relative => "relative URL without a base"

/-! ### Version 4 -/

/-- A number of an address; its base shows in how it starts. -/
def addressNumber? : List Char → Option Nat
  | [] => none
  | '0' :: 'x' :: cs => Text.numberIn? 16 cs
  | '0' :: 'X' :: cs => Text.numberIn? 16 cs
  | '0' :: c :: cs => Text.numberIn? 8 (c :: cs)
  | cs => Text.numberIn? 10 cs

/-- The labels of a name without the empty one behind a point at the end. -/
def labels (cs : List Char) : List (List Char) :=
  let ls := Text.splitChars (· = '.') cs
  if 1 < ls.length && ls.getLast? = some [] then ls.dropLast else ls

def endsInNumber (cs : List Char) : Bool :=
  match (labels cs).getLast? with
  | none | some [] => false
  | some l => l.all Char.isDigit || (addressNumber? l).isSome

/-- The numbers before the last are bytes, and the last fills the rest of the address. -/
def address? (cs : List Char) : Option Nat := do
  let numbers ← (labels cs).mapM addressNumber?
  let last ← numbers.getLast?
  let bytes := numbers.dropLast
  if 3 < bytes.length || bytes.any (255 < ·) || Nat.pow 256 (4 - bytes.length) ≤ last then none
  else
    some (bytes.foldl (fun n b => 256 * n + b) 0 * Nat.pow 256 (4 - bytes.length) + last)

def addressText (n : Nat) : String :=
  ".".intercalate ([n / 0x1000000, n / 0x10000 % 0x100, n / 0x100 % 0x100, n % 0x100].map toString)

/-! ### Version 6 -/

/-- A byte in base ten without a zero in front. -/
def plainByte? (cs : List Char) : Option Nat :=
  match cs with
  | [] => none
  | ['0'] => some 0
  | '0' :: _ => none
  | cs => if cs.length ≤ 3 then (Text.numberIn? 10 cs).filter (· ≤ 255) else none

/-- The last field may be an address of version 4, which fills two pieces. -/
def lastPieces? (cs : List Char) : Option (List Nat) :=
  if cs.contains '.' then
    match (Text.splitChars (· = '.') cs).mapM plainByte? with
    | some [a, b, c, d] => some [256 * a + b, 256 * c + d]
    | _ => none
  else if cs.isEmpty || 4 < cs.length then none
  else (Text.numberIn? 16 cs).map ([·])

def piece? (cs : List Char) : Option Nat :=
  if cs.isEmpty || 4 < cs.length then none else Text.numberIn? 16 cs

/-- The pieces that some fields write; only the last field of an address can be more than one. -/
def pieces? (final : Bool) (fields : List (List Char)) : Option (List Nat) := do
  if final then
    let front ← fields.dropLast.mapM piece?
    let back ← (fields.getLast?.map lastPieces?).getD (some [])
    some (front ++ back)
  else fields.mapM piece?

def fields (cs : List Char) : List (List Char) :=
  if cs.isEmpty then [] else Text.splitChars (· = ':') cs

/-- The text before the first two colons in a row, and behind them. -/
def cutColons (before : List Char) : List Char → Option (List Char × List Char)
  | ':' :: ':' :: rest => some (before.reverse, rest)
  | c :: rest => cutColons (c :: before) rest
  | [] => none

/-- Two colons stand for at least one piece that is zero. -/
def v6? (cs : List Char) : Option (List Nat) :=
  match cutColons [] cs with
  | none => (pieces? true (fields cs)).filter (·.length = 8)
  | some (before, behind) => do
    let front ← pieces? false (fields before)
    let back ← pieces? true (fields behind)
    let count := front.length + back.length
    if 7 < count then none else some (front ++ List.replicate (8 - count) 0 ++ back)

/-- The longest run of at least two zeros, the first of those: where it starts and its length. -/
def zeroRun (pieces : List Nat) : Option (Nat × Nat) :=
  let runs := (List.range pieces.length).map fun n =>
    (n, ((pieces.drop n).takeWhile (· = 0)).length)
  let longest := runs.foldl (fun best r => if best.2 < r.2 then r else best) (0, 1)
  if longest.2 < 2 then none else some longest

def piecesText (pieces : List Nat) : String :=
  ":".intercalate (pieces.map fun n => String.ofList (Nat.toDigits 16 n))

def v6Text (pieces : List Nat) : String :=
  match zeroRun pieces with
  | none => piecesText pieces
  | some (start, length) =>
    piecesText (pieces.take start) ++ "::" ++ piecesText (pieces.drop (start + length))

/-! ### Hosts -/

def Host.text : Host → String
  | name s => s
  | v4 n => addressText n
  | v6 pieces => "[" ++ v6Text pieces ++ "]"

def bracketed? (cs : List Char) : Except Flaw Host :=
  if cs.getLast? = some ']' then
    match v6? cs.dropLast with
    | some pieces => .ok (.v6 pieces)
    | none => .error .badV6
  else .error .badV6

/-- The host of a URL for the web. -/
def webHost (cs : List Char) : Except Flaw Host :=
  match cs with
  | '[' :: rest => bracketed? rest
  | cs =>
    match Utf8.decode (percentDecode (Utf8.encode (String.ofList cs))) with
    | .error _ => .error .badDomain
    | .ok s =>
      match Domain.ascii? s.toList with
      | none => .error .badDomain
      | some [] => .error .emptyHost
      | some name =>
        if endsInNumber name then
          match address? name with
          | some n => .ok (.v4 n)
          | none => .error .badV4
        else .ok (.name (String.ofList name))

def isForbiddenInHost (c : Char) : Bool := "\x00\t\n\r #/:<>?@[\\]^|".toList.contains c

/-- The host of another URL: its name is taken as it is. -/
def plainHost (cs : List Char) : Except Flaw Host :=
  match cs with
  | '[' :: rest => bracketed? rest
  | cs =>
    if cs.any isForbiddenInHost then .error .badHostChar
    else .ok (.name (String.ofList (percentEncode [] cs)))

end FleetDesk.Url
