import FleetDesk.Decimal.Double

/-!
# JSON values

An integer that fits 64 bits stays an integer; every other number is a `Double`. The members of an
object are kept in the order of their keys when they are put together with `insertMember`; a key
that comes again takes the last value.
-/

namespace FleetDesk

inductive Number where
  | int (n : Int)
  | real (x : Double)
  deriving DecidableEq, Repr

inductive Json where
  | null
  | bool (b : Bool)
  | number (n : Number)
  | string (s : String)
  | array (items : List Json)
  | object (members : List (String × Json))
  deriving Repr, Inhabited

namespace Number

def maxUnsigned : Int := 0xFFFFFFFFFFFFFFFF

def maxSigned : Int := 0x7FFFFFFFFFFFFFFF

def minSigned : Int := -0x8000000000000000

def fits (n : Int) : Bool := minSigned ≤ n && n ≤ maxUnsigned

def signed? : Number → Option Int
  | int n => if minSigned ≤ n && n ≤ maxSigned then some n else none
  | real _ => none

def unsigned? : Number → Option Nat
  | int n => if 0 ≤ n && n ≤ maxUnsigned then some n.toNat else none
  | real _ => none

def toDouble : Number → Double
  | int n => (Double.ofInt? n).getD (Double.zero false)
  | real x => x

def isPositive : Number → Bool
  | int n => 0 < n
  | real x => x.isPositive

end Number

namespace Json

def int (n : Int) : Json := .number (.int n)

def nat (n : Nat) : Json := int n

def insertMember (key : String) (v : Json) : List (String × Json) → List (String × Json)
  | [] => [(key, v)]
  | (k, w) :: ms =>
    if key < k then (key, v) :: (k, w) :: ms
    else if k = key then (key, v) :: ms
    else (k, w) :: insertMember key v ms

/-- The members in the order of their keys, the last of those with one key. -/
def sortMembers (ms : List (String × Json)) : List (String × Json) :=
  ms.foldl (fun acc (k, v) => insertMember k v acc) []

def ofMembers (ms : List (String × Json)) : Json := .object (sortMembers ms)

/-- The value of the first member with this key. -/
def member? (key : String) : List (String × Json) → Option Json
  | [] => none
  | (k, v) :: ms => if k = key then some v else member? key ms

def get? (key : String) : Json → Option Json
  | .object ms => member? key ms
  | _ => none

def string? : Json → Option String
  | .string s => some s
  | _ => none

def array? : Json → Option (List Json)
  | .array items => some items
  | _ => none

def number? : Json → Option Number
  | .number n => some n
  | _ => none

def isObject : Json → Bool
  | .object _ => true
  | _ => false

@[simp] theorem get?_object (key : String) (ms : List (String × Json)) :
    (Json.object ms).get? key = member? key ms := rfl

theorem member?_insertMember (key k : String) (v : Json) (ms : List (String × Json)) :
    member? k (insertMember key v ms) = if k = key then some v else member? k ms := by
  induction ms with
  | nil => grind [insertMember, member?]
  | cons m ms ih => grind [insertMember, member?]

end Json

end FleetDesk
