import FleetDesk.Json.Printer
import FleetDesk.Text.Quoted

/-!
# Records from JSON

A record is read from an object by the names of its fields, or from an array by their places. Fields
of an object are looked at in the order of their names, and unknown ones are passed over; an array
may end early where the missing fields are optional, but has no elements beyond the last field.
-/

namespace FleetDesk.Decode

/-- What was found in place of something else. -/
inductive Found where
  | null
  | bool (b : Bool)
  | number (n : Number)
  | text (s : String)
  | sequence
  | map
  deriving DecidableEq, Repr

def Found.of : Json → Found
  | .null => null
  | .bool b => bool b
  | .number n => number n
  | .string s => text s
  | .array _ => sequence
  | .object _ => map

def Found.describe : Found → String
  | null => "null"
  | bool b => "boolean `" ++ (if b then "true" else "false") ++ "`"
  | number (.int n) => "integer `" ++ toString n ++ "`"
  | number (.real x) => "floating point `" ++ String.ofList (Json.doubleDigits x) ++ "`"
  | text s => "string " ++ Text.quoted s
  | sequence => "sequence"
  | map => "map"

inductive Misfit where
  | wrongType (found : Found) (expected : String)
  | wrongLength (length : Nat) (expected : String)
  | missing (field : String)
  deriving DecidableEq, Repr

def Misfit.message : Misfit → String
  | wrongType found expected => "invalid type: " ++ found.describe ++ ", expected " ++ expected
  | wrongLength n expected => "invalid length " ++ toString n ++ ", expected " ++ expected
  | missing field => "missing field `" ++ field ++ "`"

def text : Json → Except Misfit String
  | .string s => .ok s
  | v => .error (.wrongType (Found.of v) "a string")

/-- Null stands for the default. -/
def orDefault {α : Type} (default : α) (read : Json → Except Misfit α) : Json → Except Misfit α
  | .null => .ok default
  | v => read v

def list {α : Type} (read : Json → Except Misfit α) : Json → Except Misfit (List α)
  | .array items => items.mapM read
  | v => .error (.wrongType (Found.of v) "a sequence")

/-- A field of a record under construction: its name in an object, its place in an array, and how a
value is put into the record. -/
structure Slot (α : Type) where
  name : String
  place : Nat
  required : Bool
  fill : Json → α → Except Misfit α

/-- A kind of record with its fields in the order of their names. -/
structure Shape (α : Type) where
  title : String
  slots : List (Slot α)

namespace Shape

variable {α : Type}

def fillNamed (v : Json) (r : α) (slot : Slot α) : Except Misfit α :=
  match v.get? slot.name with
  | some x => slot.fill x r
  | none => .ok r

def fillPlaced (shape : Shape α) (items : List Json) (r : α) (place : Nat) : Except Misfit α :=
  match shape.slots.find? (·.place = place) with
  | none => .ok r
  | some slot =>
    match items[place]? with
    | some x => slot.fill x r
    | none =>
      if slot.required then
        .error (.wrongLength place
          (shape.title ++ " with " ++ toString shape.slots.length ++ " elements"))
      else .ok r

/-- Reads a record; fields that are not given are those of `start`. -/
def read (shape : Shape α) (start : α) : Json → Except Misfit α
  | .object members => do
    let r ← shape.slots.foldlM (fillNamed (.object members)) start
    match shape.slots.find? fun s => s.required && (Json.member? s.name members).isNone with
    | some slot => .error (.missing slot.name)
    | none => .ok r
  | .array items => do
    let r ← (List.range shape.slots.length).foldlM (shape.fillPlaced items) start
    if shape.slots.length < items.length then
      .error (.wrongLength items.length "fewer elements in array")
    else .ok r
  | v => .error (.wrongType (Found.of v) shape.title)

end Shape

end FleetDesk.Decode
