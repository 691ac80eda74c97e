import FleetDesk.Toml.Number

/-!
# Dates and times

A moment is a date, a time of day, or both, and then perhaps with an offset from universal time. The
day must exist in its month; a minute may have a leap second.
-/

namespace FleetDesk.Toml

structure Date where
  year : Nat
  month : Nat
  day : Nat
  deriving DecidableEq, Repr

structure Time where
  hour : Nat
  minute : Nat
  second : Nat
  /-- The digits of the fraction of the second. -/
  fraction : List Char
  deriving DecidableEq, Repr

structure Moment where
  date : Option Date
  time : Option Time
  /-- In minutes. -/
  offset : Option Int
  deriving DecidableEq, Repr

def isLeapYear (year : Nat) : Bool := year % 4 = 0 && (year % 100 != 0 || year % 400 = 0)

def daysIn (year month : Nat) : Nat :=
  if month = 2 then if isLeapYear year then 29 else 28
  else if month = 4 || month = 6 || month = 9 || month = 11 then 30
  else 31

def Date.valid (d : Date) : Bool :=
  1 ≤ d.month && d.month ≤ 12 && 1 ≤ d.day && d.day ≤ daysIn d.year d.month

def Time.valid (t : Time) : Bool := t.hour ≤ 23 && t.minute ≤ 59 && t.second ≤ 60

/-- Exactly `count` digits. -/
def fixed? (count : Nat) (cs : List Char) : Option (Nat × List Char) :=
  let ds := cs.take count
  if ds.length = count && ds.all Char.isDigit then some (valueIn 10 ds, cs.drop count) else none

def mark? (c : Char) : List Char → Option (List Char)
  | x :: rest => if x = c then some rest else none
  | [] => none

def date? (cs : List Char) : Option (Date × List Char) := do
  let (year, cs) ← fixed? 4 cs
  let cs ← mark? '-' cs
  let (month, cs) ← fixed? 2 cs
  let cs ← mark? '-' cs
  let (day, cs) ← fixed? 2 cs
  let date : Date := ⟨year, month, day⟩
  if date.valid then some (date, cs) else none

def secondFraction? : Reader (List Char)
  | '.' :: rest =>
    let ds := rest.takeWhile Char.isDigit
    if ds.isEmpty then none else some (ds, rest.dropWhile Char.isDigit)
  | cs => some ([], cs)

def time? (cs : List Char) : Option (Time × List Char) := do
  let (hour, cs) ← fixed? 2 cs
  let cs ← mark? ':' cs
  let (minute, cs) ← fixed? 2 cs
  let cs ← mark? ':' cs
  let (second, cs) ← fixed? 2 cs
  let (fraction, cs) ← secondFraction? cs
  let time : Time := ⟨hour, minute, second, fraction⟩
  if time.valid then some (time, cs) else none

def signedOffset? (negative : Bool) (cs : List Char) : Option (Int × List Char) := do
  let (hour, cs) ← fixed? 2 cs
  let cs ← mark? ':' cs
  let (minute, cs) ← fixed? 2 cs
  if hour ≤ 23 && minute ≤ 59 then some (signed negative (60 * hour + minute), cs) else none

def offset? : Reader Int
  | 'Z' :: rest => some (0, rest)
  | 'z' :: rest => some (0, rest)
  | '-' :: rest => signedOffset? true rest
  | '+' :: rest => signedOffset? false rest
  | _ => none

/-- The time behind a date, after a `T` or a blank. -/
def timeAfter? : Reader Time
  | c :: rest => if c = 'T' || c = 't' || c = ' ' then time? rest else none
  | [] => none

def moment? (cs : List Char) : Option (Moment × List Char) :=
  match date? cs with
  | none => (time? cs).map fun (t, rest) => (⟨none, some t, none⟩, rest)
  | some (d, rest) =>
    match timeAfter? rest with
    | none => some (⟨some d, none, none⟩, rest)
    | some (t, rest) =>
      match offset? rest with
      | none => some (⟨some d, some t, none⟩, rest)
      | some (o, rest) => some (⟨some d, some t, some o⟩, rest)

end FleetDesk.Toml
