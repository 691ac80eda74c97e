/-!
# Timestamps

A moment of universal time, counted in nanoseconds from the beginning of 1970, as a text. Records
carry milliseconds; notes carry as many digits of the second as it has, in groups of three.
-/

namespace FleetDesk.Stamp

structure Moment where
  year : Nat
  month : Nat
  day : Nat
  /-- The second of the day. -/
  second : Nat
  nanosecond : Nat
  deriving DecidableEq, Repr

/-- The days from the first of March of the year zero to the first of January 1970. -/
def daysBefore1970 : Nat := 719468

/-- The days of 400 years. -/
def daysPerCycle : Nat := 146097

/-- The date of a day, by years that begin in March. -/
def date (days : Nat) : Nat × Nat × Nat :=
  let d := days + daysBefore1970
  let day := d % daysPerCycle
  let year := (day - day / 1460 + day / 36524 - day / 146096) / 365
  let dayOfYear := day - (365 * year + year / 4 - year / 100)
  let month := (5 * dayOfYear + 2) / 153
  let dayOfMonth := dayOfYear - (153 * month + 2) / 5 + 1
  let year := year + 400 * (d / daysPerCycle)
  if month < 10 then (year, month + 3, dayOfMonth) else (year + 1, month - 9, dayOfMonth)

def Moment.ofNanoseconds (n : Nat) : Moment :=
  let seconds := n / 1000000000
  let (year, month, day) := date (seconds / 86400)
  ⟨year, month, day, seconds % 86400, n % 1000000000⟩

/-- A number with zeros in front up to a width. -/
def padded (width n : Nat) : String :=
  let ds := Nat.toDigits 10 n
  String.ofList (List.replicate (width - ds.length) '0' ++ ds)

def Moment.clock (m : Moment) : String :=
  padded 4 m.year ++ "-" ++ padded 2 m.month ++ "-" ++ padded 2 m.day ++ "T"
    ++ padded 2 (m.second / 3600) ++ ":" ++ padded 2 (m.second / 60 % 60) ++ ":"
    ++ padded 2 (m.second % 60)

def Moment.record (m : Moment) : String :=
  m.clock ++ "." ++ padded 3 (m.nanosecond / 1000000) ++ "Z"

def Moment.note (m : Moment) : String :=
  let fraction :=
    if m.nanosecond = 0 then ""
    else if m.nanosecond % 1000000 = 0 then "." ++ padded 3 (m.nanosecond / 1000000)
    else if m.nanosecond % 1000 = 0 then "." ++ padded 6 (m.nanosecond / 1000)
    else "." ++ padded 9 m.nanosecond
  m.clock ++ fraction ++ "+00:00"

end FleetDesk.Stamp
