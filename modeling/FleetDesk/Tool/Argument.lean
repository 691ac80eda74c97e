import FleetDesk.Fault
import FleetDesk.Text.Blank

/-!
# Arguments of a tool call

Each function takes one argument as JSON and gives its value, or says what is wrong with it. An
argument that is absent is `none`; where it may be absent, null counts as absent too.
-/

namespace FleetDesk.Argument

inductive Flaw where
  | notText
  | blank
  | notAddress (text : String)
  | notPlainText
  | notSeconds
  | notPositive
  | notObject
  /-- A blank command, and no script that could stand in for it. -/
  | nothingToRun
  deriving DecidableEq, Repr

def Flaw.requirement : Flaw → String
  | notText | blank => "must be a non-empty string"
  | notAddress _ => "must be an IP address or hostname"
  | notPlainText => "must be a string"
  | notSeconds => "must be a number of seconds"
  | notPositive => "must be a positive number of seconds"
  | notObject => "must be an object"
  | nothingToRun => "must be a non-empty string unless scriptPath is given"

/-- An argument and what is wrong with it. -/
structure Complaint where
  label : String
  flaw : Flaw
  deriving DecidableEq, Repr

def Complaint.message (c : Complaint) : String := c.label ++ " " ++ c.flaw.requirement

def Complaint.toFault (c : Complaint) : Fault :=
  let f := Fault.of .invalidParams c.message
  match c.flaw with
  | .notAddress text => f.withDetails (Json.ofMembers [(c.label, .string text)])
  | _ => f

/-- A text that is not blank, as it stands. -/
def nonBlank (label : String) : Json → Except Complaint String
  | .string s => if Text.isBlankText s then .error ⟨label, .blank⟩ else .ok s
  | _ => .error ⟨label, .notText⟩

/-- A text that is not blank, without the blanks around it. -/
def trimmed (label : String) (v : Json) : Except Complaint String :=
  (nonBlank label v).map Text.trim

/-- Letters and digits of ASCII, and the signs that separate the parts of an address. -/
def isAddressChar (c : Char) : Bool :=
  c.isAlphanum || c = '.' || c = ':' || c = '-' || c = '_'

/-- Usable as one segment of a path: only address characters, and no dot segment. -/
def isAddress (s : String) : Bool := s != "." && s != ".." && s.toList.all isAddressChar

def address (label : String) (v : Json) : Except Complaint String := do
  let s ← trimmed label v
  if isAddress s then .ok s else .error ⟨label, .notAddress s⟩

/-- Reads an argument that may be absent. -/
def optional {α : Type} (read : String → Json → Except Complaint α) (label : String) :
    Option Json → Except Complaint (Option α)
  | none | some .null => .ok none
  | some v => (read label v).map some

/-- A text that may be empty. -/
def plainText (label : String) : Option Json → Except Complaint String
  | none | some .null => .ok ""
  | some (.string s) => .ok s
  | some _ => .error ⟨label, .notPlainText⟩

def maxMilliseconds : Nat := 0xFFFFFFFFFFFFFFFF

/-- Seconds in milliseconds, to the nearest one and at most `maxMilliseconds`. -/
def milliseconds (secs : Double) : Nat :=
  match secs.timesNat? 1000 with
  | some ms => min ms.roundMagnitude maxMilliseconds
  | none => maxMilliseconds

/-- A time limit in seconds, given in milliseconds. -/
def timeLimit (label : String) (defaultSeconds : Nat) : Option Json → Except Complaint Nat
  | none | some .null => .ok (min (defaultSeconds * 1000) maxMilliseconds)
  | some (.number n) =>
    let secs := n.toDouble
    if secs.isPositive then .ok (milliseconds secs) else .error ⟨label, .notPositive⟩
  | some _ => .error ⟨label, .notSeconds⟩

def object (label : String) : Json → Except Complaint (List (String × Json))
  | .object members => .ok members
  | _ => .error ⟨label, .notObject⟩

/-- The argument with this name, null if there is none. -/
def named (name : String) (args : Json) : Json := (args.get? name).getD .null

end FleetDesk.Argument
