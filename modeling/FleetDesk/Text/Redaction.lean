import FleetDesk.Text.Blank
import FleetDesk.Text.Occurs

/-!
# Masking secrets in captured output

Two passes. `maskValues` looks for `NAME=VALUE` whose name speaks of a secret and masks the value,
up to the next blank. `maskDigests` masks every run of exactly 64 hexadecimal digits. All other
characters stay as they are.
-/

namespace FleetDesk.Text

def marker : List Char := "[REDACTED]".toList

/-- Letters, digits, the underscore, and the two characters that are a Latin letter in another case.
-/
def isNameChar (c : Char) : Bool :=
  c.isAlphanum || c = '_' || c = '\u017F' || c = '\u212A'

/-- The lower case of a name character; the long s is an `s`, the Kelvin sign a `k`. -/
def foldName (c : Char) : Char :=
  if c = '\u017F' then 's' else if c = '\u212A' then 'k' else c.toLower

def secretWords : List (List Char) :=
  ["secret".toList, "key".toList, "password".toList, "token".toList]

def isSecretName (name : List Char) : Bool :=
  let folded := name.map foldName
  secretWords.any fun word => occursIn word folded

theorem dropWhile_length_le (p : Char → Bool) (cs : List Char) :
    (cs.dropWhile p).length ≤ cs.length := (List.dropWhile_suffix p).length_le

/-- Reads a run of name characters, then what follows it: a value that is not empty is masked if the
name is a secret's. Between two names everything is kept. -/
def maskValues (cs : List Char) : List Char :=
  match cs with
  | [] => []
  | c :: rest =>
    if isNameChar c then
      let name := c :: rest.takeWhile isNameChar
      match _h : rest.dropWhile isNameChar with
      | '=' :: v :: tail =>
        if isSecretName name && !isBlank v then
          name ++ '=' :: marker ++ maskValues (tail.dropWhile (!isBlank ·))
        else name ++ '=' :: maskValues (v :: tail)
      | other => name ++ maskValues other
    else
      c :: rest.takeWhile (!isNameChar ·) ++ maskValues (rest.dropWhile (!isNameChar ·))
termination_by cs.length
decreasing_by
  all_goals simp only [List.length_cons]
  · have h1 := dropWhile_length_le isNameChar rest
    have h2 := dropWhile_length_le (!isBlank ·) tail
    simp only [_h, List.length_cons] at h1; omega
  · have h1 := dropWhile_length_le isNameChar rest
    simp only [_h, List.length_cons] at h1; omega
  · have h1 := dropWhile_length_le isNameChar rest
    simp only [_h] at h1; omega
  · have h1 := dropWhile_length_le (!isNameChar ·) rest; omega

def isHexDigit (c : Char) : Bool :=
  c.isDigit || ('a' ≤ c && c ≤ 'f') || ('A' ≤ c && c ≤ 'F')

/-- A digest is written as 64 digits. -/
def digestLength : Nat := 64

def maskRun (run : List Char) : List Char :=
  if run.all isHexDigit && run.length == digestLength then marker else run

def maskDigests (cs : List Char) : List Char :=
  (cs.splitBy fun a b => isHexDigit a == isHexDigit b).flatMap maskRun

def redact (s : String) : String := String.ofList (maskDigests (maskValues s.toList))

end FleetDesk.Text
