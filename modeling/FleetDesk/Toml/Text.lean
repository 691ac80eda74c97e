import FleetDesk.Text.Digits
import FleetDesk.Toml.Scan

/-!
# Texts between quotes

Between double quotes a backslash starts an escape; between single quotes every character stands for
itself. Three quotes open a text that may run over several lines. Its first line break is dropped, a
line break written with a carriage return counts as one without, and a backslash at the end of a
line swallows the blanks and line breaks behind it.
-/

namespace FleetDesk.Toml

/-- The character with the code that the next `count` hexadecimal digits write. -/
def scalar? (count : Nat) (cs : List Char) : Option (Char × List Char) :=
  if cs.length < count then none else
    match Text.numberIn? 16 (cs.take count) with
    | none => none
    | some n => if n.isValidChar then some (Char.ofNat n, cs.drop count) else none

/-- Reads what follows a backslash. -/
def escape? : Reader Char
  | 'b' :: rest => some ('\x08', rest)
  | 't' :: rest => some ('\t', rest)
  | 'n' :: rest => some ('\n', rest)
  | 'f' :: rest => some ('\x0c', rest)
  | 'r' :: rest => some ('\r', rest)
  | '"' :: rest => some ('"', rest)
  | '\\' :: rest => some ('\\', rest)
  | 'u' :: rest => scalar? 4 rest
  | 'U' :: rest => scalar? 8 rest
  | _ => none

theorem scalar?_length {count : Nat} {cs rest : List Char} {c : Char}
    (h : scalar? count cs = some (c, rest)) : rest.length ≤ cs.length := by
  unfold scalar? at h
  split at h
  · cases h
  · split at h
    · cases h
    · simp only [Option.ite_none_right_eq_some, Option.some.injEq, Prod.mk.injEq] at h
      obtain ⟨_, _, rfl⟩ := h
      simp

theorem escape?_length {cs rest : List Char} {c : Char} (h : escape? cs = some (c, rest)) :
    rest.length < cs.length := by
  unfold escape? at h
  split at h
  case h_8 | h_9 => exact Nat.lt_succ_of_le (scalar?_length h)
  case h_10 => cases h
  all_goals
    simp only [Option.some.injEq, Prod.mk.injEq] at h
    simp [← h.2]

/-- Reads on to the double quote that ends a text; `acc` holds its characters so far, last first. -/
def basicFrom (acc : List Char) (cs : List Char) : Option (String × List Char) :=
  match cs with
  | [] => none
  | c :: rest =>
    if c = '"' then some (String.ofList acc.reverse, rest)
    else if c = '\\' then
      match _h : escape? rest with
      | some (x, after) => basicFrom (x :: acc) after
      | none => none
    else if isShown c then basicFrom (c :: acc) rest
    else none
termination_by cs.length
decreasing_by
  · have := escape?_length _h; simp only [List.length_cons]; omega
  · simp

def literal? (cs : List Char) : Option (String × List Char) :=
  match cs.dropWhile fun c => isShown c && c != '\'' with
  | '\'' :: rest => some (String.ofList (cs.takeWhile fun c => isShown c && c != '\''), rest)
  | _ => none

def skipBlankLines : List Char → List Char
  | [] => []
  | '\r' :: '\n' :: rest => skipBlankLines rest
  | c :: rest => if isSpace c || c = '\n' then skipBlankLines rest else c :: rest

theorem skipBlankLines_length (cs : List Char) : (skipBlankLines cs).length ≤ cs.length := by
  fun_induction skipBlankLines cs <;> simp_all <;> omega

def quoteRun (quote : Char) (cs : List Char) : Nat := (cs.takeWhile (· = quote)).length

/-- The end of a text over several lines, at a run of quotes: up to two of them are still text. -/
def closeLines (quote : Char) (run : Nat) (acc cs : List Char) : Option (String × List Char) :=
  if run ≤ 5 then
    some (String.ofList (acc.reverse ++ List.replicate (run - 3) quote), cs.drop run)
  else none

/-- Reads on to the three quotes that end a text. -/
def linesFrom (quote : Char) (acc : List Char) (cs : List Char) : Option (String × List Char) :=
  match cs with
  | [] => none
  | c :: rest =>
    if c = quote then
      let run := quoteRun quote (c :: rest)
      if 3 ≤ run then closeLines quote run acc (c :: rest) else linesFrom quote (c :: acc) rest
    else if c = '\\' && quote = '"' then
      match _h : escape? rest with
      | some (x, after) => linesFrom quote (x :: acc) after
      | none =>
        match _hn : newline? (skipSpaces rest) with
        | some after => linesFrom quote acc (skipBlankLines after)
        | none => none
    else
      match _hn : newline? (c :: rest) with
      | some after => linesFrom quote ('\n' :: acc) after
      | none => if isShown c then linesFrom quote (c :: acc) rest else none
termination_by cs.length
decreasing_by
  · simp
  · have := escape?_length _h; simp only [List.length_cons]; omega
  · have h1 := newline?_length _hn
    have h2 := skipSpaces_length rest
    have h3 := skipBlankLines_length after
    simp only [List.length_cons]; omega
  · exact newline?_length _hn
  · simp

/-- A text on one line, as it may stand for a key too. -/
def lineText? : Reader String
  | '"' :: rest => basicFrom [] rest
  | '\'' :: rest => literal? rest
  | _ => none

def dropNewline (cs : List Char) : List Char := (newline? cs).getD cs

def text? : Reader String
  | '"' :: '"' :: '"' :: rest => linesFrom '"' [] (dropNewline rest)
  | '\'' :: '\'' :: '\'' :: rest => linesFrom '\'' [] (dropNewline rest)
  | cs => lineText? cs

end FleetDesk.Toml
