import FleetDesk.Text.Digits

/-!
# JSON string literals

`quote` writes a text between quotes; `readQuoted?` reads one from behind its opening quote. Written
are the short escapes and, for other control characters, `\u00XX`; everything else stands for
itself. Read are all escapes of the format, a pair of surrogates as one character; a surrogate alone
is refused.
-/

namespace FleetDesk.Json

def hexDigit (n : Nat) : Char := Nat.digitChar n

def escapeChar (c : Char) : List Char :=
  if c = '"' then ['\\', '"']
  else if c = '\\' then ['\\', '\\']
  else if c = '\x08' then ['\\', 'b']
  else if c = '\x0c' then ['\\', 'f']
  else if c = '\n' then ['\\', 'n']
  else if c = '\r' then ['\\', 'r']
  else if c = '\t' then ['\\', 't']
  else if c.toNat < 0x20 then
    ['\\', 'u', '0', '0', hexDigit (c.toNat / 16), hexDigit (c.toNat % 16)]
  else [c]

def quote (s : String) : List Char := '"' :: s.toList.flatMap escapeChar ++ ['"']

/-- Four hexadecimal digits. -/
def unit? : List Char → Option (Nat × List Char)
  | a :: b :: c :: d :: rest => do
    let a ← Text.hexDigit? a
    let b ← Text.hexDigit? b
    let c ← Text.hexDigit? c
    let d ← Text.hexDigit? d
    some (((a * 16 + b) * 16 + c) * 16 + d, rest)
  | _ => none

def isHighSurrogate (n : Nat) : Bool := 0xD800 ≤ n && n < 0xDC00

def isLowSurrogate (n : Nat) : Bool := 0xDC00 ≤ n && n < 0xE000

/-- The character behind `\u`, from one unit or from a pair of surrogates. -/
def unicodeEscape? (cs : List Char) : Option (Char × List Char) := do
  let (high, rest) ← unit? cs
  if isHighSurrogate high then
    match rest with
    | '\\' :: 'u' :: rest =>
      let (low, rest) ← unit? rest
      if isLowSurrogate low then
        some (Char.ofNat (0x10000 + (high - 0xD800) * 0x400 + (low - 0xDC00)), rest)
      else none
    | _ => none
  else if isLowSurrogate high then none
  else some (Char.ofNat high, rest)

/-- The character behind a backslash. -/
def escape? : List Char → Option (Char × List Char)
  | '"' :: rest => some ('"', rest)
  | '\\' :: rest => some ('\\', rest)
  | '/' :: rest => some ('/', rest)
  | 'b' :: rest => some ('\x08', rest)
  | 'f' :: rest => some ('\x0c', rest)
  | 'n' :: rest => some ('\n', rest)
  | 'r' :: rest => some ('\r', rest)
  | 't' :: rest => some ('\t', rest)
  | 'u' :: rest => unicodeEscape? rest
  | _ => none

theorem unit?_length {cs rest : List Char} {n : Nat} (h : unit? cs = some (n, rest)) :
    rest.length < cs.length := by
  unfold unit? at h
  split at h
  · simp only [Option.bind_eq_bind, Option.bind_eq_some_iff, Option.some.injEq, Prod.mk.injEq] at h
    obtain ⟨_, _, _, _, _, _, _, _, _, rfl⟩ := h
    simp only [List.length_cons]; omega
  · cases h

theorem unicodeEscape?_length {cs rest : List Char} {c : Char}
    (h : unicodeEscape? cs = some (c, rest)) : rest.length < cs.length := by
  obtain ⟨⟨high, mid⟩, hu, h⟩ := Option.bind_eq_some_iff.1 h
  have h1 := unit?_length hu
  simp only at h
  split at h
  · split at h
    · obtain ⟨⟨low, last⟩, hv, h⟩ := Option.bind_eq_some_iff.1 h
      have h2 := unit?_length hv
      simp only [List.length_cons] at h1
      simp only at h
      split at h
      · simp only [Option.some.injEq, Prod.mk.injEq] at h
        obtain ⟨_, rfl⟩ := h
        omega
      · cases h
    · cases h
  · split at h
    · cases h
    · simp only [Option.some.injEq, Prod.mk.injEq] at h
      obtain ⟨_, rfl⟩ := h
      exact h1

theorem escape?_length {cs rest : List Char} {c : Char} (h : escape? cs = some (c, rest)) :
    rest.length < cs.length := by
  unfold escape? at h
  split at h
  case h_9 => have := unicodeEscape?_length h; simp only [List.length_cons]; omega
  case h_10 => cases h
  all_goals
    simp only [Option.some.injEq, Prod.mk.injEq] at h
    obtain ⟨_, rfl⟩ := h
    simp

/-- The rest of a literal up to its closing quote; `acc` holds the characters before, last first. -/
def readQuotedFrom (acc : List Char) (cs : List Char) : Option (String × List Char) :=
  match cs with
  | [] => none
  | c :: rest =>
    if c = '"' then some (String.ofList acc.reverse, rest)
    else if c = '\\' then
      match _h : escape? rest with
      | some (e, after) => readQuotedFrom (e :: acc) after
      | none => none
    else if c.toNat < 0x20 then none
    else readQuotedFrom (c :: acc) rest
termination_by cs.length
decreasing_by
  · have := escape?_length _h; simp only [List.length_cons]; omega
  · simp

def readQuoted? (cs : List Char) : Option (String × List Char) := readQuotedFrom [] cs

theorem readQuotedFrom_length {acc cs rest : List Char} {s : String}
    (h : readQuotedFrom acc cs = some (s, rest)) : rest.length < cs.length := by
  fun_induction readQuotedFrom acc cs with
  | case1 => cases h
  | case2 acc rest' =>
    simp only [Option.some.injEq, Prod.mk.injEq] at h
    simp [← h.2]
  | case3 _ _ _ _ he _ ih =>
    have h1 := ih h
    have h2 := escape?_length he
    simp only [List.length_cons]; omega
  | case4 => cases h
  | case5 => cases h
  | case6 acc c rest' _ _ _ ih =>
    have h1 := ih h
    simp only [List.length_cons]; omega

end FleetDesk.Json
