import FleetDesk.Decimal.Double
import FleetDesk.Json.Quoted
import FleetDesk.Json.Value

/-!
# Tokens of a JSON text

`tokens?` cuts a text into tokens; blanks between them are dropped. A number that is not an integer
of at most 64 bits becomes a `Double`, from the digits that fit 64 bits and a power of ten for the
others; one that is too large is refused, as is a word that is not `null`, `true` or `false`.
-/

namespace FleetDesk.Json

inductive Token where
  | openArray
  | closeArray
  | openObject
  | closeObject
  | colon
  | comma
  | null
  | bool (b : Bool)
  | number (n : Number)
  | string (s : String)
  deriving DecidableEq, Repr

/-- A number as it is written: sign, digits before the point, digits behind it, and power of ten. -/
structure Numeral where
  negative : Bool
  whole : List Char
  fraction : Option (List Char)
  power : Option Int

def digitValue (d : Char) : Nat := d.toNat - '0'.toNat

def digitsValue (ds : List Char) : Nat := ds.foldl (fun n d => 10 * n + digitValue d) 0

/-- The significand `n` followed by digits as long as it fits 64 bits, and the digits left over. -/
def takeDigits (n : Nat) : List Char → Nat × List Char
  | [] => (n, [])
  | d :: ds =>
    if 10 * n + digitValue d ≤ Number.maxUnsigned then takeDigits (10 * n + digitValue d) ds
    else (n, d :: ds)

/-- The significand of a numeral and its power of ten. A digit left over before the point counts as
a zero, and one behind it not at all. -/
def Numeral.parts (x : Numeral) : Nat × Int :=
  let fraction := x.fraction.getD []
  let (n, rest) := takeDigits 0 x.whole
  let (n, ignored) := takeDigits n fraction
  (n, x.power.getD 0 + rest.length - (fraction.length - ignored.length : Nat))

/-- An integer without point and power stays one if it fits; minus zero does not. -/
def Numeral.number? (x : Numeral) : Option Number :=
  let n : Int := if x.negative then -digitsValue x.whole else digitsValue x.whole
  if x.fraction.isNone && x.power.isNone && Number.fits n && !(x.negative && n == 0) then
    some (.int n)
  else
    let (significand, exponent) := x.parts
    (Double.ofParts? x.negative significand exponent).map .real

/-- A run of digits that is not empty. -/
def digitRun? (cs : List Char) : Option (List Char × List Char) :=
  let ds := cs.takeWhile Char.isDigit
  if ds.isEmpty then none else some (ds, cs.dropWhile Char.isDigit)

/-- A number does not start with a zero unless that zero is all there is before the point. -/
def wholePart? : List Char → Option (List Char × List Char)
  | '0' :: rest => some (['0'], rest)
  | cs => digitRun? cs

def fractionPart? : List Char → Option (Option (List Char) × List Char)
  | '.' :: rest => (digitRun? rest).map fun (ds, rest) => (some ds, rest)
  | cs => some (none, cs)

def signedRun? : List Char → Option (Int × List Char)
  | '-' :: rest => (digitRun? rest).map fun (ds, rest) => (-(digitsValue ds : Int), rest)
  | '+' :: rest => (digitRun? rest).map fun (ds, rest) => ((digitsValue ds : Int), rest)
  | cs => (digitRun? cs).map fun (ds, rest) => ((digitsValue ds : Int), rest)

def powerPart? : List Char → Option (Option Int × List Char)
  | c :: rest =>
    if c = 'e' || c = 'E' then (signedRun? rest).map fun (n, rest) => (some n, rest)
    else some (none, c :: rest)
  | [] => some (none, [])

def unsignedNumeral? (negative : Bool) (cs : List Char) : Option (Numeral × List Char) := do
  let (whole, cs) ← wholePart? cs
  let (fraction, cs) ← fractionPart? cs
  let (power, cs) ← powerPart? cs
  some (⟨negative, whole, fraction, power⟩, cs)

def numeral? : List Char → Option (Numeral × List Char)
  | '-' :: rest => unsignedNumeral? true rest
  | cs => unsignedNumeral? false cs

def word? (word : List Char) (token : Token) (cs : List Char) : Option (Token × List Char) :=
  if word.isPrefixOf cs then some (token, cs.drop word.length) else none

/-- The token that a text starts with. -/
def next? (cs : List Char) : Option (Token × List Char) :=
  match cs with
  | [] => none
  | c :: rest =>
    if c = '[' then some (.openArray, rest)
    else if c = ']' then some (.closeArray, rest)
    else if c = '\x7b' then some (.openObject, rest)
    else if c = '\x7d' then some (.closeObject, rest)
    else if c = ':' then some (.colon, rest)
    else if c = ',' then some (.comma, rest)
    else if c = '"' then (readQuoted? rest).map fun (s, rest) => (.string s, rest)
    else if c = 'n' then word? "ull".toList .null rest
    else if c = 't' then word? "rue".toList (.bool true) rest
    else if c = 'f' then word? "alse".toList (.bool false) rest
    else do
      let (numeral, after) ← numeral? cs
      let n ← numeral.number?
      some (.number n, after)

def isSpace (c : Char) : Bool := c = ' ' || c = '\n' || c = '\t' || c = '\r'

theorem digitRun?_length {cs ds rest : List Char} (h : digitRun? cs = some (ds, rest)) :
    rest.length < cs.length := by
  simp only [digitRun?, Option.ite_none_left_eq_some, Option.some.injEq, Prod.mk.injEq] at h
  obtain ⟨h0, rfl, rfl⟩ := h
  have h1 : (cs.takeWhile Char.isDigit).length + (cs.dropWhile Char.isDigit).length
      = cs.length := by
    rw [← List.length_append, List.takeWhile_append_dropWhile]
  have h2 := List.length_pos_iff.2 (List.isEmpty_eq_false_iff.1 (Bool.eq_false_iff.2 h0))
  omega

theorem wholePart?_length {cs ds rest : List Char} (h : wholePart? cs = some (ds, rest)) :
    rest.length < cs.length := by
  unfold wholePart? at h
  split at h
  · simp only [Option.some.injEq, Prod.mk.injEq] at h
    simp [← h.2]
  · exact digitRun?_length h

theorem fractionPart?_length {cs rest : List Char} {ds : Option (List Char)}
    (h : fractionPart? cs = some (ds, rest)) : rest.length ≤ cs.length := by
  unfold fractionPart? at h
  split at h
  · simp only [Option.map_eq_some_iff, Prod.mk.injEq] at h
    obtain ⟨⟨ds', rest'⟩, h1, _, rfl⟩ := h
    have := digitRun?_length h1
    simp only [List.length_cons]; omega
  · simp only [Option.some.injEq, Prod.mk.injEq] at h
    simp [← h.2]

theorem signedRun?_length {cs rest : List Char} {n : Int} (h : signedRun? cs = some (n, rest)) :
    rest.length < cs.length := by
  unfold signedRun? at h
  split at h <;>
  · simp only [Option.map_eq_some_iff, Prod.mk.injEq] at h
    obtain ⟨⟨ds', rest'⟩, h1, _, rfl⟩ := h
    have := digitRun?_length h1
    simp only [List.length_cons] at *; omega

theorem powerPart?_length {cs rest : List Char} {n : Option Int}
    (h : powerPart? cs = some (n, rest)) : rest.length ≤ cs.length := by
  unfold powerPart? at h
  split at h
  · split at h
    · simp only [Option.map_eq_some_iff, Prod.mk.injEq] at h
      obtain ⟨⟨ds', rest'⟩, h1, _, rfl⟩ := h
      have := signedRun?_length h1
      simp only [List.length_cons]; omega
    · simp only [Option.some.injEq, Prod.mk.injEq] at h
      simp [← h.2]
  · simp only [Option.some.injEq, Prod.mk.injEq] at h
    simp [← h.2]

theorem unsignedNumeral?_length {negative : Bool} {cs rest : List Char} {x : Numeral}
    (h : unsignedNumeral? negative cs = some (x, rest)) : rest.length < cs.length := by
  simp only [unsignedNumeral?, Option.bind_eq_bind, Option.bind_eq_some_iff, Option.some.injEq,
    Prod.mk.injEq] at h
  obtain ⟨⟨w, r1⟩, h1, ⟨f, r2⟩, h2, ⟨p, r3⟩, h3, _, rfl⟩ := h
  have := wholePart?_length h1
  have := fractionPart?_length h2
  have := powerPart?_length h3
  simp only at *; omega

theorem numeral?_length {cs rest : List Char} {x : Numeral} (h : numeral? cs = some (x, rest)) :
    rest.length < cs.length := by
  unfold numeral? at h
  split at h
  · have := unsignedNumeral?_length h; simp only [List.length_cons]; omega
  · exact unsignedNumeral?_length h

theorem word?_length {word cs rest : List Char} {token t : Token}
    (h : word? word token cs = some (t, rest)) : rest.length ≤ cs.length := by
  simp only [word?, Option.ite_none_right_eq_some, Option.some.injEq, Prod.mk.injEq] at h
  obtain ⟨_, _, rfl⟩ := h
  simp

theorem next?_length {cs rest : List Char} {t : Token} (h : next? cs = some (t, rest)) :
    rest.length < cs.length := by
  unfold next? at h
  split at h
  · cases h
  · next c after =>
    simp only [List.length_cons]
    repeat' split at h
    all_goals first
      | (simp only [Option.some.injEq, Prod.mk.injEq] at h; obtain ⟨_, rfl⟩ := h; omega)
      | exact Nat.lt_succ_of_le (word?_length h)
      | skip
    · simp only [Option.map_eq_some_iff, Prod.mk.injEq] at h
      obtain ⟨⟨s, r⟩, h1, _, rfl⟩ := h
      have := readQuotedFrom_length h1
      exact Nat.lt_succ_of_lt this
    · simp only [Option.bind_eq_bind, Option.bind_eq_some_iff, Option.some.injEq,
        Prod.mk.injEq] at h
      obtain ⟨⟨x, r⟩, h1, n, _, _, rfl⟩ := h
      have := numeral?_length h1
      simpa using this

/-- The tokens of a text; `acc` holds those before it, last first. -/
def tokensFrom (acc : List Token) (cs : List Char) : Option (List Token) :=
  match _hd : cs.dropWhile isSpace with
  | [] => some acc.reverse
  | c :: rest =>
    match _h : next? (c :: rest) with
    | some (t, after) => tokensFrom (t :: acc) after
    | none => none
termination_by cs.length
decreasing_by
  have h1 := next?_length _h
  have h2 := (List.dropWhile_suffix isSpace : cs.dropWhile isSpace <:+ cs).length_le
  rw [_hd] at h2
  omega

def tokens? (cs : List Char) : Option (List Token) := tokensFrom [] cs

end FleetDesk.Json
