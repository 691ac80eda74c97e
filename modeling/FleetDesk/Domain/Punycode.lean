/-!
# Punycode

A label with characters beyond ASCII is written with ASCII letters and digits: first its ASCII
characters, then where the others go. Each of them is a distance from the place and code point of
the one before, in the order of code points; a distance is a number of variable length whose digits
are weighed by a bias that follows the sizes of the distances.
-/

namespace FleetDesk.Domain.Punycode

def base : Nat := 36

def firstCode : Nat := 128

def firstBias : Nat := 72

def digitChar (d : Nat) : Char := if d < 26 then Char.ofNat (97 + d) else Char.ofNat (22 + d)

def digitValue? (c : Char) : Option Nat :=
  if c.isLower then some (c.toNat - 'a'.toNat)
  else if c.isUpper then some (c.toNat - 'A'.toNat)
  else if c.isDigit then some (c.toNat - '0'.toNat + 26)
  else none

/-- The weight limit of a digit at a position counted in steps of `base`. -/
def threshold (bias position : Nat) : Nat := max 1 (min 26 (position - bias))

theorem threshold_pos (bias position : Nat) : 1 ≤ threshold bias position := by
  simp only [threshold]; omega

theorem threshold_le (bias position : Nat) : threshold bias position ≤ 26 := by
  simp only [threshold]; omega

/-- The bias for a distance that has been scaled down. -/
def settle (position delta : Nat) : Nat :=
  if 455 < delta then settle (position + base) (delta / 35)
  else position + base * delta / (delta + 38)
termination_by delta
decreasing_by omega

def adapt (delta count : Nat) (first : Bool) : Nat :=
  let delta := if first then delta / 700 else delta / 2
  settle 0 (delta + delta / count)

/-! ### Writing -/

def digits (bias position n : Nat) : List Char :=
  let t := threshold bias position
  if n < t then [digitChar n]
  else digitChar (t + (n - t) % (base - t)) :: digits bias (position + base) ((n - t) / (base - t))
termination_by n
decreasing_by
  have h1 := threshold_pos bias position
  have h2 : (n - threshold bias position) / (base - threshold bias position)
      ≤ n - threshold bias position := Nat.div_le_self _ _
  omega

structure Writer where
  /-- The digits so far, last first. -/
  out : List Char := []
  delta : Nat := 0
  bias : Nat := firstBias
  /-- The characters that are placed. -/
  count : Nat
  /-- Whether no distance has been written. -/
  first : Bool := true

/-- Passes a character while those with the code point `n` are placed. -/
def Writer.pass (n : Nat) (w : Writer) (c : Char) : Writer :=
  if c.toNat < n then { w with delta := w.delta + 1 }
  else if c.toNat = n then
    { out := (digits w.bias base w.delta).reverse ++ w.out
      delta := 0
      bias := adapt w.delta (w.count + 1) w.first
      count := w.count + 1
      first := false }
  else w

/-- Places the characters of the code points, which rise; `next` is the lowest one still possible.
-/
def Writer.place (label : List Char) (w : Writer) (next : Nat) : List Nat → Writer
  | [] => w
  | n :: ns =>
    let w := { w with delta := w.delta + (n - next) * (w.count + 1) }
    let w := label.foldl (pass n) w
    place label { w with delta := w.delta + 1 } (n + 1) ns

def isBasic (c : Char) : Bool := c.toNat < firstCode

def encode (label : List Char) : List Char :=
  let basic := label.filter isBasic
  let others := ((label.filter (!isBasic ·)).map Char.toNat).mergeSort.eraseDups
  let w := Writer.place label { count := basic.length } firstCode others
  basic ++ (if basic.isEmpty then [] else ['-']) ++ w.out.reverse

/-! ### Reading -/

/-- A distance: the digits up to the first below its limit. -/
def distance? (bias : Nat) : Nat → Nat → Nat → List Char → Option (Nat × List Char)
  | _, _, _, [] => none
  | position, weight, n, c :: cs => do
    let d ← digitValue? c
    let t := threshold bias position
    let n := n + d * weight
    if d < t then some (n, cs) else distance? bias (position + base) (weight * (base - t)) n cs

theorem distance?_length {bias position weight n : Nat} {cs : List Char} {r : Nat × List Char}
    (h : distance? bias position weight n cs = some r) : r.2.length < cs.length := by
  induction cs generalizing position weight n with
  | nil => simp [distance?] at h
  | cons c cs ih =>
    simp only [distance?, Option.bind_eq_bind, Option.bind_eq_some_iff] at h
    obtain ⟨d, _, h⟩ := h
    split at h
    · simp only [Option.some.injEq] at h
      simp [← h]
    · have := ih h
      simp only [List.length_cons]; omega

/-- Places characters as the distances say; `place` and `code` are where the last one left off. -/
def placeFrom (bias place code : Nat) (first : Bool) (label cs : List Char) : Option (List Char) :=
  match cs with
  | [] => some label
  | c :: rest =>
    match _h : distance? bias base 1 0 (c :: rest) with
    | none => none
    | some (n, after) =>
      let count := label.length + 1
      let code := code + (place + n) / count
      let place := (place + n) % count
      if code.isValidChar then
        placeFrom (adapt n count first) (place + 1) code false
          (label.take place ++ Char.ofNat code :: label.drop place) after
      else none
termination_by cs.length
decreasing_by exact distance?_length _h

/-- The ASCII characters stand before the last hyphen, if there are any. -/
def decode (cs : List Char) : Option (List Char) :=
  let tail := (cs.reverse.takeWhile (· != '-')).reverse
  let basic := cs.take (cs.length - tail.length - 1)
  if basic.all isBasic then
    placeFrom firstBias 0 firstCode true basic (if basic.isEmpty then cs else tail)
  else none

end FleetDesk.Domain.Punycode
