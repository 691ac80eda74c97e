/-!
# UTF-8

Bytes are read one at a time. Between two characters anything may start; inside a character the next
byte must lie in a range that the bytes before it leave open. A text with a byte that fits nowhere
is refused, with the place of the character that went wrong.
-/

namespace FleetDesk.Utf8

/-- Why bytes are no text; `index` is where the last good character ends. -/
inductive Flaw where
  | invalid (length : Nat) (index : Nat)
  /-- The bytes end inside a character. -/
  | incomplete (index : Nat)
  deriving DecidableEq, Repr

def Flaw.message : Flaw → String
  | invalid n index =>
    "invalid utf-8 sequence of " ++ toString n ++ " bytes from index " ++ toString index
  | incomplete index => "incomplete utf-8 byte sequence from index " ++ toString index

/-- A character of which some bytes are read: how many are owed, where the next must lie, the bits
so far and the bytes so far. -/
structure Pending where
  owed : Nat
  low : Nat
  high : Nat
  bits : Nat
  seen : Nat

inductive First where
  | char (c : Char)
  | more (p : Pending)
  | bad

def first (b : Nat) : First :=
  if b < 0x80 then .char (Char.ofNat b)
  else if 0xC2 ≤ b && b ≤ 0xDF then .more ⟨1, 0x80, 0xBF, b - 0xC0, 1⟩
  else if b = 0xE0 then .more ⟨2, 0xA0, 0xBF, 0, 1⟩
  else if b = 0xED then .more ⟨2, 0x80, 0x9F, 0xD, 1⟩
  else if 0xE1 ≤ b && b ≤ 0xEF then .more ⟨2, 0x80, 0xBF, b - 0xE0, 1⟩
  else if b = 0xF0 then .more ⟨3, 0x90, 0xBF, 0, 1⟩
  else if 0xF1 ≤ b && b ≤ 0xF3 then .more ⟨3, 0x80, 0xBF, b - 0xF0, 1⟩
  else if b = 0xF4 then .more ⟨3, 0x80, 0x8F, 4, 1⟩
  else .bad

/-- Reads on; `acc` holds the characters so far, last first, and `index` the bytes they take. -/
def decodeFrom (acc : List Char) (index : Nat) (pending : Option Pending) :
    List UInt8 → Except Flaw (List Char)
  | [] =>
    match pending with
    | none => .ok acc.reverse
    | some _ => .error (.incomplete index)
  | b :: bs =>
    match pending with
    | none =>
      match first b.toNat with
      | .char c => decodeFrom (c :: acc) (index + 1) none bs
      | .more p => decodeFrom acc index (some p) bs
      | .bad => .error (.invalid 1 index)
    | some p =>
      if p.low ≤ b.toNat && b.toNat ≤ p.high then
        let bits := p.bits * 64 + (b.toNat - 0x80)
        if p.owed ≤ 1 then decodeFrom (Char.ofNat bits :: acc) (index + p.seen + 1) none bs
        else decodeFrom acc index (some ⟨p.owed - 1, 0x80, 0xBF, bits, p.seen + 1⟩) bs
      else .error (.invalid p.seen index)

def decode (bs : List UInt8) : Except Flaw String := (decodeFrom [] 0 none bs).map String.ofList

def encode (s : String) : List UInt8 := s.toUTF8.toList

def replacement : Char := '\ufffd'

/-- Reads bytes as text whatever they are: what would be a flaw becomes a replacement character, and
reading goes on with the first byte that did not fit. -/
def decodeLossyFrom (acc : List Char) (pending : Option Pending) : List UInt8 → List Char
  | [] => (if pending.isSome then replacement :: acc else acc).reverse
  | b :: bs =>
    let fresh (acc : List Char) :=
      match first b.toNat with
      | .char c => decodeLossyFrom (c :: acc) none bs
      | .more p => decodeLossyFrom acc (some p) bs
      | .bad => decodeLossyFrom (replacement :: acc) none bs
    match pending with
    | none => fresh acc
    | some p =>
      if p.low ≤ b.toNat && b.toNat ≤ p.high then
        let bits := p.bits * 64 + (b.toNat - 0x80)
        if p.owed ≤ 1 then decodeLossyFrom (Char.ofNat bits :: acc) none bs
        else decodeLossyFrom acc (some ⟨p.owed - 1, 0x80, 0xBF, bits, p.seen + 1⟩) bs
      else fresh (replacement :: acc)

def decodeLossy (bs : List UInt8) : String := String.ofList (decodeLossyFrom [] none bs)

end FleetDesk.Utf8
