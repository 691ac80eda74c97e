import FleetDesk.Text.Digits
import FleetDesk.Text.Utf8

/-!
# Percent signs

A character that may not stand in a part of a URL is written as its bytes, each as a percent sign
and two hexadecimal digits. Which characters that are differs from part to part; control characters
and those beyond ASCII are among them everywhere.
-/

namespace FleetDesk.Url

def hexDigit (n : Nat) : Char := (Nat.digitChar n).toUpper

def percentByte (b : UInt8) : List Char := ['%', hexDigit (b.toNat / 16), hexDigit (b.toNat % 16)]

def percentChar (c : Char) : List Char := (Utf8.encode (String.ofList [c])).flatMap percentByte

/-- Writes the control characters, those beyond ASCII and those of a list by their bytes. -/
def percentEncode (others : List Char) (cs : List Char) : List Char :=
  cs.flatMap fun c =>
    if c.toNat < 0x20 || 0x7F ≤ c.toNat || others.contains c then percentChar c else [c]

def fragmentOthers : List Char := [' ', '"', '<', '>', '\x60']

def pathOthers : List Char := fragmentOthers ++ ['#', '?', '\x7b', '\x7d']

def queryOthers : List Char := [' ', '"', '#', '<', '>']

/-- In the query of a URL for the web. -/
def webQueryOthers : List Char := queryOthers ++ ['\'']

def hexByte? (b : UInt8) : Option Nat := Text.hexDigit? (Char.ofNat b.toNat)

/-- Reads the bytes that are written with percent signs; a sign without two digits stays. -/
def percentDecode : List UInt8 → List UInt8
  | [] => []
  | b :: x :: y :: rest =>
    if b = 37 then
      match hexByte? x, hexByte? y with
      | some hi, some lo => (16 * hi + lo).toUInt8 :: percentDecode rest
      | _, _ => b :: percentDecode (x :: y :: rest)
    else b :: percentDecode (x :: y :: rest)
  | b :: rest => b :: percentDecode rest

end FleetDesk.Url
