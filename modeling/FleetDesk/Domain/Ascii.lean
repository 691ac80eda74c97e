import FleetDesk.Domain.Context
import FleetDesk.Domain.Mapping
import FleetDesk.Domain.Punycode

/-!
# Domain names in ASCII

A domain name is looked up in ASCII: `ascii?` maps its characters, puts them into normal form, and
writes each label that still holds others with `xn--` in front. A label that comes with `xn--` is
read back first, and must be what would have been written.
-/

namespace FleetDesk.Domain

def codedStart : List Char := "xn--".toList

/-- The characters that no name in a URL may hold. -/
def isForbidden (c : Char) : Bool :=
  c.toNat ≤ 0x20 || c.toNat = 0x7F || "#%/:<>?@[\\]^|".toList.contains c

/-- Whether a label that was written in ASCII is one that had to be. -/
def isCoded (label : List Char) : Bool :=
  !label.all Punycode.isBasic && label.all isKept && normalize label == label
    && !codedStart.isPrefixOf label

/-- What the text behind `xn--` stands for. -/
def decoded? (cs : List Char) : Option (List Char) := (Punycode.decode cs).filter isCoded

/-- The characters that a label stands for. -/
def label? (cs : List Char) : Option (List Char) :=
  if codedStart.isPrefixOf cs then decoded? (cs.drop codedStart.length) else some cs

def isValidLabel (label : List Char) : Bool :=
  !label.head?.any isMark && joinersFit [] label

def written (label : List Char) : List Char :=
  if label.all Punycode.isBasic then label else codedStart ++ Punycode.encode label

def ascii? (name : List Char) : Option (List Char) := do
  let name ← mapped? name
  let labels ← (Text.splitChars (· = '.') (normalize name)).mapM label?
  if !labels.all isValidLabel then none
  else if labels.any turnsAround && !labels.all keepsDirection then none
  else
    let out := ['.'].intercalate (labels.map written)
    if out.any isForbidden then none else some out

end FleetDesk.Domain
