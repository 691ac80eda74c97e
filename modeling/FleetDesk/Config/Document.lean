import FleetDesk.Config.Basic
import FleetDesk.Toml.Reader

/-!
# The configuration file

A TOML document with the sections `center` and `ssh`. Both may be left out, as may their entries;
what else the document holds is passed over. A section may also list its entries in order, and one
that is a date gives none of them.
-/

namespace FleetDesk.Config

inductive Misfit where
  | syntaxError
  | notSection (name : String)
  | notText (setting : Setting)
  | notPort
  deriving DecidableEq, Repr

def Misfit.message : Misfit → String
  | syntaxError => "not a TOML document"
  | notSection name => name ++ " is not a section"
  | notText setting => setting.place ++ " is not a text"
  | notPort => Setting.port.place ++ " is not a port number"

abbrev Members := List (String × Toml)

/-- The entries of a section, in the order of their names. -/
def section? (name : String) (names : List String) (document : Members) :
    Except Misfit (List (Option Toml)) :=
  match document.lookup name with
  | none => .ok (names.map fun _ => none)
  | some (.table members) => .ok (names.map fun n => members.lookup n)
  | some (.array items) => .ok ((List.range names.length).map fun n => items[n]?)
  | some (.moment _) => .ok (names.map fun _ => none)
  | some _ => .error (.notSection name)

def entryText (setting : Setting) : Option Toml → Except Misfit (Option String)
  | none => .ok none
  | some (.string s) => .ok (some s)
  | some _ => .error (.notText setting)

def entryPort : Option Toml → Except Misfit (Option Nat)
  | none => .ok none
  | some (.number (.integer n)) =>
    if 0 ≤ n && n ≤ maxPort then .ok (some n.toNat) else .error .notPort
  | some _ => .error .notPort

/-- The entry with this place in its section. -/
def entry (entries : List (Option Toml)) (place : Nat) : Option Toml := (entries[place]?).getD none

def Source.ofMembers (document : Members) : Except Misfit Source := do
  let center ← section? "center" ["url", "access_key"] document
  let ssh ← section? "ssh" ["private_key_path", "user", "port"] document
  let url ← entryText .url (entry center 0)
  let accessKey ← entryText .accessKey (entry center 1)
  let keyPath ← entryText .keyPath (entry ssh 0)
  let user ← entryText .user (entry ssh 1)
  let port ← entryPort (entry ssh 2)
  .ok { url, accessKey, keyPath, user, port }

def Source.ofDocument (text : String) : Except Misfit Source :=
  match Toml.parse? text with
  | none => .error .syntaxError
  | some members => ofMembers members

end FleetDesk.Config
