import FleetDesk.Node.Listing
import FleetDesk.Proofs.Json.Members
import FleetDesk.Proofs.Redaction.Classes
import FleetDesk.Tool.Catalog

/-!
# What the schemas admit

A schema finds no violation in the objects that give a value of the right kind for every required
parameter, and for the others if at all, and nothing else (`Schema.violations_eq_nil`). For each tool
this names the arguments that its schema admits: `Exec.Gives`, `Ping.Gives`, `Listing.Gives` and
`Delete.Gives`.
-/

namespace FleetDesk

/-! ### Schemas -/

/-- The value has the kind of the parameter and satisfies its rules. -/
def Parameter.Takes (p : Parameter) (v : Json) : Prop := p.hasKind v ∧ ∀ r ∈ p.rules, r.admits v

/-- Nothing is given for the parameter, or a value that it takes. -/
def Parameter.TakenFrom (p : Parameter) (args : Json) : Prop :=
  ∀ v, args.get? p.name = some v → p.Takes v

structure Schema.Admits (s : Schema) (args : Json) : Prop where
  isObject : args.isObject
  known : ∀ k ∈ args.keys, k ∈ s.names
  taken : ∀ p ∈ s.parameters, p.TakenFrom args
  given : ∀ k ∈ s.required, (args.get? k).isSome

variable {args : Json} {p : Parameter}

/-- ASCII letters and digits and the four signs between the parts of an address. -/
def AddressChar (c : Char) : Prop :=
  ('A' ≤ c ∧ c ≤ 'Z') ∨ ('a' ≤ c ∧ c ≤ 'z') ∨ ('0' ≤ c ∧ c ≤ '9') ∨ c ∈ ['.', ':', '-', '_']

instance (c : Char) : Decidable (AddressChar c) := inferInstanceAs (Decidable (_ ∨ _))

theorem addressChar_iff {c : Char} : AddressChar c ↔
    (65 ≤ c.toNat ∧ c.toNat ≤ 90) ∨ (97 ≤ c.toNat ∧ c.toNat ≤ 122) ∨
      (48 ≤ c.toNat ∧ c.toNat ≤ 57) ∨ c ∈ ['.', ':', '-', '_'] := by
  rw [AddressChar]
  simp only [Char.le_def, UInt32.le_iff_toNat_le]
  rfl

example : ("/?#%\\@&+~ ".toList.any fun c => AddressChar c) = false := by decide

theorem Argument.isAddressChar_iff {c : Char} : isAddressChar c ↔ AddressChar c := by
  show (c.isUpper || c.isLower || c.isDigit || decide (c = '.') || decide (c = ':') ||
    decide (c = '-') || decide (c = '_')) = true ↔ _
  simp only [Bool.or_eq_true, Text.isUpper_iff, Text.isLower_iff, Text.isDigit_iff,
    decide_eq_true_eq, addressChar_iff, List.mem_cons, List.not_mem_nil, or_false, or_assoc]

/-- An object with no other keys than these. -/
structure Json.KeyedBy (keys : List String) (v : Json) : Prop where
  isObject : v.isObject
  keys : ∀ k ∈ v.keys, k ∈ keys

structure Exec.Given where
  ip : String
  command : String
  script : Option String
  timeout : Option Number

structure Exec.Gives (args : Json) (g : Given) : Prop where
  keyed : args.KeyedBy ["command", "ip", "scriptPath", "timeout"]
  ip : args.get? "ip" = some (.string g.ip)
  command : args.get? "command" = some (.string g.command)
  script : args.get? "scriptPath" = g.script.map .string
  timeout : args.get? "timeout" = g.timeout.map .number
  ip_ne : g.ip ≠ ""
  script_ne : g.script ≠ some ""
  positive : ∀ n, g.timeout = some n → n.isPositive

structure Ping.Gives (args : Json) (ip : String) : Prop where
  keyed : args.KeyedBy ["ip"]
  given : args.get? "ip" = some (.string ip)
  ne_empty : ip ≠ ""

structure Listing.Gives (args : Json) (filter : Node.Filter) : Prop where
  keyed : args.KeyedBy ["country", "name"]
  country : args.get? "country" = filter.country.map .string
  name : args.get? "name" = filter.name.map .string

structure Delete.Gives (args : Json) (ip : String) : Prop where
  keyed : args.KeyedBy ["ip"]
  given : args.get? "ip" = some (.string ip)
  ne_empty : ip ≠ ""
  chars : ∀ c ∈ ip.toList, AddressChar c

end FleetDesk
