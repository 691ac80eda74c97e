import FleetDesk.Config.Load
import FleetDesk.Proofs.Decimal.Port
import Mathlib.Data.List.Nodup

/-!
# The sources of each setting

A setting has several sources, and the first that gives something counts: its variable, then the
file, and for the private key the usual places at last (`offers`). What the program puts together
from all of them holds for each setting just that (`value?_gathered`), and hangs on no variable but
its own (`value?_gathered_congr`).
-/

namespace FleetDesk

/-! ### Values by their settings -/

namespace Setting

/-- What the values of a setting are. -/
abbrev Value : Setting → Type
  | port => Nat
  | _ => String

/-- Any text may stand in a variable, but in that of the port only a port number. -/
def Allows (x : Setting) (raw : String) : Prop := x = port → ∃ p, WritesPort raw p

theorem mem_all (x : Setting) : x ∈ all := by
  cases x <;> decide

theorem nodup_all : all.Nodup := by decide

theorem variableName_inj {x y : Setting} : x.variableName = y.variableName ↔ x = y := by
  cases x <;> cases y <;> decide

end Setting

namespace Config

def value (c : Config) : (x : Setting) → x.Value
  | .url => c.url
  | .accessKey => c.accessKey
  | .keyPath => c.keyPath
  | .user => c.user
  | .port => c.port

namespace Source

variable {s t : Source} {c : Config} {x : Setting}

def value? (s : Source) : (x : Setting) → Option x.Value
  | .url => s.url
  | .accessKey => s.accessKey
  | .keyPath => s.keyPath
  | .user => s.user
  | .port => s.port

theorem gives_eq (s : Source) (x : Setting) : s.gives x = (s.value? x).isSome := by
  cases x <;> rfl

theorem mem_missing : x ∈ s.missing ↔ s.value? x = none := by
  simp [missing, x.mem_all, gives_eq]

theorem config?_eq_some_iff_value? : s.config? = some c ↔ ∀ x, s.value? x = some (c.value x) := by
  rw [config?_eq_some_iff]
  constructor
  · rintro rfl x
    cases x <;> rfl
  · intro h
    obtain ⟨url, accessKey, keyPath, user, port⟩ := s
    rw [mk.injEq]
    exact ⟨h .url, h .accessKey, h .keyPath, h .user, h .port⟩

theorem missing_eq_nil : s.missing = [] ↔ ∀ x, ∃ v, s.value? x = some v := by
  rw [List.eq_nil_iff_forall_not_mem]
  simp only [mem_missing, Option.eq_none_iff_forall_ne_some, not_forall, not_not]

theorem exists_config? : (∃ c, s.config? = some c) ↔ s.missing = [] := by
  rw [← Option.isSome_iff_exists, ← Option.ne_none_iff_isSome, ne_eq, config?_eq_none_iff, not_not]

/-- With one setting given and the others as they were, that one is missing no more. -/
theorem missing_eq_erase (hx : (t.value? x).isSome) (hy : ∀ y, y ≠ x → t.value? y = s.value? y) :
    t.missing = s.missing.erase x := by
  rw [missing, missing, (Setting.nodup_all.filter _).erase_eq_filter, List.filter_filter]
  refine List.filter_congr fun y _ => ?_
  rw [gives_eq, gives_eq]
  by_cases h : y = x
  · subst h
    simp [hx]
  · simp [hy y h, h]

end Source

/-! ### Sources in their order -/

/-- The first value that is offered. -/
def FirstOf {α : Type} (offers : List (Option α)) (v : α) : Prop :=
  ∃ before behind, offers = before ++ some v :: behind ∧ ∀ o ∈ before, o = none

theorem firstOf_iff {α : Type} {offers : List (Option α)} {v : α} :
    FirstOf offers v ↔ offers.findSome? id = some v := by
  rw [List.findSome?_eq_some_iff]
  constructor
  · rintro ⟨before, behind, hoffers, hbefore⟩
    exact ⟨before, some v, behind, hoffers, rfl, hbefore⟩
  · rintro ⟨before, o, behind, hoffers, rfl, hbefore⟩
    exact ⟨before, behind, hoffers, hbefore⟩

/-- The usual private keys, the newer kind first. -/
def usualKeys (home : Option String) : List String :=
  home.toList.flatMap fun home =>
    ["id_ed25519", "id_rsa"].map (Path.join (Path.join home ".ssh"))

def keyAt? (d : Disk) (key : String) : Option String := if d.isFile key then some key else none

/-- What there is for a setting: the variable, the file, and the usual keys that are there. -/
def offers (env : Environment) (lookup : String → Option String) (d : Disk) (file : Source) :
    (x : Setting) → List (Option x.Value)
  | .url => [lookup "KAITU_CENTER_URL", file.url]
  | .accessKey => [lookup "KAITU_ACCESS_KEY", file.accessKey]
  | .keyPath =>
    [(lookup "KAITU_SSH_KEY").map (Home.expand env.home?),
      file.keyPath.map (Home.expand env.home?)] ++
    (usualKeys env.home?).map (keyAt? d)
  | .user => [lookup "KAITU_SSH_USER", file.user]
  | .port => [(lookup "KAITU_SSH_PORT").bind port?, file.port]

theorem findSome?_pair {α : Type} (a b : Option α) : [a, b].findSome? id = a.or b := by
  cases a <;> cases b <;> rfl

theorem keyCandidates_eq (env : Environment) : Home.keyCandidates env = usualKeys env.home? := by
  unfold Home.keyCandidates usualKeys
  cases env.home? <;> rfl

theorem spareKey_eq (env : Environment) (d : Disk) :
    spareKey env d = ((usualKeys env.home?).map (keyAt? d)).findSome? id := by
  rw [spareKey, keyCandidates_eq, List.findSome?_map, List.find?_eq_findSome?_guard]
  rfl

/-- What the variables give. -/
def given (lookup : String → Option String) : Source where
  url := lookup Setting.url.variableName
  accessKey := lookup Setting.accessKey.variableName
  keyPath := lookup Setting.keyPath.variableName
  user := lookup Setting.user.variableName
  port := (lookup Setting.port.variableName).bind port?

/-- All that is given, each setting by the source that counts. -/
def gathered (lookup : String → Option String) (home spareKey : Option String) (file : Source) :
    Source :=
  ((given lookup).onto file).withKey home spareKey

theorem value?_gathered (env : Environment) (lookup : String → Option String) (d : Disk)
    (file : Source) (x : Setting) :
    (gathered lookup env.home? (spareKey env d) file).value? x =
      (offers env lookup d file x).findSome? id := by
  cases x with
  | keyPath =>
    -- The program expands whichever of the two it takes, not each of them.
    rw [offers, List.findSome?_append, findSome?_pair, ← spareKey_eq, ← Option.map_or]
    rfl
  | url | accessKey | user | port =>
    rw [offers, findSome?_pair]
    rfl

/-- A setting hangs on its own variable only. -/
theorem value?_gathered_congr {lookup lookup' : String → Option String} {x : Setting}
    (h : lookup' x.variableName = lookup x.variableName) (home spareKey : Option String)
    (file : Source) :
    (gathered lookup' home spareKey file).value? x =
      (gathered lookup home spareKey file).value? x := by
  cases x <;> simp only [gathered, given, Source.withKey, Source.onto, Source.value?, h]

theorem value?_gathered_port {lookup : String → Option String} {raw : String} {p : Nat}
    (h : lookup "KAITU_SSH_PORT" = some raw) (hp : WritesPort raw p)
    (home spareKey : Option String) (file : Source) :
    (gathered lookup home spareKey file).value? .port = some p := by
  have hport : (lookup "KAITU_SSH_PORT").bind port? = some p := by
    rw [h, Option.bind_some, port?_eq_some.2 hp]
  exact congrArg (Option.or · file.port) hport

theorem isSome_value?_gathered {lookup : String → Option String} {x : Setting} {raw : String}
    (h : lookup x.variableName = some raw) (hraw : x.Allows raw) (home spareKey : Option String)
    (file : Source) : ((gathered lookup home spareKey file).value? x).isSome := by
  cases x with
  | port =>
    obtain ⟨p, hp⟩ := hraw rfl
    rw [value?_gathered_port h hp, Option.isSome_some]
  | url | accessKey | keyPath | user =>
    simp [gathered, given, Source.withKey, Source.onto, Source.value?, h]

end Config

end FleetDesk
