import FleetDesk.Proofs.Config.Sources
import FleetDesk.Proofs.Disk
import Mathlib.Logic.Function.Basic

/-!
# What is loaded from which source

Loading takes each setting from the first of its sources that gives something, and where a setting
has none the fault names it; only a variable for the port that holds no port stops it before
(`Layered`). So the variable of one setting tells on no other (`Framed`). Both hold whatever the
variables, the file and the file tree are (`settings_layered`).
-/

namespace FleetDesk

namespace Config

/-! ### Loading -/

/-- The variable of the port is not set, or holds a port. -/
def PortFits (lookup : String → Option String) : Prop :=
  ∀ raw, lookup "KAITU_SSH_PORT" = some raw → ∃ p, WritesPort raw p

theorem ofVariables_of_fits {lookup : String → Option String} (h : PortFits lookup) :
    ofVariables lookup = .ok (given lookup) := by
  rw [ofVariables, given]
  cases hport : lookup Setting.port.variableName with
  | none => rfl
  | some raw =>
    obtain ⟨p, hp⟩ := h raw hport
    simp only [port?_eq_some.2 hp, Option.bind_some]
    rfl

theorem ofVariables_of_badPort {lookup : String → Option String} {raw : String}
    (h : lookup "KAITU_SSH_PORT" = some raw) (hraw : ∀ p, ¬ WritesPort raw p) :
    ofVariables lookup = .error (.badPort raw) := by
  have hnone : port? raw = none :=
    Option.eq_none_iff_forall_ne_some.2 fun p hp => hraw p (port?_eq_some.1 hp)
  simp only [ofVariables, Setting.variableName, h, hnone]
  rfl

section

variable {lookup : String → Option String} {home spareKey : Option String} {path : String}
  {file : Source}

theorem layer_of_badPort {raw : String} (h : lookup "KAITU_SSH_PORT" = some raw)
    (hraw : ∀ p, ¬ WritesPort raw p) :
    layer lookup home spareKey path file = .error (.badPort raw) := by
  rw [layer, ofVariables_of_badPort h hraw]
  rfl

theorem layer_of_config? (h : PortFits lookup) {c : Config}
    (hc : (gathered lookup home spareKey file).config? = some c) :
    layer lookup home spareKey path file = .ok c := by
  simp only [layer, ofVariables_of_fits h, bind, Except.bind]
  rw [gathered] at hc
  rw [hc]

theorem layer_of_missing (h : PortFits lookup)
    (hmissing : (gathered lookup home spareKey file).missing ≠ []) :
    layer lookup home spareKey path file =
      .error (.missing (gathered lookup home spareKey file).missing path) := by
  have hnone := Source.config?_eq_none_iff.2 hmissing
  simp only [layer, ofVariables_of_fits h, bind, Except.bind]
  rw [gathered] at hnone ⊢
  rw [hnone]

/-- All that can come of loading. -/
theorem layer_cases (lookup : String → Option String) (home spareKey : Option String)
    (path : String) (file : Source) :
    (∃ raw, lookup "KAITU_SSH_PORT" = some raw ∧ (∀ p, ¬ WritesPort raw p) ∧
      layer lookup home spareKey path file = .error (.badPort raw)) ∨
    PortFits lookup ∧
      ((∃ c, (gathered lookup home spareKey file).config? = some c ∧
          layer lookup home spareKey path file = .ok c) ∨
        (gathered lookup home spareKey file).missing ≠ [] ∧
          layer lookup home spareKey path file =
            .error (.missing (gathered lookup home spareKey file).missing path)) := by
  by_cases hfits : PortFits lookup
  · refine .inr ⟨hfits, ?_⟩
    cases hc : (gathered lookup home spareKey file).config? with
    | some c => exact .inl ⟨c, rfl, layer_of_config? hfits hc⟩
    | none =>
      have hmissing := Source.config?_eq_none_iff.1 hc
      exact .inr ⟨hmissing, layer_of_missing hfits hmissing⟩
  · simp only [PortFits, not_forall, not_exists] at hfits
    obtain ⟨raw, h, hraw⟩ := hfits
    exact .inl ⟨raw, h, hraw, layer_of_badPort h hraw⟩

theorem layer_eq_ok {c : Config} : layer lookup home spareKey path file = .ok c ↔
    PortFits lookup ∧ (gathered lookup home spareKey file).config? = some c := by
  refine ⟨fun h => ?_, fun h => layer_of_config? h.1 h.2⟩
  obtain ⟨raw, -, -, hbad⟩ | ⟨hfits, ⟨c', hc', hok⟩ | ⟨-, hmissing⟩⟩ :=
    layer_cases lookup home spareKey path file
  · cases h.symm.trans hbad
  · cases h.symm.trans hok
    exact ⟨hfits, hc'⟩
  · cases h.symm.trans hmissing

end

/-- How a setting is named that is missing: where it is set in the file, and by which variable. -/
def label : Setting → String
  | .url => "center.url (KAITU_CENTER_URL)"
  | .accessKey => "center.access_key (KAITU_ACCESS_KEY)"
  | .keyPath => "ssh.private_key_path (KAITU_SSH_KEY)"
  | .user => "ssh.user (KAITU_SSH_USER)"
  | .port => "ssh.port (KAITU_SSH_PORT)"

theorem describe_eq_label (x : Setting) : x.describe = label x := by
  cases x <;> decide

/-- The fault that names these settings. -/
structure Names (settings : List Setting) (f : Fault) : Prop where
  kind : f.kind = .invalidParams
  message : f.message =
    "Config is missing required fields: " ++ ", ".intercalate (settings.map label)

theorem names_toFault (settings : List Setting) (path : String) :
    Names settings (Flaw.missing settings path).toFault := by
  refine ⟨rfl, ?_⟩
  rw [← funext describe_eq_label]
  rfl

/-- What loading answers to what is found. -/
structure Layered (env : Environment) (lookup : String → Option String) (d : Disk) (file : Source)
    (answer : Except Flaw Config) : Prop where
  badPort : ∀ raw, lookup "KAITU_SSH_PORT" = some raw → (∀ p, ¬ WritesPort raw p) →
    ∃ flaw, answer = .error flaw ∧ flaw.toFault.kind = .invalidParams ∧
      flaw.toFault.message = "KAITU_SSH_PORT must be a port number, got " ++ raw
  loads_iff : PortFits lookup →
    ((∃ c, answer = .ok c) ↔ ∀ x, ∃ v, FirstOf (offers env lookup d file x) v)
  first : ∀ c, answer = .ok c → ∀ x, FirstOf (offers env lookup d file x) (c.value x)
  port : ∀ c raw, answer = .ok c → lookup "KAITU_SSH_PORT" = some raw → WritesPort raw c.port
  /-- The settings without a source, each once and in their order. -/
  missing : PortFits lookup → ∀ flaw, answer = .error flaw →
    ∃ settings path, flaw = .missing settings path ∧ Names settings flaw.toFault ∧
      settings.Sublist [.url, .accessKey, .keyPath, .user, .port] ∧
      ∀ x, x ∈ settings ↔ ∀ v, ¬ FirstOf (offers env lookup d file x) v

theorem layered_layer (env : Environment) (lookup : String → Option String) (d : Disk)
    (path : String) (file : Source) :
    Layered env lookup d file (layer lookup env.home? (spareKey env d) path file) := by
  have hvalue : ∀ x v, FirstOf (offers env lookup d file x) v ↔
      (gathered lookup env.home? (spareKey env d) file).value? x = some v :=
    fun x v => by rw [firstOf_iff, value?_gathered]
  refine ⟨fun raw h hraw => ⟨_, layer_of_badPort h hraw, rfl, rfl⟩, fun hfits => ?_,
    fun c hc x => ?_, fun c raw hc h => ?_, fun hfits flaw hflaw => ?_⟩
  · simp only [layer_eq_ok, hvalue, ← Source.missing_eq_nil, Source.exists_config?, hfits, true_and]
  · exact (hvalue x _).2 (Source.config?_eq_some_iff_value?.1 (layer_eq_ok.1 hc).2 x)
  · obtain ⟨hfits, hconfig⟩ := layer_eq_ok.1 hc
    obtain ⟨p, hp⟩ := hfits raw h
    have hport := value?_gathered_port h hp env.home? (spareKey env d) file
    rw [Source.config?_eq_some_iff_value?.1 hconfig] at hport
    cases hport
    exact hp
  · obtain ⟨raw, h, hraw, -⟩ | ⟨-, ⟨c, -, hok⟩ | ⟨-, hmissing⟩⟩ :=
      layer_cases lookup env.home? (spareKey env d) path file
    · obtain ⟨p, hp⟩ := hfits raw h
      exact absurd hp (hraw p)
    · cases hflaw.symm.trans hok
    · cases hflaw.symm.trans hmissing
      refine ⟨_, path, rfl, names_toFault _ path, List.filter_sublist, fun x => ?_⟩
      rw [Source.mem_missing, Option.eq_none_iff_forall_ne_some]
      simp only [hvalue, ne_eq]

/-! ### One variable changed -/

/-- What becomes of an answer when the variable of one setting is given a value. -/
structure Framed (x : Setting) (before after : Except Flaw Config) : Prop where
  kept : ∀ c, before = .ok c → ∃ c', after = .ok c' ∧ ∀ y, y ≠ x → c'.value y = c.value y
  completed : ∀ settings path, before = .error (.missing settings path) →
    settings.erase x = [] → ∃ c, after = .ok c
  missing : ∀ settings path, before = .error (.missing settings path) →
    settings.erase x ≠ [] → after = .error (.missing (settings.erase x) path)
  badPort : ∀ raw, before = .error (.badPort raw) → x ≠ .port → after = before

section

variable {lookup : String → Option String} {x : Setting} {raw : String}

theorem update_of_ne {y : Setting} (h : y ≠ x) (lookup : String → Option String) (raw : String) :
    Function.update lookup x.variableName (some raw) y.variableName = lookup y.variableName :=
  Function.update_of_ne (fun hname => h (Setting.variableName_inj.1 hname)) _ _

theorem portFits_update (h : PortFits lookup) (hraw : x.Allows raw) :
    PortFits (Function.update lookup x.variableName (some raw)) := by
  intro raw' h'
  by_cases hx : x = .port
  · subst hx
    have hself : Function.update lookup Setting.port.variableName (some raw) "KAITU_SSH_PORT" =
        some raw := Function.update_self ..
    cases hself.symm.trans h'
    exact hraw rfl
  · exact h raw' ((update_of_ne (Ne.symm hx) lookup raw).symm.trans h')

theorem framed_layer (hraw : x.Allows raw) (home spareKey : Option String) (path : String)
    (file : Source) :
    Framed x (layer lookup home spareKey path file)
      (layer (Function.update lookup x.variableName (some raw)) home spareKey path file) := by
  have hgiven := isSome_value?_gathered
    (Function.update_self x.variableName (some raw) lookup) hraw home spareKey file
  have hrest := fun y (hy : y ≠ x) =>
    value?_gathered_congr (update_of_ne hy lookup raw) home spareKey file
  have herase := Source.missing_eq_erase hgiven hrest
  obtain ⟨raw', h, hraw', hbad⟩ | ⟨hfits, hcases⟩ := layer_cases lookup home spareKey path file
  · -- No variable but that of the port can mend it.
    rw [hbad]
    refine ⟨nofun, nofun, nofun, fun _ _ hx => ?_⟩
    exact layer_of_badPort ((update_of_ne (Ne.symm hx) lookup raw).trans h) hraw'
  have hfits' := portFits_update hfits hraw
  obtain ⟨c, hc, hok⟩ | ⟨hne, hmissing⟩ := hcases
  · rw [hok]
    refine ⟨fun _ heq => ?_, nofun, nofun, nofun⟩
    cases heq
    have hnone := Source.exists_config?.1 ⟨c, hc⟩
    rw [hnone, List.erase_nil] at herase
    obtain ⟨c', hc'⟩ := Source.exists_config?.2 herase
    refine ⟨c', layer_of_config? hfits' hc', fun y hy => ?_⟩
    have hsame := hrest y hy
    rw [Source.config?_eq_some_iff_value?.1 hc, Source.config?_eq_some_iff_value?.1 hc'] at hsame
    exact Option.some.inj hsame
  · rw [hmissing]
    refine ⟨nofun, fun _ _ heq hnil => ?_, fun _ _ heq hnil => ?_, nofun⟩
    · cases heq
      obtain ⟨c', hc'⟩ := Source.exists_config?.2 (herase.trans hnil)
      exact ⟨c', layer_of_config? hfits' hc'⟩
    · cases heq
      rw [← herase] at hnil ⊢
      exact layer_of_missing hfits' hnil

end

/-! ### Loading from a file tree -/

/-- The settings of the file at a path; where there is no file there are none. -/
inductive Reads (d : Disk) : OsText → Source → Prop
  | absent {path : String} (h : d.read path = .error .notFound) : Reads d (.text path) {}
  | found {path text : String} {file : Source} (h : d.read path = .ok text.toUTF8)
    (hfile : Source.ofDocument text = .ok file) : Reads d (.text path) file
  /-- A path that is no text leads nowhere. -/
  | nowhere (bs : List UInt8) : Reads d (.bytes bs) {}

theorem Reads.ofFound {d : Disk} {path : OsText} {file : Source} (h : Reads d path file) :
    Source.ofFound path.display (Found.onDisk d path) = .ok file := by
  cases h with
  | absent h => rw [Found.onDisk, h, Source.ofFound]
  | found h hfile =>
    rw [Found.onDisk, h, Disk.readText_eq_ok.2 h]
    simp only [Source.ofFound, hfile]
    rfl
  | nowhere => rfl

theorem reads_of_ofFound {d : Disk} {path : OsText} {file : Source}
    (h : Source.ofFound path.display (Found.onDisk d path) = .ok file) : Reads d path file := by
  unfold Found.onDisk at h
  split at h
  · cases h
    exact .nowhere _
  split at h
  · next hread =>
    cases h
    exact .absent hread
  split at h
  · next text htext =>
    simp only [Source.ofFound] at h
    cases hfile : Source.ofDocument text with
    | error e => rw [hfile] at h; cases h
    | ok file' =>
      rw [hfile] at h
      cases h
      exact .found (Disk.readText_eq_ok.1 htext) hfile
  · cases h

theorem reads_iff {d : Disk} {path : OsText} {file : Source} : Reads d path file ↔
    Source.ofFound path.display (Found.onDisk d path) = .ok file :=
  ⟨Reads.ofFound, reads_of_ofFound⟩

theorem loadFrom_eq {d : Disk} {path : OsText} {file : Source} (h : Reads d path file)
    (env : Environment) (lookup : String → Option String) : loadFrom env lookup d path =
      layer lookup env.home? (spareKey env d) path.display file := by
  rw [loadFrom, load, reads_iff.1 h]
  rfl

end Config

namespace Environment

/-- The environment with a text in a variable. -/
def set (env : Environment) (name raw : String) : Environment :=
  { env with raw? := Function.update env.raw? name (some (.text raw)) }

theorem text?_set_self (env : Environment) (name raw : String) :
    (env.set name raw).text? name = some raw := by
  have hraw : (env.set name raw).raw? name = some (.text raw) := Function.update_self ..
  rw [text?, hraw]
  rfl

theorem text?_set_of_ne {name other : String} (h : other ≠ name) (env : Environment)
    (raw : String) : (env.set name raw).text? other = env.text? other := by
  have hraw : (env.set name raw).raw? other = env.raw? other := Function.update_of_ne h ..
  rw [text?, text?, hraw]

theorem home?_set {name : String} (h : name ≠ "HOME") (env : Environment) (raw : String) :
    (env.set name raw).home? = env.home? := by
  rw [home?, home?, text?_set_of_ne h.symm]

theorem trimmed?_set {raw : String} (h : Text.trim raw ≠ "") (env : Environment) (name : String) :
    (env.set name raw).trimmed? = Function.update env.trimmed? name (some (Text.trim raw)) := by
  funext other
  by_cases hname : other = name
  · subst hname
    simp [trimmed?, text?_set_self, h]
  · rw [Function.update_of_ne hname, trimmed?, trimmed?, text?_set_of_ne hname]

end Environment

namespace Config

theorem spareKey_set {name : String} (h : name ≠ "HOME") (env : Environment) (raw : String)
    (d : Disk) : spareKey (env.set name raw) d = spareKey env d := by
  rw [spareKey, spareKey, keyCandidates_eq, keyCandidates_eq, Environment.home?_set h]

/-- A variable with a text that is not blank is a value by itself, without the blanks around it. -/
theorem loadFrom_set {d : Disk} {path : OsText} {file : Source} (hfile : Reads d path file)
    {raw : String} (hraw : Text.trim raw ≠ "") (env : Environment) (x : Setting) :
    loadFrom (env.set x.variableName raw) (env.set x.variableName raw).trimmed? d path =
      loadFrom env (Function.update env.trimmed? x.variableName (some (Text.trim raw))) d path := by
  have hname : x.variableName ≠ "HOME" := by cases x <;> decide
  rw [loadFrom_eq hfile, loadFrom_eq hfile, Environment.home?_set hname, spareKey_set hname,
    Environment.trimmed?_set hraw]

/-- Each setting is loaded from the first of its sources that gives something, and its variable
tells on no other; so it is with the variables of the process, but for the blanks around them. -/
theorem settings_layered {d : Disk} {path : OsText} {file : Source} (hfile : Reads d path file)
    (env : Environment) (lookup : String → Option String) :
    Layered env lookup d file (loadFrom env lookup d path) ∧
    (∀ x raw, x.Allows raw → Framed x (loadFrom env lookup d path)
      (loadFrom env (Function.update lookup x.variableName (some raw)) d path)) ∧
    ∀ x raw, Text.trim raw ≠ "" → x.Allows (Text.trim raw) →
      Framed x (loadFrom env env.trimmed? d path)
        (loadFrom (env.set x.variableName raw) (env.set x.variableName raw).trimmed? d path) := by
  have hframed : ∀ lookup x raw, x.Allows raw → Framed x (loadFrom env lookup d path)
      (loadFrom env (Function.update lookup x.variableName (some raw)) d path) := by
    intro lookup x raw hraw
    rw [loadFrom_eq hfile, loadFrom_eq hfile]
    exact framed_layer hraw _ _ _ _
  refine ⟨?_, hframed lookup, fun x raw hblank hraw => ?_⟩
  · rw [loadFrom_eq hfile]
    exact layered_layer env lookup d path.display file
  · rw [loadFrom_set hfile hblank]
    exact hframed env.trimmed? x _ hraw

def keyDocument : String :=
  "[center]\nurl = \"https://a\"\naccess_key = \"k\"\n[ssh]\nport = 22\n"

/-- A file tree with a configuration file, and one of the usual keys in the home directory. -/
def keyDisk : Disk where
  entries :=
    [(["desk.toml"], .file keyDocument.toUTF8),
      (["home"], .dir), (["me", "home"], .dir), ([".ssh", "me", "home"], .dir),
      (["id_rsa", ".ssh", "me", "home"], .file ByteArray.empty)]

def keyEnvironment : Environment :=
  Environment.set { raw? := fun _ => none, workingDir := "/" } "HOME" "/home/me"

def keyLookup (name : String) : Option String :=
  if name = "KAITU_SSH_USER" then some "root" else none

def keyFile : Source where
  url := some "https://a"
  accessKey := some "k"
  port := some 22

/-- The key is found where no source names one, and stays when the port gets a variable. -/
theorem settings_layered_usual_key :
    Reads keyDisk (.text "/desk.toml") keyFile ∧ Setting.port.Allows "+2022" ∧
    ∃ c c', loadFrom keyEnvironment keyLookup keyDisk (.text "/desk.toml") = .ok c ∧
      loadFrom keyEnvironment (Function.update keyLookup "KAITU_SSH_PORT" (some "+2022")) keyDisk
        (.text "/desk.toml") = .ok c' ∧
      c.keyPath = "/home/me/.ssh/id_rsa" ∧ c'.keyPath = c.keyPath := by
  have hdocument : (Source.ofDocument keyDocument).toOption = some keyFile := by decide +kernel
  have hfile : Reads keyDisk (.text "/desk.toml") keyFile :=
    .found rfl (Decode.eq_ok_of_toOption hdocument)
  have hport : Setting.port.Allows "+2022" := fun _ => ⟨2022, port?_eq_some.1 (by decide)⟩
  obtain ⟨hlayered, hframed, -⟩ := settings_layered hfile keyEnvironment keyLookup
  have hkey : FirstOf (offers keyEnvironment keyLookup keyDisk keyFile .keyPath)
      "/home/me/.ssh/id_rsa" := firstOf_iff.2 (by decide)
  have hgiven : ∀ x, ∃ v, FirstOf (offers keyEnvironment keyLookup keyDisk keyFile x) v
    | .url => ⟨"https://a", firstOf_iff.2 (by decide)⟩
    | .accessKey => ⟨"k", firstOf_iff.2 (by decide)⟩
    | .keyPath => ⟨_, hkey⟩
    | .user => ⟨"root", firstOf_iff.2 (by decide)⟩
    | .port => ⟨(22 : Nat), firstOf_iff.2 (by decide)⟩
  obtain ⟨c, hc⟩ := (hlayered.loads_iff nofun).2 hgiven
  obtain ⟨c', hc', hkept⟩ := (hframed .port "+2022" hport).kept c hc
  have hfirst := (firstOf_iff.1 (hlayered.first c hc .keyPath)).symm.trans (firstOf_iff.1 hkey)
  exact ⟨hfile, hport, c, c', hc, hc', Option.some.inj hfirst, hkept .keyPath nofun⟩

end Config

end FleetDesk
