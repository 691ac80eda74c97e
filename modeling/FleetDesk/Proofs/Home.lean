import FleetDesk.Proofs.Config.Layers
import FleetDesk.Tool.Exec

/-!
# Paths below the home directory

A path `~/rest` is meant for the place below the home directory with the components of `rest`. It is
taken there if `rest` is not absolute; if it is, as in `~//etc`, then it takes the place of the home
directory (`Home.slashes_leave_home`), and only a home directory without components makes no
difference. All else holds of every path: `~` is the home directory, a path without a tilde in front
stays as it is, and so does an expanded one (`Home.paths_expanded`).
-/

namespace FleetDesk

/-! ### Components -/

namespace Path

theorem components_append_slash (a b : String) :
    components (a ++ "/" ++ b) = components a ++ components b := by
  have hchars : (a ++ "/" ++ b).toList = a.toList ++ '/' :: b.toList := by simp
  rw [components, segments, hchars, Text.splitChars_append_cons (by simp), List.map_append,
    List.filter_append]
  rfl

theorem components_empty : components "" = [] := by decide

theorem eq_append_slash_of_endsInSlash {p : String} (h : endsInSlash p) : ∃ q, p = q ++ "/" := by
  obtain ⟨cs, hcs⟩ := List.getLast?_eq_some_iff.1 (of_decide_eq_true h)
  exact ⟨String.ofList cs, by simp [← String.toList_inj, hcs]⟩

theorem components_join {rest : String} (h : isAbsolute rest = false) (base : String) :
    components (join base rest) = components base ++ components rest := by
  rw [join, h, if_neg Bool.false_ne_true]
  split
  · next hbase =>
    rcases Bool.or_eq_true_iff.1 hbase with hempty | hslash
    · rw [of_decide_eq_true hempty, components_empty, List.nil_append, String.empty_append]
    · obtain ⟨q, rfl⟩ := eq_append_slash_of_endsInSlash hslash
      have hq := components_append_slash q ""
      rw [String.append_empty, components_empty, List.append_nil] at hq
      rw [components_append_slash, hq]
  · exact components_append_slash base rest

theorem join_of_isAbsolute {rest : String} (h : isAbsolute rest) (base : String) :
    join base rest = rest := if_pos h

theorem isAbsolute_join {base : String} (h : isAbsolute base) (rest : String) :
    isAbsolute (join base rest) := by
  obtain ⟨cs, hcs⟩ := List.head?_eq_some_iff.1 (of_decide_eq_true h)
  rw [join]
  split
  · assumption
  split <;> simp [isAbsolute, hcs]

end Path

/-! ### Expansion -/

namespace Home

/-- The place below a home directory with these components. -/
structure Below (home rest place : String) : Prop where
  absolute : Path.isAbsolute place
  components : Path.components place = Path.components home ++ Path.components rest

/-- What a path is expanded to. -/
structure Expands (home path place : String) : Prop where
  tilde : path = "~" → place = home
  below : ∀ rest, path = "~/" ++ rest → Path.isAbsolute rest = false → Below home rest place
  /-- A path that is absolute without the tilde takes the place of the home directory. -/
  replaced : ∀ rest, path = "~/" ++ rest → Path.isAbsolute rest → place = rest
  other : path ≠ "~" → (∀ rest, path ≠ "~/" ++ rest) → place = path
  again : expand (some home) place = place

theorem expand_tilde (home : String) : expand (some home) "~" = home := rfl

theorem expand_below (home rest : String) :
    expand (some home) ("~/" ++ rest) = Path.join home rest := by
  have hchars : ("~/" ++ rest).toList = '~' :: '/' :: rest.toList := by simp
  simp [expand, hchars]

theorem expand_other {path : String} (htilde : path ≠ "~") (hslash : ∀ rest, path ≠ "~/" ++ rest)
    (home : Option String) : expand home path = path := by
  unfold expand
  split
  · rfl
  split
  · next h => exact absurd (String.toList_inj.1 h) htilde
  · next rest h => exact absurd (String.toList_inj.1 (by simp [h])) (hslash (String.ofList rest))
  · rfl

theorem expand_of_isAbsolute {path : String} (h : Path.isAbsolute path) (home : Option String) :
    expand home path = path := by
  refine expand_other ?_ ?_ home
  · rintro rfl
    exact absurd h (by decide)
  · rintro rest rfl
    exact absurd h (by simp [Path.isAbsolute])

theorem below_join {home rest : String} (habs : Path.isAbsolute home)
    (h : Path.isAbsolute rest = false) : Below home rest (Path.join home rest) :=
  ⟨Path.isAbsolute_join habs rest, Path.components_join h home⟩

theorem expands_expand {home : String} (habs : Path.isAbsolute home) (path : String) :
    Expands home path (expand (some home) path) where
  tilde h := h ▸ expand_tilde home
  below rest h hrest := by
    rw [h, expand_below]
    exact below_join habs hrest
  replaced rest h hrest := by rw [h, expand_below, Path.join_of_isAbsolute hrest]
  other htilde hslash := expand_other htilde hslash _
  again := by
    by_cases htilde : path = "~"
    · rw [htilde, expand_tilde, expand_of_isAbsolute habs]
    by_cases hslash : ∃ rest, path = "~/" ++ rest
    · obtain ⟨rest, rfl⟩ := hslash
      rw [expand_below, expand_of_isAbsolute (Path.isAbsolute_join habs rest)]
    · have hother := expand_other htilde (not_exists.1 hslash) (some home)
      rw [hother, hother]

theorem below_iff {home : String} (habs : Path.isAbsolute home) (rest : String) :
    Below home rest (expand (some home) ("~/" ++ rest)) ↔
      Path.isAbsolute rest = false ∨ Path.components home = [] := by
  rw [expand_below]
  cases hrest : Path.isAbsolute rest with
  | false => exact iff_of_true (below_join habs hrest) (.inl rfl)
  | true =>
    rw [Path.join_of_isAbsolute hrest]
    constructor
    · intro h
      exact .inr (List.self_eq_append_left.1 h.components)
    · rintro (h | h)
      · cases h
      · exact ⟨hrest, by rw [h, List.nil_append]⟩

/-! ### Where paths are given -/

/-- Of every path that the program is given and the place where it looks then. -/
structure Everywhere (env : Environment) (P : String → String → Prop) : Prop where
  chosen : ∀ path, ∃ place, configPath env (some (.text path)) = .text place ∧ P path place
  config : ∀ raw, env.text? "KAITU_OPS_CONFIG" = some raw → ¬ Text.isBlankText raw →
    ∃ place, configPath env none = .text place ∧ P (Text.trim raw) place
  audit : ∀ raw, env.text? "KAITU_OPS_AUDIT_DIR" = some raw → ¬ Text.isBlankText raw →
    P (Text.trim raw) (auditDir env)
  key : ∀ lookup spareKey path file c raw,
    Config.layer lookup env.home? spareKey path file = .ok c →
    (lookup "KAITU_SSH_KEY").or file.keyPath = some raw → P raw c.keyPath
  /-- What is read at the place is what the shell is given, and without it nothing is run. -/
  script : ∀ (w : World) (r : Exec.Request) raw, w.home = env.home? → r.script = some raw →
    ∃ place, P raw place ∧
      (r.command? w).toOption.map Remote.Command.stdin = (w.script place).toOption.map some

theorem pathVariable?_eq {env : Environment} {name raw : String} (h : env.text? name = some raw)
    (hblank : ¬ Text.isBlankText raw) :
    pathVariable? env name = some (expand env.home? (Text.trim raw)) := by
  simp only [pathVariable?, h, if_neg hblank]

theorem keyPath_layer {lookup : String → Option String} {home spareKey : Option String}
    {path raw : String} {file : Config.Source} {c : Config}
    (h : Config.layer lookup home spareKey path file = .ok c)
    (hraw : (lookup "KAITU_SSH_KEY").or file.keyPath = some raw) :
    c.keyPath = expand home raw := by
  have hgathered := Config.Source.config?_eq_some_iff_value?.1 (Config.layer_eq_ok.1 h).2 .keyPath
  have hkey : (((lookup "KAITU_SSH_KEY").or file.keyPath).map (expand home)).or spareKey =
      some c.keyPath := hgathered
  rw [hraw] at hkey
  exact (Option.some.inj hkey).symm

theorem everywhere_of_expand {env : Environment} {P : String → String → Prop}
    (h : ∀ path, P path (expand env.home? path)) : Everywhere env P where
  chosen path := ⟨_, rfl, h path⟩
  config raw hraw hblank := ⟨_, by rw [configPath, pathVariable?_eq hraw hblank]; rfl, h _⟩
  audit raw hraw hblank := by
    rw [auditDir, pathVariable?_eq hraw hblank]
    exact h _
  key lookup spareKey path file c raw hc hraw := keyPath_layer hc hraw ▸ h raw
  script w r raw hw hr := by
    refine ⟨_, h raw, ?_⟩
    simp only [Exec.Request.command?, hr, hw]
    cases w.script (expand env.home? raw) <;> rfl

/-- Every path is expanded to what it stands for, but that an absolute path behind the tilde takes
the place of the home directory: a path `~/rest` is taken below the home directory exactly if `rest`
is not absolute, or if there are no components to be lost. -/
theorem paths_expanded {env : Environment} {home : String} (hhome : env.text? "HOME" = some home)
    (hblank : ¬ Text.isBlankText home) (habs : Path.isAbsolute home) :
    (∀ path, Expands home path (expand env.home? path)) ∧
      (∀ rest, Below home rest (expand env.home? ("~/" ++ rest)) ↔
        Path.isAbsolute rest = false ∨ Path.components home = []) ∧
      Everywhere env (Expands home) := by
  have henv : env.home? = some home := by simp [Environment.home?, hhome, hblank]
  have hexpands : ∀ path, Expands home path (expand env.home? path) :=
    fun path => henv ▸ expands_expand habs path
  exact ⟨hexpands, fun rest => henv ▸ below_iff habs rest, everywhere_of_expand hexpands⟩

/-- An environment with a home directory and no other variables. -/
def atHome (home : String) : Environment where
  raw? name := if name = "HOME" then some (.text home) else none
  workingDir := "/"

theorem paths_expanded_at_home :
    (atHome "/home/me").text? "HOME" = some "/home/me" ∧ ¬ Text.isBlankText "/home/me" ∧
      Path.isAbsolute "/home/me" ∧ Below "/home/me" "a/./b" (expand (some "/home/me") "~/a/./b") :=
  have hhome : (atHome "/home/me").text? "HOME" = some "/home/me" := by decide
  have hblank : ¬ Text.isBlankText "/home/me" := by decide
  ⟨hhome, hblank, by decide, ((paths_expanded hhome hblank (by decide)).2.1 "a/./b").2 (by decide)⟩

/-- Two slashes behind the tilde lead out of the home directory. -/
theorem slashes_leave_home :
    expand (atHome "/home/me").home? "~//etc/passwd" = "/etc/passwd" ∧
      ¬ Path.components "/home/me" <+: Path.components "/etc/passwd" := by
  decide

end Home

end FleetDesk
