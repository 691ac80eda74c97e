import FleetDesk.Disk
import FleetDesk.Proofs.Json.Decode
import FleetDesk.Proofs.Text.Utf8

/-!
# What a trail changes in a file tree

A text is read from a file that holds just its bytes (`Disk.readText_eq_ok`). What is read below a
path depends on the entries of the places that the path leads through (`Disk.readText_congr`). The
trail puts entries to places on the way to its directory and to its file only, and never in place of
a directory. So a file tree with a trail in it stays an extension of what it was (`Disk.Extends`),
and paths that keep apart from the trail read as before (`Disk.Extends.readText_eq`).
-/

namespace FleetDesk.Disk

/-! ### Texts of files -/

/-- A text is read from a file that holds this text and nothing else. -/
theorem readText_eq_ok {d : Disk} {path text : String} :
    d.readText path = .ok text ↔ d.read path = .ok text.toUTF8 := by
  rw [readText]
  cases d.read path with
  | error e => exact iff_of_false (by rintro ⟨⟩) (by rintro ⟨⟩)
  | ok content =>
    simp only [Except.ok.injEq, ← Utf8.decode_toList_eq_ok_iff]
    split <;> simp [*]

/-! ### The places of a path -/

/-- Where one component leads to, if it can be followed. -/
def step (place : List String) (name : String) : List String :=
  if name = "" || name = "." then place else if name = ".." then place.tail else name :: place

/-- The places that a path leads through, the last one included. -/
def way (place : List String) : List String → List (List String)
  | [] => [place]
  | name :: names => place :: way (step place name) names

def start (d : Disk) (path : String) : List String :=
  if Path.isAbsolute path then [] else d.workingDir

def places (d : Disk) (path : String) : List (List String) :=
  way (d.start path) (Path.segments path)

theorem mem_way_self (place : List String) (names : List String) : place ∈ way place names := by
  cases names <;> exact List.mem_cons_self

theorem foldl_step_mem_way (place : List String) (names : List String) :
    names.foldl step place ∈ way place names := by
  induction names generalizing place with
  | nil => exact List.mem_singleton_self place
  | cons name names ih => exact List.mem_cons_of_mem _ (ih _)

theorem enter_congr {d e : Disk} {place : List String} {name : String}
    (h : d.entry? place = e.entry? place)
    (hs : d.entry? (step place name) = e.entry? (step place name)) :
    d.enter place name = e.enter place name := by
  unfold step at hs
  unfold enter
  rw [h]
  split
  · rfl
  · rfl
  · split
    · rfl
    · next hdot =>
      split
      · rfl
      · next hup =>
        rw [if_neg hdot, if_neg hup] at hs
        rw [hs]

theorem eq_step_of_enter {d : Disk} {place next : List String} {name : String}
    (h : d.enter place name = .ok next) : next = step place name := by
  unfold enter at h
  unfold step
  grind

theorem foldlM_enter_congr {d e : Disk} {place : List String} {names : List String}
    (h : ∀ p ∈ way place names, d.entry? p = e.entry? p) :
    names.foldlM d.enter place = names.foldlM e.enter place := by
  induction names generalizing place with
  | nil => rfl
  | cons name names ih =>
    have henter : d.enter place name = e.enter place name :=
      enter_congr (h _ List.mem_cons_self) (h _ (List.mem_cons_of_mem _ (mem_way_self _ _)))
    rw [List.foldlM_cons, List.foldlM_cons, henter]
    cases hn : e.enter place name with
    | error flaw => rfl
    | ok next =>
      rw [eq_step_of_enter hn]
      exact ih fun p hp => h p (List.mem_cons_of_mem _ hp)

theorem foldlM_enter_eq_ok {d : Disk} {place last : List String} {names : List String}
    (h : names.foldlM d.enter place = .ok last) : last = names.foldl step place := by
  induction names generalizing place with
  | nil =>
    cases h
    rfl
  | cons name names ih =>
    rw [List.foldlM_cons] at h
    obtain ⟨next, hn, h⟩ := Decode.bind_eq_ok h
    rw [List.foldl_cons, ← eq_step_of_enter hn]
    exact ih h

theorem route_congr {d e : Disk} (h : d.workingDir = e.workingDir) (path : String) :
    d.route path = e.route path := by
  unfold route
  rw [h]

theorem eq_of_route {d : Disk} {path : String} {place : List String} {names : List String}
    (h : d.route path = .ok (place, names)) : place = d.start path ∧ names = Path.segments path := by
  unfold route at h
  unfold start
  grind

theorem resolve_congr {d e : Disk} {path : String} (hw : d.workingDir = e.workingDir)
    (h : ∀ p ∈ d.places path, d.entry? p = e.entry? p) : d.resolve path = e.resolve path := by
  unfold resolve
  rw [← route_congr hw]
  cases hr : d.route path with
  | error flaw => rfl
  | ok way =>
    obtain ⟨place, names⟩ := way
    obtain ⟨rfl, rfl⟩ := eq_of_route hr
    exact foldlM_enter_congr h

theorem mem_places_of_resolve {d : Disk} {path : String} {place : List String}
    (h : d.resolve path = .ok place) : place ∈ d.places path := by
  obtain ⟨⟨place', names⟩, hr, h⟩ := Decode.bind_eq_ok h
  obtain ⟨rfl, rfl⟩ := eq_of_route hr
  rw [foldlM_enter_eq_ok h]
  exact foldl_step_mem_way _ _

theorem lookup_congr {d e : Disk} {path : String} (hw : d.workingDir = e.workingDir)
    (h : ∀ p ∈ d.places path, d.entry? p = e.entry? p) : d.lookup path = e.lookup path := by
  have hresolve : d.resolve path = e.resolve path := resolve_congr hw h
  unfold lookup
  rw [← hresolve]
  cases hr : d.resolve path with
  | error flaw => rfl
  | ok place =>
    simp only [bind, Except.bind]
    rw [h place (mem_places_of_resolve hr)]

/-- Reading looks at the places of the path only. -/
theorem readText_congr {d e : Disk} {path : String} (hw : d.workingDir = e.workingDir)
    (h : ∀ p ∈ d.places path, d.entry? p = e.entry? p) : d.readText path = e.readText path := by
  unfold readText read
  rw [lookup_congr hw h]

/-- The place that a path names in the directory that it is in. -/
theorem parent_eq_ok {d : Disk} {path : String} {dir : List String} {name : String}
    (h : d.parent path = .ok (dir, name)) :
    d.entry? dir = some .dir ∧ step dir name ∈ d.places path := by
  obtain ⟨⟨place, names⟩, hr, hrest⟩ := Decode.bind_eq_ok h
  obtain ⟨dir', hfollow, hentry⟩ := Decode.bind_eq_ok hrest
  obtain ⟨rfl, hnames⟩ := eq_of_route hr
  split at hentry
  · next hdir =>
    cases hentry
    refine ⟨hdir, ?_⟩
    have hne : names ≠ [] := by
      rw [hnames, Path.segments, Ne, List.map_eq_nil_iff]
      exact Text.splitChars_ne_nil _ _
    have hlast : names.dropLast ++ [names.getLastD ""] = names := by
      rw [List.getLastD_eq_getLast?, List.getLast?_eq_some_getLast hne, Option.getD_some,
        List.dropLast_concat_getLast hne]
    have hstep : names.foldl step (d.start path) = step dir (names.getLastD "") := calc
      names.foldl step (d.start path)
        = (names.dropLast ++ [names.getLastD ""]).foldl step (d.start path) := by rw [hlast]
      _ = step (names.dropLast.foldl step (d.start path)) (names.getLastD "") := List.foldl_concat ..
      _ = step dir (names.getLastD "") := by rw [foldlM_enter_eq_ok hfollow]
    rw [← hstep, hnames]
    exact foldl_step_mem_way _ _
  · cases hentry

/-! ### Entries that are put -/

theorem lookup_filter_ne {p place : List String} (h : p ≠ place)
    (entries : List (List String × DiskEntry)) :
    (entries.filter fun x => x.1 != place).lookup p = entries.lookup p := by
  induction entries with
  | nil => rfl
  | cons x xs ih =>
    obtain ⟨q, entry⟩ := x
    by_cases hq : q = place
    · have hpq : (p == q) = false := beq_eq_false_iff_ne.2 (hq ▸ h)
      rw [List.filter_cons_of_neg (by simp [hq]), ih, List.lookup_cons, hpq]
    · rw [List.filter_cons_of_pos (by simp [hq]), List.lookup_cons, List.lookup_cons, ih]

theorem entry?_put_of_ne {d : Disk} {p place : List String} (h : p ≠ place) (x : DiskEntry) :
    Disk.entry? (d.put place x) p = d.entry? p := by
  have hp : (p == place) = false := beq_eq_false_iff_ne.2 h
  rw [Disk.entry?, Disk.entry?, put, List.lookup_cons, hp, lookup_filter_ne h]

theorem entry?_put_self {d : Disk} {place : List String} (h : place ≠ []) (x : DiskEntry) :
    Disk.entry? (d.put place x) place = some x := by
  rw [Disk.entry?, if_neg (by simpa using h), put, List.lookup_cons, beq_self_eq_true]

/-- Every entry is in a directory. -/
structure Rooted (d : Disk) : Prop where
  parent : ∀ name place, (d.entry? (name :: place)).isSome → d.entry? place = some .dir
  workingDir : d.entry? d.workingDir = some .dir

theorem Rooted.empty : ({} : Disk).Rooted := ⟨fun _ _ h => absurd h Bool.false_ne_true, rfl⟩

/-- An entry for a place in a directory, unless that is a directory itself. -/
theorem Rooted.put {d : Disk} (h : d.Rooted) {name : String} {place : List String}
    (hp : d.entry? place = some .dir) (hn : d.entry? (name :: place) ≠ some .dir) (x : DiskEntry) :
    (d.put (name :: place) x).Rooted := by
  have hkeeps : ∀ q, d.entry? q = some .dir →
      Disk.entry? (d.put (name :: place) x) q = some .dir := by
    intro q hq
    have hne : q ≠ name :: place := by
      rintro rfl
      exact hn hq
    rw [entry?_put_of_ne hne, hq]
  refine ⟨fun n q hq => ?_, hkeeps _ h.workingDir⟩
  by_cases he : n :: q = name :: place
  · obtain ⟨-, rfl⟩ := List.cons.inj he
    exact hkeeps _ hp
  · rw [entry?_put_of_ne he] at hq
    exact hkeeps q (h.parent n q hq)

theorem Rooted.start {d : Disk} (h : d.Rooted) (path : String) :
    d.entry? (d.start path) = some .dir := by
  unfold Disk.start
  split
  · rfl
  · exact h.workingDir

theorem Rooted.isSome_of_enter {d : Disk} (h : d.Rooted) {place next : List String} {name : String}
    (he : d.enter place name = .ok next) : (d.entry? next).isSome := by
  unfold enter at he
  split at he
  · cases he
  · cases he
  · next hp =>
    split at he
    · cases he
      rw [hp]
      rfl
    · split at he
      · cases he
        cases place with
        | nil => rfl
        | cons n q =>
          rw [List.tail_cons, h.parent n q (by rw [hp]; rfl)]
          rfl
      · split at he
        · cases he
        · split at he
          · next hsome =>
            cases he
            exact hsome
          · cases he

/-- From a directory, only a name that is missing there is not found. -/
theorem missing_of_enter {d : Disk} {place : List String} {name : String}
    (hp : d.entry? place = some .dir) (he : d.enter place name = .error .notFound) :
    step place name = name :: place ∧ d.entry? (name :: place) = none := by
  unfold enter at he
  unfold step
  grind [Option.not_isSome_iff_eq_none]

/-- What may become of a file tree while entries are put to some places: no directory is lost, and
everything else is as it was. -/
structure Extends (marks : List (List String)) (d e : Disk) : Prop where
  rooted : e.Rooted
  workingDir : e.workingDir = d.workingDir
  entry : ∀ p, (p ∈ marks → d.entry? p = some .dir) → e.entry? p = d.entry? p

namespace Extends

variable {marks : List (List String)} {d e : Disk}

theorem refl (h : d.Rooted) : Extends marks d d := ⟨h, rfl, fun _ _ => rfl⟩

/-- A mark that is no directory yet may take any entry. -/
theorem put (h : Extends marks d e) {name : String} {place : List String}
    (hm : name :: place ∈ marks) (hp : e.entry? place = some .dir)
    (hn : e.entry? (name :: place) ≠ some .dir) (x : DiskEntry) :
    Extends marks d (e.put (name :: place) x) := by
  refine ⟨h.rooted.put hp hn x, h.workingDir, fun p hmarks => ?_⟩
  -- An entry that must not change is no mark, or a directory of `d` and so of `e`.
  have hne : p ≠ name :: place := by
    rintro rfl
    have hdir := hmarks hm
    exact hn ((h.entry _ hmarks).trans hdir)
  rw [entry?_put_of_ne hne, h.entry p hmarks]

/-- A path that keeps apart from the marks, or meets them in directories, reads as before. -/
theorem readText_eq (h : Extends marks d e) {path : String}
    (hp : ∀ p ∈ d.places path, p ∈ marks → d.entry? p = some .dir) :
    e.readText path = d.readText path :=
  (readText_congr h.workingDir.symm fun p hmem => (h.entry p (hp p hmem)).symm).symm

theorem places_eq (h : Extends marks d e) (path : String) : e.places path = d.places path := by
  unfold places start
  rw [h.workingDir]

theorem makeDirsFrom (h : Extends marks d e) {place : List String} {names : List String}
    (hp : e.entry? place = some .dir) (hm : ∀ p ∈ way place names, p ∈ marks) {e' : Disk}
    (hok : e.makeDirsFrom place names = .ok e') : Extends marks d e' := by
  -- The tree grows on the way, and the place is a directory of the tree as it is by then.
  induction names generalizing e place with
  | nil =>
    cases hok
    exact h
  | cons name names ih =>
    have hrest : ∀ p ∈ way (step place name) names, p ∈ marks := fun p hmem =>
      hm p (List.mem_cons_of_mem _ hmem)
    rw [Disk.makeDirsFrom] at hok
    split at hok
    · next next hn =>
      have hsome := h.rooted.isSome_of_enter hn
      obtain rfl := eq_step_of_enter hn
      split at hok
      · cases hok
      · next hfile =>
        refine ih h ?_ hrest hok
        cases hentry : e.entry? (step place name) with
        | none => rw [hentry] at hsome; cases hsome
        | some x =>
          cases x with
          | dir => rfl
          | file content => exact absurd hentry (hfile content)
    · next hn =>
      obtain ⟨hstep, hnone⟩ := missing_of_enter hp hn
      rw [hstep] at hrest
      have hput : Extends marks d (e.put (name :: place) .dir) :=
        h.put (hrest _ (mem_way_self _ _)) hp (by rw [hnone]; exact fun he => by cases he) .dir
      exact ih hput (entry?_put_self (List.cons_ne_nil _ _) _) hrest hok
    · cases hok

theorem makeDirs (h : Extends marks d e) {path : String} (hm : ∀ p ∈ d.places path, p ∈ marks)
    {e' : Disk} (hok : e.makeDirs path = .ok e') : Extends marks d e' := by
  rw [← h.places_eq] at hm
  rw [Disk.makeDirs] at hok
  split at hok
  · cases hok
    exact h
  · obtain ⟨⟨place, names⟩, hr, hok⟩ := Decode.bind_eq_ok hok
    obtain ⟨rfl, rfl⟩ := eq_of_route hr
    exact h.makeDirsFrom (h.rooted.start path) hm hok

theorem write (h : Extends marks d e) {path : String} (hm : ∀ p ∈ d.places path, p ∈ marks)
    {change : ByteArray → ByteArray} {e' : Disk} (hok : e.write path change = .ok e') :
    Extends marks d e' := by
  rw [← h.places_eq] at hm
  obtain ⟨⟨dir, name⟩, hparent, hok⟩ := Decode.bind_eq_ok hok
  obtain ⟨hdir, hname⟩ := parent_eq_ok hparent
  simp only at hok
  split at hok
  · cases hok
  · next hdots =>
    rw [step] at hname
    have hmark : name :: dir ∈ marks := hm _ (by grind)
    split at hok
    · cases hok
    · split at hok
      · cases hok
      · next content hfile =>
        cases hok
        exact h.put hmark hdir (by rw [hfile]; exact fun he => by cases he) _
      · next hnone =>
        cases hok
        exact h.put hmark hdir (by rw [hnone]; exact fun he => by cases he) _

/-- Every operation of a trail keeps its marks. -/
theorem perform (h : Extends marks d e) {dir file : String}
    (hdir : ∀ p ∈ d.places dir, p ∈ marks) (hfile : ∀ p ∈ d.places file, p ∈ marks)
    (op : Audit.Op) : Extends marks d (Audit.diskBackend dir file op e).2 := by
  cases op with
  | makeDir =>
    cases hop : e.makeDirs dir with
    | error flaw => simpa only [Audit.diskBackend, hop, Audit.answerOf] using h
    | ok e' => simpa only [Audit.diskBackend, hop, Audit.answerOf] using h.makeDirs hdir hop
  | size =>
    cases hop : e.size file <;> simpa only [Audit.diskBackend, hop, Audit.answerOf] using h
  | empty =>
    cases hop : e.empty file with
    | error flaw => simpa only [Audit.diskBackend, hop, Audit.answerOf] using h
    | ok e' =>
      obtain ⟨-, -, hwrite⟩ := Decode.bind_eq_ok hop
      simpa only [Audit.diskBackend, hop, Audit.answerOf] using h.write hfile hwrite
  | append line =>
    cases hop : e.append file line with
    | error flaw => simpa only [Audit.diskBackend, hop, Audit.answerOf] using h
    | ok e' => simpa only [Audit.diskBackend, hop, Audit.answerOf] using h.write hfile hop

end Extends

end FleetDesk.Disk
