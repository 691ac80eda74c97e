import FleetDesk.Proofs.Disk
import FleetDesk.Proofs.Rpc.Answer
import FleetDesk.Proofs.Rpc.Session

/-!
# The trail keeps to itself

A depot holds the trail and the scripts in one store, as a file tree does, so a record could change
what a later line reads. If the scripts are held fixed whatever the trail does in the store
(`Depot.Holds`), then every line is answered as by itself, whatever came before it and whatever
becomes of the records (`Depot.run_isolated`). In a file tree they are held fixed as long as they
keep apart from the trail (`Depot.holds_onDisk`), and operations that fail or crash change nothing
about that (`Depot.Holds.faulty`).
-/

namespace FleetDesk

/-! ### Depots -/

/-- Where the trail is kept and scripts are read. -/
structure Depot (σ : Type) where
  backend : Audit.Backend σ
  /-- The text of a file, or why there is none. -/
  read : σ → String → Except String String

/-- The turn with other scripts to be read. -/
def Turn.reading (t : Turn) (scripts : String → Except String String) : Turn :=
  { t with world := { t.world with script := scripts } }

def Turn.answer (t : Turn) : Option Rpc.Reply × List Call := Rpc.answer t.world t.line

def Session.answers {σ : Type} (s : Session σ) : List (Option Rpc.Reply × List Call) :=
  s.log.map fun h => (h.reply, calls h.events)

namespace Depot

variable {σ τ : Type}

/-- A line finds the scripts as the trail has left the store. -/
def handle (d : Depot σ) (s : Session σ) (turn : Turn) : Session σ :=
  s.handle d.backend (turn.reading (d.read s.trail.store))

def run (d : Depot σ) (trail : Audit.Trail σ) (turns : List Turn) : Session σ :=
  turns.foldl d.handle { trail }

/-- The store after some operations of a trail. -/
def after (d : Depot σ) (store : σ) (ops : List Audit.Op) : σ :=
  ops.foldl (fun s op => (d.backend op s).2) store

/-- Whatever operations a trail asks for, the files have these texts. -/
def Holds (d : Depot σ) (store : σ) (files : String → Prop)
    (scripts : String → Except String String) : Prop :=
  ∀ ops path, files path → d.read (d.after store ops) path = scripts path

section

variable {d : Depot σ} {store : σ} {files : String → Prop}
  {scripts : String → Except String String}

theorem Holds.read (h : d.Holds store files scripts) {path : String} (hp : files path) :
    d.read store path = scripts path := h [] path hp

theorem Holds.perform (h : d.Holds store files scripts) (op : Audit.Op) :
    d.Holds (d.backend op store).2 files scripts := fun ops => h (op :: ops)

theorem Holds.writer (h : d.Holds store files scripts) (w : Audit.Writer) :
    d.Holds (w.run d.backend store).store files scripts := by
  fun_induction Audit.Writer.run d.backend w store with
  | case1 w store hnext => exact h
  | case2 w store op hnext a store' hop rest ih =>
    refine ih ?_
    have hstore : (d.backend op store).2 = store' := congrArg Prod.snd hop
    rw [← hstore]
    exact h.perform op

theorem Holds.meet {t : Audit.Trail σ} (h : d.Holds t.store files scripts) (stamp : String)
    (e : Event) : d.Holds (Session.meet d.backend stamp t e).store files scripts := by
  cases e with
  | audit r => exact h.writer _
  | call c => exact h
  | log e => exact h

theorem Holds.foldl_meet {t : Audit.Trail σ} (h : d.Holds t.store files scripts) (stamp : String)
    (events : List Event) :
    d.Holds (events.foldl (Session.meet d.backend stamp) t).store files scripts := by
  induction events generalizing t with
  | nil => exact h
  | cons e es ih => exact ih (h.meet stamp e)

theorem Holds.handle {s : Session σ} (h : d.Holds s.trail.store files scripts) (turn : Turn) :
    d.Holds (d.handle s turn).trail.store files scripts := h.foldl_meet _ _

theorem answers_handle (d : Depot σ) (s : Session σ) (turn : Turn) :
    (d.handle s turn).answers =
      s.answers ++ [(turn.reading (d.read s.trail.store)).answer] := by
  rw [Session.answers, handle, Session.handle_log, List.map_append]
  rfl

/-- The scripts that the lines are to read. -/
def scriptPaths (turns : List Turn) (path : String) : Prop :=
  ∃ turn ∈ turns, Rpc.Reads turn.line turn.world.home path

theorem Holds.answer_eq (h : d.Holds store files scripts) {turn : Turn}
    (hf : ∀ path, Rpc.Reads turn.line turn.world.home path → files path) :
    (turn.reading (d.read store)).answer = (turn.reading scripts).answer :=
  Rpc.answer_congr rfl (fun path hp => h.read (hf path hp)) fun c _ => by cases c <;> rfl

/-- Every line of a run is answered as by itself. -/
theorem Holds.answers_foldl {s : Session σ} (h : d.Holds s.trail.store files scripts)
    {turns : List Turn} (hf : ∀ path, scriptPaths turns path → files path) :
    (turns.foldl d.handle s).answers =
      s.answers ++ turns.map fun turn => (turn.reading scripts).answer := by
  -- The store differs from line to line; that the files hold in it is all that is passed on.
  induction turns generalizing s with
  | nil => simp
  | cons turn turns ih =>
    have hturn : ∀ path, Rpc.Reads turn.line turn.world.home path → files path := fun path hp =>
      hf path ⟨turn, List.mem_cons_self, hp⟩
    have hturns : ∀ path, scriptPaths turns path → files path := fun path ⟨t, ht, hp⟩ =>
      hf path ⟨t, List.mem_cons_of_mem _ ht, hp⟩
    rw [List.foldl_cons, ih (h.handle turn) hturns, answers_handle, h.answer_eq hturn,
      List.append_assoc, List.singleton_append, List.map_cons]

theorem Holds.answers_run {trail : Audit.Trail σ} {turns : List Turn}
    (h : d.Holds trail.store (scriptPaths turns) scripts) :
    (d.run trail turns).answers = turns.map fun turn => (turn.reading scripts).answer :=
  h.answers_foldl fun _ hp => hp

end

/-! ### Faults -/

/-- A store with what its next operations answer in place of being carried out, if anything. -/
structure Faulty (σ : Type) where
  store : σ
  faults : List (Option Audit.Answer)

def Faulty.backend (b : Audit.Backend σ) : Audit.Backend (Faulty σ) := fun op s =>
  match s.faults.head?.join with
  | some a => (a, ⟨s.store, s.faults.tail⟩)
  | none => ((b op s.store).1, ⟨(b op s.store).2, s.faults.tail⟩)

/-- The depot with operations that fail or crash. -/
def faulty (d : Depot σ) : Depot (Faulty σ) := ⟨Faulty.backend d.backend, fun s => d.read s.store⟩

theorem Holds.faulty {d : Depot σ} {store : σ} {files : String → Prop}
    {scripts : String → Except String String} (h : d.Holds store files scripts)
    (faults : List (Option Audit.Answer)) : d.faulty.Holds ⟨store, faults⟩ files scripts := by
  intro ops path hp
  -- An operation with a fault leaves the store alone, any other one is an operation of `d`.
  induction ops generalizing store faults with
  | nil => exact h.read hp
  | cons op ops ih =>
    rw [after, List.foldl_cons]
    cases hf : faults.head?.join with
    | some a =>
      simp only [Depot.faulty, Faulty.backend, hf]
      exact ih h faults.tail
    | none =>
      simp only [Depot.faulty, Faulty.backend, hf]
      exact ih (h.perform op) faults.tail

/-! ### File trees -/

/-- The trail and the scripts in one file tree. -/
def onDisk (dir file : String) : Depot Disk := ⟨Audit.diskBackend dir file, Disk.readText⟩

/-- The path keeps apart from a trail: where it meets the places that lead to the trail, there are
directories already. -/
def Apart (dir file : String) (d : Disk) (path : String) : Prop :=
  ∀ p ∈ d.places path, p ∈ d.places dir ++ d.places file → d.entry? p = some .dir

theorem holds_onDisk {dir file : String} {d : Disk} (h : d.Rooted) :
    (onDisk dir file).Holds d (Apart dir file d) d.readText := by
  have hextends : ∀ (ops : List Audit.Op) (e : Disk),
      Disk.Extends (d.places dir ++ d.places file) d e →
        Disk.Extends (d.places dir ++ d.places file) d ((onDisk dir file).after e ops) := by
    intro ops
    induction ops with
    | nil => exact fun e he => he
    | cons op ops ih =>
      intro e he
      exact ih _ (he.perform (fun p hp => List.mem_append_left _ hp)
        (fun p hp => List.mem_append_right _ hp) op)
  intro ops path hp
  exact (hextends ops d (.refl h)).readText_eq hp

/-! ### Two runs -/

/-- The same line with the same home, and the same answers to the calls that it makes. -/
structure Alike (scripts : String → Except String String) (t u : Turn) : Prop where
  line : t.line = u.line
  home : t.world.home = u.world.home
  calls : ∀ c ∈ (t.reading scripts).answer.2, c.SameAnswer t.world u.world

theorem Alike.answer_eq {scripts : String → Except String String} {t u : Turn}
    (h : Alike scripts t u) : (t.reading scripts).answer = (u.reading scripts).answer := by
  have hworld : Rpc.answer (t.reading scripts).world t.line =
      Rpc.answer (u.reading scripts).world t.line :=
    Rpc.answer_congr h.home (fun _ _ => rfl) fun c hc => by
      have hsame := h.calls c hc
      cases c <;> exact hsame
  calc (t.reading scripts).answer
      = Rpc.answer (u.reading scripts).world t.line := hworld
    _ = (u.reading scripts).answer := congrArg _ h.line

theorem answers_eq_of_alike {scripts : String → Except String String} {turns turns' : List Turn}
    (h : List.Forall₂ (Alike scripts) turns turns') :
    (turns.map fun turn => (turn.reading scripts).answer) =
      turns'.map fun turn => (turn.reading scripts).answer := by
  induction h with
  | nil => rfl
  | cons ht _ ih => rw [List.map_cons, List.map_cons, ht.answer_eq, ih]

theorem scriptPaths_of_alike {scripts : String → Except String String} {turns turns' : List Turn}
    (h : List.Forall₂ (Alike scripts) turns turns') {path : String}
    (hp : scriptPaths turns' path) : scriptPaths turns path := by
  obtain ⟨u, hu, hreads⟩ := hp
  induction h with
  | nil => cases hu
  | @cons t u' ts us ht _ ih =>
    rcases List.mem_cons.1 hu with rfl | hu
    · exact ⟨t, List.mem_cons_self, by rw [ht.line, ht.home]; exact hreads⟩
    · obtain ⟨t', ht', hreads'⟩ := ih hu
      exact ⟨t', List.mem_cons_of_mem _ ht', hreads'⟩

/-- Two runs that differ in how and where their trails are kept, in what becomes of the records and
in the counts that they start from, answer every line alike: as the line is answered by itself. -/
theorem run_isolated (d : Depot σ) (e : Depot τ) (trail : Audit.Trail σ) (trail' : Audit.Trail τ)
    {scripts : String → Except String String} {turns turns' : List Turn}
    (hd : d.Holds trail.store (scriptPaths turns) scripts)
    (he : e.Holds trail'.store (scriptPaths turns) scripts)
    (h : List.Forall₂ (Alike scripts) turns turns') :
    (d.run trail turns).answers = (e.run trail' turns').answers ∧
      (d.run trail turns).answers = turns.map fun turn => (turn.reading scripts).answer := by
  have he' : e.Holds trail'.store (scriptPaths turns') scripts := fun ops path hp =>
    he ops path (scriptPaths_of_alike h hp)
  refine ⟨?_, hd.answers_run⟩
  rw [hd.answers_run, he'.answers_run, answers_eq_of_alike h]

/-! ### A script that is run twice -/

theorem eq_of_scriptPaths {turns : List Turn} {path : String}
    (h : ∀ turn ∈ turns, turn.line = Rpc.scriptLine ∧ turn.world.home = none)
    (hp : scriptPaths turns path) : path = "up.sh" := by
  obtain ⟨turn, hturn, id', args', r', raw, hc', hr', hraw, rfl⟩ := hp
  obtain ⟨id, args, r, hc, hr, hscript⟩ := Rpc.calls_scriptLine
  obtain ⟨hline, hhome⟩ := h turn hturn
  rw [hline] at hc'
  obtain rfl := hc.args_eq hc'
  obtain rfl := Except.ok.inj (hr.symm.trans hr')
  obtain rfl := Option.some.inj (hscript.symm.trans hraw)
  rw [hhome]
  rfl

/-- A script, and no trail yet. -/
def freshDisk : Disk := ({} : Disk).put ["up.sh"] (.file "uptime".toUTF8)

/-- The same script, and a trail that is due to be emptied. -/
def usedDisk : Disk :=
  (freshDisk.put ["audit"] .dir).put ["audit.log", "audit"]
    (.file ⟨Array.replicate (Audit.maxLogBytes + 1) 32⟩)

theorem rooted_freshDisk : freshDisk.Rooted :=
  Disk.Rooted.empty.put rfl (fun h => by cases h) _

theorem rooted_usedDisk : usedDisk.Rooted := by
  have hdir : (freshDisk.put ["audit"] .dir).Rooted :=
    rooted_freshDisk.put rfl (fun h => by cases h) _
  exact hdir.put rfl (fun h => by cases h) _

theorem places_of_workingDir {d : Disk} (h : d.workingDir = []) (path : String) :
    d.places path = ({} : Disk).places path := by
  rw [Disk.places, Disk.start, h]
  rfl

theorem mem_places_up {d : Disk} (h : d.workingDir = []) {p : List String}
    (hp : p ∈ d.places "up.sh") : p = [] ∨ p = ["up.sh"] := by
  have hup : ({} : Disk).places "up.sh" = [[], ["up.sh"]] := by decide +kernel
  rw [places_of_workingDir h, hup] at hp
  simpa using hp

theorem apart_up {d : Disk} (h : d.workingDir = []) :
    Apart "audit" "audit/audit.log" d "up.sh" := by
  intro p hp hmem
  rw [places_of_workingDir h, places_of_workingDir h] at hmem
  rcases mem_places_up h hp with rfl | rfl
  · rfl
  · exact absurd hmem (by decide +kernel)

theorem readText_usedDisk : usedDisk.readText "up.sh" = freshDisk.readText "up.sh" := by
  refine Disk.readText_congr rfl fun p hp => ?_
  rcases mem_places_up rfl hp with rfl | rfl
  · rfl
  · rw [usedDisk, Disk.entry?_put_of_ne (by decide), Disk.entry?_put_of_ne (by decide)]

/-- One trail is new and its first operation crashes; the other is long in use and full. -/
theorem script_isolated :
    let d := (onDisk "audit" "audit/audit.log").faulty
    let turn : Turn := ⟨Rpc.scriptLine, World.unreachable, "now"⟩
    let fresh : Audit.Trail (Faulty Disk) := { store := ⟨freshDisk, [some .crashed]⟩ }
    let used : Audit.Trail (Faulty Disk) :=
      ⟨{ written := 7, failed := 2 }, ⟨usedDisk, [none, none, some (.failed "full")]⟩⟩
    scriptPaths [turn, turn] "up.sh" ∧
      (d.run fresh [turn, turn]).answers = (d.run used [turn, turn]).answers := by
  intro d turn fresh used
  have hpaths : ∀ path, scriptPaths [turn, turn] path → path = "up.sh" := fun path hp =>
    eq_of_scriptPaths (fun t ht => by
      have hturn : t = turn := by simpa using ht
      rw [hturn]
      exact ⟨rfl, rfl⟩) hp
  have hfresh : d.Holds fresh.store (scriptPaths [turn, turn]) freshDisk.readText := by
    refine Holds.faulty (fun ops path hp => ?_) _
    exact holds_onDisk rooted_freshDisk ops path (hpaths path hp ▸ apart_up rfl)
  have hused : d.Holds used.store (scriptPaths [turn, turn]) freshDisk.readText := by
    refine Holds.faulty (fun ops path hp => ?_) _
    obtain rfl := hpaths path hp
    rw [← readText_usedDisk]
    exact holds_onDisk rooted_usedDisk ops _ (apart_up rfl)
  have halike : Alike freshDisk.readText turn turn := ⟨rfl, rfl, fun c _ => by cases c <;> rfl⟩
  obtain ⟨id, args, r, hc, hr, hscript⟩ := Rpc.calls_scriptLine
  refine ⟨⟨turn, List.mem_cons_self, id, args, r, "up.sh", hc, hr, hscript, rfl⟩, ?_⟩
  exact (run_isolated d d fresh used hfresh hused (.cons halike (.cons halike .nil))).1

end Depot

/-! ### The program -/

theorem Session.output_eq {σ : Type} (s : Session σ) :
    s.output = String.join (s.answers.map fun a => Rpc.written a.1) := by
  rw [output, answers, List.map_map]
  rfl

namespace Program

variable {desk : Desk} {net : Network} {home : Option String} {stamps : Stamps}

/-- A line and what it meets, but for the scripts. -/
def turn (desk : Desk) (net : Network) (home : Option String) (stamps : Stamps) (line : String) :
    Turn := ⟨line, desk.world net home fun _ => .error "", stamps.record⟩

theorem Follows.foldl_handle {t : Session Disk} {s : State} (h : Follows t s)
    (lines : List String) :
    Follows ((lines.map (turn desk net home stamps)).foldl
        (Depot.onDisk desk.auditDir desk.auditFile).handle t)
      (lines.foldl (State.handle desk net home stamps) s) := by
  induction lines generalizing t s with
  | nil => exact h
  | cons line lines ih =>
    refine ih ?_
    have hturn : (turn desk net home stamps line).reading t.trail.store.readText =
        s.turn desk net home stamps line := by
      rw [h.trail]
      rfl
    have hhandle : Follows
        (t.handle (auditBackend desk) (s.turn desk net home stamps line))
        (s.handle desk net home stamps line) := h.handle line
    rw [← hturn] at hhandle
    exact hhandle

/-- What a run writes to the standard output depends on its lines, the network and the scripts as
they are at the start, if these keep apart from the trail. -/
theorem output_foldl_handle {s : State} (hs : s.output = "") (hr : s.trail.store.Rooted)
    {lines : List String}
    (hp : ∀ line ∈ lines, ∀ path, Rpc.Reads line home path →
      Depot.Apart desk.auditDir desk.auditFile s.trail.store path) :
    (lines.foldl (State.handle desk net home stamps) s).output =
      String.join (lines.map fun line =>
        Rpc.written (Rpc.answer (desk.world net home s.trail.store.readText) line).1) := by
  let t : Session Disk := { trail := s.trail }
  have hfollows : Follows t s := ⟨rfl, hs.symm⟩
  have hholds : (Depot.onDisk desk.auditDir desk.auditFile).Holds s.trail.store
      (Depot.Apart desk.auditDir desk.auditFile s.trail.store) s.trail.store.readText :=
    Depot.holds_onDisk hr
  have hpaths : ∀ path, Depot.scriptPaths (lines.map (turn desk net home stamps)) path →
      Depot.Apart desk.auditDir desk.auditFile s.trail.store path := by
    rintro path ⟨u, hu, hreads⟩
    obtain ⟨line, hline, rfl⟩ := List.mem_map.1 hu
    exact hp line hline path hreads
  have hanswers := Depot.Holds.answers_foldl (s := t) hholds hpaths
  rw [← (hfollows.foldl_handle lines).output, Session.output_eq, hanswers]
  simp only [Session.answers, t, List.map_nil, List.nil_append, List.map_map]
  rfl

end Program

end FleetDesk
